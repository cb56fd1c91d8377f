import MeshRegistry.Proofs.Mesh.Writes
import Mathlib.Logic.Function.Basic
/-!
# Clients that write at the same time

Any number of conversations are held with one mesh, call by call and in any order, while other
actors interfere as they like. Every update of a careful client carries a version that the client
has fetched, so the store accepts it only if the object is still the one that was fetched: nobody
has created, replaced or removed it in between, not even to put the same entry back.

## Main definitions

- `MeshClient`: the conversations of the controller, and careful ones of others.
- `Crowd`: clients that talk to one mesh. `Crowd.acts` is what happens to the mesh when they do.
- `RestsOnFetch`: the fetch that an update of a client goes back to.

## Main results

- `Crowd.mesh_after`: the acts account for the mesh.
- `Crowd.no_lost_update`: an update succeeds only on what its client has fetched.
-/

namespace MeshRegistry

/-- Somebody who talks to the mesh. -/
inductive MeshClient where
  /-- A pass over the snapshot of a registry. -/
  | pass (r : Reconciler) (visit collect : Arrangement) (snapshot : Snapshot)
  /-- An entry is created, or the existing object is brought up to it. -/
  | upsert (e : ServiceEntry)
  /-- An entry is removed. -/
  | removal (e : ServiceEntry)
  /-- Somebody else who updates only what has been fetched before. -/
  | other (p : Session Unit) (careful : p.Careful [])

namespace MeshClient

/-- What a client has to say. -/
def session : MeshClient → Session Unit
  | .pass r visit collect snapshot => r.pass visit collect snapshot >>= fun _ => pure ()
  | .upsert e => applyEntry e >>= fun _ => pure ()
  | .removal e => removeEntry e >>= fun _ => pure ()
  | .other p _ => p

theorem careful_session (c : MeshClient) : c.session.Careful [] := by
  cases c with
  | pass r visit collect snapshot =>
    exact Session.careful_bind (r.careful_pass visit collect snapshot) fun _ => trivial
  | upsert e => exact Session.careful_bind (careful_applyEntry e) fun _ => trivial
  | removal e => exact Session.careful_bind (careful_removeEntry e) fun _ => trivial
  | other p careful => exact careful

end MeshClient

deriving instance DecidableEq for MeshEvent

/-- Something that happens to the mesh, with the client whose call it is. -/
structure Act where
  /-- The client, unless it is somebody else. -/
  who : Option Nat
  event : MeshEvent
deriving DecidableEq

/-- What acts do to the mesh. -/
def history (acts : List Act) : List MeshEvent := acts.map Act.event

/-- Clients that talk to one mesh, with what they still have to say. -/
structure Crowd where
  mesh : Mesh
  clients : Nat → Session Unit

namespace Crowd

/-- Clients before their first words, at a mesh to which nothing has happened yet. -/
def start (ownership : OwnershipModel) (announced : Bool) (clients : Nat → MeshClient) : Crowd :=
  ⟨{ store := {}, ownership, announced }, fun i => (clients i).session⟩

/-- Whose turn it is. -/
inductive Move where
  /-- A client makes its next call, or looks at the model. -/
  | client (i : Nat)
  /-- Somebody else interferes. -/
  | outside (event : MeshEvent)

/-- The act that a move leads to, if any, and the crowd after it. -/
def step (c : Crowd) : Move → List Act × Crowd
  | .client i =>
    match c.clients i with
    | .done _ => ([], c)
    | .ask call next =>
      ([⟨some i, .call call⟩],
        ⟨(c.mesh.perform call).2,
          Function.update c.clients i (next (c.mesh.perform call).1)⟩)
    | .look next =>
      ([], { c with clients := Function.update c.clients i (next c.mesh.ownership) })
  | .outside event => ([⟨none, event⟩], { c with mesh := c.mesh.happen event })

/-- The acts of a row of moves. -/
def acts (c : Crowd) : List Move → List Act
  | [] => []
  | move :: rest => (c.step move).1 ++ (c.step move).2.acts rest

/-- The crowd after a row of moves. -/
def after (c : Crowd) (moves : List Move) : Crowd := moves.foldl (fun c move => (c.step move).2) c

section Steps

variable {c : Crowd} {i : Nat}

theorem step_of_done {a : Unit} (h : c.clients i = .done a) : c.step (.client i) = ([], c) := by
  simp [step, h]

theorem step_of_ask {call : Call} {next : call.Result → Session Unit}
    (h : c.clients i = .ask call next) :
    c.step (.client i) =
      ([⟨some i, .call call⟩],
        ⟨(c.mesh.perform call).2,
          Function.update c.clients i (next (c.mesh.perform call).1)⟩) := by
  simp [step, h]

theorem step_of_look {next : OwnershipModel → Session Unit} (h : c.clients i = .look next) :
    c.step (.client i) =
      ([], { c with clients := Function.update c.clients i (next c.mesh.ownership) }) := by
  simp [step, h]

end Steps

/-! ## The acts and the mesh -/

theorem mesh_step (c : Crowd) (move : Move) :
    (c.step move).2.mesh = c.mesh.after (history (c.step move).1) := by
  cases move with
  | client i =>
    cases hclient : c.clients i with
    | done a =>
      rw [step_of_done hclient]
      rfl
    | ask call next =>
      rw [step_of_ask hclient]
      rfl
    | look next =>
      rw [step_of_look hclient]
      rfl
  | outside event => rfl

/-- What the acts do to the mesh is all that happens to it. -/
theorem mesh_after (c : Crowd) (moves : List Move) :
    (c.after moves).mesh = c.mesh.after (history (c.acts moves)) := by
  induction moves generalizing c with
  | nil => rfl
  | cons move rest ih =>
    have hafter : c.after (move :: rest) = (c.step move).2.after rest := rfl
    rw [hafter, ih, mesh_step]
    simp [acts, history, Mesh.after, List.foldl_append]

/-- A client that nobody interferes with holds its conversation as it would be held at once. -/
theorem exists_after_eq_run (c : Crowd) (i : Nat) :
    ∃ n, (c.after (List.replicate n (.client i))).mesh = ((c.clients i).run Mesh.api c.mesh).2 := by
  -- The induction is on what the client has left to say; every call or look is one move.
  generalize hclient : c.clients i = p
  induction p generalizing c with
  | done a => exact ⟨0, rfl⟩
  | ask call next ih =>
    obtain ⟨n, hn⟩ := ih (c.mesh.perform call).1 ⟨(c.mesh.perform call).2,
      Function.update c.clients i (next (c.mesh.perform call).1)⟩ (Function.update_self ..)
    refine ⟨n + 1, ?_⟩
    rw [List.replicate_succ, after, List.foldl_cons, step_of_ask hclient]
    exact hn
  | look next ih =>
    obtain ⟨n, hn⟩ := ih c.mesh.ownership
      { c with clients := Function.update c.clients i (next c.mesh.ownership) }
      (Function.update_self ..)
    refine ⟨n + 1, ?_⟩
    rw [List.replicate_succ, after, List.foldl_cons, step_of_look hclient]
    exact hn

end Crowd

/-! ## Fetches -/

/-- Among the acts, a client fetches the entry. -/
def Fetched (m : Mesh) (acts : List Act) (i : Nat) (read : ServiceEntry) : Prop :=
  ∃ before between, acts = before ++ ⟨some i, .call (.get read.key)⟩ :: between ∧
    ((m.after (history before)).perform (.get read.key)).1 = .ok (some read)

theorem Fetched.cons {m : Mesh} {acts : List Act} {i : Nat} {read : ServiceEntry} (act : Act)
    (h : Fetched (m.happen act.event) acts i read) : Fetched m (act :: acts) i read := by
  obtain ⟨before, between, rfl, hread⟩ := h
  exact ⟨act :: before, between, rfl, hread⟩

theorem Mesh.Keyed.fetched {m : Mesh} {acts : List Act} {i : Nat} {read : ServiceEntry}
    {call : Call} (h : m.Keyed) (hlearnt : read ∈ call.learnt (m.perform call).1) :
    Fetched m (⟨some i, .call call⟩ :: acts) i read := by
  obtain ⟨key, rfl, hread⟩ := Mesh.exists_get_of_mem_learnt hlearnt
  obtain rfl := h.key_eq hread
  exact ⟨[], acts, rfl, hread⟩

namespace Crowd

/-- Every client is careful with what it knows. -/
def Careful (c : Crowd) (known : Nat → List ServiceEntry) : Prop :=
  ∀ i, (c.clients i).Careful (known i)

theorem Careful.update {c : Crowd} {known : Nat → List ServiceEntry} (h : c.Careful known)
    (m : Mesh) {j : Nat} {p : Session Unit} {learnt : List ServiceEntry} (hp : p.Careful learnt) :
    Careful ⟨m, Function.update c.clients j p⟩ (Function.update known j learnt) := by
  intro i
  by_cases hi : i = j
  · subst hi
    simpa using hp
  · simpa [hi] using h i

/-- Every update of a client goes back to an entry that the client knew or has fetched. -/
theorem exists_fetched {c : Crowd} {known : Nat → List ServiceEntry} (hkeyed : c.mesh.Keyed)
    (hcareful : c.Careful known) {moves : List Move} {earlier later : List Act} {i : Nat}
    {e : ServiceEntry}
    (hacts : c.acts moves = earlier ++ ⟨some i, .call (.update e)⟩ :: later) :
    ∃ read, (read ∈ known i ∨ Fetched c.mesh earlier i read) ∧ read.key = e.key ∧
      e.metadata.resourceVersion = read.metadata.resourceVersion := by
  -- What the clients know grows from move to move, so it is general in the induction.
  induction moves generalizing c known earlier with
  | nil => simp [acts] at hacts
  | cons move rest ih =>
    rw [acts] at hacts
    cases move with
    | outside event =>
      cases earlier with
      | nil => simp [step] at hacts
      | cons act earlier =>
        obtain ⟨rfl, htail⟩ := List.cons.inj hacts
        obtain ⟨read, hread, hversion⟩ :=
          ih (c := ⟨c.mesh.happen event, c.clients⟩) (hkeyed.happen event) hcareful htail
        exact ⟨read, hread.imp id (Fetched.cons _), hversion⟩
    | client j =>
      cases hclient : c.clients j with
      | done a =>
        rw [step_of_done hclient] at hacts
        exact ih hkeyed hcareful hacts
      | look next =>
        rw [step_of_look hclient] at hacts
        have hj := hcareful j
        rw [hclient] at hj
        have hnext := hcareful.update c.mesh (j := j) (hj c.mesh.ownership)
        rw [Function.update_eq_self] at hnext
        let rest := Function.update c.clients j (next c.mesh.ownership)
        exact ih (c := ⟨c.mesh, rest⟩) hkeyed hnext hacts
      | ask call next =>
        rw [step_of_ask hclient] at hacts
        have hj := hcareful j
        rw [hclient] at hj
        obtain ⟨hbacked, hcontinues⟩ := hj
        cases earlier with
        | nil =>
          -- This call is the update, and it is backed by what the client knows.
          obtain ⟨hact, -⟩ := List.cons.inj hacts
          obtain ⟨hwho, hevent⟩ := Act.mk.inj hact
          obtain rfl := Option.some.inj hwho
          obtain rfl := MeshEvent.call.inj hevent
          obtain ⟨read, hread, hversion⟩ := hbacked
          exact ⟨read, .inl hread, hversion⟩
        | cons act earlier =>
          obtain ⟨rfl, htail⟩ := List.cons.inj hacts
          -- The update comes later. By then the client may know what this call has shown.
          have hnext := hcareful.update (c.mesh.perform call).2 (j := j)
            (hcontinues _ (hkeyed.credible call))
          obtain ⟨read, hread, hversion⟩ := ih (c := ⟨(c.mesh.perform call).2, _⟩)
            (hkeyed.happen (.call call)) hnext htail
          refine ⟨read, ?_, hversion⟩
          rcases hread with hknown | hfetched
          · by_cases hi : i = j
            · subst hi
              rw [Function.update_self] at hknown
              rcases List.mem_append.mp hknown with hlearnt | hknown
              · exact .inr (hkeyed.fetched hlearnt)
              · exact .inl hknown
            · rw [Function.update_of_ne hi] at hknown
              exact .inl hknown
          · exact .inr (hfetched.cons ⟨some j, .call call⟩)

end Crowd

/-! ## Updates -/

/-- The update of an entry by a client, as it follows the earlier acts, rests on a fetch: before
that the mesh had seen some acts, and between the two it saw others. -/
structure RestsOnFetch (origin : Mesh) (earlier : List Act) (i : Nat) (e : ServiceEntry)
    (before between : List Act) (read : ServiceEntry) : Prop where
  /-- The client fetches the object, and updates it later. -/
  split : earlier = before ++ ⟨some i, .call (.get e.key)⟩ :: between
  fetched : ((origin.after (history before)).perform (.get e.key)).1 = .ok (some read)
  /-- The update carries the version that was fetched. -/
  version : e.metadata.resourceVersion = read.metadata.resourceVersion
  /-- It is accepted exactly if nobody has written the object in between. -/
  accepted : (origin.after (history earlier)).Accepts (.update e) ↔
    (origin.after (history earlier)).store.down = false ∧ MeshStore.isNamed e = true ∧
      ¬ (origin.after (history before)).Written (history between) e.key
  /-- If it is accepted, it replaces what was fetched. -/
  current : (origin.after (history earlier)).Accepts (.update e) →
    (origin.after (history earlier)).stored? e.key = some read
  /-- If it is refused, nothing changes. -/
  refused : ¬ (origin.after (history earlier)).Accepts (.update e) →
    ((origin.after (history earlier)).perform (.update e)).2 = origin.after (history earlier)

theorem RestsOnFetch.of_split {origin : Mesh} (hnumbered : origin.Numbered)
    {before between : List Act} {i : Nat} {e read : ServiceEntry}
    (hread : ((origin.after (history before)).perform (.get e.key)).1 = .ok (some read))
    (hversion : e.metadata.resourceVersion = read.metadata.resourceVersion) :
    RestsOnFetch origin (before ++ ⟨some i, .call (.get e.key)⟩ :: between) i e before between
      read := by
  have hstored := (Mesh.perform_get_eq_some_iff.mp hread).2
  -- Fetching changes nothing, so the update meets what the acts in between have left.
  have hmet : origin.after (history (before ++ ⟨some i, .call (.get e.key)⟩ :: between)) =
      (origin.after (history before)).after (history between) := by
    simp [history, Mesh.after, List.foldl_append, Mesh.happen, Mesh.perform]
  have haccepted := Mesh.accepts_update_after_iff (Mesh.numbered_after hnumbered (history before))
    hstored hversion (history between)
  refine ⟨rfl, hread, hversion, ?_, ?_, fun h => Mesh.perform_update_of_not_accepts h⟩
  · rw [hmet]
    exact haccepted
  · rw [hmet]
    intro haccepts
    rcases Mesh.kept_or_written e.key le_rfl (history between) with
      ⟨-, hkept⟩ | ⟨hwritten, -⟩
    · exact hkept.trans hstored
    · exact absurd hwritten (haccepted.mp haccepts).2.2

namespace Crowd

/-- However the calls of the clients and of others are interleaved, every update of a client rests
on a fetch of that client: it succeeds only on the very object that was fetched, which nobody has
created, replaced or removed in between, and otherwise it changes nothing. -/
theorem no_lost_update (ownership : OwnershipModel) (announced : Bool)
    (clients : Nat → MeshClient) (moves : List Move) (earlier later : List Act) (i : Nat)
    (e : ServiceEntry)
    (hacts : (start ownership announced clients).acts moves =
      earlier ++ ⟨some i, .call (.update e)⟩ :: later) :
    ∃ before between read,
      RestsOnFetch (start ownership announced clients).mesh earlier i e before between read := by
  -- Nothing is stored at the beginning, so nothing speaks against the two invariants.
  have hempty : ∀ key, (start ownership announced clients).mesh.stored? key = none :=
    fun key => rfl
  have hkeyed : (start ownership announced clients).mesh.Keyed := by
    intro key read hread
    rw [hempty] at hread
    cases hread
  have hnumbered : (start ownership announced clients).mesh.Numbered := by
    intro key read hread
    rw [hempty] at hread
    cases hread
  have hcareful : (start ownership announced clients).Careful fun _ => [] :=
    fun i => (clients i).careful_session
  obtain ⟨read, hfetched, hkey, hversion⟩ := exists_fetched hkeyed hcareful hacts
  obtain ⟨before, between, rfl, hread⟩ := hfetched.resolve_left List.not_mem_nil
  rw [hkey] at hread ⊢
  exact ⟨before, between, read, .of_split hnumbered hread hversion⟩

/-- Two clients fetch the same object. The second is first to update it. -/
theorem overtaken_update_rests_on_fetch :
    let entry (endpoints : List Endpoint) (version : Option String) : ServiceEntry :=
      { metadata :=
          { name := some "shop", space := some "default", resourceVersion := version }
        spec := { hosts := ["shop"], endpoints } }
    let wanted (i : Nat) : List Endpoint :=
      if i = 0 then [Endpoint.onPort "10.0.0.1" 80] else [Endpoint.onPort "10.0.0.2" 80]
    let c := start { reference := { name := "registry" } } true
      fun i => .upsert (entry (wanted i) none)
    let earlier : List Act :=
      [⟨none, .seed (entry [] none)⟩,
        ⟨some 0, .call (.ensureSpace "default")⟩, ⟨some 0, .call (.get ⟨"default", "shop"⟩)⟩,
        ⟨some 1, .call (.ensureSpace "default")⟩, ⟨some 1, .call (.get ⟨"default", "shop"⟩)⟩,
        ⟨some 1, .call (.update (entry (wanted 1) (some "1")))⟩]
    c.acts [.outside (.seed (entry [] none)), .client 0, .client 0, .client 1, .client 1,
        .client 1, .client 0] =
      earlier ++ [⟨some 0, .call (.update (entry (wanted 0) (some "1")))⟩] ∧
    ∃ before between read,
      RestsOnFetch c.mesh earlier 0 (entry (wanted 0) (some "1")) before between read := by
  intro entry wanted c earlier
  have hacts : c.acts [.outside (.seed (entry [] none)), .client 0, .client 0, .client 1,
      .client 1, .client 1, .client 0] =
      earlier ++ [⟨some 0, .call (.update (entry (wanted 0) (some "1")))⟩] := by
    decide +kernel
  exact ⟨hacts, no_lost_update _ _ _ _ earlier [] 0 _ hacts⟩

end Crowd

end MeshRegistry
