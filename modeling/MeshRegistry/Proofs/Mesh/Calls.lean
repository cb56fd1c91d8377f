import MeshRegistry.Mesh.Store
/-!
# What calls do to the mesh in memory

Every call has one of a few effects on the mesh: nothing changes, a version is used up, an entry
is created, replaced or removed, or a namespace is added. `Mesh.Effect` lists them once, and
whatever holds along conversations is derived from it.

## Main definitions

- `Mesh.Effect`: the effects of a call.
- `Session.calls`: the calls that a conversation makes.

## Main results

- `Mesh.perform_effect`: a call has one of the effects.
- `Session.run_preserves`: what every call preserves is preserved by a conversation.
- `Session.run_of_reads`: a conversation that only reads leaves the mesh as it is.
-/

namespace MeshRegistry

namespace Mesh

/-! ## Looking at a mesh -/

/-- The entry that is stored under a key. -/
def stored? (m : Mesh) (key : ObjectKey) : Option ServiceEntry := m.store.entries.get? key

/-- An entry as it is stored next, with the next version. -/
def stamped (m : Mesh) (e : ServiceEntry) : ServiceEntry := e.withVersion (some m.store.nextVersion)

@[simp] theorem key_stamped (m : Mesh) (e : ServiceEntry) : (m.stamped e).key = e.key := rfl

@[simp] theorem spec_stamped (m : Mesh) (e : ServiceEntry) : (m.stamped e).spec = e.spec := rfl

/-! ## The meshes that calls lead to -/

/-- The mesh after a version has been used up without a change. -/
def drawn (m : Mesh) : Mesh := { m with store := m.store.draw }

/-- The mesh with a namespace. -/
def withSpace (m : Mesh) (space : String) : Mesh := { m with store := m.store.addSpace space }

/-- The mesh after an entry has been created. -/
def created (m : Mesh) (e : ServiceEntry) : Mesh :=
  m.advance
    { m.store.draw with
      entries := m.store.entries.insert e.key (m.stamped e)
      creates := m.store.creates + 1 }
    (.add (m.stamped e))

/-- The mesh after an old entry has been replaced by a new one. -/
def replaced (m : Mesh) (old e : ServiceEntry) : Mesh :=
  m.advance
    { m.store.draw with
      entries := m.store.entries.insert e.key (m.stamped e)
      updates := m.store.updates + 1 }
    (.update old (m.stamped e))

/-- The mesh after the entry under a key has been removed. -/
def removed (m : Mesh) (key : ObjectKey) (old : ServiceEntry) : Mesh :=
  m.advance
    { m.store with entries := m.store.entries.erase key, deletes := m.store.deletes + 1 }
    (.delete old)

/-- To refuse calls where they are refused, or to accept them where they are accepted, changes
nothing. -/
theorem setDown_eq_self {m : Mesh} {down : Bool} (h : m.store.down = down) :
    m.setDown down = m := by
  subst h
  rfl

section Fields

variable (m : Mesh) (e old : ServiceEntry) (key key' : ObjectKey) (space : String)

@[simp] theorem stored?_created :
    (m.created e).stored? key = if key = e.key then some (m.stamped e) else m.stored? key := by
  simp [created, advance, stored?]

@[simp] theorem stored?_replaced :
    (m.replaced old e).stored? key = if key = e.key then some (m.stamped e) else m.stored? key := by
  simp [replaced, advance, stored?]

@[simp] theorem stored?_removed :
    (m.removed key old).stored? key' = if key' = key then none else m.stored? key' := by
  simp [removed, advance, stored?]

@[simp] theorem version_drawn : m.drawn.store.version = m.store.version + 1 := rfl

@[simp] theorem version_withSpace : (m.withSpace space).store.version = m.store.version := rfl

@[simp] theorem version_created : (m.created e).store.version = m.store.version + 1 := rfl

@[simp] theorem version_replaced : (m.replaced old e).store.version = m.store.version + 1 := rfl

@[simp] theorem version_removed : (m.removed key old).store.version = m.store.version := rfl

/-- The model of an announced mesh follows its changes. -/
theorem ownership_advance (store : MeshStore) (change : Change) (h : m.announced = true) :
    (m.advance store change).ownership = m.ownership.receive change := by
  simp [advance, h]

@[simp] theorem reference_advance (store : MeshStore) (change : Change) :
    (m.advance store change).ownership.reference = m.ownership.reference := by
  unfold advance
  split <;> simp

end Fields

/-! ## What calls answer -/

section Answers

variable {m : Mesh} {e old : ServiceEntry} {key : ObjectKey}

/-- While calls are refused, nothing changes. -/
theorem perform_of_down (c : Call) (h : m.store.down = true) : (m.perform c).2 = m := by
  -- Every call looks at the outage before anything else.
  cases c <;> simp [perform, MeshStore.create, MeshStore.update, MeshStore.delete,
    MeshStore.ensureSpace, h]

theorem perform_get (h : m.store.down = false) :
    m.perform (.get key) = (.ok (m.stored? key), m) := by
  simp [perform, MeshStore.get, stored?, h]

theorem perform_create_of_absent (hup : m.store.down = false)
    (hnamed : MeshStore.isNamed e = true) (hspace : m.store.hasSpace e.space = true)
    (habsent : m.stored? e.key = none) :
    m.perform (.create e) = (.ok (m.stamped e), m.created e) := by
  have hfree : m.store.entries.contains e.key = false := by
    simpa [SortedMap.contains, stored?] using habsent
  simp [perform, MeshStore.create, hup, hnamed, hspace, hfree, created, stamped]

theorem perform_create_of_taken (hup : m.store.down = false)
    (hnamed : MeshStore.isNamed e = true) (hspace : m.store.hasSpace e.space = true)
    (hstored : m.stored? e.key = some old) :
    m.perform (.create e) = (.error (.alreadyExists .entry e.key), m.drawn) := by
  have htaken : m.store.entries.contains e.key = true := by
    have hstored' : m.store.entries.get? e.key = some old := hstored
    simp [SortedMap.contains, hstored']
  simp [perform, MeshStore.create, hup, hnamed, hspace, htaken, drawn]

theorem perform_create_of_unplaced (hup : m.store.down = false)
    (h : MeshStore.isNamed e = true → m.store.hasSpace e.space = false) :
    ∃ err, m.perform (.create e) = (.error err, m) := by
  cases hnamed : MeshStore.isNamed e with
  | false => exact ⟨.unnamed, by simp [perform, MeshStore.create, hup, hnamed]⟩
  | true =>
    have hspace := h hnamed
    exact ⟨_, by simp [perform, MeshStore.create, hup, hnamed, hspace]; rfl⟩

theorem perform_update_of_current (hup : m.store.down = false)
    (hnamed : MeshStore.isNamed e = true) (hstored : m.stored? e.key = some old)
    (hcurrent : old.metadata.resourceVersion = e.metadata.resourceVersion) :
    m.perform (.update e) = (.ok (m.stamped e), m.replaced old e) := by
  have hstored' : m.store.entries.get? e.key = some old := hstored
  simp [perform, MeshStore.update, hup, hnamed, hstored', hcurrent, replaced, stamped]

theorem perform_update_of_refused (hup : m.store.down = false)
    (h : MeshStore.isNamed e = true → ∀ old, m.stored? e.key = some old →
      old.metadata.resourceVersion ≠ e.metadata.resourceVersion) :
    ∃ err, m.perform (.update e) = (.error err, m) := by
  cases hnamed : MeshStore.isNamed e with
  | false => exact ⟨.unnamed, by simp [perform, MeshStore.update, hup, hnamed]⟩
  | true =>
    cases hold : m.store.entries.get? e.key with
    | none => exact ⟨_, by simp [perform, MeshStore.update, hup, hnamed, hold]; rfl⟩
    | some old =>
      have hversion := h hnamed old hold
      exact ⟨_, by simp [perform, MeshStore.update, hup, hnamed, hold, hversion]; rfl⟩

theorem perform_delete_of_present (hup : m.store.down = false)
    (hstored : m.stored? key = some old) :
    m.perform (.delete key) = (.ok (), m.removed key old) := by
  have hstored' : m.store.entries.get? key = some old := hstored
  simp [perform, MeshStore.delete, hup, hstored', removed]

theorem perform_delete_of_absent (hup : m.store.down = false) (habsent : m.stored? key = none) :
    m.perform (.delete key) = (.error (.notFound .entry key), m) := by
  have habsent' : m.store.entries.get? key = none := habsent
  simp [perform, MeshStore.delete, hup, habsent']

end Answers

/-! ## The effects of calls -/

/-- What a call may do to a mesh. -/
inductive Effect (m : Mesh) : Call → Mesh → Prop where
  /-- Nothing changes. -/
  | same (c : Call) : Effect m c m
  /-- An entry was not created, because its name is taken. -/
  | used (e : ServiceEntry) : Effect m (.create e) m.drawn
  /-- An entry was created. -/
  | created (e : ServiceEntry) (named : MeshStore.isNamed e = true)
      (space : m.store.hasSpace e.space = true) (absent : m.stored? e.key = none) :
      Effect m (.create e) (m.created e)
  /-- An entry was replaced by somebody who had read it. -/
  | replaced (old e : ServiceEntry) (named : MeshStore.isNamed e = true)
      (stored : m.stored? e.key = some old)
      (current : old.metadata.resourceVersion = e.metadata.resourceVersion) :
      Effect m (.update e) (m.replaced old e)
  /-- An entry was removed. -/
  | removed (key : ObjectKey) (old : ServiceEntry) (stored : m.stored? key = some old) :
      Effect m (.delete key) (m.removed key old)
  /-- A namespace was added. -/
  | spaced (space : String) : Effect m (.ensureSpace space) (m.withSpace space)

/-- Every call has one of the effects. -/
theorem perform_effect (c : Call) (m : Mesh) : m.Effect c (m.perform c).2 := by
  cases hup : m.store.down with
  | true =>
    rw [perform_of_down c hup]
    exact .same c
  | false =>
    cases c with
    | get key => exact .same _
    | create e =>
      -- The checks come in this order, so a taken name uses up a version only if they pass.
      by_cases hplaced : MeshStore.isNamed e = true ∧ m.store.hasSpace e.space = true
      · obtain ⟨hnamed, hspace⟩ := hplaced
        cases hkey : m.stored? e.key with
        | none =>
          rw [perform_create_of_absent hup hnamed hspace hkey]
          exact .created e hnamed hspace hkey
        | some old =>
          rw [perform_create_of_taken hup hnamed hspace hkey]
          exact .used e
      · obtain ⟨err, herr⟩ := perform_create_of_unplaced hup (e := e)
          (by simpa using hplaced)
        rw [herr]
        exact .same _
    | update e =>
      by_cases hcurrent : MeshStore.isNamed e = true ∧ ∃ old, m.stored? e.key = some old ∧
          old.metadata.resourceVersion = e.metadata.resourceVersion
      · obtain ⟨hnamed, old, hstored, hversion⟩ := hcurrent
        rw [perform_update_of_current hup hnamed hstored hversion]
        exact .replaced old e hnamed hstored hversion
      · obtain ⟨err, herr⟩ := perform_update_of_refused hup (e := e)
          fun hnamed old hold hversion => hcurrent ⟨hnamed, old, hold, hversion⟩
        rw [herr]
        exact .same _
    | delete key =>
      cases hkey : m.stored? key with
      | none =>
        rw [perform_delete_of_absent hup hkey]
        exact .same _
      | some old =>
        rw [perform_delete_of_present hup hkey]
        exact .removed key old hkey
    | ensureSpace space =>
      have hperform : (m.perform (.ensureSpace space)).2 = m.withSpace space := by
        simp [perform, MeshStore.ensureSpace, hup, withSpace]
      rw [hperform]
      exact .spaced space

/-- No call changes whether calls are refused, who is told of changes, and whose model it is. -/
theorem Effect.frame {m m' : Mesh} {c : Call} (h : m.Effect c m') :
    m'.store.down = m.store.down ∧ m'.announced = m.announced ∧
      m'.ownership.reference = m.ownership.reference := by
  cases h with
  | same => exact ⟨rfl, rfl, rfl⟩
  | used => exact ⟨rfl, rfl, rfl⟩
  | created e => exact ⟨rfl, rfl, reference_advance m _ _⟩
  | replaced old e => exact ⟨rfl, rfl, reference_advance m _ _⟩
  | removed key old => exact ⟨rfl, rfl, reference_advance m _ _⟩
  | spaced => exact ⟨rfl, rfl, rfl⟩

/-- A namespace stays. -/
theorem Effect.hasSpace {m m' : Mesh} {c : Call} (h : m.Effect c m') {space : String}
    (hspace : m.store.hasSpace space = true) : m'.store.hasSpace space = true := by
  cases h with
  | spaced other =>
    have hother : (m.withSpace other).store.hasSpace space =
        if space = other then true else m.store.hasSpace space := by
      by_cases h : space = other <;>
        simp [withSpace, MeshStore.addSpace, MeshStore.hasSpace, SortedMap.contains, h]
    rw [hother, hspace, ite_self]
  | _ => exact hspace

@[simp] theorem api_perform (c : Call) (m : Mesh) : api.perform c m = m.perform c := rfl

@[simp] theorem api_ownership (m : Mesh) : api.ownership m = m.ownership := rfl

end Mesh

/-! ## The calls of a conversation -/

/-- Whether a call may change the mesh. -/
def Call.isWrite : Call → Bool
  | .get _ => false
  | _ => true

namespace Session

variable {α β σ : Type}

/-- The calls that a conversation makes, in their order. -/
def calls (api : MeshApi σ) : Session α → σ → List Call
  | .done _, _ => []
  | .ask c next, s => c :: (next (api.perform c s).1).calls api (api.perform c s).2
  | .look next, s => (next (api.ownership s)).calls api s

@[simp] theorem calls_pure (api : MeshApi σ) (a : α) (s : σ) :
    (pure a : Session α).calls api s = [] := rfl

@[simp] theorem calls_call (api : MeshApi σ) (c : Call) (s : σ) :
    (call c).calls api s = [c] := rfl

@[simp] theorem calls_ownership (api : MeshApi σ) (s : σ) :
    ownership.calls api s = [] := rfl

/-- The calls of two conversations after each other. -/
@[simp] theorem calls_bind (api : MeshApi σ) (p : Session α) (f : α → Session β) (s : σ) :
    (p >>= f).calls api s = p.calls api s ++ (f (p.run api s).1).calls api (p.run api s).2 := by
  show (p.andThen f).calls api s = _
  -- Each call moves the state on, so the state is general in the induction.
  induction p generalizing s with
  | done a => rfl
  | ask c next ih => exact congrArg (c :: ·) (ih _ _)
  | look next ih => exact ih _ _

/-- What every call preserves is preserved by a conversation. -/
theorem run_preserves (api : MeshApi σ) {P : σ → Prop}
    (hcall : ∀ c s, P s → P (api.perform c s).2) (p : Session α) {s : σ} (h : P s) :
    P (p.run api s).2 := by
  induction p generalizing s with
  | done a => exact h
  | ask c next ih => exact ih _ (hcall c s h)
  | look next ih => exact ih _ h

/-- No conversation changes whether calls are refused. -/
@[simp] theorem down_run (p : Session α) (m : Mesh) :
    (p.run Mesh.api m).2.store.down = m.store.down :=
  p.run_preserves Mesh.api (s := m) (P := fun s => s.store.down = m.store.down)
    (fun c s hs => (Mesh.perform_effect c s).frame.1.trans hs) rfl

@[simp] theorem reference_run (p : Session α) (m : Mesh) :
    (p.run Mesh.api m).2.ownership.reference = m.ownership.reference :=
  p.run_preserves Mesh.api (s := m) (P := fun s => s.ownership.reference = m.ownership.reference)
    (fun c s hs => (Mesh.perform_effect c s).frame.2.2.trans hs) rfl

theorem hasSpace_run (p : Session α) {m : Mesh} {space : String}
    (h : m.store.hasSpace space = true) : (p.run Mesh.api m).2.store.hasSpace space = true :=
  p.run_preserves Mesh.api (P := fun s => s.store.hasSpace space = true)
    (fun c s hs => (Mesh.perform_effect c s).hasSpace hs) h

/-- A conversation that only reads leaves the mesh as it is. -/
theorem run_of_reads (p : Session α) {m : Mesh}
    (h : ∀ c ∈ p.calls Mesh.api m, c.isWrite = false) : (p.run Mesh.api m).2 = m := by
  induction p with
  | done a => rfl
  | ask c next ih =>
    obtain ⟨hc, hrest⟩ := List.forall_mem_cons.mp h
    -- The first call is a read, so the rest talks to the mesh that was there at the beginning.
    have hsame : (m.perform c).2 = m := by
      cases c with
      | get key => rfl
      | create e => exact absurd hc (by simp [Call.isWrite])
      | update e => exact absurd hc (by simp [Call.isWrite])
      | delete key => exact absurd hc (by simp [Call.isWrite])
      | ensureSpace space => exact absurd hc (by simp [Call.isWrite])
    rw [Mesh.api_perform, hsame] at hrest
    show ((next (m.perform c).1).run Mesh.api (m.perform c).2).2 = m
    rw [hsame]
    exact ih _ hrest
  | look next ih => exact ih _ h

/-- While calls are refused, a conversation leaves the mesh as it is. -/
theorem run_of_down (p : Session α) {m : Mesh} (h : m.store.down = true) :
    (p.run Mesh.api m).2 = m :=
  p.run_preserves Mesh.api (P := fun s => s = m)
    (fun c s hs => by rw [hs]; exact Mesh.perform_of_down c h) rfl

end Session

end MeshRegistry
