import MeshRegistry.Proofs.Mesh.Applying
/-!
# From the stream to the mesh

A client takes up resources one by one and puts operations into its queue, while at the same time
the queue is emptied into a mesh whose calls may fail. The two sides alternate in any way; the
client waits where the queue is full.

What is due is what has been taken up and not been applied. Once calls succeed again, all that the
mesh will have seen is determined: it is the mesh on which what is due has been applied, and after
it what is taken up from now on. Queues and waits only put this off.

## Main definitions

- `Pipeline`, `Pipeline.step`: the two sides and their steps.
- `Pipeline.settled`: the mesh on which everything that is due has been applied.
- `Pipeline.takenUp`: the operations that resources give rise to along some steps.

## Main results

- `Pipeline.exists_run_eq_handle`: a client that is let alone handles an answer at once.
- `Pipeline.settled_run`: what is taken up in calm times is added to the settled mesh.
-/

namespace MeshRegistry

/-- What the receiving side of a client is at. -/
inductive Receiving where
  /-- It waits for an answer. -/
  | idle
  /-- It takes up the resources that are left of an answer. -/
  | working (r : DiscoveryResponse) (rest : List Any)
  /-- It puts an operation into the queue, and resources are left. -/
  | sending (r : DiscoveryResponse) (op : EntryOp) (rest : List Any)
deriving DecidableEq

/-- The operation that is on its way to the queue. -/
def Receiving.held : Receiving → List EntryOp
  | .idle => []
  | .working _ _ => []
  | .sending _ op _ => [op]

/-- A client, and the mesh that its operations are applied to. -/
structure Pipeline where
  client : DiscoveryClient
  mesh : Mesh
  receiving : Receiving := .idle

namespace Pipeline

/-! ## Steps -/

/-- Something that the two sides do, or that happens to them. -/
inductive Step where
  /-- The stream delivers an answer. -/
  | answer (r : DiscoveryResponse)
  /-- The receiving side goes on. -/
  | receive
  /-- The oldest operation is applied, while calls fail by a script. -/
  | apply (faults : List Fault)
  /-- Calls are refused from now on, or accepted again. -/
  | outage (down : Bool)

/-- The resources of an answer of this type are taken up as service entries. -/
def takesEntries (typeUrl : String) : Bool :=
  typeUrl != TypeUrl.meshConfig && !DiscoveryClient.holdsNames typeUrl &&
    (TypeName.ofUrl? typeUrl).isSome

/-- An answer is taken in by a client that waits for one. -/
def takeIn (s : Pipeline) (r : DiscoveryResponse) : Pipeline :=
  match s.receiving with
  | .idle =>
    if takesEntries r.typeUrl then
      { s with
        client := (s.client.noteReceived r.typeUrl).noteVersion r.typeUrl r.versionInfo
        receiving := .working r r.resources }
    else { s with client := (s.client.handle r).1 }
  | .working _ _ => s
  | .sending _ _ _ => s

/-- The receiving side takes up the next resource, puts an operation into the queue if there is
room, or finishes the answer. -/
def goOn (s : Pipeline) : Pipeline :=
  match s.receiving with
  | .idle => s
  | .working r [] => { s with client := (s.client.finish r).1, receiving := .idle }
  | .working r (a :: rest) =>
    match s.client.consider a with
    | (client, none) => { s with client, receiving := .working r rest }
    | (client, some op) => { s with client, receiving := .sending r op rest }
  | .sending r op rest =>
    match s.client.operations.room with
    | .free =>
      { s with
        client := { s.client with operations := s.client.operations.push op }
        receiving := .working r rest }
    | .full => s
    | .gone => { s with receiving := .idle }

/-- The oldest operation leaves the queue and is applied, whether or not its calls fail. -/
def applyOldest (s : Pipeline) (faults : List Fault) : Pipeline :=
  match s.client.operations.pop? with
  | none => s
  | some (op, operations) =>
    { s with
      client := { s.client with operations }
      mesh := (StreamWatcher.applyTo Mesh.api.withFaults op (faults, s.mesh)).2 }

/-- The pipeline after a step. -/
def step (s : Pipeline) : Step → Pipeline
  | .answer r => s.takeIn r
  | .receive => s.goOn
  | .apply faults => s.applyOldest faults
  | .outage down => { s with mesh := s.mesh.setDown down }

/-- The pipeline after some steps. -/
def run (s : Pipeline) (steps : List Step) : Pipeline := steps.foldl step s

@[simp] theorem run_nil (s : Pipeline) : s.run [] = s := rfl

@[simp] theorem run_cons (s : Pipeline) (first : Step) (rest : List Step) :
    s.run (first :: rest) = (s.step first).run rest := rfl

/-! ## What leaves the queue alone -/

/-- Two clients have the same operations in their queues, and the same versions noted. -/
structure SameEntries (c c' : DiscoveryClient) : Prop where
  operations : c'.operations = c.operations
  resourceVersions : c'.resourceVersions = c.resourceVersions

theorem SameEntries.trans {c c' c'' : DiscoveryClient} (h : SameEntries c c')
    (h' : SameEntries c' c'') : SameEntries c c'' :=
  ⟨h'.operations.trans h.operations, h'.resourceVersions.trans h.resourceVersions⟩

theorem sameEntries_finish (c : DiscoveryClient) (r : DiscoveryResponse) :
    SameEntries c (c.finish r).1 := by
  simp only [DiscoveryClient.finish, DiscoveryClient.announce]
  split
  · exact ⟨rfl, rfl⟩
  · split <;> exact ⟨rfl, rfl⟩

theorem sameEntries_keepMeshConfig (c : DiscoveryClient) (a : Any) :
    SameEntries c (c.keepMeshConfig a) := by
  simp only [DiscoveryClient.keepMeshConfig, DiscoveryClient.store]
  split <;> exact ⟨rfl, rfl⟩

theorem closed_keepMeshConfig (c : DiscoveryClient) (a : Any) :
    (c.keepMeshConfig a).closed = c.closed := by
  simp only [DiscoveryClient.keepMeshConfig, DiscoveryClient.store]
  split <;> rfl

/-- Taking up a resource changes the noted versions at most. -/
theorem exists_consider (c : DiscoveryClient) (a : Any) :
    ∃ resourceVersions, (c.consider a).1 = { c with resourceVersions } := by
  unfold DiscoveryClient.consider
  split
  · exact ⟨_, rfl⟩
  · split
    · exact ⟨_, rfl⟩
    · split
      · exact ⟨_, rfl⟩
      · split
        · exact ⟨_, rfl⟩
        · split <;> exact ⟨_, rfl⟩

theorem operations_consider (c : DiscoveryClient) (a : Any) :
    (c.consider a).1.operations = c.operations := by
  obtain ⟨resourceVersions, hconsider⟩ := exists_consider c a
  rw [hconsider]

/-- Taking up resources is all there is to an answer with service entries. -/
theorem handle_of_takesEntries {c : DiscoveryClient} {r : DiscoveryResponse}
    (h : takesEntries r.typeUrl = true) :
    c.handle r =
      ((c.noteReceived r.typeUrl).noteVersion r.typeUrl r.versionInfo).work r r.resources := by
  simp only [takesEntries, Bool.and_eq_true, bne_iff_ne, ne_eq, Bool.not_eq_true'] at h
  obtain ⟨⟨hconfig, hnames⟩, htype⟩ := h
  simp [DiscoveryClient.handle, hconfig, hnames, htype]

/-- Any other answer is handled without the queue and the versions of resources. -/
theorem handle_of_not_takesEntries (c : DiscoveryClient) {r : DiscoveryResponse}
    (h : takesEntries r.typeUrl = false) :
    ∃ noted : DiscoveryClient, SameEntries c noted ∧ noted.closed = c.closed ∧
      c.handle r = noted.finish r := by
  unfold DiscoveryClient.handle
  dsimp only
  split
  · split
    · exact ⟨c.noteReceived r.typeUrl, ⟨rfl, rfl⟩, rfl, rfl⟩
    next a _ _ =>
      have hreceived : SameEntries c (c.noteReceived r.typeUrl) := ⟨rfl, rfl⟩
      exact ⟨_, hreceived.trans (sameEntries_keepMeshConfig _ a), closed_keepMeshConfig _ a, rfl⟩
  next hconfig =>
    split
    · exact ⟨((c.noteReceived r.typeUrl).noteVersion r.typeUrl r.versionInfo).holdNames r.typeUrl
        r.resources, ⟨rfl, rfl⟩, rfl, rfl⟩
    next hnames =>
      -- A type with a name is taken up, so this one has none.
      have htype : ¬ (TypeName.ofUrl? r.typeUrl).isSome := by
        intro htype
        simp [takesEntries, hconfig, hnames, htype] at h
      rw [if_neg htype]
      exact ⟨(c.noteReceived r.typeUrl).noteVersion r.typeUrl r.versionInfo, ⟨rfl, rfl⟩, rfl, rfl⟩

/-! ## Answers that are handled at once -/

/-- A pipeline whose client has come so far with an answer. -/
def ofHandling (mesh : Mesh) (r : DiscoveryResponse) : DiscoveryClient × Handling → Pipeline
  | (client, .acknowledged _) => ⟨client, mesh, .idle⟩
  | (client, .refused) => ⟨client, mesh, .idle⟩
  | (client, .waiting op rest) => ⟨client, mesh, .sending r op rest⟩

theorem exists_run_eq_work (client : DiscoveryClient) (mesh : Mesh) (r : DiscoveryResponse)
    (rest : List Any) :
    ∃ n, (Pipeline.mk client mesh (.working r rest)).run (List.replicate n .receive) =
      ofHandling mesh r (client.work r rest) := by
  induction rest generalizing client with
  | nil => exact ⟨1, rfl⟩
  | cons a rest ih =>
    rw [DiscoveryClient.work]
    -- One step takes the resource up, and another one puts its operation into the queue.
    cases hconsider : client.consider a with
    | mk considered op =>
      cases op with
      | none =>
        obtain ⟨n, hn⟩ := ih considered
        refine ⟨n + 1, ?_⟩
        rw [List.replicate_succ, run_cons, step, goOn]
        simp only [hconsider]
        exact hn
      | some op =>
        have hfirst : (Pipeline.mk client mesh (.working r (a :: rest))).step .receive =
            ⟨considered, mesh, .sending r op rest⟩ := by
          simp [step, goOn, hconsider]
        cases hroom : considered.operations.room with
        | free =>
          obtain ⟨n, hn⟩ := ih { considered with operations := considered.operations.push op }
          refine ⟨n + 2, ?_⟩
          rw [List.replicate_succ, run_cons, hfirst, List.replicate_succ, run_cons, step, goOn]
          simp only [hroom]
          exact hn
        | full =>
          refine ⟨1, ?_⟩
          rw [List.replicate_one, run_cons, hfirst]
          simp [ofHandling, hroom]
        | gone =>
          refine ⟨2, ?_⟩
          rw [List.replicate_succ, run_cons, hfirst, List.replicate_one, run_cons, step, goOn]
          simp [ofHandling, hroom]

/-- A client that is let alone handles an answer as far as there is room for its operations. -/
theorem exists_run_eq_handle (client : DiscoveryClient) (mesh : Mesh) (r : DiscoveryResponse) :
    ∃ n, (Pipeline.mk client mesh .idle).run (.answer r :: List.replicate n .receive) =
      ofHandling mesh r (client.handle r) := by
  cases htakes : takesEntries r.typeUrl with
  | true =>
    obtain ⟨n, hn⟩ := exists_run_eq_work
      ((client.noteReceived r.typeUrl).noteVersion r.typeUrl r.versionInfo) mesh r r.resources
    refine ⟨n, ?_⟩
    rw [run_cons, handle_of_takesEntries htakes, step, takeIn]
    simp only [htakes, if_true]
    exact hn
  | false =>
    obtain ⟨noted, -, -, hhandle⟩ := handle_of_not_takesEntries client htakes
    refine ⟨0, ?_⟩
    rw [List.replicate_zero, run_cons, run_nil, hhandle, step, takeIn]
    simp [htakes, hhandle, ofHandling, DiscoveryClient.finish]

/-- So does an open one that has waited for room. -/
theorem exists_run_eq_resume {client : DiscoveryClient} (mesh : Mesh) (r : DiscoveryResponse)
    (op : EntryOp) (rest : List Any) (hsender : client.operations.hasSender = true) :
    ∃ n, (Pipeline.mk client mesh (.sending r op rest)).run (List.replicate n .receive) =
      ofHandling mesh r (client.resume r op rest) := by
  rw [DiscoveryClient.resume, Queue.roomForWaiting_of_hasSender hsender]
  cases hroom : client.operations.room with
  | free =>
    obtain ⟨n, hn⟩ := exists_run_eq_work
      { client with operations := client.operations.push op } mesh r rest
    refine ⟨n + 1, ?_⟩
    rw [List.replicate_succ, run_cons, step, goOn]
    simp only [hroom]
    exact hn
  | full => exact ⟨0, rfl⟩
  | gone =>
    refine ⟨1, ?_⟩
    rw [List.replicate_one, run_cons, step, goOn]
    simp [ofHandling, hroom]

/-! ## What is due -/

/-- The operations that have been taken up and not been applied, the oldest first. -/
def due (s : Pipeline) : List EntryOp :=
  s.client.operations.items ++ s.receiving.held

/-- Operations are applied one after the other. -/
def applyInOrder (ops : List EntryOp) (m : Mesh) : Mesh :=
  ops.foldl (fun m op => StreamWatcher.applyTo Mesh.api op m) m

/-- The mesh on which everything that is due has been applied. -/
def settled (s : Pipeline) : Mesh := applyInOrder s.due s.mesh

/-- The operation that a step takes up, if any. -/
def taken (s : Pipeline) : Step → List EntryOp
  | .answer _ => []
  | .receive =>
    match s.receiving with
    | .idle => []
    | .working _ [] => []
    | .working _ (a :: _) => (s.client.consider a).2.toList
    | .sending _ _ _ => []
  | .apply _ => []
  | .outage _ => []

/-- The operations that are taken up along some steps. -/
def takenUp (s : Pipeline) : List Step → List EntryOp
  | [] => []
  | first :: rest => s.taken first ++ (s.step first).takenUp rest

/-- In calm times no call fails. -/
def Step.Calm : Step → Prop
  | .answer _ => True
  | .receive => True
  | .apply faults => faults = []
  | .outage down => down = false

/-- Both ends of the queue are there. -/
def Open (s : Pipeline) : Prop :=
  s.client.operations.hasSender = true ∧ s.client.operations.hasReceiver = true

theorem applyInOrder_append (first rest : List EntryOp) (m : Mesh) :
    applyInOrder (first ++ rest) m = applyInOrder rest (applyInOrder first m) :=
  List.foldl_append

section Steps

variable {s : Pipeline}

theorem sameEntries_takeIn (s : Pipeline) (r : DiscoveryResponse) :
    SameEntries s.client (s.takeIn r).client := by
  unfold takeIn
  split
  · split
    · exact ⟨rfl, rfl⟩
    next hother =>
      obtain ⟨noted, hnoted, -, hhandle⟩ :=
        handle_of_not_takesEntries s.client (Bool.eq_false_iff.mpr hother)
      show SameEntries s.client (s.client.handle r).1
      rw [hhandle]
      exact hnoted.trans (sameEntries_finish noted r)
  · exact ⟨rfl, rfl⟩
  · exact ⟨rfl, rfl⟩

theorem held_takeIn (s : Pipeline) (r : DiscoveryResponse) :
    (s.takeIn r).receiving.held = s.receiving.held := by
  unfold takeIn
  split
  next hidle => split <;> simp [hidle, Receiving.held]
  · rfl
  · rfl

/-- An answer that is taken in makes nothing due yet. -/
theorem due_takeIn (s : Pipeline) (r : DiscoveryResponse) : (s.takeIn r).due = s.due := by
  rw [due, due, (sameEntries_takeIn s r).operations, held_takeIn]

theorem Open.room_ne_gone (h : s.Open) : s.client.operations.room ≠ .gone :=
  Queue.room_ne_gone h.1 h.2

/-- What the receiving side takes up is due from then on, on its way to the queue as well. -/
theorem due_goOn (hopen : s.Open) : s.goOn.due = s.due ++ s.taken .receive := by
  cases hreceiving : s.receiving with
  | idle => simp [goOn, taken, hreceiving]
  | working r rest =>
    cases rest with
    | nil =>
      have hoperations := (sameEntries_finish s.client r).operations
      simp [goOn, taken, due, hreceiving, hoperations, Receiving.held]
    | cons a rest =>
      cases hconsider : s.client.consider a with
      | mk client op =>
        have hoperations : client.operations = s.client.operations := by
          rw [← operations_consider s.client a, hconsider]
        cases op <;>
          simp [goOn, taken, due, hreceiving, hconsider, hoperations, Receiving.held]
  | sending r op rest =>
    cases hroom : s.client.operations.room with
    | free => simp [goOn, taken, due, hreceiving, hroom, Queue.push, Receiving.held]
    | full => simp [goOn, taken, hreceiving, hroom]
    | gone => exact absurd hroom hopen.room_ne_gone

theorem mesh_goOn (s : Pipeline) : s.goOn.mesh = s.mesh := by
  unfold goOn
  split
  · rfl
  · rfl
  · split <;> rfl
  · split <;> rfl

theorem mesh_takeIn (s : Pipeline) (r : DiscoveryResponse) : (s.takeIn r).mesh = s.mesh := by
  unfold takeIn
  split
  · split <;> rfl
  · rfl
  · rfl

/-- The oldest operation is no longer due, even if it has failed. -/
theorem applyOldest_cases (s : Pipeline) (faults : List Fault) :
    s.applyOldest faults = s ∨
      ∃ op, s.due = op :: (s.applyOldest faults).due ∧
        (s.applyOldest faults).mesh =
          (StreamWatcher.applyTo Mesh.api.withFaults op (faults, s.mesh)).2 := by
  cases hitems : s.client.operations.items with
  | nil => exact .inl (by simp [applyOldest, Queue.pop?, hitems])
  | cons op rest =>
    refine .inr ⟨op, ?_, ?_⟩
    · simp [applyOldest, Queue.pop?, due, hitems]
    · simp [applyOldest, Queue.pop?, hitems]

theorem Open.step (h : s.Open) (step : Step) : (s.step step).Open := by
  cases step with
  | answer r =>
    unfold Open Pipeline.step
    dsimp only
    rw [(sameEntries_takeIn s r).operations]
    exact h
  | receive =>
    show s.goOn.Open
    cases hreceiving : s.receiving with
    | idle => simpa [goOn, hreceiving] using h
    | working r rest =>
      cases rest with
      | nil =>
        have hoperations := (sameEntries_finish s.client r).operations
        simpa [Open, goOn, hreceiving, hoperations] using h
      | cons a rest =>
        cases hconsider : s.client.consider a with
        | mk client op =>
          have hoperations : client.operations = s.client.operations := by
            rw [← operations_consider s.client a, hconsider]
          cases op <;> simpa [Open, goOn, hreceiving, hconsider, hoperations] using h
    | sending r op rest =>
      cases hroom : s.client.operations.room with
      | free => simpa [Open, goOn, hreceiving, hroom, Queue.push] using h
      | full => simpa [goOn, hreceiving, hroom] using h
      | gone => exact absurd hroom h.room_ne_gone
  | apply faults =>
    show (s.applyOldest faults).Open
    cases hitems : s.client.operations.items with
    | nil => simpa [applyOldest, Queue.pop?, hitems] using h
    | cons op rest => simpa [Open, applyOldest, Queue.pop?, hitems] using h
  | outage down => exact h

theorem Open.run (h : s.Open) (steps : List Step) : (s.run steps).Open := by
  induction steps generalizing s with
  | nil => exact h
  | cons first rest ih => exact ih (h.step first)

/-- The queue of a new client has both ends. -/
theorem open_of_create {config : ClientConfig} {files : Files} {client : DiscoveryClient}
    (hcreate : DiscoveryClient.create config files = .ok client) (mesh : Mesh) :
    (Pipeline.mk client mesh .idle).Open := by
  obtain ⟨-, -, rfl⟩ := DiscoveryClient.create_eq_ok_iff.mp hcreate
  exact ⟨rfl, rfl⟩

/-! ## Calm times -/

theorem applyTo_withFaults_nil (op : EntryOp) (m : Mesh) :
    StreamWatcher.applyTo Mesh.api.withFaults op ([], m) =
      ([], StreamWatcher.applyTo Mesh.api op m) := by
  unfold StreamWatcher.applyTo
  rw [MeshApi.run_withFaults_nil]

/-- Calls are accepted as long as the times are calm. -/
theorem up_step (hup : s.mesh.store.down = false) {step : Step} (hcalm : step.Calm) :
    (s.step step).mesh.store.down = false := by
  cases step with
  | answer r => exact (congrArg (·.store.down) (mesh_takeIn s r)).trans hup
  | receive => exact (congrArg (·.store.down) (mesh_goOn s)).trans hup
  | apply faults =>
    obtain rfl : faults = [] := hcalm
    rcases applyOldest_cases s [] with hnothing | ⟨op, -, hmesh⟩
    · exact (congrArg (·.mesh.store.down) hnothing).trans hup
    · show (s.applyOldest []).mesh.store.down = false
      rw [hmesh, applyTo_withFaults_nil, Mesh.down_applyTo, hup]
  | outage down => exact hcalm

/-- In calm times a step puts what it takes up at the end of what is due. -/
theorem settled_step (hopen : s.Open) (hup : s.mesh.store.down = false) {step : Step}
    (hcalm : step.Calm) : (s.step step).settled = applyInOrder (s.taken step) s.settled := by
  unfold settled
  cases step with
  | answer r =>
    show applyInOrder (s.takeIn r).due (s.takeIn r).mesh = _
    rw [due_takeIn, mesh_takeIn]
    rfl
  | receive =>
    show applyInOrder s.goOn.due s.goOn.mesh = _
    rw [due_goOn hopen, mesh_goOn, applyInOrder_append]
  | apply faults =>
    -- What has been applied is the first of what was due.
    obtain rfl : faults = [] := hcalm
    show applyInOrder (s.applyOldest []).due (s.applyOldest []).mesh = applyInOrder s.due s.mesh
    rcases applyOldest_cases s [] with hnothing | ⟨op, hdue, hmesh⟩
    · rw [hnothing]
    · rw [hdue, hmesh, applyTo_withFaults_nil]
      rfl
  | outage down =>
    obtain rfl : down = false := hcalm
    show applyInOrder s.due (s.mesh.setDown false) = applyInOrder s.due s.mesh
    rw [Mesh.setDown_eq_self hup]

/-- What is taken up in calm times is added to the settled mesh, in that order. -/
theorem settled_run (hopen : s.Open) (hup : s.mesh.store.down = false) {steps : List Step}
    (hcalm : ∀ step ∈ steps, step.Calm) :
    (s.run steps).settled = applyInOrder (s.takenUp steps) s.settled := by
  induction steps generalizing s with
  | nil => rfl
  | cons first rest ih =>
    -- The first step adds what it takes up, and the rest starts from there.
    obtain ⟨hfirst, hrest⟩ := List.forall_mem_cons.mp hcalm
    rw [run_cons, ih (hopen.step first) (up_step hup hfirst) hrest, settled_step hopen hup hfirst,
      takenUp, applyInOrder_append]

end Steps

/-! ## The mesh behind the queue -/

section Mesh

variable {m : Mesh} {ops : List EntryOp} {key : ObjectKey}

theorem keyed_applyInOrder (h : m.Keyed) (ops : List EntryOp) : (applyInOrder ops m).Keyed := by
  induction ops generalizing m with
  | nil => exact h
  | cons op rest ih => exact ih (h.applyTo op)

theorem down_applyInOrder (ops : List EntryOp) (m : Mesh) :
    (applyInOrder ops m).store.down = m.store.down := by
  induction ops generalizing m with
  | nil => rfl
  | cons op rest ih => exact (ih (StreamWatcher.applyTo Mesh.api op m)).trans (Mesh.down_applyTo op)

theorem stored?_applyInOrder_of_ne (hkeyed : m.Keyed) (h : ∀ op ∈ ops, op.entry.key ≠ key) :
    (applyInOrder ops m).stored? key = m.stored? key := by
  induction ops generalizing m with
  | nil => rfl
  | cons op rest ih =>
    obtain ⟨hop, hrest⟩ := List.forall_mem_cons.mp h
    exact (ih (hkeyed.applyTo op) hrest).trans (Mesh.stored?_applyTo_of_ne hkeyed hop)

/-- Entries stay under their keys, whatever fails. -/
theorem keyed_step {s : Pipeline} (h : s.mesh.Keyed) (step : Step) : (s.step step).mesh.Keyed := by
  cases step with
  | answer r =>
    show (s.takeIn r).mesh.Keyed
    rwa [mesh_takeIn]
  | receive =>
    show s.goOn.mesh.Keyed
    rwa [mesh_goOn]
  | apply faults =>
    show (s.applyOldest faults).mesh.Keyed
    rcases applyOldest_cases s faults with hnothing | ⟨op, -, hmesh⟩
    · rwa [hnothing]
    · rw [hmesh]
      exact Mesh.api.run_withFaults_preserves (fun c _ hkeyed => hkeyed.happen (.call c)) op.apply h
  | outage down => exact h.happen (.outage down)

theorem keyed_run {s : Pipeline} (h : s.mesh.Keyed) (steps : List Step) :
    (s.run steps).mesh.Keyed := by
  induction steps generalizing s with
  | nil => exact h
  | cons first rest ih => exact ih (keyed_step h first)

end Mesh

end Pipeline

end MeshRegistry
