import MeshRegistry.Controller.Shutdown
import MeshRegistry.Proofs.Discovery.Offers
/-!
# Two loops and the queue between them

One loop takes up answers and puts operations into a bounded queue. Another one takes them out and
carries each of them out, call by call, before it takes the next. Meanwhile somebody may close the
client or fire the shutdown signal, at any moment.

Closing takes away the sender that the client holds. A loop that waits with an operation has a
sender of its own, so this operation still goes into the queue; after it nothing does. The loop at
the other end returns when no sender and no operation is left. The signal ends the first loop
wherever it waits, and the second one before its next operation.

## Main definitions

- `Handover`, `Handover.step`: the two loops, the queue and the signal, and their steps.
- `Handover.Moves`: what a step of the first loop can come to.

## Main results

- `Handover.pipeline_receive`: while the queue has both ends, the first loop is that of `Pipeline`.
- `Handover.moves_receive`: there is nothing else that a step of the first loop comes to.
-/

namespace MeshRegistry

/-- The resources that are left of the answer that is being taken up. -/
def Receiving.rest : Receiving → List Any
  | .idle => []
  | .working _ rest => rest
  | .sending _ _ rest => rest

/-- What the loop that applies operations is at. -/
inductive Applying where
  /-- It waits for an operation. -/
  | ready
  /-- It carries out an operation, and so much of the conversation is left. -/
  | busy (left : Session (Except MeshError ApplyOutcome))
  /-- It has returned, and the receiving end of the queue is gone. -/
  | returned

instance (a : Applying) : Decidable (a = .returned) :=
  match a with
  | .ready => isFalse nofun
  | .busy _ => isFalse nofun
  | .returned => isTrue rfl

/-- The state of the API when the operation in hand has been carried out. -/
def Applying.finish {σ : Type} (api : MeshApi σ) : Applying → σ → σ
  | .ready, s => s
  | .busy left, s => (left.run api s).2
  | .returned, s => s

/-- The state of the API after operations have been carried out in their order. -/
def MeshApi.afterAll {σ : Type} (api : MeshApi σ) (ops : List EntryOp) (s : σ) : σ :=
  ((applyAll ops).run api s).2

/-- A client whose answers are taken up by one loop and whose operations are applied by another. -/
structure Handover (σ : Type) where
  client : DiscoveryClient
  /-- The state of the API that operations are applied with. -/
  state : σ
  /-- The answers that have not been taken up. -/
  coming : List DiscoveryResponse
  receiving : Receiving := .idle
  applying : Applying := .ready
  signal : ShutdownSignal := {}
  /-- The operations that the queue has accepted so far. -/
  accepted : List EntryOp := []
  /-- The operations that have been taken out to be applied so far, the one in hand included. -/
  taken : List EntryOp := []

namespace Handover

variable {σ : Type}

/-! ## Steps -/

/-- Something that one of the loops does, or that happens to them. -/
inductive Step where
  /-- The first loop goes on with an answer, or takes up the next one. -/
  | receive
  /-- The second loop takes the oldest operation out of the queue. -/
  | take
  /-- The second loop makes the next call for the operation in hand, or is done with it. -/
  | work
  /-- The second loop finds that no operation is left and none can come. -/
  | leave
  /-- The client is closed. -/
  | close
  /-- The shutdown signal is fired. -/
  | shutdown
  /-- The signal ends the first loop. -/
  | abandon
  /-- The signal ends the second loop. -/
  | stop
deriving DecidableEq

/-- The operations that wait in the queue. -/
def queued (h : Handover σ) : List EntryOp := h.client.operations.items

/-- The beginning of both loops. -/
def start (client : DiscoveryClient) (state : σ) (answers : List DiscoveryResponse) :
    Handover σ where
  client
  state
  coming := answers

/-- The first loop ends, without what it waits with, and closes the client. -/
def cutOff (h : Handover σ) : Handover σ :=
  { h with client := h.client.close, coming := [], receiving := .idle }

/-- The first loop goes on. It has a sender of its own from the moment on in which it wants to put
an operation into the queue. -/
def receive (h : Handover σ) : Handover σ :=
  match h.receiving with
  | .idle =>
    match h.coming with
    | [] => h
    | r :: coming =>
      if Pipeline.takesEntries r.typeUrl then
        { h with
          client := (h.client.noteReceived r.typeUrl).noteVersion r.typeUrl r.versionInfo
          coming
          receiving := .working r r.resources }
      else { h with client := (h.client.handle r).1, coming }
  | .working r [] => { h with client := (h.client.finish r).1, receiving := .idle }
  | .working r (a :: rest) =>
    match h.client.consider a with
    | (client, none) => { h with client, receiving := .working r rest }
    | (client, some op) =>
      if client.operations.hasSender then { h with client, receiving := .sending r op rest }
      else { h with client }.cutOff
  | .sending r op rest =>
    match h.client.operations.roomForWaiting with
    | .free =>
      { h with
        client := { h.client with operations := h.client.operations.push op }
        receiving := .working r rest
        accepted := h.accepted ++ [op] }
    | .full => h
    | .gone => h.cutOff

/-- The second loop takes the oldest operation out of the queue if it has none in hand. -/
def take (h : Handover σ) : Handover σ :=
  match h.applying, h.client.operations.pop? with
  | .ready, some (op, operations) =>
    { h with
      client := { h.client with operations }
      applying := .busy op.apply
      taken := h.taken ++ [op] }
  | _, _ => h

/-- The second loop makes the next call. -/
def work (api : MeshApi σ) (h : Handover σ) : Handover σ :=
  match h.applying with
  | .ready => h
  | .busy (.done _) => { h with applying := .ready }
  | .busy (.ask c next) =>
    { h with
      state := (api.perform c h.state).2
      applying := .busy (next (api.perform c h.state).1) }
  | .busy (.look next) => { h with applying := .busy (next (api.ownership h.state)) }
  | .returned => h

/-- The second loop returns, and takes the receiving end of the queue with it. -/
def finish (h : Handover σ) : Handover σ :=
  { h with
    client := { h.client with operations := h.client.operations.dropReceiver }
    applying := .returned }

/-- No sender is left, neither the client's nor one that waits. -/
def Unfed (h : Handover σ) : Prop :=
  h.client.operations.hasSender = false ∧ h.receiving.held = []

instance (h : Handover σ) : Decidable h.Unfed := inferInstanceAs (Decidable (_ ∧ _))

/-- The second loop returns if it has no operation in hand and none will come. -/
def leave (h : Handover σ) : Handover σ :=
  match h.applying with
  | .ready => if h.queued = [] ∧ h.Unfed then h.finish else h
  | .busy _ => h
  | .returned => h

/-- Once the signal is fired, the second loop returns if it has no operation in hand. -/
def stop (h : Handover σ) : Handover σ :=
  match h.applying with
  | .ready => if h.signal.fired then h.finish else h
  | .busy _ => h
  | .returned => h

/-- What becomes of the two loops by a step. -/
def step (api : MeshApi σ) (h : Handover σ) : Step → Handover σ
  | .receive => h.receive
  | .take => h.take
  | .work => h.work api
  | .leave => h.leave
  | .close => { h with client := h.client.close }
  | .shutdown => { h with signal := h.signal.fire }
  | .abandon => if h.signal.fired then h.cutOff else h
  | .stop => h.stop

/-- What becomes of them by some steps. -/
def run (api : MeshApi σ) (h : Handover σ) (steps : List Step) : Handover σ :=
  steps.foldl (step api) h

@[simp] theorem run_nil (api : MeshApi σ) (h : Handover σ) : h.run api [] = h := rfl

@[simp] theorem run_cons (api : MeshApi σ) (h : Handover σ) (first : Step) (rest : List Step) :
    h.run api (first :: rest) = (h.step api first).run api rest := rfl

theorem run_append (api : MeshApi σ) (h : Handover σ) (first rest : List Step) :
    h.run api (first ++ rest) = (h.run api first).run api rest := List.foldl_append

/-! ## The first loop handles answers as a client does -/

/-- The first loop, next to a mesh that nobody touches. -/
def pipeline (h : Handover σ) (mesh : Mesh) : Pipeline := ⟨h.client, mesh, h.receiving⟩

/-- While both ends of the queue are there, an answer is taken up and gone on with in the steps of
`Pipeline`, which come to what `DiscoveryClient.handle` and `resume` do. -/
theorem pipeline_receive (h : Handover σ) (mesh : Mesh) (hopen : (h.pipeline mesh).Open) :
    h.receive.pipeline mesh =
      match h.receiving, h.coming with
      | .idle, [] => h.pipeline mesh
      | .idle, r :: _ => (h.pipeline mesh).takeIn r
      | .working _ _, _ => (h.pipeline mesh).goOn
      | .sending _ _ _, _ => (h.pipeline mesh).goOn := by
  cases hreceiving : h.receiving with
  | idle =>
    cases hcoming : h.coming with
    | nil => simp [receive, hreceiving, hcoming]
    | cons r coming =>
      cases htakes : Pipeline.takesEntries r.typeUrl <;>
        simp [receive, pipeline, Pipeline.takeIn, hreceiving, hcoming, htakes]
  | working r rest =>
    cases rest with
    | nil => simp [receive, pipeline, Pipeline.goOn, hreceiving]
    | cons a rest =>
      have hsender : (h.client.consider a).1.operations.hasSender = true := by
        rw [Pipeline.operations_consider]
        exact hopen.1
      cases hconsider : h.client.consider a with
      | mk client op =>
        replace hsender : client.operations.hasSender = true := by simpa [hconsider] using hsender
        cases op <;> simp [receive, pipeline, Pipeline.goOn, hreceiving, hconsider, hsender]
  | sending r op rest =>
    -- With the client's sender left, room for those who wait is room for all.
    have hroom := Queue.roomForWaiting_of_hasSender hopen.1
    have hthere := hopen.room_ne_gone
    simp only [pipeline] at hroom hthere
    cases hcase : h.client.operations.room with
    | free => simp [receive, pipeline, Pipeline.goOn, hreceiving, hroom, hcase]
    | full => simp [receive, pipeline, Pipeline.goOn, hreceiving, hroom, hcase]
    | gone => exact absurd hcase hthere

/-! ## What the first loop can do -/

/-- The resources that have not been taken up. -/
def remaining (h : Handover σ) : List Any := h.receiving.rest ++ entryResources h.coming

/-- Two clients have the same operations in their queues, and both are closed or both are not. -/
def SameGate (c c' : DiscoveryClient) : Prop :=
  c'.operations = c.operations ∧ c'.closed = c.closed

theorem closed_finish (c : DiscoveryClient) (r : DiscoveryResponse) :
    (c.finish r).1.closed = c.closed := by
  simp only [DiscoveryClient.finish, DiscoveryClient.announce]
  split
  · rfl
  · split <;> rfl

theorem closed_consider (c : DiscoveryClient) (a : Any) : (c.consider a).1.closed = c.closed := by
  obtain ⟨resourceVersions, hconsider⟩ := Pipeline.exists_consider c a
  rw [hconsider]

/-- What a step of the first loop can come to. -/
inductive Moves (h : Handover σ) : Handover σ → Prop
  /-- It waits. -/
  | wait : Moves h h
  /-- It goes on with the resources that are left, and may want to send an operation now. -/
  | goOn (client : DiscoveryClient) (receiving : Receiving) (coming : List DiscoveryResponse)
      (free : h.receiving.held = [])
      (gate : SameGate h.client client)
      (sender : receiving.held ≠ [] → h.client.operations.hasSender = true)
      (decided : ∀ seen, Remembers h.client seen → ∃ seen', Remembers client seen' ∧
        Offer.opsAfter seen (offersIn h.remaining) = receiving.held ++
          Offer.opsAfter seen' (offersIn (receiving.rest ++ entryResources coming))) :
      Moves h { h with client, receiving, coming }
  /-- It puts the operation that it waits with into the queue. -/
  | send (r : DiscoveryResponse) (op : EntryOp) (rest : List Any)
      (sending : h.receiving = .sending r op rest)
      (receiver : h.client.operations.hasReceiver = true)
      (room : h.queued.length < h.client.operations.capacity) :
      Moves h
        { h with
          client := { h.client with operations := h.client.operations.push op }
          receiving := .working r rest
          accepted := h.accepted ++ [op] }
  /-- One end of the queue is gone. -/
  | cut (client : DiscoveryClient) (gate : SameGate h.client client)
      (gone : h.client.operations.hasSender = false ∨ h.client.operations.hasReceiver = false) :
      Moves h { h with client }.cutOff

section Receive

variable {h : Handover σ} {r : DiscoveryResponse} {coming : List DiscoveryResponse}

/-- An answer with entries is taken up, and its resources are the ones that are left then. -/
theorem moves_of_entries (hreceiving : h.receiving = .idle) (hcoming : h.coming = r :: coming)
    (htakes : Pipeline.takesEntries r.typeUrl = true) : h.Moves h.receive := by
  unfold receive
  simp only [hreceiving, hcoming, htakes, if_true]
  refine .goOn _ _ coming (by simp [hreceiving, Receiving.held]) ⟨rfl, rfl⟩
    (by simp [Receiving.held]) fun seen hseen => ⟨seen, hseen, ?_⟩
  simp [remaining, hreceiving, hcoming, Receiving.rest, Receiving.held, entryResources, htakes]

/-- Any other answer is handled at once, and what it notes has nothing to do with entries. -/
theorem moves_of_others (hreceiving : h.receiving = .idle) (hcoming : h.coming = r :: coming)
    (htakes : Pipeline.takesEntries r.typeUrl = false) : h.Moves h.receive := by
  obtain ⟨noted, hnoted, hclosed, hhandle⟩ := Pipeline.handle_of_not_takesEntries h.client htakes
  have hsame : Pipeline.SameEntries h.client (h.client.handle r).1 := by
    rw [hhandle]
    exact hnoted.trans (Pipeline.sameEntries_finish noted r)
  have hgate : (h.client.handle r).1.closed = h.client.closed := by
    rw [hhandle, closed_finish, hclosed]
  unfold receive
  simp only [hreceiving, hcoming, htakes, Bool.false_eq_true, if_false]
  refine .goOn _ .idle coming (by simp [hreceiving, Receiving.held]) ⟨hsame.operations, hgate⟩
    (by simp [Receiving.held]) fun seen hseen => ⟨seen, hseen.same hsame, ?_⟩
  simp [remaining, hreceiving, hcoming, Receiving.rest, Receiving.held, entryResources, htakes]

/-- An answer of which nothing is left is acknowledged. -/
theorem moves_of_used_up (hreceiving : h.receiving = .working r []) : h.Moves h.receive := by
  have hsame := Pipeline.sameEntries_finish h.client r
  unfold receive
  simp only [hreceiving]
  refine .goOn _ .idle h.coming (by simp [hreceiving, Receiving.held])
    ⟨hsame.operations, closed_finish h.client r⟩ (by simp [Receiving.held])
    fun seen hseen => ⟨seen, hseen.same hsame, ?_⟩
  simp [remaining, hreceiving, Receiving.rest, Receiving.held]

/-- What the next resource comes to is decided by the versions that are remembered. -/
theorem decided_of_working {a : Any} {rest : List Any}
    (hreceiving : h.receiving = .working r (a :: rest)) {seen : List Offer}
    (hseen : Remembers h.client seen) :
    ∃ seen', Remembers (h.client.consider a).1 seen' ∧
      Offer.opsAfter seen (offersIn h.remaining) = (h.client.consider a).2.toList ++
        Offer.opsAfter seen' (offersIn (rest ++ entryResources h.coming)) := by
  obtain ⟨hremembers, hop⟩ := hseen.consider a
  refine ⟨_, hremembers, ?_⟩
  have hoffers : offersIn h.remaining =
      (Offer.of? a).toList ++ offersIn (rest ++ entryResources h.coming) := by
    rw [remaining, hreceiving, Receiving.rest, List.cons_append, offersIn_cons]
  rw [hoffers, Offer.opsAfter_append, hop]

/-- The next resource comes to nothing, or to an operation that the loop wants to send. -/
theorem moves_of_working {a : Any} {rest : List Any}
    (hreceiving : h.receiving = .working r (a :: rest)) : h.Moves h.receive := by
  have hgate : SameGate h.client (h.client.consider a).1 :=
    ⟨Pipeline.operations_consider h.client a, closed_consider h.client a⟩
  have hdecided := fun seen (hseen : Remembers h.client seen) =>
    decided_of_working hreceiving hseen
  have hfree : h.receiving.held = [] := by simp [hreceiving, Receiving.held]
  unfold receive
  simp only [hreceiving]
  cases hconsider : h.client.consider a with
  | mk client op =>
    rw [hconsider] at hgate hdecided
    cases op with
    | none =>
      exact .goOn client (.working r rest) h.coming hfree hgate (by simp [Receiving.held]) hdecided
    | some op =>
      dsimp only
      split
      next hsender =>
        refine .goOn client (.sending r op rest) h.coming hfree hgate (fun _ => ?_) hdecided
        rw [← hgate.1]
        exact hsender
      next hsender =>
        -- The operation is dropped, since nobody can send it any more.
        rw [hgate.1] at hsender
        exact .cut client hgate (.inl (Bool.eq_false_iff.mpr hsender))

/-- The operation that the loop waits with goes into the queue as soon as there is room. -/
theorem moves_of_sending {op : EntryOp} {rest : List Any}
    (hreceiving : h.receiving = .sending r op rest) : h.Moves h.receive := by
  unfold receive
  simp only [hreceiving]
  cases hroom : h.client.operations.roomForWaiting with
  | full => exact .wait
  | gone => exact .cut h.client ⟨rfl, rfl⟩ (.inr (Queue.roomForWaiting_eq_gone_iff.mp hroom))
  | free =>
    obtain ⟨hreceiver, hlength⟩ := Queue.roomForWaiting_eq_free_iff.mp hroom
    exact .send r op rest hreceiving hreceiver hlength

/-- A step of the first loop comes to one of these. -/
theorem moves_receive (h : Handover σ) : h.Moves h.receive := by
  cases hreceiving : h.receiving with
  | idle =>
    cases hcoming : h.coming with
    | nil =>
      unfold receive
      simp only [hreceiving, hcoming]
      exact .wait
    | cons r coming =>
      cases htakes : Pipeline.takesEntries r.typeUrl with
      | true => exact moves_of_entries hreceiving hcoming htakes
      | false => exact moves_of_others hreceiving hcoming htakes
  | working r rest =>
    cases rest with
    | nil => exact moves_of_used_up hreceiving
    | cons a rest => exact moves_of_working hreceiving
  | sending r op rest => exact moves_of_sending hreceiving

end Receive

end Handover

end MeshRegistry
