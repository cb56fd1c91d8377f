import MeshRegistry.Proofs.Discovery.Accounting
/-!
# A client in conversation

A client is given answers one after the other. The handling of an answer may have to wait for room
in the queue of operations. Meanwhile, and between two answers, operations and announcements are
received at the other ends of the two queues; the handling that waits may be given up, either
receiver may leave, and the client may be closed.

All that the client does with an answer before the end of its handling is to note things and to put
operations into the queue. The end comes at once, or after some waits: the type is announced and the
answer acknowledged, or the client refuses.

## Main definitions

- `Dialogue`, `Dialogue.step`, `Dialogue.run`: a client in conversation, and what may happen to it.
- `Dialogue.published`: the announcements that the client has put into their queue.
- `DiscoveryClient.Worked`, `DiscoveryClient.ComesTo`: how far the handling of an answer has come.

## Main results

- `DiscoveryClient.handle_comesTo`, `DiscoveryClient.resume_comesTo`: what becomes of an answer.
- `Dialogue.outcome_step`: what becomes of the conversation in a step.
-/

namespace MeshRegistry

namespace DiscoveryClient

/-! ## What the handling of an answer comes to -/

/-- The client has put operations into the queue, and has announced nothing. -/
structure Worked (c : DiscoveryClient) (pushed : List EntryOp) (c' : DiscoveryClient) : Prop where
  config : c'.config = c.config
  announced : c'.announced = c.announced
  announcements : c'.announcements = c.announcements
  closed : c'.closed = c.closed
  operations : c'.operations = { c.operations with items := c.operations.items ++ pushed }
  /-- There was room for each of the operations. -/
  bounded : c.operations.items.length ≤ c.operations.capacity →
    c'.operations.items.length ≤ c'.operations.capacity

/-- From a client that has come so far with an answer there are three ways on. At most so many
resources are left where it waits. -/
inductive ComesTo (r : DiscoveryResponse) (bound : Nat) (c : DiscoveryClient) :
    DiscoveryClient × Handling → Prop
  | finished : ComesTo r bound c (c.finish r)
  | refused (gone : c.operations.room = .gone) : ComesTo r bound c (c, .refused)
  | waiting (op : EntryOp) (rest : List Any) (full : c.operations.room = .full)
      (less : rest.length < bound) : ComesTo r bound c (c, .waiting op rest)

section Handling

variable {c c' : DiscoveryClient} {r : DiscoveryResponse} {bound : Nat}

theorem worked_of_same (hconfig : c'.config = c.config) (hannounced : c'.announced = c.announced)
    (hannouncements : c'.announcements = c.announcements) (hclosed : c'.closed = c.closed)
    (hoperations : c'.operations = c.operations) : c.Worked [] c' :=
  ⟨hconfig, hannounced, hannouncements, hclosed, by simp [hoperations], by simp [hoperations]⟩

theorem worked_push {op : EntryOp} (h : c.operations.items.length < c.operations.capacity) :
    c.Worked [op] { c with operations := c.operations.push op } :=
  ⟨rfl, rfl, rfl, rfl, rfl, fun _ => by simpa [Queue.push] using Nat.succ_le_of_lt h⟩

theorem Worked.trans {c'' : DiscoveryClient} {pushed pushed' : List EntryOp}
    (h : c.Worked pushed c') (h' : c'.Worked pushed' c'') : c.Worked (pushed ++ pushed') c'' := by
  refine ⟨h'.config.trans h.config, h'.announced.trans h.announced,
    h'.announcements.trans h.announcements, h'.closed.trans h.closed, ?_,
    fun hbounded => h'.bounded (h.bounded hbounded)⟩
  rw [h'.operations, h.operations]
  simp

theorem ComesTo.mono {bound' : Nat} {result : DiscoveryClient × Handling}
    (h : ComesTo r bound c result) (hle : bound ≤ bound') : ComesTo r bound' c result := by
  cases h with
  | finished => exact .finished
  | refused gone => exact .refused gone
  | waiting op rest full less => exact .waiting op rest full (less.trans_le hle)

/-- Only the types that have been announced and their queue change. -/
theorem exists_announce (c : DiscoveryClient) (typeUrl : String) :
    ∃ announced announcements, c.announce typeUrl = { c with announced, announcements } := by
  unfold announce
  split
  · exact ⟨_, _, rfl⟩
  · split <;> exact ⟨_, _, rfl⟩

@[simp] theorem config_announce (c : DiscoveryClient) (typeUrl : String) :
    (c.announce typeUrl).config = c.config := by
  obtain ⟨_, _, h⟩ := exists_announce c typeUrl
  rw [h]

@[simp] theorem held_announce (c : DiscoveryClient) (typeUrl : String) :
    (c.announce typeUrl).held = c.held := by
  obtain ⟨_, _, h⟩ := exists_announce c typeUrl
  rw [h]

@[simp] theorem operations_announce (c : DiscoveryClient) (typeUrl : String) :
    (c.announce typeUrl).operations = c.operations := by
  obtain ⟨_, _, h⟩ := exists_announce c typeUrl
  rw [h]

@[simp] theorem closed_announce (c : DiscoveryClient) (typeUrl : String) :
    (c.announce typeUrl).closed = c.closed := by
  obtain ⟨_, _, h⟩ := exists_announce c typeUrl
  rw [h]

/-- Resources are taken up until one of the three ways on is left. Nothing is sent without the
sender. -/
theorem work_comesTo (c : DiscoveryClient) (r : DiscoveryResponse) (resources : List Any) :
    ∃ pushed c', c.Worked pushed c' ∧ (c.operations.hasSender = false → pushed = []) ∧
      c'.held = c.held ∧ ComesTo r resources.length c' (c.work r resources) := by
  induction resources generalizing c with
  | nil => exact ⟨[], c, worked_of_same rfl rfl rfl rfl rfl, fun _ => rfl, rfl, .finished⟩
  | cons a rest ih =>
    rw [work]
    obtain ⟨resourceVersions, hfirst⟩ := Pipeline.exists_consider c a
    have hnoted : c.Worked [] (c.consider a).1 ∧ (c.consider a).1.held = c.held := by
      rw [hfirst]
      exact ⟨worked_of_same rfl rfl rfl rfl rfl, rfl⟩
    have hoperations := Pipeline.operations_consider c a
    cases hconsider : c.consider a with
    | mk considered op =>
      rw [hconsider] at hnoted hoperations
      obtain ⟨hconsidered, hheld⟩ := hnoted
      rw [← hoperations]
      cases op with
      | none =>
        obtain ⟨pushed, c', hworked, hsender, hheld', hcomes⟩ := ih considered
        exact ⟨pushed, c', hconsidered.trans hworked, hsender, hheld'.trans hheld,
          hcomes.mono (Nat.le_succ _)⟩
      | some op =>
        dsimp only
        cases hroom : considered.operations.room with
        | free =>
          -- The operation goes into the queue, and the rest of the resources is taken up.
          obtain ⟨hsender, -, hlength⟩ := Queue.room_eq_free_iff.mp hroom
          obtain ⟨pushed, c', hworked, -, hheld', hcomes⟩ :=
            ih { considered with operations := considered.operations.push op }
          have hthere : considered.operations.hasSender ≠ false := by simp [hsender]
          exact ⟨[] ++ [op] ++ pushed, c', (hconsidered.trans (worked_push hlength)).trans hworked,
            fun h => absurd h hthere, hheld'.trans hheld, hcomes.mono (Nat.le_succ _)⟩
        | full =>
          exact ⟨[], considered, hconsidered, fun _ => rfl, hheld,
            .waiting op rest hroom (Nat.lt_succ_self _)⟩
        | gone => exact ⟨[], considered, hconsidered, fun _ => rfl, hheld, .refused hroom⟩

/-- The names that are held after an answer has been taken in. -/
def heldAfter (c : DiscoveryClient) (r : DiscoveryResponse) : SortedMap String (List String) :=
  if holdsNames r.typeUrl then c.held.insert r.typeUrl (namesOf r.resources) else c.held

theorem holdsNames_iff {typeUrl : String} :
    holdsNames typeUrl = true ↔ typeUrl = TypeUrl.endpoint ∨ typeUrl = TypeUrl.route := by
  simp [holdsNames]

theorem holdsNames_meshConfig : holdsNames TypeUrl.meshConfig = false := by decide

/-- An answer whose names are held is handled at once. -/
theorem handle_comesTo (c : DiscoveryClient) (r : DiscoveryResponse) :
    ∃ pushed c', c.Worked pushed c' ∧ (c.operations.hasSender = false → pushed = []) ∧
      c'.held = c.heldAfter r ∧ ComesTo r r.resources.length c' (c.handle r) ∧
      (holdsNames r.typeUrl = true → c.handle r = c'.finish r) := by
  unfold handle
  dsimp only
  split
  next hconfig =>
    -- The first resource is kept, and written to its file.
    have hheld : c.heldAfter r = c.held := by
      simp [heldAfter, hconfig, holdsNames_meshConfig]
    rw [hheld]
    cases r.resources with
    | nil =>
      exact ⟨[], c.noteReceived r.typeUrl, worked_of_same rfl rfl rfl rfl rfl, fun _ => rfl, rfl,
        .finished, fun _ => rfl⟩
    | cons a rest =>
      refine ⟨[], (c.noteReceived r.typeUrl).keepMeshConfig a, ?_, fun _ => rfl, ?_, .finished,
        fun _ => rfl⟩
      · simp only [keepMeshConfig, store]
        split <;> exact worked_of_same rfl rfl rfl rfl rfl
      · simp only [keepMeshConfig, store]
        split <;> rfl
  · have hnoted : c.Worked [] ((c.noteReceived r.typeUrl).noteVersion r.typeUrl r.versionInfo) :=
      worked_of_same rfl rfl rfl rfl rfl
    by_cases hnames : holdsNames r.typeUrl = true
    · rw [if_pos hnames]
      refine ⟨[], _, ?_, fun _ => rfl, ?_, .finished, fun _ => rfl⟩
      · exact worked_of_same rfl rfl rfl rfl rfl
      · rw [heldAfter, if_pos hnames]
        rfl
    · -- Only entries are taken up; of other types the version is noted.
      have hheld : c.heldAfter r = c.held := if_neg hnames
      rw [if_neg hnames, hheld]
      split
      · obtain ⟨pushed, c', hworked, hsender, hheld', hcomes⟩ := work_comesTo
          ((c.noteReceived r.typeUrl).noteVersion r.typeUrl r.versionInfo) r r.resources
        exact ⟨[] ++ pushed, c', hnoted.trans hworked, hsender, hheld', hcomes,
          fun h => absurd h hnames⟩
      · exact ⟨[], _, hnoted, fun _ => rfl, rfl, .finished, fun h => absurd h hnames⟩

/-- A client that waits with an operation goes on when there is room, for this operation even if the
sender is gone. -/
theorem resume_comesTo (c : DiscoveryClient) (r : DiscoveryResponse) (op : EntryOp)
    (rest : List Any) (hroom : c.operations.roomForWaiting = .free) :
    ∃ pushed c', c.Worked (op :: pushed) c' ∧ (c.operations.hasSender = false → pushed = []) ∧
      c'.held = c.held ∧ ComesTo r rest.length c' (c.resume r op rest) := by
  have hpushed : c.Worked [op] _ := worked_push (Queue.roomForWaiting_eq_free_iff.mp hroom).2
  obtain ⟨pushed, c', hworked, hsender, hheld, hcomes⟩ :=
    work_comesTo { c with operations := c.operations.push op } r rest
  refine ⟨pushed, c', hpushed.trans hworked, hsender, hheld, ?_⟩
  rw [resume, hroom]
  exact hcomes

end Handling

end DiscoveryClient

/-! ## Conversations -/

namespace Dialogue

/-- An answer whose handling waits with an operation, and resources are left. -/
structure Waiting where
  response : DiscoveryResponse
  op : EntryOp
  rest : List Any

/-- An answer whose handling has come to its end. -/
structure Ended where
  response : DiscoveryResponse
  /-- The acknowledgment; there is none when the client has refused. -/
  request : Option DiscoveryRequest
  /-- How many announcements waited to be received at the end of the handling. -/
  undelivered : Nat

end Dialogue

open Dialogue in
/-- A client to which answers are given one after the other, and what has come of it. -/
structure Dialogue where
  client : DiscoveryClient
  waiting : Option Waiting := none
  /-- The answers that the client has been given. -/
  arrived : List DiscoveryResponse := []
  /-- The answers that have been handled to an end, in their order. -/
  ended : List Ended := []
  /-- The announcements that have left their queue, received or lost with the receiver. -/
  heard : List String := []
  /-- The operations that have left their queue, received or lost with the receiver. -/
  departed : List EntryOp := []

namespace Dialogue

/-- Something that happens in a conversation. -/
inductive Step where
  /-- The client is given an answer, unless it waits with one. -/
  | call (r : DiscoveryResponse)
  /-- The client goes on with the answer that it waits with, if there is room. -/
  | goOn
  /-- The handling that waits is given up. -/
  | abandon
  /-- The oldest operation is received. -/
  | take
  /-- The oldest announcement is received. -/
  | hear
  /-- The receiver of operations goes away. -/
  | leave
  /-- The receiver of announcements goes away. -/
  | deafen
  /-- The client is closed. -/
  | close
deriving DecidableEq

/-- A client that has been given no answer. -/
def start (client : DiscoveryClient) : Dialogue := { client }

/-- How many announcements wait to be received. -/
def undelivered (s : Dialogue) : Nat := s.client.announcements.items.length

/-- The announcements that the client has put into their queue, in their order. -/
def published (s : Dialogue) : List String := s.heard ++ s.client.announcements.items

/-- The operations that the client has put into their queue, in their order. -/
def accepted (s : Dialogue) : List EntryOp := s.departed ++ s.client.operations.items

/-- The operation that the client waits with. -/
def held (s : Dialogue) : List EntryOp := (s.waiting.map (·.op)).toList

/-- The conversation after an answer has been handled so far. -/
def advance (s : Dialogue) (r : DiscoveryResponse) : DiscoveryClient × Handling → Dialogue
  | (client, .acknowledged request) =>
    { s with client, waiting := none, ended := s.ended ++ [⟨r, some request, s.undelivered⟩] }
  | (client, .refused) =>
    { s with client, waiting := none, ended := s.ended ++ [⟨r, none, s.undelivered⟩] }
  | (client, .waiting op rest) => { s with client, waiting := some ⟨r, op, rest⟩ }

def call (s : Dialogue) (r : DiscoveryResponse) : Dialogue :=
  match s.waiting with
  | none => { s with arrived := s.arrived ++ [r] }.advance r (s.client.handle r)
  | some _ => s

def goOn (s : Dialogue) : Dialogue :=
  match s.waiting with
  | none => s
  | some w => s.advance w.response (s.client.resume w.response w.op w.rest)

def take (s : Dialogue) : Dialogue :=
  match s.client.operations.pop? with
  | none => s
  | some (op, operations) =>
    { s with client := { s.client with operations }, departed := s.departed ++ [op] }

def hear (s : Dialogue) : Dialogue :=
  match s.client.announcements.pop? with
  | none => s
  | some (a, announcements) =>
    { s with client := { s.client with announcements }, heard := s.heard ++ [a] }

/-- The conversation after a step. -/
def step (s : Dialogue) : Step → Dialogue
  | .call r => s.call r
  | .goOn => s.goOn
  | .abandon => { s with waiting := none }
  | .take => s.take
  | .hear => s.hear
  | .leave =>
    { s with
      client := { s.client with operations := s.client.operations.dropReceiver }
      departed := s.departed ++ s.client.operations.items }
  | .deafen =>
    { s with
      client := { s.client with announcements := s.client.announcements.dropReceiver }
      heard := s.heard ++ s.client.announcements.items }
  | .close => { s with client := s.client.close }

/-- The conversation after some steps. -/
def run (s : Dialogue) (steps : List Step) : Dialogue := steps.foldl step s

theorem run_cons (s : Dialogue) (first : Step) (rest : List Step) :
    s.run (first :: rest) = (s.step first).run rest := rfl

/-! ## What the client can do in a step -/

/-- The client has come to the end of an answer, or waits with it. The answer is `r`, the client
would go on as `c`, and less than `bound` resources are left. -/
inductive Reacts (s : Dialogue) (r : DiscoveryResponse) (bound : Nat) (c : DiscoveryClient) :
    Dialogue → Prop
  | acknowledged :
      Reacts s r bound c
        { s with
          client := c.announce r.typeUrl
          waiting := none
          ended := s.ended ++
            [⟨r, some ((c.announce r.typeUrl).acknowledgment r), s.undelivered⟩] }
  | refused (gone : c.operations.room = .gone) :
      Reacts s r bound c
        { s with client := c, waiting := none, ended := s.ended ++ [⟨r, none, s.undelivered⟩] }
  | waiting (op : EntryOp) (rest : List Any) (full : c.operations.room = .full)
      (less : rest.length < bound) :
      Reacts s r bound c { s with client := c, waiting := some ⟨r, op, rest⟩ }

/-- What a step makes of a conversation. -/
inductive Outcome (s : Dialogue) : Step → Dialogue → Prop
  /-- The client takes in an answer. -/
  | called {r : DiscoveryResponse} {pushed : List EntryOp} {c : DiscoveryClient} {s' : Dialogue}
      (idle : s.waiting = none) (worked : s.client.Worked pushed c)
      (sent : s.client.operations.hasSender = false → pushed = [])
      (held : c.held = s.client.heldAfter r)
      (reacts : Reacts { s with arrived := s.arrived ++ [r] } r r.resources.length c s')
      (named : DiscoveryClient.holdsNames r.typeUrl = true → s'.waiting = none) :
      Outcome s (.call r) s'
  | busy {w : Waiting} (r : DiscoveryResponse) (waiting : s.waiting = some w) :
      Outcome s (.call r) s
  /-- The client goes on with an answer. Without the sender it sends nothing but the operation that
  it waits with. -/
  | wentOn {w : Waiting} {pushed : List EntryOp} {c : DiscoveryClient} {s' : Dialogue}
      (waiting : s.waiting = some w) (room : s.client.operations.roomForWaiting ≠ .full)
      (worked : s.client.Worked pushed c)
      (sent : s.client.operations.hasSender = false → pushed <+: [w.op])
      (held : c.held = s.client.held) (reacts : Reacts s w.response w.rest.length c s') :
      Outcome s .goOn s'
  | blocked {w : Waiting} (waiting : s.waiting = some w)
      (full : s.client.operations.roomForWaiting = .full) : Outcome s .goOn s
  | idle (idle : s.waiting = none) : Outcome s .goOn s
  | abandoned : Outcome s .abandon { s with waiting := none }
  | took (op : EntryOp) (rest : List EntryOp) (items : s.client.operations.items = op :: rest) :
      Outcome s .take
        { s with
          client := { s.client with operations := { s.client.operations with items := rest } }
          departed := s.departed ++ [op] }
  | drained (items : s.client.operations.items = []) : Outcome s .take s
  | heard (a : String) (rest : List String) (items : s.client.announcements.items = a :: rest) :
      Outcome s .hear
        { s with
          client := { s.client with announcements := { s.client.announcements with items := rest } }
          heard := s.heard ++ [a] }
  | silent (items : s.client.announcements.items = []) : Outcome s .hear s
  | left :
      Outcome s .leave
        { s with
          client := { s.client with operations := s.client.operations.dropReceiver }
          departed := s.departed ++ s.client.operations.items }
  | deafened :
      Outcome s .deafen
        { s with
          client := { s.client with announcements := s.client.announcements.dropReceiver }
          heard := s.heard ++ s.client.announcements.items }
  | closed : Outcome s .close { s with client := s.client.close }

section Steps

variable {s : Dialogue}

theorem reacts_advance {r : DiscoveryResponse} {bound : Nat} {c : DiscoveryClient}
    {result : DiscoveryClient × Handling} (h : DiscoveryClient.ComesTo r bound c result)
    (s : Dialogue) : s.Reacts r bound c (s.advance r result) := by
  cases h with
  | finished => exact .acknowledged
  | refused gone => exact .refused gone
  | waiting op rest full less => exact .waiting op rest full less

theorem outcome_call (s : Dialogue) (r : DiscoveryResponse) : s.Outcome (.call r) (s.call r) := by
  cases hwaiting : s.waiting with
  | some w =>
    rw [show s.call r = s by simp [call, hwaiting]]
    exact .busy r hwaiting
  | none =>
    obtain ⟨pushed, c, hworked, hsent, hheld, hcomes, hnames⟩ := s.client.handle_comesTo r
    have hcall : s.call r = { s with arrived := s.arrived ++ [r] }.advance r (s.client.handle r) := by
      simp [call, hwaiting]
    refine .called hwaiting hworked hsent hheld (hcall ▸ reacts_advance hcomes _) fun h => ?_
    rw [hcall, hnames h]
    rfl

theorem outcome_goOn (s : Dialogue) : s.Outcome .goOn s.goOn := by
  cases hwaiting : s.waiting with
  | none =>
    rw [show s.goOn = s by simp [goOn, hwaiting]]
    exact .idle hwaiting
  | some w =>
    have hgoOn : s.goOn = s.advance w.response (s.client.resume w.response w.op w.rest) := by
      simp [goOn, hwaiting]
    cases hroom : s.client.operations.roomForWaiting with
    | free =>
      obtain ⟨pushed, c, hworked, hsent, hheld, hcomes⟩ :=
        s.client.resume_comesTo w.response w.op w.rest hroom
      refine .wentOn hwaiting (by simp [hroom]) hworked (fun hclosed => ?_) hheld
        (hgoOn ▸ reacts_advance hcomes s)
      exact hsent hclosed ▸ List.prefix_refl _
    | full =>
      rw [hgoOn, DiscoveryClient.resume, hroom]
      simpa [advance, ← hwaiting] using Outcome.blocked hwaiting hroom
    | gone =>
      -- The receiver is gone, for a client that does not wait as well.
      have hgone : s.client.operations.room = .gone := by
        simp [Queue.room, Queue.roomForWaiting_eq_gone_iff.mp hroom]
      refine .wentOn hwaiting (by simp [hroom])
        (DiscoveryClient.worked_of_same rfl rfl rfl rfl rfl) (fun _ => List.nil_prefix) rfl ?_
      rw [hgoOn, DiscoveryClient.resume, hroom]
      exact .refused hgone

theorem outcome_take (s : Dialogue) : s.Outcome .take s.take := by
  unfold take Queue.pop?
  cases hitems : s.client.operations.items with
  | nil => exact .drained hitems
  | cons op rest => exact .took op rest hitems

theorem outcome_hear (s : Dialogue) : s.Outcome .hear s.hear := by
  unfold hear Queue.pop?
  cases hitems : s.client.announcements.items with
  | nil => exact .silent hitems
  | cons a rest => exact .heard a rest hitems

theorem outcome_step (s : Dialogue) (next : Step) : s.Outcome next (s.step next) := by
  cases next with
  | call r => exact s.outcome_call r
  | goOn => exact s.outcome_goOn
  | abandon => exact .abandoned
  | take => exact s.outcome_take
  | hear => exact s.outcome_hear
  | leave => exact .left
  | deafen => exact .deafened
  | close => exact .closed

/-- However an answer goes on, the client is as it was but for what it announces. -/
theorem Reacts.client_eq {r : DiscoveryResponse} {bound : Nat} {c : DiscoveryClient}
    {s' : Dialogue} (h : s.Reacts r bound c s') :
    s'.client.closed = c.closed ∧ s'.client.operations = c.operations ∧
      s'.departed = s.departed ∧ s'.heard = s.heard := by
  cases h <;> simp

/-- A client is closed by nothing else. -/
theorem closed_step {next : Step} (hnext : next ≠ .close) :
    (s.step next).client.closed = s.client.closed := by
  have houtcome := s.outcome_step next
  generalize s.step next = s' at houtcome ⊢
  cases houtcome with
  | called _ worked _ _ reacts | wentOn _ _ worked _ _ reacts =>
    exact reacts.client_eq.1.trans worked.closed
  | busy | blocked | idle | abandoned | took | drained | heard | silent | left | deafened => rfl
  | closed => exact absurd rfl hnext

theorem closed_run {steps : List Step} (hopen : .close ∉ steps) :
    (s.run steps).client.closed = s.client.closed := by
  induction steps generalizing s with
  | nil => rfl
  | cons first rest ih =>
    obtain ⟨hfirst, hrest⟩ := not_or.mp (List.mem_cons.not.mp hopen)
    exact (ih hrest).trans (closed_step (Ne.symm hfirst))

end Steps

namespace Sample

/-- A new client with room for one operation. -/
def client : DiscoveryClient where
  config :=
    { address := "localhost:18848"
      identity := { id := "router~10.0.0.9~sync.mesh~mesh.svc", locality := none,
                    metadata := .empty }
      queueCapacity := 1 }
  operations := ⟨1, [], true, true⟩

theorem create_client : DiscoveryClient.create client.config {} = .ok client :=
  DiscoveryClient.create_eq_ok_iff.mpr ⟨by decide +kernel, by decide, rfl⟩

/-- A service of the given name, with one endpoint. -/
def service (name : String) : Any :=
  let spec : StreamedEntry := { hosts := [name], endpoints := [{ address := "10.0.0.1" }] }
  let resource : McpResource :=
    { metadata := some { name := "default/" ++ name, version := "1" }
      body := some { typeUrl := TypeUrl.istioServiceEntry, value := spec.encode } }
  { value := resource.encode }

/-- An answer with two services. -/
def services : DiscoveryResponse where
  typeUrl := TypeUrl.serviceEntry
  resources := [service "orders", service "users"]

/-- Answers of so many types. -/
def answers (count : Nat) : List Step :=
  (List.range count).map fun k => .call { typeUrl := String.ofList ['/', '/', Char.ofNat (48 + k)] }

end Sample

end Dialogue

end MeshRegistry
