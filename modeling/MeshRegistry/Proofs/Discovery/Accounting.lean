import MeshRegistry.Proofs.Discovery.Handover
/-!
# Where the operations of two loops are

Every operation that answers give rise to is in one place: it is still to come, or the first loop
waits with it, or it is in the queue, or the second loop has taken it. No step of the loops loses
one, doubles one or lets one overtake another, wherever the client is closed or the signal fired.

## Main definitions

- `Handover.Accounted`: where the operations are.

## Main results

- `Handover.Accounted.step`, `Handover.Accounted.run`: they stay accounted for.
-/

namespace MeshRegistry

namespace Handover

variable {σ : Type}

/-- Operations are either queued or taken in the order in which they were accepted, and what has
been taken has been carried out, but for the operation in hand. -/
structure Accounted (api : MeshApi σ) (room : Nat) (whole : List EntryOp) (origin : σ)
    (h : Handover σ) : Prop where
  capacity : h.client.operations.capacity = room
  bounded : h.queued.length ≤ room
  inOrder : h.taken ++ h.queued <+: h.accepted
  /-- Only the end of the second loop on the signal takes something out of the count. -/
  kept : h.applying ≠ .returned ∨ h.signal.fired = false → h.taken ++ h.queued = h.accepted
  /-- Nothing is accepted that does not come next. -/
  due : h.accepted ++ h.receiving.held <+: whole
  /-- While the client is open, what is missing is still to come. -/
  coming : h.client.closed = false → ∃ seen, Remembers h.client seen ∧
    h.accepted ++ h.receiving.held ++ Offer.opsAfter seen (offersIn h.remaining) = whole
  sender : h.client.operations.hasSender = !h.client.closed
  receiver : h.client.operations.hasReceiver = true ↔ h.applying ≠ .returned
  /-- The second loop only returns when the signal tells it to or nothing can come any more. -/
  returned : h.applying = .returned →
    h.queued = [] ∧ (h.signal.fired = true ∨ h.client.closed = true)
  state : h.applying.finish api h.state = api.afterAll h.taken origin

theorem afterAll_concat (api : MeshApi σ) (ops : List EntryOp) (op : EntryOp) (s : σ) :
    api.afterAll (ops ++ [op]) s = (op.apply.run api (api.afterAll ops s)).2 := by
  unfold MeshApi.afterAll
  induction ops generalizing s with
  | nil => simp [applyAll]
  | cons first ops ih => simpa [applyAll] using ih _

theorem operations_close {c : DiscoveryClient} (h : c.operations.hasSender = !c.closed) :
    c.close.operations = c.operations.dropSender := by
  unfold DiscoveryClient.close
  split
  next hclosed =>
    -- A client that is closed has lost its sender already.
    rw [hclosed, Bool.not_true] at h
    rw [Queue.dropSender, ← h]
  · rfl

@[simp] theorem closed_close (c : DiscoveryClient) : c.close.closed = true := by
  unfold DiscoveryClient.close
  split
  next hclosed => exact hclosed
  · rfl

/-- A new client is open, its queue is empty, and it remembers nothing. -/
theorem eq_of_create {config : ClientConfig} {files : Files} {client : DiscoveryClient}
    (hcreate : DiscoveryClient.create config files = .ok client) :
    client = { config, files, operations := ⟨max 1 config.queueCapacity, [], true, true⟩ } :=
  (DiscoveryClient.create_eq_ok_iff.mp hcreate).2.2

theorem remembers_of_create {config : ClientConfig} {files : Files} {client : DiscoveryClient}
    (hcreate : DiscoveryClient.create config files = .ok client) : Remembers client [] := by
  rw [eq_of_create hcreate]
  intro name
  rfl

section Steps

variable {api : MeshApi σ} {room : Nat} {whole : List EntryOp} {origin : σ} {h h' : Handover σ}

theorem Accounted.start {config : ClientConfig} {files : Files} {client : DiscoveryClient}
    (hcreate : DiscoveryClient.create config files = .ok client) (api : MeshApi σ)
    (answers : List DiscoveryResponse) (origin : σ) :
    (Handover.start client origin answers).Accounted api (max 1 config.queueCapacity)
      (client.yields answers) origin := by
  have hremembers := remembers_of_create hcreate
  obtain rfl := eq_of_create hcreate
  refine ⟨rfl, Nat.zero_le _, List.prefix_rfl, fun _ => rfl, List.nil_prefix, fun _ => ?_, rfl,
    by simp [Handover.start], fun hreturned => (nomatch hreturned), rfl⟩
  exact ⟨[], hremembers, (DiscoveryClient.yields_eq hremembers answers).symm⟩

/-- The client can be closed at any time, and what the first loop is at be dropped with it. -/
theorem Accounted.close (hacc : h.Accounted api room whole origin) {client : DiscoveryClient}
    (hgate : SameGate h.client client) {receiving : Receiving}
    (hdue : h.accepted ++ receiving.held <+: whole) (coming : List DiscoveryResponse) :
    ({ h with client := client.close, receiving, coming } : Handover σ).Accounted api room whole
      origin := by
  obtain ⟨hoperations, hclosed⟩ := hgate
  have hclose : client.close.operations = h.client.operations.dropSender := by
    rw [← hoperations]
    refine operations_close ?_
    rw [hoperations, hclosed]
    exact hacc.sender
  have hqueued : client.close.operations.items = h.queued := by rw [hclose]; rfl
  constructor
  case capacity => rw [hclose]; exact hacc.capacity
  case bounded => rw [queued, hqueued]; exact hacc.bounded
  case inOrder => rw [queued, hqueued]; exact hacc.inOrder
  case kept => rw [queued, hqueued]; exact hacc.kept
  case due => exact hdue
  case coming => intro hopen; simp at hopen
  case sender => rw [hclose, closed_close]; rfl
  case receiver => rw [hclose]; exact hacc.receiver
  case returned =>
    intro hreturned
    rw [queued, hqueued]
    exact ⟨(hacc.returned hreturned).1, .inr (closed_close client)⟩
  case state => exact hacc.state

theorem Accounted.cutOff (hacc : h.Accounted api room whole origin) {client : DiscoveryClient}
    (hgate : SameGate h.client client) :
    ({ h with client } : Handover σ).cutOff.Accounted api room whole origin := by
  have hdue : h.accepted ++ Receiving.held .idle <+: whole := by
    rw [Receiving.held, List.append_nil]
    exact (List.prefix_append _ _).trans hacc.due
  exact hacc.close hgate hdue []

theorem Accounted.moves (hacc : h.Accounted api room whole origin) (hmoves : h.Moves h') :
    h'.Accounted api room whole origin := by
  cases hmoves with
  | wait => exact hacc
  | cut client gate gone => exact hacc.cutOff gate
  | goOn client receiving coming free gate sender decided =>
    obtain ⟨hoperations, hclosed⟩ := gate
    have hqueued : client.operations.items = h.queued := by rw [hoperations]; rfl
    have hcoming : client.closed = false → ∃ seen, Remembers client seen ∧
        h.accepted ++ receiving.held ++
          Offer.opsAfter seen (offersIn (receiving.rest ++ entryResources coming)) = whole := by
      intro hopen
      obtain ⟨seen, hseen, hwhole⟩ := hacc.coming (hclosed ▸ hopen)
      obtain ⟨seen', hseen', hdecided⟩ := decided seen hseen
      refine ⟨seen', hseen', ?_⟩
      rw [← hwhole, free, hdecided, List.append_nil, List.append_assoc]
    constructor
    case capacity => rw [hoperations]; exact hacc.capacity
    case bounded => rw [queued, hqueued]; exact hacc.bounded
    case inOrder => rw [queued, hqueued]; exact hacc.inOrder
    case kept => rw [queued, hqueued]; exact hacc.kept
    case due =>
      -- Only an open client makes the loop want to send.
      cases hheld : receiving.held with
      | nil =>
        rw [List.append_nil]
        exact (List.prefix_append _ _).trans hacc.due
      | cons op rest =>
        have hopen : h.client.closed = false := by
          have hsender := sender (by simp [hheld])
          rw [hacc.sender] at hsender
          simpa using hsender
        obtain ⟨seen, -, hwhole⟩ := hcoming (hclosed.trans hopen)
        rw [← hheld, ← hwhole]
        exact List.prefix_append _ _
    case coming => exact hcoming
    case sender => rw [hoperations, hclosed]; exact hacc.sender
    case receiver => rw [hoperations]; exact hacc.receiver
    case returned =>
      intro hreturned
      rw [queued, hqueued, hclosed]
      exact hacc.returned hreturned
    case state => exact hacc.state
  | send r op rest sending receiver free =>
    have hheld : h.receiving.held = [op] := by rw [sending]; rfl
    have hpushed : (h.client.operations.push op).items = h.queued ++ [op] := rfl
    -- The second loop has not returned, so nothing that was accepted has been dropped.
    have hthere : h.applying ≠ .returned := hacc.receiver.mp receiver
    have hqueue : h.taken ++ (h.queued ++ [op]) = h.accepted ++ [op] := by
      rw [← List.append_assoc, hacc.kept (.inl hthere)]
    exact
      { hacc with
        bounded := by
          rw [hacc.capacity] at free
          rw [queued, hpushed, List.length_append]
          exact free
        inOrder := hqueue ▸ List.prefix_rfl
        kept := fun _ => hqueue
        due := by
          have hdue := hacc.due
          rw [hheld] at hdue
          simpa [Receiving.held] using hdue
        coming := by
          intro hopen
          obtain ⟨seen, hseen, hwhole⟩ := hacc.coming hopen
          rw [hheld, remaining, sending] at hwhole
          exact ⟨seen, hseen, by simpa [remaining, Receiving.held, Receiving.rest] using hwhole⟩
        returned := fun hreturned => absurd hreturned hthere }

theorem Accounted.take (hacc : h.Accounted api room whole origin) :
    h.take.Accounted api room whole origin := by
  unfold Handover.take
  split
  next op operations hready hpop =>
    obtain ⟨rest, hitems, rfl⟩ := Queue.exists_items_of_pop? hpop
    -- The operation goes from the front of the queue to the end of what has been taken.
    have hmoved : h.taken ++ [op] ++ rest = h.taken ++ h.queued := by
      rw [queued, hitems, List.append_assoc, List.singleton_append]
    have hbounded : rest.length ≤ room := by
      have hqueued := hacc.bounded
      rw [queued, hitems] at hqueued
      exact Nat.le_of_succ_le hqueued
    exact
      { hacc with
        bounded := hbounded
        inOrder := by
          show h.taken ++ [op] ++ rest <+: h.accepted
          rw [hmoved]
          exact hacc.inOrder
        kept := fun _ => hmoved.trans (hacc.kept (.inl (by simp [hready])))
        receiver := by simpa [hready] using hacc.receiver
        returned := nofun
        state := by
          have hstate := hacc.state
          rw [hready] at hstate
          rw [afterAll_concat, ← hstate]
          rfl }
  · exact hacc

/-- A call of the operation in hand leaves what will come of it. -/
theorem finish_work (api : MeshApi σ) (h : Handover σ) :
    (h.work api).applying.finish api (h.work api).state = h.applying.finish api h.state := by
  unfold Handover.work
  split
  · rfl
  next a hbusy => rw [hbusy]; rfl
  next c next hbusy => rw [hbusy]; rfl
  next next hbusy => rw [hbusy]; rfl
  · rfl

/-- The second loop is at something else then, and nothing but the state has changed. -/
theorem work_cases (api : MeshApi σ) (h : Handover σ) :
    ∃ applying state, h.work api = { h with applying, state } ∧
      (applying = .returned ↔ h.applying = .returned) := by
  unfold Handover.work
  split
  next hready => exact ⟨h.applying, h.state, rfl, Iff.rfl⟩
  next a hbusy => exact ⟨.ready, h.state, rfl, by simp [hbusy]⟩
  next c next hbusy => exact ⟨_, _, rfl, by simp [hbusy]⟩
  next next hbusy => exact ⟨_, h.state, rfl, by simp [hbusy]⟩
  · exact ⟨h.applying, h.state, rfl, Iff.rfl⟩

theorem Accounted.work (hacc : h.Accounted api room whole origin) :
    (h.work api).Accounted api room whole origin := by
  have hstate := (finish_work api h).trans hacc.state
  obtain ⟨applying, state, hwork, hreturned⟩ := work_cases api h
  rw [hwork] at hstate ⊢
  exact
    { hacc with
      kept := fun hkept => hacc.kept (hkept.imp_left (mt hreturned.mpr))
      receiver := hacc.receiver.trans (not_congr hreturned.symm)
      returned := fun hat => hacc.returned (hreturned.mp hat)
      state := hstate }

/-- The second loop may return with nothing in hand, when the signal is fired or the queue empty
and the client closed. -/
theorem Accounted.finish (hacc : h.Accounted api room whole origin) (hready : h.applying = .ready)
    (hend : h.signal.fired = true ∨ h.queued = [] ∧ h.client.closed = true) :
    h.finish.Accounted api room whole origin := by
  have hkept := hacc.kept (.inl (by simp [hready]))
  have htaken : h.taken <+: h.accepted := (List.prefix_append _ _).trans hacc.inOrder
  -- What the queue still has is dropped with it, but without the signal it has nothing.
  have hcalm : h.signal.fired = false → h.taken ++ [] = h.accepted := by
    intro hcalm
    obtain hfired | ⟨hempty, -⟩ := hend
    · simp [hcalm] at hfired
    · rw [hempty] at hkept
      exact hkept
  exact
    { hacc with
      bounded := Nat.zero_le _
      inOrder := by
        show h.taken ++ [] <+: h.accepted
        rw [List.append_nil]
        exact htaken
      kept := fun hwhen => hcalm (hwhen.resolve_left fun hat => hat rfl)
      receiver := by simp [Handover.finish, Queue.dropReceiver]
      returned := fun _ => ⟨rfl, hend.imp_right (·.2)⟩
      state := by
        have hstate := hacc.state
        rw [hready] at hstate
        exact hstate }

theorem Accounted.step (hacc : h.Accounted api room whole origin) (step : Step) :
    (h.step api step).Accounted api room whole origin := by
  cases step with
  | receive => exact hacc.moves (moves_receive h)
  | take => exact hacc.take
  | work => exact hacc.work
  | leave =>
    show h.leave.Accounted api room whole origin
    unfold leave
    split
    next hready =>
      split
      next hend =>
        obtain ⟨hempty, hsender, -⟩ := hend
        refine hacc.finish hready (.inr ⟨hempty, ?_⟩)
        simpa [hacc.sender] using hsender
      · exact hacc
    · exact hacc
    · exact hacc
  | close => exact hacc.close ⟨rfl, rfl⟩ hacc.due h.coming
  | shutdown =>
    have hfired : ¬ h.signal.fire.fired = false := by simp
    exact
      { hacc with
        kept := fun hkept => hacc.kept (.inl (hkept.resolve_right hfired))
        returned := fun hreturned => ⟨(hacc.returned hreturned).1, .inl rfl⟩ }
  | abandon =>
    show (if h.signal.fired then h.cutOff else h).Accounted api room whole origin
    split
    · exact hacc.cutOff ⟨rfl, rfl⟩
    · exact hacc
  | stop =>
    show h.stop.Accounted api room whole origin
    unfold stop
    split
    next hready =>
      split
      next hfired => exact hacc.finish hready (.inl hfired)
      · exact hacc
    · exact hacc
    · exact hacc

/-- Whatever the two loops do, and whatever happens to them. -/
theorem Accounted.run (hacc : h.Accounted api room whole origin) (steps : List Step) :
    (h.run api steps).Accounted api room whole origin := by
  induction steps generalizing h with
  | nil => exact hacc
  | cons first rest ih => exact ih (hacc.step first)

end Steps

end Handover

end MeshRegistry
