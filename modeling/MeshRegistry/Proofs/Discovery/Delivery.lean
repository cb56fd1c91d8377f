import MeshRegistry.Proofs.Discovery.Accounting
import MeshRegistry.Proofs.Discovery.Resend
/-!
# What two loops and a queue come to

While nobody closes the client or fires the signal, every answer can be handled: where the first
loop waits for room, the second one can make some. What has gone through the queue by then is what
the resources ask for, name by name. After a close the second loop can still come to its end, and
then everything that was accepted has been applied, in its order.

## Main definitions

- `Handover.Undisturbed`: the client is open and the signal not fired.
- `Handover.Handled`: every answer has been handled to its end.

## Main results

- `Handover.deduplicated_by_name`: what goes through the queue, name by name.
- `Handover.handed_over_in_order`: nothing is lost, doubled or overtaken between the two loops.
-/

namespace MeshRegistry

namespace Handover

variable {σ : Type}

/-! ## Getting on -/

/-- Every answer has been taken up and handled to its end. -/
def Handled (h : Handover σ) : Prop := h.coming = [] ∧ h.receiving = .idle

instance (h : Handover σ) : Decidable h.Handled := inferInstanceAs (Decidable (_ ∧ _))

/-- The client is open and the signal not fired. -/
structure Undisturbed (h : Handover σ) : Prop where
  isOpen : h.client.closed = false
  calm : h.signal.fired = false

/-- A bound on the steps that the first loop needs for the answer that it is at. -/
def stepsLeft : Receiving → Nat
  | .idle => 0
  | .working _ rest => 2 * rest.length + 1
  | .sending _ _ rest => 2 * rest.length + 2

/-- A bound on the steps that the first loop needs for all answers. -/
def toDo (h : Handover σ) : Nat :=
  stepsLeft h.receiving + h.coming.foldr (fun r n => 2 * r.resources.length + 2 + n) 0

section Progress

variable {api : MeshApi σ} {room : Nat} {whole : List EntryOp} {origin : σ} {h : Handover σ}

/-- With all answers handled, an open client has put everything into the queue. -/
theorem Accounted.accepted_of_handled (hacc : h.Accounted api room whole origin)
    (hopen : h.client.closed = false) (hhandled : h.Handled) : h.accepted = whole := by
  obtain ⟨hcoming, hreceiving⟩ := hhandled
  obtain ⟨seen, -, hwhole⟩ := hacc.coming hopen
  rw [remaining, hcoming, hreceiving] at hwhole
  simpa [Receiving.held, Receiving.rest, entryResources, offersIn, Offer.opsAfter,
    Offer.stemsAfter] using hwhole

theorem handled_of_toDo (hdone : h.toDo = 0) : h.Handled := by
  obtain ⟨hreceiving, hcoming⟩ := Nat.add_eq_zero_iff.mp hdone
  constructor
  · cases hcases : h.coming with
    | nil => rfl
    | cons r coming => simp [hcases] at hcoming
  · cases hcases : h.receiving with
    | idle => rfl
    | working r rest => simp [hcases, stepsLeft] at hreceiving
    | sending r op rest => simp [hcases, stepsLeft] at hreceiving

/-- Unless it has to wait, the first loop gets on with every step. -/
theorem toDo_receive_lt (hroom : h.client.operations.roomForWaiting ≠ .full)
    (hleft : h.toDo ≠ 0) : h.receive.toDo < h.toDo := by
  -- Nothing is left to do for a loop that has been cut off.
  have hcut : ∀ client, ({ h with client } : Handover σ).cutOff.toDo < h.toDo :=
    fun _ => Nat.pos_of_ne_zero hleft
  unfold receive
  cases hreceiving : h.receiving with
  | idle =>
    cases hcoming : h.coming with
    | nil => simp [toDo, hreceiving, hcoming, stepsLeft] at hleft
    | cons r coming =>
      dsimp only
      split <;> simp [toDo, hreceiving, hcoming, stepsLeft]
  | working r rest =>
    cases rest with
    | nil => simp [toDo, hreceiving, stepsLeft]
    | cons a rest =>
      dsimp only
      split
      · simp [toDo, hreceiving, stepsLeft]
      · split
        · simp [toDo, hreceiving, stepsLeft]; omega
        · exact hreceiving ▸ hcut _
  | sending r op rest =>
    dsimp only
    cases hcase : h.client.operations.roomForWaiting with
    | free => simp [toDo, hreceiving, stepsLeft]
    | full => exact absurd hcase hroom
    | gone => exact hcut h.client

/-- The second loop comes to the end of the operation in hand. -/
theorem exists_ready (api : MeshApi σ) (hthere : h.applying ≠ .returned) :
    ∃ n state, h.run api (List.replicate n .work) = { h with applying := .ready, state } := by
  cases happlying : h.applying with
  | ready => exact ⟨0, h.state, by rw [← happlying]; rfl⟩
  | returned => exact absurd happlying hthere
  | busy left =>
    clear hthere
    -- By induction on what is left of the conversation, each step of which is one of the loop.
    induction left generalizing h with
    | done a => exact ⟨1, h.state, by simp [Handover.step, Handover.work, happlying]⟩
    | ask c next ih =>
      obtain ⟨n, state, hn⟩ := ih _ (h := h.work api) (by simp [Handover.work, happlying]; rfl)
      refine ⟨n + 1, state, ?_⟩
      rw [List.replicate_succ, run_cons, Handover.step, hn]
      simp [Handover.work, happlying]
    | look next ih =>
      obtain ⟨n, state, hn⟩ := ih _ (h := h.work api) (by simp [Handover.work, happlying]; rfl)
      refine ⟨n + 1, state, ?_⟩
      rw [List.replicate_succ, run_cons, Handover.step, hn]
      simp [Handover.work, happlying]

/-- The second loop can empty the queue as it is. -/
theorem exists_drained (api : MeshApi σ) (hthere : h.applying ≠ .returned) :
    ∃ steps state taken, .close ∉ steps ∧ .shutdown ∉ steps ∧
      h.run api steps =
        { h with
          client := { h.client with operations := h.client.operations.drained }
          applying := .ready, state, taken } := by
  generalize hitems : h.client.operations.items = items
  induction items generalizing h with
  | nil =>
    obtain ⟨n, state, hready⟩ := exists_ready api hthere
    refine ⟨List.replicate n .work, state, h.taken, by simp, by simp, ?_⟩
    rw [hready, Queue.drained, ← hitems]
  | cons op rest ih =>
    obtain ⟨n, state, hready⟩ := exists_ready api hthere
    obtain ⟨steps, state', taken, hclose, hshutdown, hrest⟩ := ih
      (h := { h with
        client := { h.client with operations := { h.client.operations with items := rest } }
        applying := .busy op.apply, state, taken := h.taken ++ [op] }) nofun rfl
    have htake : (h.run api (List.replicate n .work)).step api .take =
        { h with
          client := { h.client with operations := { h.client.operations with items := rest } }
          applying := .busy op.apply, state, taken := h.taken ++ [op] } := by
      simp [hready, Handover.step, Handover.take, Queue.pop?, hitems]
    refine ⟨List.replicate n .work ++ .take :: steps, state', taken, by simp [hclose],
      by simp [hshutdown], ?_⟩
    rw [run_append, run_cons, htake, hrest]
    rfl

/-- While nobody disturbs, the second loop has no reason to return. -/
theorem Undisturbed.not_returned (hquiet : h.Undisturbed)
    (hacc : h.Accounted api room whole origin) : h.applying ≠ .returned := by
  intro hreturned
  obtain hfired | hclosed := (hacc.returned hreturned).2
  · simp [hquiet.calm] at hfired
  · simp [hquiet.isOpen] at hclosed

/-- As long as nobody disturbs, the client stays open and the signal is not fired. -/
theorem Undisturbed.step (hquiet : h.Undisturbed) (hacc : h.Accounted api room whole origin)
    {step : Step} (hclose : step ≠ .close) (hshutdown : step ≠ .shutdown) :
    (h.step api step).Undisturbed := by
  have hreceiver := hacc.receiver.mpr (hquiet.not_returned hacc)
  obtain ⟨hopen, hcalm⟩ := hquiet
  have hsender : h.client.operations.hasSender = true := by rw [hacc.sender, hopen]; rfl
  cases step with
  | receive =>
    -- Both ends of the queue are there, so the first loop is not cut off.
    have hmoves := moves_receive h
    show h.receive.Undisturbed
    generalize h.receive = h' at hmoves
    cases hmoves with
    | wait => exact ⟨hopen, hcalm⟩
    | goOn client receiving coming free gate => exact ⟨gate.2.trans hopen, hcalm⟩
    | send => exact ⟨hopen, hcalm⟩
    | cut client gate gone => simp [hsender, hreceiver] at gone
  | take =>
    show h.take.Undisturbed
    unfold Handover.take
    split <;> exact ⟨hopen, hcalm⟩
  | work =>
    obtain ⟨applying, state, hwork, -⟩ := work_cases api h
    show (h.work api).Undisturbed
    rw [hwork]
    exact ⟨hopen, hcalm⟩
  | leave =>
    show h.leave.Undisturbed
    unfold leave
    split
    · split <;> exact ⟨hopen, hcalm⟩
    · exact ⟨hopen, hcalm⟩
    · exact ⟨hopen, hcalm⟩
  | close => exact absurd rfl hclose
  | shutdown => exact absurd rfl hshutdown
  | abandon => simpa [Handover.step, hcalm] using Undisturbed.mk hopen hcalm
  | stop =>
    show h.stop.Undisturbed
    unfold stop
    split
    · simpa [hcalm] using Undisturbed.mk hopen hcalm
    · exact ⟨hopen, hcalm⟩
    · exact ⟨hopen, hcalm⟩

theorem Undisturbed.run (hquiet : h.Undisturbed) (hacc : h.Accounted api room whole origin)
    {steps : List Step} (hclose : .close ∉ steps) (hshutdown : .shutdown ∉ steps) :
    (h.run api steps).Undisturbed := by
  induction steps generalizing h with
  | nil => exact hquiet
  | cons first rest ih =>
    rw [List.mem_cons, not_or] at hclose hshutdown
    exact ih (hquiet.step hacc (Ne.symm hclose.1) (Ne.symm hshutdown.1)) (hacc.step first)
      hclose.2 hshutdown.2

/-- While nobody disturbs, all answers can be handled: whenever the first loop waits for room, the
second one can make some. -/
theorem exists_handled (hacc : h.Accounted api room whole origin) (hroom : 0 < room)
    (hquiet : h.Undisturbed) :
    ∃ more, .close ∉ more ∧ .shutdown ∉ more ∧ (h.run api more).Handled := by
  induction hleft : h.toDo using Nat.strong_induction_on generalizing h with
  | _ n ih =>
    by_cases hdone : h.toDo = 0
    · exact ⟨[], by simp, by simp, handled_of_toDo hdone⟩
    · obtain ⟨steps, state, taken, hclose, hshutdown, hdrained⟩ :=
        exists_drained api (hquiet.not_returned hacc)
      have hacc' := hacc.run steps
      have hquiet' := hquiet.run hacc hclose hshutdown
      -- The queue is empty now and has room, so the first loop gets on.
      have hfree : (h.run api steps).client.operations.roomForWaiting ≠ .full := by
        have hcapacity := hacc.capacity
        simp only [hdrained, Queue.roomForWaiting, Queue.drained, List.length_nil, hcapacity,
          if_pos hroom]
        split <;> simp
      have hsame : (h.run api steps).toDo = h.toDo := by rw [hdrained]; rfl
      have hless : (h.run api steps).receive.toDo < n := by
        rw [← hleft, ← hsame]
        exact toDo_receive_lt hfree (hsame ▸ hdone)
      obtain ⟨more, hclose', hshutdown', hhandled⟩ :=
        ih _ hless (hacc'.step .receive) (hquiet'.step hacc' (by decide) (by decide)) rfl
      refine ⟨steps ++ .receive :: more, by simp [hclose, hclose'],
        by simp [hshutdown, hshutdown'], ?_⟩
      rw [run_append, run_cons]
      exact hhandled

/-- Once the signal is fired, the second loop can return. -/
theorem exists_returned_of_fired (api : MeshApi σ) (hfired : h.signal.fired = true) :
    ∃ more, (h.run api more).applying = .returned := by
  by_cases hreturned : h.applying = .returned
  · exact ⟨[], hreturned⟩
  · obtain ⟨n, state, hready⟩ := exists_ready api hreturned
    refine ⟨List.replicate n .work ++ [.stop], ?_⟩
    rw [run_append, hready, run_cons, run_nil]
    simp [Handover.step, Handover.stop, Handover.finish, hfired]

/-- Once nothing can come any more, the second loop can empty the queue and return. -/
theorem exists_returned_of_unfed (api : MeshApi σ) (hunfed : h.Unfed)
    (hthere : h.applying ≠ .returned) :
    ∃ more, .shutdown ∉ more ∧ (h.run api more).applying = .returned := by
  obtain ⟨steps, state, taken, -, hshutdown, hdrained⟩ := exists_drained api hthere
  refine ⟨steps ++ [.leave], by simp [hshutdown], ?_⟩
  rw [run_append, hdrained, run_cons, run_nil]
  have hend : h.client.operations.hasSender = false ∧ h.receiving.held = [] := hunfed
  simp [Handover.step, leave, queued, Unfed, Queue.drained, Handover.finish, hend]

/-- Once the client is closed, the second loop can return. An operation that the first loop waits
with goes through the queue before. -/
theorem exists_returned_of_closed (hacc : h.Accounted api room whole origin) (hroom : 0 < room)
    (hclosed : h.client.closed = true) :
    ∃ more, .shutdown ∉ more ∧ (h.run api more).applying = .returned := by
  by_cases hreturned : h.applying = .returned
  · exact ⟨[], by simp, hreturned⟩
  have hsender : h.client.operations.hasSender = false := by rw [hacc.sender, hclosed]; rfl
  cases hreceiving : h.receiving with
  | idle => exact exists_returned_of_unfed api ⟨hsender, by rw [hreceiving]; rfl⟩ hreturned
  | working r rest =>
    exact exists_returned_of_unfed api ⟨hsender, by rw [hreceiving]; rfl⟩ hreturned
  | sending r op rest =>
    obtain ⟨steps, state, taken, -, hshutdown, hdrained⟩ := exists_drained api hreturned
    -- The queue is empty now, so the operation that waits is accepted, and it is the last one.
    have hfree : h.client.operations.drained.roomForWaiting = .free := by
      have hcapacity := hacc.capacity
      have hreceiver := hacc.receiver.mpr hreturned
      simp [Queue.roomForWaiting, Queue.drained, hreceiver, hcapacity, hroom]
    have hsent : (h.run api (steps ++ [.receive])).Unfed ∧
        (h.run api (steps ++ [.receive])).applying ≠ .returned := by
      rw [run_append, hdrained, run_cons, run_nil, Handover.step, receive]
      simp only [hreceiving, hfree]
      exact ⟨⟨hsender, rfl⟩, by simp⟩
    obtain ⟨more, hmore, hend⟩ := exists_returned_of_unfed api hsent.1 hsent.2
    refine ⟨steps ++ [.receive] ++ more, by simp [hshutdown, hmore], ?_⟩
    rw [run_append]
    exact hend

end Progress

/-! ## Name by name -/

/-- Unless somebody closes the client or fires the signal, what has gone into the queue is the
beginning of what the resources ask for, and all of it once every answer is handled, which is
always possible. Read name by name it is the operations of the reference, and they come in the
order of their resources. How the resources were put together to answers does not count, nor do
answers with anything else. -/
theorem deduplicated_by_name (api : MeshApi σ) {config : ClientConfig} {files : Files}
    {client : DiscoveryClient} (hcreate : DiscoveryClient.create config files = .ok client)
    (origin : σ) (answers : List DiscoveryResponse) {resources : List Any}
    (hresources : entryResources answers = resources) {steps : List Step}
    (hclose : .close ∉ steps) (hshutdown : .shutdown ∉ steps) :
    let h := (Handover.start client origin answers).run api steps
    let stems := Offer.stemsAfter [] (offersIn resources)
    h.taken ++ h.queued <+: stems.map (·.2) ∧
      (h.Handled → h.taken ++ h.queued = stems.map (·.2)) ∧
      (∃ more, .close ∉ more ∧ .shutdown ∉ more ∧ (h.run api more).Handled) ∧
      (∀ name, (stems.filter (·.1.name = name)).map (·.2) =
        Offer.reference none ((offersIn resources).filter (·.name = name))) ∧
      (stems.map (·.1)).Sublist (offersIn resources) := by
  intro h stems
  have hroom : 0 < max 1 config.queueCapacity := Nat.zero_lt_of_lt (Nat.le_max_left 1 _)
  have hstart := Accounted.start hcreate api answers origin
  have hacc := hstart.run steps
  have hquiet : h.Undisturbed := by
    have hfresh : (Handover.start client origin answers).Undisturbed := by
      rw [eq_of_create hcreate]
      exact ⟨rfl, rfl⟩
    exact hfresh.run hstart hclose hshutdown
  have hwhole : client.yields answers = stems.map (·.2) := by
    rw [DiscoveryClient.yields_eq (remembers_of_create hcreate), hresources]
    rfl
  have hkept : h.taken ++ h.queued = h.accepted := hacc.kept (.inr hquiet.calm)
  refine ⟨?_, fun hhandled => ?_, exists_handled hacc hroom hquiet, fun name => ?_, ?_⟩
  · rw [hkept, ← hwhole]
    exact (List.prefix_append _ _).trans hacc.due
  · rw [hkept, ← hwhole]
    exact hacc.accepted_of_handled hquiet.isOpen hhandled
  · exact Offer.stemsAfter_of_name name [] (offersIn resources)
  · exact Offer.stemsAfter_sublist [] (offersIn resources)

namespace Sample

/-- A new client whose queue has room for one operation. -/
def client : DiscoveryClient where
  config := { Pipeline.Sample.client.config with queueCapacity := 1 }
  operations := ⟨1, [], true, true⟩

theorem create_client : DiscoveryClient.create client.config {} = .ok client :=
  DiscoveryClient.create_eq_ok_iff.mpr ⟨by decide +kernel, by decide, rfl⟩

/-- Two services arrive, the first one twice with the same version. -/
def answers : List DiscoveryResponse :=
  [Pipeline.Sample.answer "default/orders" ["10.0.0.1"],
    Pipeline.Sample.answer "default/orders" ["10.0.0.1"],
    Pipeline.Sample.answer "default/stock" ["10.0.0.2"]]

/-- The entry of the second service. -/
def stock : ServiceEntry where
  metadata := { name := some "stock", space := some "default" }
  spec := { hosts := ["orders"], endpoints := [{ address := "10.0.0.2" }] }

/-- The mesh is empty. -/
def mesh : Mesh := (Mesh.fresh { name := "registry" }).after []

/-- The first loop goes on until it waits with the second service, for the first one fills the
queue. -/
def untilFull : List Step := List.replicate 9 .receive

end Sample

/-- When the first service has been taken out, the second one goes into the queue. -/
theorem repeated_service_passed_over :
    let steps := Sample.untilFull ++ [.take, .receive, .receive]
    let h := (Handover.start Sample.client Sample.mesh Sample.answers).run Mesh.api steps
    h.Handled ∧ h.taken ++ h.queued = [.upsert Pipeline.Sample.entry, .upsert Sample.stock] := by
  intro steps h
  have hhandled : h.Handled := by decide +kernel
  have hclose : Step.close ∉ steps := by decide
  have hshutdown : Step.shutdown ∉ steps := by decide
  obtain ⟨-, hall, -⟩ := deduplicated_by_name Mesh.api Sample.create_client Sample.mesh
    Sample.answers rfl hclose hshutdown
  refine ⟨hhandled, (hall hhandled).trans ?_⟩
  decide +kernel

/-! ## From the answers to the mesh -/

/-- At every moment, whatever has happened, what has been taken out of the queue and what waits in
it is the beginning of what the answers yield, and the queue is within its capacity. Without a
shutdown these are all the operations that were accepted, and while the client is open no other
ones are missing once the answers are handled. What has been taken has been carried out in its
order, but for an operation in hand.

So when the client was closed, there was no shutdown and the second loop has returned, every
accepted operation has been carried out, once and in its turn. After a shutdown it is a beginning
of them. The second loop can return in both cases. -/
theorem handed_over_in_order (api : MeshApi σ) {config : ClientConfig} {files : Files}
    {client : DiscoveryClient} (hcreate : DiscoveryClient.create config files = .ok client)
    (origin : σ) (answers : List DiscoveryResponse) (steps : List Step) :
    let h := (Handover.start client origin answers).run api steps
    let whole := client.yields answers
    (h.taken ++ h.queued <+: whole ∧ h.queued.length ≤ max 1 config.queueCapacity ∧
        h.applying.finish api h.state = api.afterAll h.taken origin) ∧
      (h.signal.fired = false → h.taken ++ h.queued = h.accepted) ∧
      (h.client.closed = false → h.Handled → h.accepted = whole) ∧
      (h.client.closed = true → h.signal.fired = false →
        (h.applying = .returned →
          h.taken = h.accepted ∧ h.state = api.afterAll h.accepted origin) ∧
        ∃ more, .shutdown ∉ more ∧ (h.run api more).applying = .returned) ∧
      (h.signal.fired = true →
        (h.applying = .returned →
          h.taken <+: h.accepted ∧ h.state = api.afterAll h.taken origin) ∧
        ∃ more, (h.run api more).applying = .returned) := by
  intro h whole
  have hroom : 0 < max 1 config.queueCapacity := Nat.zero_lt_of_lt (Nat.le_max_left 1 _)
  have hacc : h.Accounted api (max 1 config.queueCapacity) whole origin :=
    (Accounted.start hcreate api answers origin).run steps
  have haccepted : h.accepted <+: whole := (List.prefix_append _ _).trans hacc.due
  have hstate : h.applying = .returned → h.state = api.afterAll h.taken origin := by
    intro hreturned
    rw [← hacc.state, hreturned]
    rfl
  refine ⟨⟨hacc.inOrder.trans haccepted, hacc.bounded, hacc.state⟩, ?_, ?_, ?_, ?_⟩
  · exact fun hcalm => hacc.kept (.inr hcalm)
  · exact fun hopen hhandled => hacc.accepted_of_handled hopen hhandled
  · intro hclosed hcalm
    -- A loop that has returned leaves no queue, and nothing was dropped with it.
    refine ⟨fun hreturned => ?_, exists_returned_of_closed hacc hroom hclosed⟩
    have hkept := hacc.kept (.inr hcalm)
    rw [(hacc.returned hreturned).1, List.append_nil] at hkept
    exact ⟨hkept, hkept ▸ hstate hreturned⟩
  · intro hfired
    refine ⟨fun hreturned => ⟨?_, hstate hreturned⟩, exists_returned_of_fired api hfired⟩
    exact (List.prefix_append _ _).trans hacc.inOrder

/-- The client is closed while the first loop waits with the second service. It still goes through
the queue and is applied. -/
theorem waiting_service_applied_after_close :
    let applyOne : List Step := [.take, .receive, .work, .work, .work, .work]
    let steps := Sample.untilFull ++ [.close] ++ applyOne ++ applyOne ++ [.leave]
    let h := (Handover.start Sample.client Sample.mesh Sample.answers).run Mesh.api steps
    h.client.closed = true ∧ h.applying = .returned ∧
      h.accepted = [.upsert Pipeline.Sample.entry, .upsert Sample.stock] ∧
      h.taken = h.accepted ∧ h.state = Mesh.api.afterAll h.accepted Sample.mesh := by
  intro applyOne steps
  obtain ⟨hclosed, hcalm, hreturned, haccepted⟩ :
      let h := (Handover.start Sample.client Sample.mesh Sample.answers).run Mesh.api steps
      h.client.closed = true ∧ h.signal.fired = false ∧ h.applying = .returned ∧
        h.accepted = [.upsert Pipeline.Sample.entry, .upsert Sample.stock] := by
    decide +kernel
  obtain ⟨-, -, -, hafter, -⟩ := handed_over_in_order Mesh.api Sample.create_client Sample.mesh
    Sample.answers steps
  exact ⟨hclosed, hreturned, haccepted, (hafter hclosed hcalm).1 hreturned⟩

end Handover

end MeshRegistry
