import MeshRegistry.Proofs.Discovery.TypeAnnouncements
/-!
# What comes after the end is announced

A client that is closed announces its end with an empty text, and puts no operation into the queue
any more but the one that an answer waits with. The announcement of the end is lost when there is no
room for it, and nothing else tells the receiver. When it gets through it need not be the last: the
first answer of a type is announced after the end as well.

## Main definitions

- `Dialogue.Shut`: the client is closed.
- `Dialogue.Yields`: what becomes of the operation that an answer waits with.

## Main results

- `Dialogue.yields_run`: no operation enters the queue of a closed client but the one that waits.
- `Dialogue.end_announced_last_iff`: when the end is what the receiver hears last.
-/

namespace MeshRegistry

namespace Dialogue

/-! ## The operations -/

/-- The client is closed, and the sender of operations is gone. -/
structure Shut (s : Dialogue) : Prop where
  closed : s.client.closed = true
  sender : s.client.operations.hasSender = false

/-- Since an earlier time no operation has entered the queue but the one that an answer waited
with, and no other one waits. -/
def Yields (s s' : Dialogue) : Prop :=
  ∃ extra, extra ++ s'.held <+: s.held ∧ s'.accepted = s.accepted ++ extra

section Shut

variable {s s' : Dialogue}

theorem yields_of_same (hheld : s'.held <+: s.held) (haccepted : s'.accepted = s.accepted) :
    s.Yields s' :=
  ⟨[], hheld, by simp [haccepted]⟩

theorem Yields.trans {s'' : Dialogue} (h : s.Yields s') (h' : s'.Yields s'') : s.Yields s'' := by
  obtain ⟨extra, hheld, haccepted⟩ := h
  obtain ⟨extra', hheld', haccepted'⟩ := h'
  refine ⟨extra ++ extra', ?_, by rw [haccepted', haccepted, List.append_assoc]⟩
  rw [List.append_assoc]
  exact ((List.prefix_append_right_inj extra).mpr hheld').trans hheld

/-- Without the sender no answer starts to wait. -/
theorem Shut.reacts (hshut : s.Shut) {r : DiscoveryResponse} {bound : Nat} {pushed : List EntryOp}
    {c : DiscoveryClient} (hworked : s.client.Worked pushed c) (hreacts : s.Reacts r bound c s') :
    s'.Shut ∧ s'.held = [] ∧ s'.accepted = s.accepted ++ pushed := by
  obtain ⟨hclosed, hoperations, hdeparted, -⟩ := hreacts.client_eq
  have hsender : c.operations.hasSender = false := by
    rw [hworked.operations]
    exact hshut.sender
  refine ⟨⟨hclosed.trans (hworked.closed.trans hshut.closed), hoperations ▸ hsender⟩, ?_, ?_⟩
  · cases hreacts with
    | acknowledged | refused _ => rfl
    | waiting op rest full less => simp [Queue.room, hsender] at full
  · rw [accepted, accepted, hdeparted, hoperations, hworked.operations, List.append_assoc]

theorem Shut.step (hshut : s.Shut) (next : Step) :
    (s.step next).Shut ∧ s.Yields (s.step next) := by
  have houtcome := s.outcome_step next
  generalize s.step next = s' at houtcome ⊢
  cases houtcome with
  | @called r _ _ _ idle worked sent _ reacts =>
    have harrived : Shut { s with arrived := s.arrived ++ [r] } := { hshut with }
    obtain ⟨hshut', hheld, haccepted⟩ := harrived.reacts worked reacts
    rw [sent hshut.sender, List.append_nil] at haccepted
    exact ⟨hshut', yields_of_same (hheld ▸ List.nil_prefix) haccepted⟩
  | wentOn waiting _ worked sent _ reacts =>
    obtain ⟨hshut', hheld, haccepted⟩ := hshut.reacts worked reacts
    refine ⟨hshut', _, ?_, haccepted⟩
    rw [hheld, List.append_nil, held, waiting]
    exact sent hshut.sender
  | busy | blocked | idle | drained | silent =>
    exact ⟨hshut, yields_of_same (List.prefix_refl _) rfl⟩
  | abandoned => exact ⟨{ hshut with }, yields_of_same List.nil_prefix rfl⟩
  | heard | deafened => exact ⟨{ hshut with }, yields_of_same (List.prefix_refl _) rfl⟩
  | took op rest items =>
    refine ⟨{ hshut with }, yields_of_same (List.prefix_refl _) ?_⟩
    simp [accepted, items]
  | left =>
    refine ⟨{ hshut with }, yields_of_same (List.prefix_refl _) ?_⟩
    simp [accepted, Queue.dropReceiver]
  | closed =>
    rw [DiscoveryClient.close, if_pos hshut.closed]
    exact ⟨hshut, yields_of_same (List.prefix_refl _) rfl⟩

theorem yields_run (hshut : s.Shut) (steps : List Step) : s.Yields (s.run steps) := by
  induction steps generalizing s with
  | nil => exact yields_of_same (List.prefix_refl _) rfl
  | cons first rest ih =>
    obtain ⟨hfirst, hyields⟩ := hshut.step first
    exact hyields.trans (ih hfirst)

/-! ## The announcement of the end -/

/-- An open client that is closed announces its end if there is room. -/
theorem close_open (hannouncing : s.Announcing) (hopen : s.client.closed = false) :
    (s.step .close).Shut ∧ (s.step .close).Announcing ∧ (s.step .close).ended = s.ended ∧
      s.Yields (s.step .close) ∧
      (s.step .close).published =
        s.published ++ if s.undelivered < announcementCapacity then [""] else [] := by
  obtain ⟨hsender, hreceiver, hcapacity, hannounced⟩ := hannouncing
  obtain ⟨hsender', hreceiver', hcapacity'⟩ := Queue.sides_offer s.client.announcements ""
  have hclient : s.step .close =
      { s with
        client :=
          { s.client with
            closed := true
            operations := s.client.operations.dropSender
            announcements := s.client.announcements.offer "" } } := by
    simp [Dialogue.step, DiscoveryClient.close, hopen]
  rw [hclient]
  refine ⟨⟨rfl, rfl⟩, ⟨hsender'.trans hsender, hreceiver'.trans hreceiver,
    hcapacity'.trans hcapacity, hannounced⟩, rfl, yields_of_same (List.prefix_refl _) rfl, ?_⟩
  rw [published, published, undelivered, List.append_assoc, ← hcapacity]
  exact congrArg (s.heard ++ ·) (Queue.items_offer hsender hreceiver "")

theorem not_mem_announcedAfter_empty (earlier later : List Ended) :
    "" ∉ announcedAfter earlier later := by
  intro h
  -- The address of a type has three parts, and the empty text one.
  have hthree := length_of_mem_typesOf (types_of_mem_announcedAfter h).1
  exact absurd hthree (by decide)

theorem announcedAfter_eq_nil_iff {ended later : List Ended} :
    announcedAfter ended later = [] ↔
      ∀ earlier e latest, later = earlier ++ e :: latest → First (ended ++ earlier) e →
        announcementCapacity ≤ e.undelivered := by
  simp only [List.eq_nil_iff_forall_not_mem, mem_announcedAfter_iff]
  constructor
  · intro hnone earlier e latest hlater hfirst
    by_contra hroom
    exact hnone _ ⟨earlier, e, latest, hlater, hfirst, Nat.not_le.mp hroom, rfl⟩
  · rintro hfull typeUrl ⟨earlier, e, latest, hlater, hfirst, hroom, -⟩
    exact absurd (hfull earlier e latest hlater hfirst) (Nat.not_le.mpr hroom)

/-- An empty text that comes between texts which are not is the last one exactly if it is there and
nothing follows. -/
theorem ends_with_empty_iff {earlier later : List String} {room : Prop} [Decidable room]
    (hearlier : "" ∉ earlier) (hlater : "" ∉ later) :
    (∃ types, "" ∉ types ∧ earlier ++ (if room then [""] else []) ++ later = types ++ [""]) ↔
      room ∧ later = [] := by
  constructor
  · rintro ⟨types, -, hends⟩
    have hlast : "" ∈ earlier ++ (if room then [""] else []) ++ later := by
      rw [hends]
      exact List.mem_append_right _ (List.mem_singleton_self _)
    have hroom : room := by
      by_contra hnone
      simp [hnone, hearlier, hlater] at hlast
    refine ⟨hroom, ?_⟩
    cases later using List.reverseRecOn with
    | nil => rfl
    | append_singleton rest last =>
      -- The last text would be the empty one.
      rw [← List.append_assoc] at hends
      have hempty : last = "" := List.singleton_inj.mp (List.append_inj_right' hends rfl)
      exact absurd (hempty ▸ List.mem_append_right rest (List.mem_singleton_self last)) hlater
  · rintro ⟨hroom, rfl⟩
    exact ⟨earlier, hearlier, by rw [if_pos hroom, List.append_nil]⟩

/-- The end of a client is the last thing that the receiver of announcements hears, and heard once,
exactly if there was room for it and no type is announced later. An operation gets into the queue
after the end only if an answer has been waiting with it. -/
theorem end_announced_last_iff {config : ClientConfig} {files : Files} {client : DiscoveryClient}
    (hcreate : DiscoveryClient.create config files = .ok client) {before after : List Step}
    (hopen : .close ∉ before) (hheard : .deafen ∉ before ++ after) :
    let s := (start client).run before
    let t := (s.step .close).run after
    ((∃ types, "" ∉ types ∧ t.published = types ++ [""]) ↔
        s.undelivered < announcementCapacity ∧
          ∀ earlier e later, t.ended = s.ended ++ earlier ++ e :: later →
            First (s.ended ++ earlier) e → announcementCapacity ≤ e.undelivered) ∧
      ∃ extra, extra <+: s.held ∧ t.accepted = s.accepted ++ extra := by
  intro s t
  obtain ⟨hheardBefore, hheardAfter⟩ := not_or.mp (List.mem_append.not.mp hheard)
  have hstart := announcing_start hcreate
  obtain ⟨hannouncing, later, hended, hpublished⟩ :=
    told_run hstart hheardBefore fun h => absurd h hopen
  have hisOpen : s.client.closed = false := by
    rw [show s.client.closed = _ from closed_run hopen, Handover.eq_of_create hcreate]
    rfl
  -- The end itself, between what is told before and after it.
  obtain ⟨hshut, hannouncing', hended', hyields, hsentinel⟩ := close_open hannouncing hisOpen
  obtain ⟨-, latest, hlatest, htold⟩ :=
    told_run hannouncing' hheardAfter fun _ => hshut.closed
  obtain ⟨extra, hextra, haccepted⟩ := hyields.trans (yields_run hshut after)
  have hnone : "" ∉ s.published := by
    rw [show s.published = _ from hpublished, Handover.eq_of_create hcreate]
    exact not_mem_announcedAfter_empty [] later
  rw [hended'] at hlatest htold
  refine ⟨?_, extra, (List.prefix_append _ _).trans hextra, haccepted⟩
  rw [show t.published = _ from htold, hsentinel, show t.ended = _ from hlatest,
    ends_with_empty_iff hnone (not_mem_announcedAfter_empty _ _), announcedAfter_eq_nil_iff]
  simp only [s, List.append_assoc, List.append_cancel_left_eq]

end Shut

/-- An answer waits with its second service when the client is closed. The service is accepted, and
the end is the last thing that is announced. -/
theorem end_announced_while_waiting :
    let before : List Step :=
      [.call { typeUrl := TypeUrl.serviceEntry }, .call Sample.services]
    let s := (start Sample.client).run before
    let t := (s.step .close).run [.hear, .take, .goOn, .call Sample.services]
    s.held.length = 1 ∧ t.accepted = s.accepted ++ s.held ∧
      (∃ types, "" ∉ types ∧ t.published = types ++ [""]) ∧
      ∃ extra, extra <+: s.held ∧ t.accepted = s.accepted ++ extra := by
  intro before s t
  have hopen : .close ∉ before := by decide +kernel
  have hheard : .deafen ∉ before ++ [.hear, .take, .goOn, .call Sample.services] := by
    decide +kernel
  obtain ⟨hlast, hoperations⟩ := end_announced_last_iff Sample.create_client hopen hheard
  have hold : ∀ e ∈ t.ended.drop s.ended.length, e.response.typeUrl ∈ typesOf s.ended := by
    decide +kernel
  refine ⟨by decide +kernel, by decide +kernel, hlast.mpr ⟨by decide +kernel, ?_⟩, hoperations⟩
  rintro earlier e later hsplit ⟨-, hnew⟩
  have hmem : e ∈ t.ended.drop s.ended.length := by
    rw [show t.ended = _ from hsplit]
    simp [s]
  rw [typesOf_append] at hnew
  exact absurd (List.mem_append_left _ (hold e hmem)) hnew

/-- A type is announced after the end, and with all the room taken up by announcements the end is
not announced at all. -/
theorem end_not_announced_last :
    ((start Sample.client).run [.close, .call { typeUrl := TypeUrl.meshConfig }]).published =
        ["", TypeUrl.meshConfig] ∧
      "" ∉ ((start Sample.client).run (Sample.answers 100 ++ [.close])).published := by
  decide +kernel

end Dialogue

end MeshRegistry
