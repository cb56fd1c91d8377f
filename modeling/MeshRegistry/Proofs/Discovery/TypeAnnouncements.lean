import Mathlib.Data.List.Induction
import MeshRegistry.Proofs.Discovery.Dialogue
/-!
# Each type is announced once

A type is announced when its first answer has been handled, unless as many announcements as may wait
were waiting then. So each type is announced at most once, and the types come in the order of their
first answers. Only the address of a type in three parts is announced.

## Main definitions

- `Dialogue.First`: the first answer of a type.
- `Dialogue.announcedAfter`: what is announced by answers, given those before.

## Main results

- `Dialogue.told_run`: what has been announced in a conversation.
- `Dialogue.announced_once_in_order`: the types that are announced, and their order.
-/

namespace MeshRegistry

namespace DiscoveryClient

/-- A type is announced unless it has been, or its address does not have three parts. -/
theorem announce_eq (c : DiscoveryClient) (typeUrl : String) :
    c.announce typeUrl =
      if (Text.split '/' typeUrl).length = 3 ∧ typeUrl ∉ c.announced then
        { c with
          announced := c.announced ++ [typeUrl]
          announcements := c.announcements.offer typeUrl }
      else c := by
  have hthree : (TypeName.ofUrl? typeUrl).isSome ↔ _ := TypeName.isSome_ofUrl?_iff
  unfold announce
  cases hparts : TypeName.ofUrl? typeUrl with
  | none =>
    rw [hparts] at hthree
    simp [← hthree]
  | some t =>
    rw [hparts] at hthree
    simp [← hthree, TypeName.url_of_ofUrl? hparts]

end DiscoveryClient

namespace Dialogue

/-! ## The first answers -/

/-- The types of the answers that were acknowledged, those whose address has three parts. -/
def typesOf (ended : List Ended) : List String :=
  (ended.filter fun e => e.request.isSome ∧ (Text.split '/' e.response.typeUrl).length = 3).map
    (·.response.typeUrl)

/-- An answer is the first of a type that was acknowledged. -/
def First (earlier : List Ended) (e : Ended) : Prop :=
  e.response.typeUrl ∈ typesOf [e] ∧ e.response.typeUrl ∉ typesOf earlier

instance (earlier : List Ended) (e : Ended) : Decidable (First earlier e) :=
  inferInstanceAs (Decidable (_ ∧ _))

/-- What is announced by answers that come after earlier ones. -/
def announcedAfter : List Ended → List Ended → List String
  | _, [] => []
  | earlier, e :: later =>
    (if First earlier e ∧ e.undelivered < announcementCapacity then [e.response.typeUrl] else []) ++
      announcedAfter (earlier ++ [e]) later

section Log

variable {earlier later : List Ended} {e : Ended} {typeUrl : String}

theorem typesOf_append (earlier later : List Ended) :
    typesOf (earlier ++ later) = typesOf earlier ++ typesOf later := by
  simp [typesOf]

theorem typesOf_singleton (e : Ended) :
    typesOf [e] = if e.request.isSome ∧ (Text.split '/' e.response.typeUrl).length = 3 then
      [e.response.typeUrl] else [] := by
  unfold typesOf
  split <;> simp_all

theorem length_of_mem_typesOf {ended : List Ended} (h : typeUrl ∈ typesOf ended) :
    (Text.split '/' typeUrl).length = 3 := by
  simp only [typesOf, List.mem_map, List.mem_filter, decide_eq_true_eq] at h
  obtain ⟨e, ⟨-, -, hthree⟩, rfl⟩ := h
  exact hthree

theorem announcedAfter_append (earlier later latest : List Ended) :
    announcedAfter earlier (later ++ latest) =
      announcedAfter earlier later ++ announcedAfter (earlier ++ later) latest := by
  induction later generalizing earlier with
  | nil => simp [announcedAfter]
  | cons e later ih => simp [announcedAfter, ih]

/-- A type is announced by its first answer. -/
theorem mem_announcedAfter_iff :
    typeUrl ∈ announcedAfter earlier later ↔
      ∃ before e after, later = before ++ e :: after ∧ First (earlier ++ before) e ∧
        e.undelivered < announcementCapacity ∧ e.response.typeUrl = typeUrl := by
  induction later generalizing earlier with
  | nil => simp [announcedAfter]
  | cons first later ih =>
    rw [announcedAfter, List.mem_append, ih]
    constructor
    · rintro (hfirst | ⟨before, e, after, rfl, hrest⟩)
      · split at hfirst
        next h => exact ⟨[], first, later, rfl, by simpa using h.1, h.2,
          (List.mem_singleton.mp hfirst).symm⟩
        · cases hfirst
      · exact ⟨first :: before, e, after, rfl, by simpa using hrest⟩
    · rintro ⟨before, e, after, hlater, hfirst, hroom, rfl⟩
      cases before with
      | nil =>
        obtain ⟨rfl, rfl⟩ := List.cons.inj hlater
        rw [List.append_nil] at hfirst
        simp [hfirst, hroom]
      | cons _ before =>
        obtain ⟨rfl, rfl⟩ := List.cons.inj hlater
        exact .inr ⟨before, e, after, rfl, by simpa using hfirst, hroom, rfl⟩

/-- What is announced by answers is the type of one of them, and of none before. -/
theorem types_of_mem_announcedAfter (h : typeUrl ∈ announcedAfter earlier later) :
    typeUrl ∈ typesOf later ∧ typeUrl ∉ typesOf earlier := by
  obtain ⟨before, e, after, rfl, ⟨htype, hnew⟩, -, rfl⟩ := mem_announcedAfter_iff.mp h
  rw [typesOf_append, List.mem_append, not_or] at hnew
  refine ⟨?_, hnew.1⟩
  rw [typesOf_append, ← List.singleton_append, typesOf_append]
  exact List.mem_append_right _ (List.mem_append_left _ htype)

theorem nodup_announcedAfter (earlier later : List Ended) :
    (announcedAfter earlier later).Nodup := by
  induction later generalizing earlier with
  | nil => exact List.nodup_nil
  | cons e later ih =>
    rw [announcedAfter]
    split
    next h =>
      refine List.nodup_cons.mpr ⟨fun hagain => ?_, ih _⟩
      obtain ⟨-, hnew⟩ := types_of_mem_announcedAfter hagain
      rw [typesOf_append] at hnew
      exact hnew (List.mem_append_right _ h.1.1)
    · exact ih _

/-- The types are announced in the order of their first answers. -/
theorem announcedAfter_sublist (ended : List Ended) :
    (announcedAfter [] ended).Sublist (typesOf ended).eraseDups := by
  induction ended using List.reverseRecOn with
  | nil => exact .slnil
  | append_singleton ended e ih =>
    rw [announcedAfter_append, typesOf_append, List.eraseDups_append]
    refine ih.append ?_
    -- The last answer adds its type to both lists, or to the second one only, or to none.
    rw [List.nil_append, announcedAfter, announcedAfter, List.append_nil]
    split
    next h =>
      obtain ⟨⟨htype, hnew⟩, -⟩ := h
      have hself : typesOf [e] = [e.response.typeUrl] := by
        rw [typesOf_singleton] at htype ⊢
        split at htype
        next h => rw [if_pos h]
        · cases htype
      rw [hself]
      simp [List.removeAll, hnew, List.eraseDups_cons]
    · exact List.nil_sublist _

/-- A type is announced exactly when there is room at its first answer. -/
theorem mem_announcedAfter_first_iff (hfirst : First earlier e) :
    e.response.typeUrl ∈ announcedAfter [] (earlier ++ e :: later) ↔
      e.undelivered < announcementCapacity := by
  obtain ⟨htype, hnew⟩ := hfirst
  have hbefore : e.response.typeUrl ∉ announcedAfter [] earlier :=
    fun h => hnew (types_of_mem_announcedAfter h).1
  have hafter : e.response.typeUrl ∉ announcedAfter (earlier ++ [e]) later := by
    intro h
    have hlate := (types_of_mem_announcedAfter h).2
    rw [typesOf_append] at hlate
    exact hlate (List.mem_append_right _ htype)
  have hfirst : First earlier e := ⟨htype, hnew⟩
  simp [announcedAfter_append, announcedAfter, hbefore, hafter, hfirst]

end Log

/-! ## What has been announced -/

/-- Both ends of the queue of announcements are there, and the client knows which types it has had
answers of. -/
structure Announcing (s : Dialogue) : Prop where
  sender : s.client.announcements.hasSender = true
  receiver : s.client.announcements.hasReceiver = true
  capacity : s.client.announcements.capacity = announcementCapacity
  announced : ∀ typeUrl, typeUrl ∈ s.client.announced ↔ typeUrl ∈ typesOf s.ended

/-- Since an earlier time, some answers were handled to an end and announced what there was to
announce. -/
def Told (s s' : Dialogue) : Prop :=
  ∃ later, s'.ended = s.ended ++ later ∧ s'.published = s.published ++ announcedAfter s.ended later

section Steps

variable {s s' : Dialogue}

theorem Told.trans {s'' : Dialogue} (h : s.Told s') (h' : s'.Told s'') : s.Told s'' := by
  obtain ⟨later, hended, hpublished⟩ := h
  obtain ⟨latest, hended', hpublished'⟩ := h'
  refine ⟨later ++ latest, ?_, ?_⟩
  · rw [hended', hended, List.append_assoc]
  · rw [hpublished', hpublished, announcedAfter_append, hended, List.append_assoc]

theorem told_of_same (hended : s'.ended = s.ended) (hpublished : s'.published = s.published) :
    s.Told s' :=
  ⟨[], by simp [hended], by simp [hpublished, announcedAfter]⟩

theorem Announcing.reacts (hannouncing : s.Announcing) {r : DiscoveryResponse} {bound : Nat}
    {pushed : List EntryOp} {c : DiscoveryClient} (hworked : s.client.Worked pushed c)
    (hreacts : s.Reacts r bound c s') : s'.Announcing ∧ s.Told s' := by
  obtain ⟨hsender, hreceiver, hcapacity, hannounced⟩ := hannouncing
  rw [← hworked.announcements] at hsender hreceiver hcapacity
  rw [← hworked.announced] at hannounced
  cases hreacts with
  | acknowledged =>
    rw [DiscoveryClient.announce_eq]
    generalize hrequest : DiscoveryClient.acknowledgment _ r = request
    have htypes := typesOf_singleton ⟨r, some request, s.undelivered⟩
    have hpublished : s.published = s.heard ++ c.announcements.items := by
      rw [published, hworked.announcements]
    have hundelivered : s.undelivered = c.announcements.items.length := by
      rw [undelivered, hworked.announcements]
    by_cases hnew : (Text.split '/' r.typeUrl).length = 3 ∧ r.typeUrl ∉ c.announced
    · -- The type is offered to the queue, which takes it if there is room.
      rw [if_pos ⟨rfl, hnew.1⟩] at htypes
      have hfirst : First s.ended ⟨r, some request, s.undelivered⟩ :=
        ⟨by rw [htypes]; exact List.mem_singleton_self _, (hannounced _).not.mp hnew.2⟩
      obtain ⟨hsender', hreceiver', hcapacity'⟩ := Queue.sides_offer c.announcements r.typeUrl
      rw [if_pos hnew]
      refine ⟨⟨hsender'.trans hsender, hreceiver'.trans hreceiver, hcapacity'.trans hcapacity,
        fun typeUrl => ?_⟩, [_], rfl, ?_⟩
      · rw [List.mem_append, hannounced, typesOf_append, List.mem_append, htypes]
      · rw [hundelivered] at hfirst ⊢
        rw [hpublished, published]
        simp [Queue.items_offer hsender hreceiver, hcapacity, announcedAfter, hfirst]
    · -- The type is no news, and the announcements stay as they are.
      have hold : ∀ typeUrl ∈ typesOf [⟨r, some request, s.undelivered⟩],
          typeUrl ∈ typesOf s.ended := by
        intro typeUrl htype
        rw [htypes] at htype
        split at htype
        next hthree =>
          rw [List.mem_singleton.mp htype, ← hannounced]
          exact not_not.mp fun hother => hnew ⟨hthree.2, hother⟩
        · cases htype
      have hlater : ¬First s.ended ⟨r, some request, s.undelivered⟩ :=
        fun h => h.2 (hold _ h.1)
      rw [if_neg hnew]
      refine ⟨⟨hsender, hreceiver, hcapacity, fun typeUrl => ?_⟩, [_], rfl, ?_⟩
      · rw [hannounced, typesOf_append, List.mem_append]
        exact ⟨.inl, fun h => h.elim id (hold typeUrl)⟩
      · rw [hpublished, published]
        simp [announcedAfter, hlater]
  | refused gone =>
    have hnone : typesOf [⟨r, none, s.undelivered⟩] = [] := by simp [typesOf]
    refine ⟨⟨hsender, hreceiver, hcapacity, fun typeUrl => ?_⟩, [_], rfl, ?_⟩
    · rw [hannounced, typesOf_append, hnone, List.append_nil]
    · simp [published, hworked.announcements, announcedAfter, First, hnone]
  | waiting op rest full less =>
    refine ⟨⟨hsender, hreceiver, hcapacity, hannounced⟩, told_of_same rfl ?_⟩
    simp [published, hworked.announcements]

/-- What a step tells, unless it closes the client or sends the receiver of announcements away. -/
theorem Announcing.step (hannouncing : s.Announcing) {next : Step} (hheard : next ≠ .deafen)
    (hopen : next = .close → s.client.closed = true) :
    (s.step next).Announcing ∧ s.Told (s.step next) := by
  have houtcome := s.outcome_step next
  generalize s.step next = s' at houtcome ⊢
  cases houtcome with
  | @called r _ _ _ _ worked _ _ reacts =>
    have harrived : Announcing { s with arrived := s.arrived ++ [r] } := { hannouncing with }
    exact harrived.reacts worked reacts
  | wentOn _ _ worked _ _ reacts => exact hannouncing.reacts worked reacts
  | busy | blocked | idle | drained | silent => exact ⟨hannouncing, told_of_same rfl rfl⟩
  | abandoned | took | left => exact ⟨{ hannouncing with }, told_of_same rfl rfl⟩
  | heard a rest items =>
    refine ⟨{ hannouncing with }, told_of_same rfl ?_⟩
    simp [published, items]
  | deafened => exact absurd rfl hheard
  | closed =>
    rw [DiscoveryClient.close, if_pos (hopen rfl)]
    exact ⟨{ hannouncing with }, told_of_same rfl rfl⟩

/-- What steps tell among which the receiver of announcements does not go away, until the client is
closed or when it has been before. -/
theorem told_run (hannouncing : s.Announcing) {steps : List Step} (hheard : .deafen ∉ steps)
    (hopen : .close ∈ steps → s.client.closed = true) :
    (s.run steps).Announcing ∧ s.Told (s.run steps) := by
  induction steps generalizing s with
  | nil => exact ⟨hannouncing, told_of_same rfl rfl⟩
  | cons first rest ih =>
    obtain ⟨hfirst, hheard⟩ := not_or.mp (List.mem_cons.not.mp hheard)
    obtain ⟨hannouncing', htold⟩ := hannouncing.step (Ne.symm hfirst)
      fun h => hopen (h ▸ List.mem_cons_self ..)
    have hopen' : .close ∈ rest → (s.step first).client.closed = true := by
      -- A client that is closed stays so, whatever the first step is.
      intro hlater
      by_cases hclose : first = .close
      · rw [hclose]
        exact Handover.closed_close _
      · rw [closed_step hclose]
        exact hopen (List.mem_cons_of_mem _ hlater)
    obtain ⟨hrun, htold'⟩ := ih hannouncing' hheard hopen'
    exact ⟨hrun, htold.trans htold'⟩

theorem announcing_start {config : ClientConfig} {files : Files} {client : DiscoveryClient}
    (hcreate : DiscoveryClient.create config files = .ok client) :
    (start client).Announcing := by
  obtain rfl := Handover.eq_of_create hcreate
  exact ⟨rfl, rfl, rfl, fun _ => Iff.rfl⟩

/-- The answers are handled in the order in which they arrive. -/
def InOrder (s : Dialogue) : Prop :=
  (s.ended.map (·.response) ++ (s.waiting.map (·.response)).toList).Sublist s.arrived

theorem inOrder_of_reacts {r : DiscoveryResponse} {bound : Nat} {c : DiscoveryClient}
    (hreacts : s.Reacts r bound c s')
    (horder : (s.ended.map (·.response) ++ [r]).Sublist s.arrived) : s'.InOrder := by
  cases hreacts <;> simpa [InOrder] using horder

theorem InOrder.step (horder : s.InOrder) (next : Step) : (s.step next).InOrder := by
  have houtcome := s.outcome_step next
  generalize s.step next = s' at houtcome ⊢
  cases houtcome with
  | @called r _ _ _ idle _ _ _ reacts =>
    rw [InOrder, idle, Option.map_none, Option.toList_none, List.append_nil] at horder
    exact inOrder_of_reacts reacts (horder.append (List.Sublist.refl [r]))
  | wentOn waiting _ _ _ _ reacts =>
    rw [InOrder, waiting] at horder
    exact inOrder_of_reacts reacts horder
  | abandoned =>
    refine List.Sublist.trans ?_ horder
    exact (List.Sublist.refl _).append (List.nil_sublist _)
  | busy | blocked | idle | took | drained | heard | silent | left | deafened | closed =>
    exact horder

theorem inOrder_run (horder : s.InOrder) (steps : List Step) : (s.run steps).InOrder := by
  induction steps generalizing s with
  | nil => exact horder
  | cons first rest ih => exact ih (horder.step first)

/-- Until a client is closed, no type is announced twice, and none whose address does not have three
parts. The types come in the order of their first answers, which are handled as they arrive. A type
is missing exactly if the announcements took up all the room at its first answer. -/
theorem announced_once_in_order {config : ClientConfig} {files : Files} {client : DiscoveryClient}
    (hcreate : DiscoveryClient.create config files = .ok client) {steps : List Step}
    (hheard : .deafen ∉ steps) (hopen : .close ∉ steps) :
    let s := (start client).run steps
    s.published.Nodup ∧
      (∀ typeUrl ∈ s.published, (Text.split '/' typeUrl).length = 3) ∧
      s.published.Sublist (typesOf s.ended).eraseDups ∧
      (s.ended.map (·.response)).Sublist s.arrived ∧
      ∀ earlier e later, s.ended = earlier ++ e :: later → First earlier e →
        (e.response.typeUrl ∈ s.published ↔ e.undelivered < announcementCapacity) := by
  intro s
  have hnothing : (start client).published = [] := by
    rw [Handover.eq_of_create hcreate]
    rfl
  obtain ⟨-, later, hended, hpublished⟩ :=
    told_run (announcing_start hcreate) hheard fun h => absurd h hopen
  rw [hnothing, List.nil_append] at hpublished
  obtain rfl : s.ended = later := hended
  replace hpublished : s.published = announcedAfter [] s.ended := hpublished
  have hinOrder : s.InOrder := inOrder_run (s := start client) (List.Sublist.refl []) steps
  rw [hpublished]
  refine ⟨nodup_announcedAfter _ _, fun typeUrl htype => ?_, announcedAfter_sublist _,
    (List.sublist_append_left _ _).trans hinOrder, ?_⟩
  · exact length_of_mem_typesOf (types_of_mem_announcedAfter htype).1
  · intro earlier e later hsplit hfirst
    rw [hsplit]
    exact mem_announcedAfter_first_iff hfirst

end Steps

/-- Services are answered twice and the configuration of the mesh once, and an answer has an address
in two parts. -/
theorem two_types_announced :
    let steps : List Step :=
      [.call Sample.services, .take, .goOn, .call { typeUrl := TypeUrl.meshConfig }, .hear,
        .call { typeUrl := TypeUrl.serviceEntry }, .call { typeUrl := "mesh/registry" }]
    let s := (start Sample.client).run steps
    s.published = [TypeUrl.serviceEntry, TypeUrl.meshConfig] ∧ s.ended.length = 4 ∧
      s.published.Nodup ∧ (∀ typeUrl ∈ s.published, (Text.split '/' typeUrl).length = 3) ∧
      s.published.Sublist (typesOf s.ended).eraseDups ∧
      (s.ended.map (·.response)).Sublist s.arrived ∧
      ∀ earlier e later, s.ended = earlier ++ e :: later → First earlier e →
        (e.response.typeUrl ∈ s.published ↔ e.undelivered < announcementCapacity) := by
  intro steps s
  exact ⟨by decide +kernel, by decide +kernel,
    announced_once_in_order Sample.create_client (by decide +kernel) (by decide +kernel)⟩

end Dialogue

end MeshRegistry
