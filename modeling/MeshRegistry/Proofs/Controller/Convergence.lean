import MeshRegistry.Proofs.Controller.Fleet
import Mathlib.Tactic.ByContra
/-!
# When several catalogs converge

The reconcilers of several catalogs share one ownership model, which knows a host by its name
alone, and each of them collects whatever lies in its namespace and begins as its own hosts do. So
they reach a common end exactly when they do not get into each other's way: whoever else has a
host has it for the same namespace and with the same endpoints, and whoever has not does not take
it for a host of its own that has gone.

If they are compatible in this sense, one round is enough. If not, no number of rounds leads to a
state that is both complete and quiet.

## Main definitions

- `Fleet.Complete`: every host of a follower has its entry.
- `Fleet.Quiet`: further rounds make no writing call.
- `Fleet.Converges`: some number of rounds leads to a state that is both.
- `Fleet.Compatible`: the followers do not get into each other's way.

## Main results

- `Fleet.filled_of_round`: what one round of compatible followers leads to.
- `Fleet.compatible_of_settled`: a state that is complete and settled shows compatibility.
- `ControllerConfig.length_followers`: every registry of catalogs has its follower.
- `ControllerConfig.converges_iff_compatible`: convergence is compatibility.
-/

namespace MeshRegistry

namespace Fleet

/-- Every host of a follower has an entry in the target namespace, with its endpoints. -/
def Complete (s : Fleet) : Prop :=
  ∀ f ∈ s.followers, ∀ host endpoints, f.snapshot.get? host = some endpoints →
    ∃ key e, s.mesh.stored? key = some e ∧ key.space = f.watcher.targetSpace ∧
      host ∈ e.spec.hosts ∧ e.spec.endpoints = endpoints

/-- Further rounds make no writing call. -/
def Quiet (s : Fleet) : Prop :=
  ∀ rounds : List (List Turn), (∀ ts ∈ rounds, s.IsRound ts) →
    ∀ c ∈ s.calls rounds.flatten, c.isWrite = false

/-- After some number of rounds, whatever their orders, every host has its entry, and nothing is
written any more. -/
def Converges (s : Fleet) : Prop :=
  ∃ n, ∀ rounds : List (List Turn), rounds.length = n → (∀ ts ∈ rounds, s.IsRound ts) →
    (s.turns rounds.flatten).Complete ∧ (s.turns rounds.flatten).Quiet

/-- Every host can be named, and any other follower either has it for the same namespace and with
the same endpoints, or has it not and does not collect it there. -/
def Compatible (s : Fleet) : Prop :=
  ∀ f ∈ s.followers, ∀ host endpoints, f.snapshot.get? host = some endpoints →
    (f.watcher.targetSpace ≠ "" ∧ host ≠ "") ∧
    ∀ g ∈ s.followers,
      g.watcher.targetSpace = f.watcher.targetSpace ∧ g.snapshot.get? host = some endpoints ∨
      g.snapshot.get? host = none ∧
        (g.watcher.targetSpace = f.watcher.targetSpace →
          Text.startsWith host g.watcher.hostPrefix = false)

instance (s : Fleet) : Decidable s.Compatible :=
  decidable_of_iff
    (∀ f ∈ s.followers, ∀ p ∈ f.snapshot.entries,
      (f.watcher.targetSpace ≠ "" ∧ p.1 ≠ "") ∧
      ∀ g ∈ s.followers,
        g.watcher.targetSpace = f.watcher.targetSpace ∧ g.snapshot.get? p.1 = some p.2 ∨
        g.snapshot.get? p.1 = none ∧
          (g.watcher.targetSpace = f.watcher.targetSpace →
            Text.startsWith p.1 g.watcher.hostPrefix = false))
    ⟨fun h f hf host endpoints hget =>
        h f hf (host, endpoints) (SortedMap.get?_eq_some_iff.mp hget),
      fun h f hf p hp => h f hf p.1 p.2 (SortedMap.get?_eq_some_iff.mpr hp)⟩

variable {owner : Option OwnerReference} {s : Fleet}

theorem turns_eq_after (s : Fleet) (ts : List Turn) : s.turns ts = s.after (ts.map .pass) := by
  rw [turns, after, List.foldl_map]
  rfl

@[simp] theorem followers_turns (s : Fleet) (ts : List Turn) :
    (s.turns ts).followers = s.followers := by
  induction ts generalizing s with
  | nil => rfl
  | cons t rest ih => exact ih (s.turn t)

theorem Sound.turns (h : s.Sound owner) (ts : List Turn) : (s.turns ts).Sound owner := by
  rw [turns_eq_after]
  exact sound_after h _

/-! ## Compatible followers -/

section Compatible

theorem Compatible.agree (h : s.Compatible) (name : String) : s.Agree name := by
  intro f hf g hg endpoints endpoints' hget hget'
  rcases (h f hf name endpoints hget).2 g hg with ⟨-, hsame⟩ | ⟨hnone, -⟩
  · rw [hget'] at hsame
    exact (Option.some.inj hsame).symm
  · rw [hget'] at hnone
    cases hnone

/-- The entry of a host is the same for all followers that have the host. -/
theorem Compatible.build_eq (h : s.Compatible) (hs : s.Sound owner) {f g : Follower}
    (hf : f ∈ s.followers) (hg : g ∈ s.followers) {name : String}
    {endpoints endpoints' : List Endpoint} (hget : f.snapshot.get? name = some endpoints)
    (hget' : g.snapshot.get? name = some endpoints') :
    g.reconciler.builder.build name endpoints' = f.reconciler.builder.build name endpoints := by
  obtain rfl := h.agree name f hf g hg endpoints endpoints' hget hget'
  rcases (h f hf name endpoints hget).2 g hg with ⟨hspace, -⟩ | ⟨hnone, -⟩
  · exact (hs.followers f hf).build_eq (hs.followers g hg) hspace name endpoints
  · rw [hget'] at hnone
    cases hnone

variable {f : Follower} {name : String} {endpoints : List Endpoint}

/-- No turn takes the entry of a host away. -/
theorem Compatible.slot_kept (h : s.Compatible) (hs : s.Sound owner) (hf : f ∈ s.followers)
    (hget : f.snapshot.get? name = some endpoints)
    (hslot : s.mesh.slot name = .only (f.reconciler.builder.build name endpoints)) (t : Turn) :
    (s.turn t).mesh.slot name = .only (f.reconciler.builder.build name endpoints) := by
  cases hplace : s.followers[t.place]? with
  | none =>
    rw [turn_of_none hplace]
    exact hslot
  | some g =>
    have hg := List.mem_of_getElem? hplace
    rw [hs.slot_turn hplace, hslot]
    -- Another follower finds its own entry there, or it has no claim to the name.
    rcases (h f hf name endpoints hget).2 g hg with ⟨-, hsame⟩ | ⟨hnone, hother⟩
    · rw [hsame]
      exact Reconciler.onSlot_cached_only rfl
    · rw [hnone, Reconciler.onSlot_gone_only, if_neg]
      rintro ⟨hbegins, hspace⟩
      have hspace' : f.reconciler.space = g.reconciler.space := hspace
      rw [(hs.followers f hf).space, (hs.followers g hg).space] at hspace'
      rw [(hs.followers g hg).begins, hother hspace'.symm] at hbegins
      cases hbegins

/-- The turn of a follower that has a host writes its entry. -/
theorem Compatible.slot_own (h : s.Compatible) (hs : s.Sound owner) (hlone : s.Lone name)
    {t : Turn} (hplace : s.followers[t.place]? = some f)
    (hget : f.snapshot.get? name = some endpoints) :
    (s.turn t).mesh.slot name = .only (f.reconciler.builder.build name endpoints) := by
  have hf := List.mem_of_getElem? hplace
  have hnamed : f.reconciler.space ≠ "" ∧ name ≠ "" := by
    rw [(hs.followers f hf).space]
    exact (h f hf name endpoints hget).1
  rw [hs.slot_turn hplace, hget]
  rcases hlone with hempty | ⟨g, hg, endpoints', hget', honly⟩
  · rw [hempty]
    exact Reconciler.onSlot_cached_empty hnamed
  · rw [honly, h.build_eq hs hf hg hget hget']
    exact Reconciler.onSlot_cached_only rfl

theorem Compatible.slot_turns (h : s.Compatible) (hs : s.Sound owner)
    (hlone : ∀ name, s.Lone name) (hf : f ∈ s.followers)
    (hget : f.snapshot.get? name = some endpoints) (ts : List Turn)
    (hreached : s.mesh.slot name = .only (f.reconciler.builder.build name endpoints) ∨
      ∃ t ∈ ts, s.followers[t.place]? = some f) :
    (s.turns ts).mesh.slot name = .only (f.reconciler.builder.build name endpoints) := by
  -- Once written the entry stays, and until then the turn that writes it is still to come.
  induction ts generalizing s with
  | nil =>
    rcases hreached with hslot | ⟨t, ht, -⟩
    · exact hslot
    · cases ht
  | cons first rest ih =>
    have hlone' : ∀ name, (s.turn first).Lone name := fun name =>
      (hlone name).turn hs (h.agree name) first
    refine ih (s := s.turn first) h (hs.turn first) hlone' hf ?_
    rcases hreached with hslot | ⟨t, ht, hplace⟩
    · exact .inl (h.slot_kept hs hf hget hslot first)
    · rcases List.mem_cons.mp ht with rfl | ht
      · exact .inl (h.slot_own hs (hlone name) hplace hget)
      · exact .inr ⟨t, ht, hplace⟩

end Compatible

/-! ## One round is enough -/

/-- Every host of a follower has its entry, and every other name is free. -/
structure Filled (s : Fleet) : Prop where
  /-- Every host of a follower has its entry. -/
  hosts : ∀ f ∈ s.followers, ∀ name endpoints, f.snapshot.get? name = some endpoints →
    s.mesh.slot name = .only (f.reconciler.builder.build name endpoints)
  /-- Every other name is free. -/
  free : ∀ name, (∀ f ∈ s.followers, f.snapshot.get? name = none) → s.mesh.slot name = .empty

theorem lone_turns (hs : s.Sound owner) {name : String} (hlone : s.Agree name → s.Lone name)
    (ts : List Turn) : (s.turns ts).Agree name → (s.turns ts).Lone name := by
  intro hagree
  rw [turns_eq_after] at hagree ⊢
  exact lone_after hs (hlone (hs.agree_of_after _ hagree)) _ hagree

/-- A round of compatible followers fills the mesh. -/
theorem filled_of_round (h : s.Compatible) (hs : s.Sound owner) (hlone : ∀ name, s.Lone name)
    {ts : List Turn} (hround : s.IsRound ts) : (s.turns ts).Filled where
  hosts f hf name endpoints hget := by
    rw [followers_turns] at hf
    refine h.slot_turns hs hlone hf hget ts (.inr ?_)
    obtain ⟨i, hi, rfl⟩ := List.getElem_of_mem hf
    have hplace : i ∈ ts.map Turn.place := hround.mem_iff.mpr (List.mem_range.mpr hi)
    obtain ⟨t, ht, rfl⟩ := List.mem_map.mp hplace
    exact ⟨t, ht, List.getElem?_eq_getElem hi⟩
  free name hnone := by
    have hagree : (s.turns ts).Agree name := by
      intro f hf g hg endpoints endpoints' hget
      rw [hnone f hf] at hget
      cases hget
    rcases lone_turns hs (fun _ => hlone name) ts hagree with hempty | ⟨f, hf, endpoints, hget, -⟩
    · exact hempty
    · rw [hnone f hf] at hget
      cases hget

theorem Filled.complete (h : s.Filled) (hs : s.Sound owner) : s.Complete := by
  intro f hf host endpoints hget
  have hfits := hs.followers f hf
  have hslot := h.hosts f hf host endpoints hget
  -- The slot says what is stored up to the version, which completeness does not ask for.
  have hstored : (s.mesh.stored? ⟨f.reconciler.space, host⟩).map ServiceEntry.unversioned =
      some (f.reconciler.builder.build host endpoints) := by
    have hlook := congrArg (fun slot => slot.stored f.reconciler.space) hslot
    simpa [Mesh.slot, Reconciler.space_build] using hlook
  obtain ⟨e, he, hsame⟩ := Option.map_eq_some_iff.mp hstored
  have hspec := congrArg ServiceEntry.spec hsame
  refine ⟨_, e, he, hfits.space, ?_, ?_⟩
  · have hhosts : e.spec.hosts = [HostName.formatted host] := congrArg ServiceSpec.hosts hspec
    rw [hhosts, HostName.formatted_of_not_mem (hfits.hosts host endpoints hget)]
    exact List.mem_singleton_self _
  · exact congrArg ServiceSpec.endpoints hspec

/-- On a filled mesh no follower has anything to do. -/
theorem Filled.settled (h : s.Filled) (hs : s.Sound owner) (hcompatible : s.Compatible)
    {f : Follower} (hf : f ∈ s.followers) : f.reconciler.Settled f.snapshot s.mesh := by
  refine Reconciler.settled_of_slots ?_ ?_
  · intro host endpoints hget
    refine ⟨f.reconciler.builder.build host endpoints, ?_, rfl⟩
    rw [h.hosts f hf host endpoints hget]
    rfl
  · intro host e hnone howned
    by_cases hfree : ∀ g ∈ s.followers, g.snapshot.get? host = none
    · rw [h.free host hfree] at howned
      cases howned
    · -- Another follower has the host, so its entry is not collected here.
      obtain ⟨g, hg, hsome⟩ : ∃ g ∈ s.followers, g.snapshot.get? host ≠ none := by
        simpa using hfree
      obtain ⟨endpoints, hget⟩ := Option.ne_none_iff_exists'.mp hsome
      rw [h.hosts g hg host endpoints hget] at howned
      obtain rfl := Option.some.inj howned
      rintro ⟨hbegins, hspace⟩
      have hspace' : g.reconciler.space = f.reconciler.space := hspace
      rw [(hs.followers g hg).space, (hs.followers f hf).space] at hspace'
      rcases (hcompatible g hg host endpoints hget).2 f hf with ⟨-, hsame⟩ | ⟨-, hother⟩
      · rw [hnone] at hsame
        cases hsame
      · rw [(hs.followers f hf).begins, hother hspace'.symm] at hbegins
        cases hbegins

/-- A turn of a follower without anything to do makes no writing call and changes nothing. -/
theorem turn_of_settled (hs : s.Sound owner) {t : Turn}
    (h : ∀ f, s.followers[t.place]? = some f → f.reconciler.Settled f.snapshot s.mesh) :
    (∀ c ∈ (s.pass t).calls Mesh.api s.mesh, c.isWrite = false) ∧ s.turn t = s := by
  have hreads : ∀ c ∈ (s.pass t).calls Mesh.api s.mesh, c.isWrite = false := by
    cases hplace : s.followers[t.place]? with
    | none =>
      intro c hc
      simp [pass, hplace] at hc
    | some f =>
      rw [calls_pass_of_some hplace]
      exact (Reconciler.pass_reads_iff_settled hs.up _ _).mpr (h f hplace)
  refine ⟨hreads, ?_⟩
  rw [turn, Session.run_of_reads _ hreads]

theorem quiet_of_settled (hs : s.Sound owner)
    (h : ∀ f ∈ s.followers, f.reconciler.Settled f.snapshot s.mesh) : s.Quiet := by
  intro rounds _
  -- Nothing depends on how the turns make up rounds.
  generalize rounds.flatten = ts
  induction ts with
  | nil => intro c hc; cases hc
  | cons t rest ih =>
    obtain ⟨hreads, hsame⟩ := turn_of_settled hs (t := t)
      fun f hplace => h f (List.mem_of_getElem? hplace)
    rw [calls, hsame]
    exact List.forall_mem_append.mpr ⟨hreads, ih⟩

theorem converges_of_compatible (h : s.Compatible) (hs : s.Sound owner)
    (hlone : ∀ name, s.Lone name) : s.Converges := by
  refine ⟨1, fun rounds hlength hrounds => ?_⟩
  obtain ⟨ts, rfl⟩ := List.length_eq_one_iff.mp hlength
  have hround := hrounds ts (List.mem_singleton_self _)
  rw [List.flatten_singleton]
  have hfilled := filled_of_round h hs hlone hround
  have hs' := hs.turns ts
  have hcompatible : (s.turns ts).Compatible := by
    unfold Compatible
    rw [followers_turns]
    exact h
  exact ⟨hfilled.complete hs', quiet_of_settled hs' fun f hf => hfilled.settled hs' hcompatible hf⟩

/-! ## What convergence shows -/

/-- The round in which the followers take their turns by place. -/
def inOrder (s : Fleet) : List Turn :=
  (List.range s.followers.length).map fun place => ⟨place, .given, .given⟩

theorem isRound_inOrder (s : Fleet) : s.IsRound s.inOrder := by
  unfold IsRound inOrder
  rw [List.map_map]
  exact List.Perm.of_eq (List.map_id _)

/-- Turns without a writing call show that nobody has anything to do. -/
theorem settled_of_calls (hs : s.Sound owner) (ts : List Turn)
    (hreads : ∀ c ∈ s.calls ts, c.isWrite = false) {t : Turn} (ht : t ∈ ts) {f : Follower}
    (hplace : s.followers[t.place]? = some f) : f.reconciler.Settled f.snapshot s.mesh := by
  induction ts with
  | nil => cases ht
  | cons first rest ih =>
    rw [calls, List.forall_mem_append] at hreads
    obtain ⟨hfirst, hrest⟩ := hreads
    have hsame : s.turn first = s := by
      rw [turn, Session.run_of_reads _ hfirst]
    -- The state stays the same, so every turn speaks about the first one.
    rw [hsame] at hrest
    rcases List.mem_cons.mp ht with rfl | ht
    · rw [calls_pass_of_some hplace] at hfirst
      exact (Reconciler.pass_reads_iff_settled hs.up _ _).mp hfirst
    · exact ih hrest ht

theorem Quiet.settled (h : s.Quiet) (hs : s.Sound owner) {f : Follower} (hf : f ∈ s.followers) :
    f.reconciler.Settled f.snapshot s.mesh := by
  have hreads := h [s.inOrder] fun ts hts => by
    rw [List.mem_singleton.mp hts]
    exact s.isRound_inOrder
  rw [List.flatten_singleton] at hreads
  obtain ⟨i, hi, rfl⟩ := List.getElem_of_mem hf
  have ht : (⟨i, .given, .given⟩ : Turn) ∈ s.inOrder :=
    List.mem_map.mpr ⟨i, List.mem_range.mpr hi, rfl⟩
  exact settled_of_calls hs _ hreads ht (List.getElem?_eq_getElem hi)

section Settled

variable {f g : Follower} {host : String} {endpoints : List Endpoint}

/-- On a settled mesh the model has every host of a follower, with its endpoints. -/
theorem owned_of_settled (hs : s.Sound owner) (hf : f ∈ s.followers)
    (hsettled : f.reconciler.Settled f.snapshot s.mesh)
    (hget : f.snapshot.get? host = some endpoints) :
    ∃ e, s.mesh.ownership.ours.get? host = some e ∧ e.spec.endpoints = endpoints := by
  have hkept := hsettled.hosts host endpoints hget
  cases howned : s.mesh.ownership.ours.get? host with
  | none =>
    rw [howned] at hkept
    exact absurd (Reconciler.rewrites_none (hs.serves hf)) hkept
  | some e =>
    rw [howned] at hkept
    exact ⟨e, rfl, not_not.mp hkept⟩

/-- The entry of a host on a complete mesh: it is stored under the name of the host. -/
theorem Complete.stored (h : s.Complete) (hs : s.Sound owner) (hf : f ∈ s.followers)
    (hget : f.snapshot.get? host = some endpoints) :
    ∃ e, s.mesh.stored? ⟨f.watcher.targetSpace, host⟩ = some e ∧
      PlainEntry .consul s.mesh.ownership.reference e ∧
      e.key = ⟨f.watcher.targetSpace, host⟩ := by
  obtain ⟨⟨space, name⟩, e, he, rfl, hhost, -⟩ := h f hf host endpoints hget
  obtain ⟨hkey, hplain⟩ := hs.plain.stored _ e he
  rw [hplain.hosts, List.mem_singleton] at hhost
  have hname : name = host := (congrArg ObjectKey.name hkey).symm.trans hhost.symm
  subst hname
  exact ⟨e, he, hplain, hkey⟩

theorem agree_of_settled (hs : s.Sound owner)
    (hsettled : ∀ f ∈ s.followers, f.reconciler.Settled f.snapshot s.mesh) (name : String) :
    s.Agree name := by
  intro f hf g hg endpoints endpoints' hget hget'
  obtain ⟨e, he, rfl⟩ := owned_of_settled hs hf (hsettled f hf) hget
  obtain ⟨e', he', rfl⟩ := owned_of_settled hs hg (hsettled g hg) hget'
  obtain rfl := Option.some.inj (he.symm.trans he')
  rfl

/-- A state that is complete and settled, and in which a name that all agree on has one entry at
most, shows that the followers are compatible. -/
theorem compatible_of_settled (hs : s.Sound owner) (hcomplete : s.Complete)
    (hsettled : ∀ f ∈ s.followers, f.reconciler.Settled f.snapshot s.mesh)
    (hlone : ∀ name, s.Agree name → s.Lone name) : s.Compatible := by
  intro f hf host endpoints hget
  have hagree := agree_of_settled hs hsettled host
  obtain ⟨e, he, hplain, hkey⟩ := hcomplete.stored hs hf hget
  obtain ⟨owned, howned, -⟩ := owned_of_settled hs hf (hsettled f hf) hget
  -- The one entry of the name is where every follower that has the host wants it.
  have hslot : ∃ only, s.mesh.slot host = .only only := by
    rcases hlone host hagree with hempty | ⟨f', -, endpoints', -, honly⟩
    · have hfree := congrArg Slot.owned hempty
      simp [Mesh.slot, howned, Slot.empty] at hfree
    · exact ⟨_, honly⟩
  obtain ⟨only, honly⟩ := hslot
  have hspace : ∀ {space : String} {e : ServiceEntry}, s.mesh.stored? ⟨space, host⟩ = some e →
      space = only.space := by
    intro space e he
    have hstored := congrArg (fun slot => slot.stored space) honly
    simp only [Mesh.slot, he, Option.map_some, Slot.stored_only] at hstored
    split at hstored
    next h => exact h
    next => cases hstored
  refine ⟨⟨?_, ?_⟩, fun g hg => ?_⟩
  · have hspaceOf : e.space = f.watcher.targetSpace := congrArg ObjectKey.space hkey
    rw [← hspaceOf]
    exact hplain.space
  · have hnameOf : e.name = host := congrArg ObjectKey.name hkey
    rw [← hnameOf]
    exact hplain.name
  · cases hget' : g.snapshot.get? host with
    | some endpoints' =>
      obtain rfl := hagree f hf g hg endpoints endpoints' hget hget'
      obtain ⟨e', he', -⟩ := hcomplete.stored hs hg hget'
      exact .inl ⟨(hspace he').trans (hspace he).symm, rfl⟩
    | none =>
      refine .inr ⟨rfl, fun hsame => ?_⟩
      by_contra hbegins
      rw [Bool.not_eq_false] at hbegins
      -- Otherwise the other follower would collect the entry.
      obtain ⟨hname, current, hcurrent, -⟩ := hs.plain.ours host owned howned
      have hownedSpace : owned.space = f.watcher.targetSpace := by
        have hcurrent' : s.mesh.stored? ⟨owned.space, host⟩ = some current := by
          rw [← hname]
          exact hcurrent
        exact (hspace hcurrent').trans (hspace he).symm
      have hgspace : g.reconciler.space = f.watcher.targetSpace :=
        (hs.followers g hg).space.trans hsame
      have hcandidate : g.reconciler.isCandidate g.snapshot host owned = true := by
        simp [Reconciler.isCandidate, SortedMap.contains, hget', hownedSpace, hgspace,
          (hs.followers g hg).begins, hbegins]
      refine (hsettled g hg).entries host owned howned hcandidate e ?_ ?_
      · rw [hgspace, hname]
        exact he
      · show e.label? registryLabel = some g.reconciler.registry.text
        rw [(hs.followers g hg).registry]
        exact hplain.label

end Settled

/-- Convergence shows compatibility. -/
theorem compatible_of_converges (h : s.Converges) (hs : s.Sound owner)
    (hlone : ∀ name, s.Agree name → s.Lone name) : s.Compatible := by
  obtain ⟨n, hn⟩ := h
  -- Any rounds of the right number will do, for instance those by place.
  obtain ⟨hcomplete, hquiet⟩ := hn (List.replicate n s.inOrder) List.length_replicate
    fun ts hts => by
      rw [List.eq_of_mem_replicate hts]
      exact s.isRound_inOrder
  have hs' := hs.turns (List.replicate n s.inOrder).flatten
  have hcompatible := compatible_of_settled hs' hcomplete (fun f hf => hquiet.settled hs' hf)
    fun name => lone_turns hs (hlone name) _
  unfold Compatible at hcompatible
  rw [followers_turns] at hcompatible
  exact hcompatible

end Fleet

/-! ## The fleet of a configuration -/

namespace Assembly

/-- The parts of a controller start on a mesh that nobody has written to, which accepts calls and
has the namespaces that entries go to, and whose model has the owner of the controller. -/
structure StartsOn (a : Assembly) (c : ControllerConfig) (m : Mesh) : Prop where
  /-- Nobody has written to the mesh. -/
  pristine : m.Pristine
  /-- Calls are accepted. -/
  up : m.store.down = false
  /-- The target namespaces exist. -/
  spaces : ∀ space ∈ a.spaces, m.store.hasSpace space = true
  /-- The model has the owner of the controller. -/
  reference : m.ownership.reference = ownerReference c.owner

section Fleet

variable {a : Assembly} {c : ControllerConfig} {watchers : List CatalogWatcher}
  {catalogs : Nat → FixedCatalog} {start : Mesh}

/-- Every watcher has its follower, with the reconciler that was made for it. -/
theorem followers_fleet (hwatchers : a.watchers = watchers.map .catalog)
    (hreconcilers : a.reconcilers = watchers.map c.reconcilerFor) :
    (a.fleet catalogs start).followers =
      watchers.mapIdx fun i w => ⟨catalogs i, w, c.reconcilerFor w⟩ := by
  unfold fleet
  rw [hwatchers, hreconcilers, List.zip_map', List.zipIdx_map, List.filterMap_map,
    List.mapIdx_eq_zipIdx_map, ← List.filterMap_eq_map]
  rfl

theorem fits_of_mem_fleet (catalogs : Nat → FixedCatalog) (start : Mesh)
    (hwatchers : a.watchers = watchers.map .catalog)
    (hreconcilers : a.reconcilers = watchers.map c.reconcilerFor)
    (hwatches : ∀ w ∈ watchers, ∃ r ∈ c.registries, c.Watches r w)
    (hbegins : ∀ r ∈ c.registries, '_' ∉ r.hostPrefix.toList) {f : Follower}
    (hf : f ∈ (a.fleet catalogs start).followers) :
    f.Fits (c.owner.map OwnerConfig.reference) ∧ f.watcher.targetSpace ∈ a.spaces := by
  rw [followers_fleet hwatchers hreconcilers] at hf
  obtain ⟨i, hi, rfl⟩ := List.mem_mapIdx.mp hf
  have hmem := List.getElem_mem hi
  obtain ⟨r, hr, hwatch⟩ := hwatches _ hmem
  have hempty : watchers[i].snapshot = .empty := hwatch.snapshot
  refine ⟨⟨rfl, rfl, rfl, rfl, rfl, ?_, ?_, .inl hempty⟩, ?_⟩
  · rw [hwatch.hostPrefix]
    exact hbegins r hr
  · intro host endpoints hget
    rw [Follower.snapshot, hempty] at hget
    cases hget
  · rw [spaces, hwatchers, List.map_map]
    exact List.mem_map.mpr ⟨_, hmem, rfl⟩

end Fleet

end Assembly

namespace ControllerConfig

variable {c : ControllerConfig} {hostAddress : String} {files : Files} {a : Assembly}
  {catalogs : Nat → FixedCatalog} {start : Mesh}

/-- Every registry of an acceptable configuration with catalogs has its follower. -/
theorem length_followers (hvalid : c.validate = .ok ())
    (hconsul : ∃ r ∈ c.registries, r.kind = .consul)
    (hassemble : c.assemble hostAddress files = .ok a) :
    (a.fleet catalogs start).followers.length = c.registries.length := by
  obtain ⟨watchers, hwatchers, hreconcilers, hlength, -⟩ :=
    assemble_of_consul hvalid hconsul hassemble
  rw [Assembly.followers_fleet hwatchers hreconcilers, List.length_mapIdx, hlength]

theorem sound_fleet (catalogs : Nat → FixedCatalog) (hvalid : c.validate = .ok ())
    (hconsul : ∃ r ∈ c.registries, r.kind = .consul)
    (hbegins : ∀ r ∈ c.registries, '_' ∉ r.hostPrefix.toList)
    (hassemble : c.assemble hostAddress files = .ok a) (hstart : a.StartsOn c start) :
    (a.fleet catalogs start).Sound (c.owner.map OwnerConfig.reference) := by
  obtain ⟨watchers, hwatchers, hreconcilers, -, hwatches⟩ :=
    assemble_of_consul hvalid hconsul hassemble
  have hfits := fun f hf => Assembly.fits_of_mem_fleet catalogs start (f := f) hwatchers
    hreconcilers hwatches hbegins hf
  refine ⟨hstart.pristine.plain, hstart.up, fun f hf => ?_, ?_, fun f hf => (hfits f hf).1⟩
  · obtain ⟨hfit, hspace⟩ := hfits f hf
    rw [hfit.space]
    exact hstart.spaces _ hspace
  · have hreference : (a.fleet catalogs start).mesh.ownership.reference = ownerReference c.owner :=
      hstart.reference
    rw [hreference]
    cases c.owner with
    | none => exact .inl rfl
    | some o => exact .inr rfl

/-- On a mesh that nobody has written to, no name has an entry. -/
theorem lone_fleet (hstart : a.StartsOn c start) (name : String) :
    (a.fleet catalogs start).Lone name := .inl (hstart.pristine.slot name)

/-- The catalogs of an acceptable configuration, whatever polls and passes there were, converge
exactly when their followers are compatible. What their hosts begin with has no underscores. -/
theorem converges_iff_compatible (c : ControllerConfig) (hostAddress : String) (files : Files)
    (a : Assembly) (catalogs : Nat → FixedCatalog) (start : Mesh) (steps : List FleetStep)
    (hvalid : c.validate = .ok ()) (hconsul : ∃ r ∈ c.registries, r.kind = .consul)
    (hbegins : ∀ r ∈ c.registries, '_' ∉ r.hostPrefix.toList)
    (hassemble : c.assemble hostAddress files = .ok a) (hstart : a.StartsOn c start) :
    ((a.fleet catalogs start).after steps).Converges ↔
      ((a.fleet catalogs start).after steps).Compatible := by
  have hsound := sound_fleet catalogs hvalid hconsul hbegins hassemble hstart
  have hlone := fun name => Fleet.lone_after hsound (lone_fleet hstart name) steps
  constructor
  · intro h
    exact Fleet.compatible_of_converges h (Fleet.sound_after hsound steps) hlone
  · intro h
    exact Fleet.converges_of_compatible h (Fleet.sound_after hsound steps)
      fun name => hlone name (h.agree name)

/-! ## Two catalogs in one namespace -/

/-- A catalog with one service that has one instance. -/
def oneService (service : String) : FixedCatalog :=
  ⟨.singleton service [], 7, fun _ => [{ nodeAddress := "10.0.0.1", servicePort := 80 }]⟩

/-- Two catalogs in one namespace, with what the hosts of each begin with. -/
def twoCatalogs (first second : String) : ControllerConfig where
  meshId := "mesh"
  space := "default"
  registries :=
    [{ kind := .consul, endpoint := "[::1]:8500", hostPrefix := first },
      { kind := .consul, endpoint := "[::1]:8501", hostPrefix := second }]

theorem validate_twoCatalogs (first second : String) :
    (twoCatalogs first second).validate = .ok () := by
  have hmesh : isBlankText "mesh" = false := by decide +kernel
  have hfirst : isBlankText "[::1]:8500" = false := by decide +kernel
  have hsecond : isBlankText "[::1]:8501" = false := by decide +kernel
  simp [validate, twoCatalogs, firstWithoutEndpoint, registryKind, hmesh, hfirst, hsecond,
    Except.map]

/-- The mesh on which two catalogs start. -/
def twoCatalogsMesh : Mesh where
  store := { spaces := .singleton "default" () }
  ownership := { reference := defaultOwner }

theorem startsOn_twoCatalogs (first second : String) {a : Assembly}
    (hspaces : ∀ space ∈ a.spaces, twoCatalogsMesh.store.hasSpace space = true) :
    a.StartsOn (twoCatalogs first second) twoCatalogsMesh where
  pristine := ⟨rfl, fun _ => rfl, fun _ => rfl, fun _ => rfl⟩
  up := rfl
  spaces := hspaces
  reference := rfl

/-- Hosts that begin differently do not get into each other's way. -/
theorem distinct_beginnings_converge :
    let c := twoCatalogs "a." "b."
    let catalogs : Nat → FixedCatalog := fun i => oneService (if i = 0 then "cart" else "shop")
    let steps : List FleetStep := [.refresh 0 .given, .refresh 1 .given]
    c.validate = .ok () ∧ ∃ a, c.assemble "10.0.0.1" {} = .ok a ∧ a.StartsOn c twoCatalogsMesh ∧
      ((a.fleet catalogs twoCatalogsMesh).after steps).Converges := by
  intro c catalogs steps
  have hvalid : c.validate = .ok () := validate_twoCatalogs _ _
  have hcompatible : (c.assemble "10.0.0.1" {}).toOption.any (fun a =>
      decide (∀ space ∈ a.spaces, twoCatalogsMesh.store.hasSpace space = true) &&
        decide ((a.fleet catalogs twoCatalogsMesh).after steps).Compatible) = true := by
    decide +kernel
  cases hassemble : c.assemble "10.0.0.1" {} with
  | error err =>
    rw [hassemble] at hcompatible
    cases hcompatible
  | ok a =>
    rw [hassemble] at hcompatible
    obtain ⟨hspaces, hcompatible⟩ := Bool.and_eq_true_iff.mp hcompatible
    have hstart := startsOn_twoCatalogs "a." "b." (of_decide_eq_true hspaces)
    refine ⟨hvalid, a, rfl, hstart, ?_⟩
    exact (converges_iff_compatible c "10.0.0.1" {} a catalogs twoCatalogsMesh steps hvalid
      ⟨_, List.mem_cons_self .., rfl⟩ (by decide +kernel) hassemble hstart).mpr
      (of_decide_eq_true hcompatible)

/-- Catalogs in one namespace whose hosts may begin in any way never converge: each reconciler
collects the entries of the other. -/
theorem equal_beginnings_diverge :
    let c := twoCatalogs "" ""
    let catalogs : Nat → FixedCatalog := fun i => oneService (if i = 0 then "cart" else "shop")
    let steps : List FleetStep := [.refresh 0 .given, .refresh 1 .given]
    c.validate = .ok () ∧ ∃ a, c.assemble "10.0.0.1" {} = .ok a ∧ a.StartsOn c twoCatalogsMesh ∧
      ¬ ((a.fleet catalogs twoCatalogsMesh).after steps).Converges := by
  intro c catalogs steps
  have hvalid : c.validate = .ok () := validate_twoCatalogs _ _
  have hcompatible : (c.assemble "10.0.0.1" {}).toOption.any (fun a =>
      decide (∀ space ∈ a.spaces, twoCatalogsMesh.store.hasSpace space = true) &&
        decide (¬ ((a.fleet catalogs twoCatalogsMesh).after steps).Compatible)) = true := by
    decide +kernel
  cases hassemble : c.assemble "10.0.0.1" {} with
  | error err =>
    rw [hassemble] at hcompatible
    cases hcompatible
  | ok a =>
    rw [hassemble] at hcompatible
    obtain ⟨hspaces, hcompatible⟩ := Bool.and_eq_true_iff.mp hcompatible
    have hstart := startsOn_twoCatalogs "" "" (of_decide_eq_true hspaces)
    have hsound := sound_fleet catalogs hvalid ⟨_, List.mem_cons_self .., rfl⟩
      (by decide +kernel) hassemble hstart
    refine ⟨hvalid, a, rfl, hstart, fun hconverges => ?_⟩
    exact of_decide_eq_true hcompatible (Fleet.compatible_of_converges hconverges
      (Fleet.sound_after hsound steps)
      fun name => Fleet.lone_after hsound (lone_fleet hstart name) steps)

end ControllerConfig

end MeshRegistry
