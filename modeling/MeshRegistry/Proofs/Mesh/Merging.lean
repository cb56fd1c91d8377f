import MeshRegistry.Proofs.Mesh.Attempts
import Mathlib.Data.List.Basic
import Mathlib.Tactic.Push
/-!
# Merging into objects

An object with the `update` annotation takes over the endpoints of an entry by a merge. The merge
keeps the endpoints that somebody has weighted by hand, which are those of any weight but one, and
puts the wanted endpoints behind them. What has been put there is not marked as wanted: in the next
merge an endpoint counts as weighted by hand because of its weight alone, whoever has brought it.

So the kept endpoints of an object only ever grow at their end. And a second merge of the same
entry may find other endpoints to keep than the first one: it changes the object once more unless
the endpoints that the first merge has put behind the kept ones have those of weight one last. From
the second merge on nothing changes.

## Main definitions

- `newcomers`: the wanted endpoints that a merge puts behind the kept ones.
- `UnitWeightsLast`: endpoints that another merge leaves as they are.
- `Mesh.UpToDate`: applying an entry finds nothing to do.

## Main results

- `mergeEndpoints_self_eq_iff`: when another merge changes nothing.
- `Mesh.applied_again_iff`: when an entry that has been applied is up to date.
- `MeshApi.Relays.weighted_endpoints_survive`: the kept endpoints along a run.
-/

namespace MeshRegistry

/-! ## Merging endpoints -/

/-- The wanted endpoints that a merge puts behind the kept ones. -/
def newcomers (existing wanted : List Endpoint) : List Endpoint :=
  wanted.filter fun w => !(keptEndpoints existing).any fun k => k.address == w.address

/-- The endpoints of weight one stand last, and none of them has the address of another one. -/
structure UnitWeightsLast (endpoints : List Endpoint) : Prop where
  /-- No endpoint of weight one stands before one of another weight. -/
  order : endpoints.Pairwise fun a b => b.weight ≠ some 1 → a.weight ≠ some 1
  /-- No endpoint of weight one has the address of one of another weight. -/
  apart : ∀ a ∈ endpoints, ∀ b ∈ endpoints,
    a.weight = some 1 → b.weight ≠ some 1 → a.address ≠ b.address

section Endpoints

variable {existing wanted endpoints : List Endpoint} {e : Endpoint}

theorem mergeEndpoints_eq (existing wanted : List Endpoint) :
    mergeEndpoints existing wanted = keptEndpoints existing ++ newcomers existing wanted := rfl

theorem mem_keptEndpoints_iff : e ∈ keptEndpoints existing ↔ e ∈ existing ∧ e.weight ≠ some 1 := by
  simp [keptEndpoints]

theorem mem_newcomers_iff :
    e ∈ newcomers existing wanted ↔
      e ∈ wanted ∧ ∀ kept ∈ keptEndpoints existing, kept.address ≠ e.address := by
  simp [newcomers]

theorem keptEndpoints_append (front back : List Endpoint) :
    keptEndpoints (front ++ back) = keptEndpoints front ++ keptEndpoints back :=
  List.filter_append ..

/-- What is kept once is kept again. -/
theorem keptEndpoints_mergeEndpoints (existing wanted : List Endpoint) :
    keptEndpoints (mergeEndpoints existing wanted) =
      keptEndpoints existing ++ keptEndpoints (newcomers existing wanted) := by
  rw [mergeEndpoints_eq, keptEndpoints_append, keptEndpoints, keptEndpoints, List.filter_filter]
  simp

/-- A wanted endpoint is there after a merge, or a kept one has its address. -/
theorem address_mem_mergeEndpoints (existing : List Endpoint) (h : e ∈ wanted) :
    e.address ∈ (mergeEndpoints existing wanted).map (·.address) := by
  rw [mergeEndpoints_eq, List.map_append, List.mem_append]
  by_cases hnew : e ∈ newcomers existing wanted
  · exact .inr (List.mem_map_of_mem hnew)
  · rw [mem_newcomers_iff] at hnew
    push Not at hnew
    obtain ⟨kept, hkept, haddress⟩ := hnew h
    exact .inl (List.mem_map.mpr ⟨kept, hkept, haddress⟩)

/-- After a merge of the same endpoints, only what that merge has put behind the kept ones can be
put there again. -/
theorem newcomers_mergeEndpoints (existing wanted : List Endpoint) :
    newcomers (mergeEndpoints existing wanted) wanted =
      newcomers (newcomers existing wanted) (newcomers existing wanted) := by
  let added := newcomers existing wanted
  calc newcomers (mergeEndpoints existing wanted) wanted
      = wanted.filter fun w => (!(keptEndpoints added).any fun k => k.address == w.address) &&
          !(keptEndpoints existing).any fun k => k.address == w.address := by
        -- No endpoint is in the way that was kept before, and none that is kept only now.
        rw [newcomers, keptEndpoints_mergeEndpoints]
        refine List.filter_congr fun w _ => ?_
        rw [List.any_append, Bool.not_or, Bool.and_comm]
    _ = added.filter fun w => !(keptEndpoints added).any fun k => k.address == w.address :=
        (List.filter_filter ..).symm
    _ = newcomers added added := rfl

/-- A second merge merges the newcomers with themselves, behind what is kept anyway. -/
theorem mergeEndpoints_mergeEndpoints (existing wanted : List Endpoint) :
    mergeEndpoints (mergeEndpoints existing wanted) wanted =
      keptEndpoints existing ++
        mergeEndpoints (newcomers existing wanted) (newcomers existing wanted) := by
  rw [mergeEndpoints_eq, keptEndpoints_mergeEndpoints, newcomers_mergeEndpoints, List.append_assoc,
    ← mergeEndpoints_eq]

/-- A list is its endpoints of other weights, followed by those of weight one, if the latter stand
last. -/
theorem keptEndpoints_append_units
    (h : endpoints.Pairwise fun a b => b.weight ≠ some 1 → a.weight ≠ some 1) :
    keptEndpoints endpoints ++ endpoints.filter (·.weight = some 1) = endpoints := by
  induction endpoints with
  | nil => rfl
  | cons first rest ih =>
    obtain ⟨hfirst, hrest⟩ := List.pairwise_cons.mp h
    by_cases hunit : first.weight = some 1
    · -- Nothing that comes after an endpoint of weight one is kept.
      have hunits : ∀ e ∈ first :: rest, e.weight = some 1 := by
        refine List.forall_mem_cons.mpr ⟨hunit, fun e he => ?_⟩
        by_contra hother
        exact hfirst e he hother hunit
      have hnone : keptEndpoints (first :: rest) = [] :=
        List.filter_eq_nil_iff.mpr fun e he => by simp [hunits e he]
      have hall : (first :: rest).filter (·.weight = some 1) = first :: rest :=
        List.filter_eq_self.mpr fun e he => by simp [hunits e he]
      rw [hnone, hall, List.nil_append]
    · simpa [keptEndpoints, hunit] using ih hrest

/-- What a list gains when it is merged with itself has weight one. -/
theorem weight_of_mem_newcomers_self (h : e ∈ newcomers endpoints endpoints) :
    e.weight = some 1 := by
  obtain ⟨hmem, hfree⟩ := mem_newcomers_iff.mp h
  -- Any other endpoint is kept, and has its own address.
  by_contra hother
  exact hfree e (mem_keptEndpoints_iff.mpr ⟨hmem, hother⟩) rfl

theorem unitWeightsLast_of_units (h : ∀ e ∈ endpoints, e.weight = some 1) :
    UnitWeightsLast endpoints where
  order := List.pairwise_of_forall_mem_list fun _ _ b hb hother => absurd (h b hb) hother
  apart _ _ b hb _ hother := absurd (h b hb) hother

/-- To merge a list with itself changes nothing exactly if the endpoints of weight one stand last
and apart. -/
theorem mergeEndpoints_self_eq_iff :
    mergeEndpoints endpoints endpoints = endpoints ↔ UnitWeightsLast endpoints := by
  constructor
  · intro hsame
    refine ⟨?_, fun a ha b hb haunit hbother haddress => ?_⟩
    · rw [← hsame, mergeEndpoints_eq, List.pairwise_append]
      refine ⟨?_, ?_, ?_⟩
      · exact List.pairwise_of_forall_mem_list fun a ha b _ _ => (mem_keptEndpoints_iff.mp ha).2
      · exact (unitWeightsLast_of_units fun _ => weight_of_mem_newcomers_self).order
      · exact fun a ha b _ _ => (mem_keptEndpoints_iff.mp ha).2
    · -- An endpoint of weight one is there only as a newcomer, past all kept addresses.
      rw [← hsame, mergeEndpoints_eq, List.mem_append, mem_keptEndpoints_iff] at ha
      obtain ⟨-, hother⟩ | hnew := ha
      · exact hother haunit
      · exact (mem_newcomers_iff.mp hnew).2 b (mem_keptEndpoints_iff.mpr ⟨hb, hbother⟩)
          haddress.symm
  · intro h
    have hnew : newcomers endpoints endpoints = endpoints.filter (·.weight = some 1) := by
      -- The kept endpoints are in the way of their own addresses, and here of no others.
      refine List.filter_congr fun e he => ?_
      by_cases hweight : e.weight = some 1
      · have hfree : ∀ kept ∈ keptEndpoints endpoints, kept.address ≠ e.address :=
          fun kept hkept haddress =>
            have hmem := mem_keptEndpoints_iff.mp hkept
            h.apart e he kept hmem.1 hweight hmem.2 haddress.symm
        simpa [hweight] using hfree
      · have hkept : e ∈ keptEndpoints endpoints := mem_keptEndpoints_iff.mpr ⟨he, hweight⟩
        simpa [hweight] using ⟨e, hkept, rfl⟩
    rw [mergeEndpoints_eq, hnew, keptEndpoints_append_units h.order]

theorem mergeEndpoints_again_eq_iff (existing wanted : List Endpoint) :
    mergeEndpoints (mergeEndpoints existing wanted) wanted = mergeEndpoints existing wanted ↔
      UnitWeightsLast (newcomers existing wanted) := by
  -- What is kept from before stands in front either way and cancels.
  rw [mergeEndpoints_mergeEndpoints, mergeEndpoints_eq existing, List.append_cancel_left_eq,
    mergeEndpoints_self_eq_iff]

theorem mergeEndpoints_third (existing wanted : List Endpoint) :
    mergeEndpoints (mergeEndpoints (mergeEndpoints existing wanted) wanted) wanted =
      mergeEndpoints (mergeEndpoints existing wanted) wanted := by
  -- The newcomers of the second merge are those of a list merged with itself.
  rw [mergeEndpoints_again_eq_iff, newcomers_mergeEndpoints]
  exact unitWeightsLast_of_units fun _ => weight_of_mem_newcomers_self

end Endpoints

/-! ## Objects that ask for a merge -/

namespace ServiceEntry

/-- The object has the `update` annotation, whatever its value. -/
def asksForMerge (e : ServiceEntry) : Bool := (e.annotation? mergeAnnotation).isSome

/-- The specification that an entry wants for an object with some endpoints, which may ask for a
merge. -/
def wantedSpec (e : ServiceEntry) (asks : Bool) (existing : List Endpoint) : ServiceSpec :=
  if asks then { e.spec with endpoints := mergeEndpoints existing e.spec.endpoints } else e.spec

end ServiceEntry

theorem spec_applied (old e : ServiceEntry) :
    (applied old e).spec = e.wantedSpec old.asksForMerge old.spec.endpoints := by
  unfold applied ServiceEntry.wantedSpec ServiceEntry.asksForMerge
  split <;> rfl

/-- An object goes on asking for merges. The value of the annotation may change. -/
theorem asksForMerge_applied (old e : ServiceEntry) :
    (applied old e).asksForMerge = old.asksForMerge := by
  unfold applied
  split
  next hasks =>
    obtain ⟨value, hvalue⟩ := Option.isSome_iff_exists.mp hasks
    obtain ⟨annotations, hannotations, hget⟩ := Option.bind_eq_some_iff.mp hvalue
    simp [ServiceEntry.asksForMerge, ServiceEntry.annotation?, ServiceEntry.withSpec, markMerged,
      hannotations, hget]
  next => rfl

section WantedSpec

variable (e : ServiceEntry) (asks : Bool) (existing : List Endpoint)

theorem wantedSpec_again_iff :
    e.wantedSpec asks existing = e.wantedSpec asks (e.wantedSpec asks existing).endpoints ↔
      (asks = true → UnitWeightsLast (newcomers existing e.spec.endpoints)) := by
  cases asks with
  | false => simp [ServiceEntry.wantedSpec]
  | true =>
    rw [← mergeEndpoints_again_eq_iff]
    simp [ServiceEntry.wantedSpec, eq_comm]

theorem wantedSpec_third :
    let again := e.wantedSpec asks (e.wantedSpec asks existing).endpoints
    again = e.wantedSpec asks again.endpoints := by
  cases asks with
  | false => rfl
  | true => simp [ServiceEntry.wantedSpec, mergeEndpoints_third]

end WantedSpec

namespace Mesh

section Again

variable {m : Mesh} {e : ServiceEntry} {outcome : ApplyOutcome}

/-! ## Applying an entry again -/

/-- To apply the entry finds nothing to do: it ends with that, and nothing is created or
replaced. -/
def UpToDate (e : ServiceEntry) (m : Mesh) : Prop :=
  ((applyEntry e).run api m).1 = .ok .unchanged ∧
    ∀ c ∈ (applyEntry e).calls api m, c.kind ≠ .create ∧ c.kind ≠ .update

/-- An entry is up to date exactly if its object has the specification that it wants for it. -/
theorem upToDate_iff (hup : m.store.down = false) (hkeyed : m.Keyed) :
    UpToDate e m ↔
      ∃ object, m.stored? e.key = some object ∧
        object.spec = e.wantedSpec object.asksForMerge object.spec.endpoints := by
  constructor
  · rintro ⟨hunchanged, -⟩
    have heffect := run_applyEntry_effect hup hkeyed e
    generalize (applyEntry e).run api m = ran at heffect hunchanged
    cases heffect with
    | unchanged old hold hsame => exact ⟨old, hold, hsame.trans (spec_applied old e)⟩
    | created => cases hunchanged
    | updated => cases hunchanged
    | refused => cases hunchanged
  · rintro ⟨object, hobject, hspec⟩
    have hsame : object.spec = (applied object e).spec := hspec.trans (spec_applied object e).symm
    refine ⟨(run_applyEntry_effect hup hkeyed e).unchanged_of_same hobject hsame, ?_⟩
    simp [calls_applyEntry_of_same hup hobject hsame, Call.kind]

/-- An entry that lacks nothing can always be applied. -/
theorem exists_outcome_of_named (hup : m.store.down = false) (hkeyed : m.Keyed)
    (hnamed : MeshStore.isNamed e = true) :
    ∃ outcome, ((applyEntry e).run api m).1 = .ok outcome := by
  have heffect := run_applyEntry_effect hup hkeyed e
  generalize (applyEntry e).run api m = ran at heffect
  cases heffect with
  | refused err hunnamed => exact absurd (hnamed.symm.trans hunnamed) (by simp)
  | _ => exact ⟨_, rfl⟩

theorem up_of_outcome (hok : ((applyEntry e).run api m).1 = .ok outcome) :
    m.store.down = false := by
  cases hup : m.store.down with
  | false => rfl
  | true =>
    have hrefused : m.perform (.ensureSpace e.space) = (.error MeshStore.outage, m) := by
      simp [perform, MeshStore.ensureSpace, hup]
    unfold applyEntry at hok
    rw [Session.run_bind, Session.run_call, api_perform, hrefused] at hok
    cases hok

/-- What a success leaves: the object has the specification that the entry wanted for the endpoints
that were there before, and asks for merges as before. It was there already, or the entry can be
written. -/
theorem ApplyEffect.exists_stored {ran : Except MeshError ApplyOutcome × Mesh}
    (heffect : ApplyEffect e m ran) (hkeyed : m.Keyed) (hok : ran.1 = .ok outcome) :
    let present := ((m.stored? e.key).map (·.spec.endpoints)).getD []
    ∃ object, ran.2.stored? e.key = some object ∧
      object.spec = e.wantedSpec object.asksForMerge present ∧
      (∀ old, m.stored? e.key = some old → object.asksForMerge = old.asksForMerge) ∧
      (m.stored? e.key = some object ∨ MeshStore.isNamed e = true) := by
  intro present
  simp only [present]
  cases heffect with
  | created habsent hnamed =>
    rw [habsent]
    refine ⟨_, (stored?_created _ e e.key).trans (if_pos rfl), ?_, by simp, .inr hnamed⟩
    -- There was nothing to merge with.
    simp [ServiceEntry.wantedSpec, mergeEndpoints_eq, keptEndpoints, newcomers]
  | unchanged old hold hsame =>
    rw [hold]
    exact ⟨old, hold, hsame.trans (spec_applied old e), by simp, .inl rfl⟩
  | updated old hold hother hnamed =>
    have hkey : (applied old e).key = e.key := (key_applied old e).trans (hkeyed _ _ hold)
    rw [hold]
    refine ⟨_, (stored?_replaced _ (applied old e) old e.key).trans (if_pos hkey.symm), ?_, ?_,
      .inr hnamed⟩
    · show (applied old e).spec = e.wantedSpec (applied old e).asksForMerge old.spec.endpoints
      rw [asksForMerge_applied, spec_applied]
    · rintro _ ⟨⟩
      exact asksForMerge_applied old e
  | refused => cases hok

/-- An entry that has been applied is up to date exactly if its object does not ask for merges, or
if of the endpoints that have been put behind the kept ones those of weight one stand last, and
apart from the others. Applied a second time, it is up to date in any case. -/
theorem applied_again_iff (hkeyed : m.Keyed) (hok : ((applyEntry e).run api m).1 = .ok outcome) :
    let once := ((applyEntry e).run api m).2
    let twice := ((applyEntry e).run api once).2
    let present := ((m.stored? e.key).map (·.spec.endpoints)).getD []
    (UpToDate e once ↔ ((once.stored? e.key).any (·.asksForMerge) = true →
      UnitWeightsLast (newcomers present e.spec.endpoints))) ∧
    UpToDate e twice := by
  intro once twice present
  have hup := up_of_outcome hok
  have hup' : once.store.down = false := ((applyEntry e).down_run m).trans hup
  have hkeyed' : once.Keyed := hkeyed.run (applyEntry e)
  have heffect := run_applyEntry_effect hup hkeyed e
  have heffect' := run_applyEntry_effect hup' hkeyed' e
  -- The object has what was wanted for the endpoints before, so the second merge decides.
  obtain ⟨object, hobject, hspec, hasks, hnext⟩ := heffect.exists_stored hkeyed hok
  change once.stored? e.key = some object at hobject
  constructor
  · rw [upToDate_iff hup' hkeyed', hobject, Option.any_some, ← wantedSpec_again_iff, ← hspec]
    simp
  · -- The second time succeeds as well: it finds nothing to do, or can write the entry.
    obtain ⟨outcome', hok'⟩ : ∃ outcome, ((applyEntry e).run api once).1 = .ok outcome := by
      rcases hnext with hthere | hnamed
      · rw [hthere] at hspec
        exact ⟨_, ((upToDate_iff hup' hkeyed').mpr ⟨object, hobject, hspec⟩).1⟩
      · exact exists_outcome_of_named hup' hkeyed' hnamed
    obtain ⟨object', hobject', hspec', hasks', -⟩ := heffect'.exists_stored hkeyed' hok'
    -- So the specification is that of two merges, and a third one would leave it as it is.
    rw [hobject, Option.map_some, Option.getD_some, hasks' object hobject, hspec] at hspec'
    refine (upToDate_iff (((applyEntry e).down_run once).trans hup')
      (hkeyed'.run (applyEntry e))).mpr ⟨object', hobject', ?_⟩
    rw [hasks' object hobject, hspec']
    exact wantedSpec_third e _ _

/-- An object with an endpoint of weight five takes over one without a weight and one of weight one,
and then has nothing left to take over. -/
theorem merged_entry_up_to_date :
    let key : ObjectMeta := { name := some "orders", space := some "mesh" }
    let weighted : ServiceEntry :=
      { metadata := { key with annotations := some (.singleton mergeAnnotation "true") }
        spec := { hosts := ["orders"], endpoints := [{ address := "a", weight := some 5 }] } }
    let e : ServiceEntry :=
      { metadata := key
        spec :=
          { hosts := ["orders"]
            endpoints := [{ address := "b" }, { address := "a" },
              { address := "c", weight := some 1 }] } }
    let m := (fresh {}).seed weighted
    let once := ((applyEntry e).run api m).2
    m.Keyed ∧ ((applyEntry e).run api m).1 = .ok .updated ∧
      (once.stored? e.key).any (·.asksForMerge) = true ∧ UpToDate e once := by
  intro key weighted e m once
  have hkeyed : m.Keyed := keyed_after (fun _ _ he => by cases he) [.seed weighted]
  have hok : ((applyEntry e).run api m).1 = .ok .updated := by decide +kernel
  have hlast : UnitWeightsLast
      (newcomers (((m.stored? e.key).map (·.spec.endpoints)).getD []) e.spec.endpoints) :=
    ⟨by decide +kernel, by decide +kernel⟩
  exact ⟨hkeyed, hok, by decide +kernel, (applied_again_iff hkeyed hok).1.mpr fun _ => hlast⟩

/-- An endpoint of weight one that stands before one of weight five changes places with it when the
entry is applied again. -/
theorem merged_entry_updated_again :
    let key : ObjectMeta := { name := some "orders", space := some "mesh" }
    let marked : ServiceEntry :=
      { metadata := { key with annotations := some (.singleton mergeAnnotation "true") }
        spec := { hosts := ["orders"] } }
    let e : ServiceEntry :=
      { metadata := key
        spec :=
          { hosts := ["orders"]
            endpoints := [{ address := "a", weight := some 1 },
              { address := "b", weight := some 5 }] } }
    let m := (fresh {}).seed marked
    let once := ((applyEntry e).run api m).2
    ((applyEntry e).run api m).1 = .ok .updated ∧
      ((applyEntry e).run api once).1 = .ok .updated ∧
      .update ∈ ((applyEntry e).calls api once).map Call.kind ∧ ¬ UpToDate e once := by
  intro key marked e m once
  have hagain : ((applyEntry e).run api once).1 = .ok .updated := by decide +kernel
  refine ⟨by decide +kernel, hagain, by decide +kernel, fun h => ?_⟩
  rw [h.1] at hagain
  cases hagain

end Again

/-! ## Along a run -/

/-- What an attempt makes of an object that asks for merges: the object goes on asking for them, and
keeps what it has kept. If the attempt fails it stays as it is. Otherwise the kept endpoints come
first, and all wanted addresses are there. -/
theorem exists_stored_attempt {m : Mesh} {e old : ServiceEntry} (failures : FailurePattern)
    (hkeyed : m.Keyed) (hold : m.stored? e.key = some old) (hasks : old.asksForMerge = true) :
    let ran := m.attempt ⟨.upsert e, failures⟩
    ∃ object, ran.2.stored? e.key = some object ∧ object.asksForMerge = true ∧
      keptEndpoints old.spec.endpoints <+: keptEndpoints object.spec.endpoints ∧
      (ran.1.isOk = false → object = old) ∧
      (ran.1.isOk = true → keptEndpoints old.spec.endpoints <+: object.spec.endpoints ∧
        ∀ wanted ∈ e.spec.endpoints,
          wanted.address ∈ object.spec.endpoints.map (·.address)) := by
  intro ran
  have heffect : AttemptEffect e failures m ran := attempt_upsert_effect hkeyed e failures
  generalize ran = ran at heffect
  cases heffect with
  | failed err after hfails hkept =>
    refine ⟨old, (hkept e.key).trans hold, hasks, List.prefix_refl _, fun _ => rfl, fun hok => ?_⟩
    cases hok
  | made ran hup heffect =>
    cases hresult : ran.1 with
    | ok outcome =>
      obtain ⟨object, hobject, hspec, hsame, -⟩ := heffect.exists_stored hkeyed hresult
      have hendpoints : object.spec.endpoints =
          mergeEndpoints old.spec.endpoints e.spec.endpoints := by
        rw [hspec, hsame old hold, hasks, hold]
        rfl
      refine ⟨object, hobject, (hsame old hold).trans hasks, ?_, nofun, fun _ => ⟨?_, ?_⟩⟩
      · rw [hendpoints, keptEndpoints_mergeEndpoints]
        exact List.prefix_append ..
      · rw [hendpoints, mergeEndpoints_eq]
        exact List.prefix_append ..
      · rw [hendpoints]
        exact fun wanted hwanted => address_mem_mergeEndpoints _ hwanted
    | error err =>
      -- A refusal of the mesh leaves the object alone as well.
      have hkept : ran.2.stored? e.key = some old := by
        cases heffect with
        | refused => exact hold
        | _ => cases hresult
      exact ⟨old, hkept, hasks, List.prefix_refl _, fun _ => rfl, nofun⟩

end Mesh

open Mesh in
/-- The endpoints that somebody has weighted by hand survive every run of entries for an object that
asks for merges, whatever fails: as soon as one of them has been applied they are the beginning of
the list of endpoints, unaltered and in their order, and until then the object is what it was. The
object goes on asking for merges, and has all addresses of an entry that has just been applied. -/
theorem MeshApi.Relays.weighted_endpoints_survive {σ : Type} {api : MeshApi σ} {mesh : σ → Mesh}
    (hapi : api.Relays mesh) {s : σ} (hkeyed : (mesh s).Keyed) {key : ObjectKey}
    {start : ServiceEntry} (hstart : (mesh s).stored? key = some start)
    (hasks : start.asksForMerge = true) {entries : List ServiceEntry}
    (hkeys : ∀ e ∈ entries, e.key = key) :
    let ran := (applyAll (entries.map .upsert)).run api s
    ∃ object, (mesh ran.2).stored? key = some object ∧ object.asksForMerge = true ∧
      (if ran.1.any (·.isOk) then
        keptEndpoints start.spec.endpoints <+: object.spec.endpoints
      else object = start) ∧
      (ran.1.getLast?.any (·.isOk) = true → ∀ last ∈ entries.getLast?,
        ∀ wanted ∈ last.spec.endpoints,
          wanted.address ∈ object.spec.endpoints.map (·.address)) := by
  induction entries generalizing s start with
  | nil => exact ⟨start, hstart, hasks, rfl, nofun⟩
  | cons e rest ih =>
    obtain ⟨rfl, hkeys⟩ := List.forall_mem_cons.mp hkeys
    -- The first entry is attempted, and the run goes on from what that leaves.
    obtain ⟨failures, hattempt⟩ := hapi.exists_attempt (.upsert e) s
    obtain ⟨next, hnext, hasks', hkept, hfailed, hdone⟩ :=
      exists_stored_attempt failures hkeyed hstart hasks
    have hkeyed' := hkeyed.attempt ⟨.upsert e, failures⟩
    rw [hattempt] at hnext hfailed hdone hkeyed'
    obtain ⟨object, hobject, hasks'', hsurvives, hlast⟩ := ih hkeyed' hnext hasks' hkeys
    rw [List.map_cons, run_applyAll_cons]
    refine ⟨object, hobject, hasks'', ?_, ?_⟩
    · -- If a later entry is applied, what the first attempt has kept is the beginning of what is
      -- kept then. If none is, the object is what the first attempt has left.
      rw [List.any_cons]
      by_cases hlater : (((applyAll (rest.map .upsert)).run api
          ((EntryOp.upsert e).apply.run api s).2).1.any (·.isOk)) = true
      · rw [if_pos hlater] at hsurvives
        rw [hlater, Bool.or_true, if_pos rfl]
        exact hkept.trans hsurvives
      · rw [if_neg hlater] at hsurvives
        rw [eq_false_of_ne_true hlater, Bool.or_false, hsurvives]
        cases hfirst : ((EntryOp.upsert e).apply.run api s).1.isOk with
        | true => exact (hdone hfirst).1
        | false => exact hfailed hfirst
    · cases rest with
      | nil =>
        -- Nothing has happened since the only entry was applied.
        obtain rfl : object = next := hsurvives
        rintro hok last ⟨⟩
        exact (hdone hok).2
      | cons second rest =>
        rw [List.map_cons, run_applyAll_cons] at hlast ⊢
        exact hlast

/-- The first update fails, and the second entry is merged behind the endpoint of weight five. -/
theorem weighted_endpoint_first_after_failure :
    let placed : ObjectMeta := { name := some "orders", space := some "mesh" }
    let marked : ServiceEntry :=
      { metadata := { placed with annotations := some (.singleton mergeAnnotation "true") }
        spec :=
          { hosts := ["orders"]
            endpoints := [{ address := "a", weight := some 1 },
              { address := "b", weight := some 5 }] } }
    let wanting : List Endpoint → ServiceEntry := fun endpoints =>
      { metadata := placed, spec := { hosts := ["orders"], endpoints } }
    let entries := [wanting [{ address := "c" }], wanting [{ address := "d" }]]
    let m := (Mesh.fresh {}).seed marked
    let start := (Mesh.fresh {}).stamped marked
    let ran := (applyAll (entries.map .upsert)).run Mesh.api.withFaults
      ([⟨.update, .unavailable⟩], m)
    m.Keyed ∧ m.stored? marked.key = some start ∧ start.asksForMerge = true ∧
      (∀ e ∈ entries, e.key = marked.key) ∧ ran.1.map (·.isOk) = [false, true] ∧
      ∃ object, ran.2.2.stored? marked.key = some object ∧ object.asksForMerge = true ∧
        keptEndpoints start.spec.endpoints <+: object.spec.endpoints ∧
        "d" ∈ object.spec.endpoints.map (·.address) := by
  intro placed marked wanting entries m start ran
  have hkeyed : m.Keyed := Mesh.keyed_after (fun _ _ he => by cases he) [.seed marked]
  have hstart : m.stored? marked.key = some start := by decide +kernel
  have hkeys : ∀ e ∈ entries, e.key = marked.key := by decide +kernel
  have hany : ran.1.any (·.isOk) = true := by decide +kernel
  have hlast : ran.1.getLast?.any (·.isOk) = true := by decide +kernel
  obtain ⟨object, hobject, hasks, hsurvives, haddresses⟩ :=
    Mesh.relays_api.withFaults.weighted_endpoints_survive (s := ([⟨.update, .unavailable⟩], m))
      hkeyed hstart (by decide +kernel) hkeys
  refine ⟨hkeyed, hstart, by decide +kernel, hkeys, by decide +kernel, object, hobject, hasks,
    ?_, ?_⟩
  · rwa [if_pos hany] at hsurvives
  · exact haddresses hlast _ rfl _ (List.mem_singleton_self _)

/-- An update that fails leaves an endpoint of weight five where it is, behind one of weight one. -/
theorem weighted_endpoint_second_after_failure :
    let placed : ObjectMeta := { name := some "orders", space := some "mesh" }
    let marked : ServiceEntry :=
      { metadata := { placed with annotations := some (.singleton mergeAnnotation "true") }
        spec :=
          { hosts := ["orders"]
            endpoints := [{ address := "a", weight := some 1 },
              { address := "b", weight := some 5 }] } }
    let e : ServiceEntry :=
      { metadata := placed, spec := { hosts := ["orders"], endpoints := [{ address := "c" }] } }
    let m := (Mesh.fresh {}).seed marked
    let start := (Mesh.fresh {}).stamped marked
    let ran := (applyEntry e).run Mesh.api.withFaults ([⟨.update, .unavailable⟩], m)
    m.stored? e.key = some start ∧ start.asksForMerge = true ∧ ran.1.isOk = false ∧
      ran.2.2.stored? e.key = some start ∧
      ¬ keptEndpoints start.spec.endpoints <+: start.spec.endpoints := by
  decide +kernel

end MeshRegistry
