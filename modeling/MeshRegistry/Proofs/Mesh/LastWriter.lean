import MeshRegistry.Proofs.Mesh.Attempts
import MeshRegistry.Proofs.Mesh.Slots
import Mathlib.Data.List.Induction
/-!
# The last operation wins

Operations for different objects do not get into each other's way. What a run leaves under a key
depends on the operations for that key and on which of their calls fail, on nothing that happens to
other objects. Only the version of the object tells of those, as it counts the writes to all of
them.

While no call fails, the last operation for a key decides: a removal leaves nothing, and an entry
leaves its specification. It does so in the object that was there, if there was one. The metadata
of the object are then those that it was founded with: they come from the entry that created it, or
the object was there from the start.

## Main definitions

- `Mesh.content`: what is stored under a key, versions left out.
- `Attempt.leaves`: what an attempt makes of its object.
- `FoundedBy`: where the metadata of an object come from, and `FoundedBy.unique`: from one place.

## Main results

- `Mesh.content_attemptAll`: the attempts for a key decide about its object.
- `leftBy_cases`: what operations leave while none of their calls fails.
- `Mesh.last_writer_wins`: runs of operations, one object at a time.
-/

namespace MeshRegistry

/-! ## What attempts leave -/

theorem ServiceEntry.annotation?_unversioned (e : ServiceEntry) (k : String) :
    e.unversioned.annotation? k = e.annotation? k := rfl

theorem unversioned_applied (old e : ServiceEntry) :
    (applied old.unversioned e).unversioned = (applied old e).unversioned := by
  unfold applied
  rw [ServiceEntry.annotation?_unversioned]
  split <;> rfl

/-- The object that an entry makes of the one under its key, versions left out. -/
def ServiceEntry.brought (e : ServiceEntry) : Option ServiceEntry → ServiceEntry
  | none => e.unversioned
  | some old => (if old.spec = (applied old e).spec then old else applied old e).unversioned

section Brought

variable {old e : ServiceEntry}

theorem spec_applied_unversioned (old e : ServiceEntry) :
    (applied old.unversioned e).spec = (applied old e).spec := by
  rw [← ServiceEntry.spec_unversioned, unversioned_applied, ServiceEntry.spec_unversioned]

theorem brought_of_same (h : old.spec = (applied old e).spec) :
    e.brought (some old.unversioned) = old.unversioned := by
  have h' : old.unversioned.spec = (applied old.unversioned e).spec :=
    h.trans (spec_applied_unversioned old e).symm
  rw [ServiceEntry.brought, if_pos h']
  rfl

theorem brought_of_other (h : old.spec ≠ (applied old e).spec) :
    e.brought (some old.unversioned) = (applied old e).unversioned := by
  have h' : old.unversioned.spec ≠ (applied old.unversioned e).spec := by
    rwa [spec_applied_unversioned]
  rw [ServiceEntry.brought, if_neg h', unversioned_applied]

theorem brought_of_unmarked (h : old.annotation? mergeAnnotation = none) :
    e.brought (some old) = (old.withSpec e.spec).unversioned := by
  dsimp only [ServiceEntry.brought]
  rw [applied_of_unmarked h]
  split
  next hsame =>
    -- To write the specification that is there already changes nothing.
    rw [← show old.spec = e.spec from hsame]
    rfl
  next => rfl

end Brought

/-- What an attempt leaves of the object under its key. -/
def Attempt.leaves (a : Attempt) (down : Bool) (object : Option ServiceEntry) :
    Option ServiceEntry :=
  match a.op with
  | .upsert e =>
    if down = false ∧ a.failures.Allows 3 ∧ MeshStore.isNamed e = true then
      some (e.brought object)
    else object
  | .delete _ =>
    if down = false ∧ a.failures.Allows 2 then none else object

/-- The attempts that are about a key. -/
def attemptsAt (key : ObjectKey) (attempts : List Attempt) : List Attempt :=
  attempts.filter (·.op.entry.key = key)

namespace Mesh

/-- The object that is stored under a key, without its version. -/
def content (m : Mesh) (key : ObjectKey) : Option ServiceEntry :=
  (m.stored? key).map ServiceEntry.unversioned

section Attempts

variable {m : Mesh} {e : ServiceEntry} {a : Attempt} {key : ObjectKey}

theorem content_attempt_upsert (hkeyed : m.Keyed) (e : ServiceEntry) (failures : FailurePattern) :
    (m.attempt ⟨.upsert e, failures⟩).2.content e.key =
      Attempt.leaves ⟨.upsert e, failures⟩ m.store.down (m.content e.key) := by
  have heffect := attempt_upsert_effect hkeyed e failures
  generalize m.attempt ⟨.upsert e, failures⟩ = ran at heffect
  dsimp only [Attempt.leaves]
  cases heffect with
  | failed err after hfails hkept =>
    have hnot : ¬ (m.store.down = false ∧ failures.Allows 3 ∧ MeshStore.isNamed e = true) := by
      rintro ⟨hup, hallows, -⟩
      rcases hfails with hdown | hfails
      · rw [hup] at hdown
        cases hdown
      · exact hfails hallows
    rw [if_neg hnot, content, content, hkept]
  | made ran hup heffect hheeded =>
    cases heffect with
    | created habsent hnamed =>
      have hallows : failures.Allows 3 := hheeded.resolve_left nofun
      rw [if_pos ⟨hup, hallows, hnamed⟩, content, content, habsent, stored?_created, if_pos rfl]
      rfl
    | unchanged old hold hsame =>
      -- Whether a third call would have failed does not matter, as there is none.
      have hkept : m.content e.key = some old.unversioned := congrArg _ hold
      rw [hkept, brought_of_same hsame, ite_self]
      exact hkept
    | updated old hold hother hnamed =>
      have hallows : failures.Allows 3 := hheeded.resolve_left nofun
      have hkey : (applied old e).key = e.key := (key_applied old e).trans (hkeyed _ _ hold)
      have hbefore : m.content e.key = some old.unversioned := congrArg _ hold
      rw [if_pos ⟨hup, hallows, hnamed⟩, hbefore, brought_of_other hother, content,
        stored?_replaced, if_pos hkey.symm]
      rfl
    | refused err hunnamed =>
      rw [if_neg fun h => absurd (h.2.2.symm.trans hunnamed) (by simp)]
      rfl

theorem content_attempt (hkeyed : m.Keyed) (a : Attempt) :
    (m.attempt a).2.content a.op.entry.key =
      a.leaves m.store.down (m.content a.op.entry.key) := by
  obtain ⟨op, failures⟩ := a
  cases op with
  | upsert e => exact content_attempt_upsert hkeyed e failures
  | delete e =>
    show (m.attempt ⟨.delete e, failures⟩).2.content e.key = _
    rw [content, stored?_attempt_delete]
    dsimp only [Attempt.leaves]
    split <;> rfl

theorem content_attempt_of_ne (hkeyed : m.Keyed) (h : a.op.entry.key ≠ key) :
    (m.attempt a).2.content key = m.content key := by
  rw [content, stored?_attempt_of_ne hkeyed h, content]

/-- What attempts leave under a key is what those for the key make of the object, one after the
other. -/
theorem content_attemptAll (hkeyed : m.Keyed) (attempts : List Attempt) (key : ObjectKey) :
    (m.attemptAll attempts).content key =
      (attemptsAt key attempts).foldl (fun object a => a.leaves m.store.down object)
        (m.content key) := by
  unfold attemptsAt
  -- An attempt for another key neither changes the object nor whether calls are refused.
  induction attempts generalizing m with
  | nil => rfl
  | cons a rest ih =>
    rw [attemptAll, List.foldl_cons]
    refine (ih (hkeyed.attempt a)).trans ?_
    rw [down_attempt]
    by_cases hkey : a.op.entry.key = key
    · rw [List.filter_cons_of_pos (by simpa using hkey), List.foldl_cons, ← hkey,
        content_attempt hkeyed]
    · rw [List.filter_cons_of_neg (by simpa using hkey), content_attempt_of_ne hkeyed hkey]

end Attempts

end Mesh

/-! ## Without failures -/

/-- The operation takes an entry out of the mesh. -/
def EntryOp.removes : EntryOp → Bool
  | .upsert _ => false
  | .delete _ => true

/-- The object is free to be created: there was none, or it has just been removed. -/
def Free (start : Option ServiceEntry) (before : List EntryOp) : Prop :=
  before = [] ∧ start = none ∨ before.getLast?.any (·.removes) = true

/-- Where the metadata of an object come from after operations for its key. -/
inductive FoundedBy (start : Option ServiceEntry) (ops : List EntryOp) (origin : ServiceEntry) :
    Prop where
  /-- The object was there from the start, and nothing has removed it. -/
  | start (there : start = some origin) (kept : ∀ op ∈ ops, op.removes = false)
  /-- An entry has created it when it was free to be created, and nothing has removed it since. -/
  | entry (before after : List EntryOp) (created : ops = before ++ .upsert origin :: after)
      (free : Free start before) (kept : ∀ op ∈ after, op.removes = false)

section Founded

variable {start : Option ServiceEntry} {ops : List EntryOp} {origin e : ServiceEntry}

/-- An object keeps its metadata until it is removed. -/
theorem FoundedBy.concat (h : FoundedBy start ops origin) {op : EntryOp}
    (hop : op.removes = false) : FoundedBy start (ops ++ [op]) origin := by
  have hlater : ∀ {later : List EntryOp}, (∀ op ∈ later, op.removes = false) →
      ∀ other ∈ later ++ [op], other.removes = false := by
    intro later hkept other hother
    rcases List.mem_append.mp hother with hother | hother
    · exact hkept other hother
    · rwa [List.mem_singleton.mp hother]
  cases h with
  | start there kept => exact .start there (hlater kept)
  | entry before after created free kept =>
    exact .entry before (after ++ [op]) (by simp [created]) free (hlater kept)

theorem not_free_of_last {before : List EntryOp} {last : EntryOp}
    (hlast : before.getLast? = some last) (hkept : last.removes = false) :
    ¬ Free start before := by
  rintro (⟨rfl, -⟩ | hremoved)
  · cases hlast
  · rw [hlast, Option.any_some, hkept] at hremoved
    cases hremoved

theorem not_free_of_there {before : List EntryOp} (hthere : start = some origin)
    (hkept : ∀ op ∈ before, op.removes = false) : ¬ Free start before := by
  cases hlast : before.getLast? with
  | none =>
    rintro (⟨-, hnone⟩ | hremoved)
    · rw [hthere] at hnone
      cases hnone
    · rw [hlast] at hremoved
      cases hremoved
  | some last => exact not_free_of_last hlast (hkept last (List.mem_of_getLast? hlast))

theorem not_free_of_created {before between : List EntryOp}
    (hkept : ∀ op ∈ between, op.removes = false) :
    ¬ Free start (before ++ .upsert origin :: between) := by
  have hkept' : ∀ op ∈ .upsert origin :: between, op.removes = false :=
    List.forall_mem_cons.mpr ⟨rfl, hkept⟩
  have hlast := List.getLast?_eq_some_getLast (List.cons_ne_nil (EntryOp.upsert origin) between)
  refine not_free_of_last ?_ (hkept' _ (List.getLast_mem (List.cons_ne_nil _ _)))
  rw [List.getLast?_append_of_ne_nil _ (List.cons_ne_nil _ _), hlast]

/-- Of two entries that have created the object, with nothing removing it since, neither comes
later. -/
theorem eq_of_created {before between after after' : List EntryOp} {origin' : ServiceEntry}
    (hrest : .upsert origin :: after = between ++ .upsert origin' :: after')
    (hkept : ∀ op ∈ after, op.removes = false) (hfree : Free start (before ++ between)) :
    origin = origin' := by
  cases between with
  | nil =>
    obtain ⟨hop, -⟩ := List.cons.inj hrest
    exact EntryOp.upsert.inj hop
  | cons first between =>
    -- The other entry comes later, when the object was there.
    obtain ⟨rfl, rfl⟩ := List.cons.inj hrest
    exact absurd hfree (not_free_of_created fun op hop => hkept op (List.mem_append_left _ hop))

/-- The metadata of an object come from one place. -/
theorem FoundedBy.unique {origin' : ServiceEntry} (h : FoundedBy start ops origin)
    (h' : FoundedBy start ops origin') : origin = origin' := by
  cases h with
  | start there kept =>
    cases h' with
    | start there' => exact Option.some.inj (there.symm.trans there')
    | entry before after created free =>
      refine absurd free (not_free_of_there there fun op hop => kept op ?_)
      rw [created]
      exact List.mem_append_left _ hop
  | entry before after created free kept =>
    cases h' with
    | start there kept' =>
      refine absurd free (not_free_of_there there fun op hop => kept' op ?_)
      rw [created]
      exact List.mem_append_left _ hop
    | entry before' after' created' free' kept' =>
      -- One of the two has created the object at a moment when the other had done so already.
      rcases List.append_eq_append_iff.mp (created.symm.trans created') with
        ⟨between, rfl, hrest⟩ | ⟨between, rfl, hrest⟩
      · exact eq_of_created hrest kept free'
      · exact (eq_of_created hrest kept' free).symm

theorem FoundedBy.unmarked (h : FoundedBy start ops origin)
    (hstart : ∀ object ∈ start, object.annotation? mergeAnnotation = none)
    (hops : ∀ e, .upsert e ∈ ops → e.annotation? mergeAnnotation = none) :
    origin.annotation? mergeAnnotation = none := by
  cases h with
  | start there => exact hstart origin there
  | entry before after created => exact hops origin (by simp [created])

/-- What operations for a key leave of the object under it if none of their calls fails. -/
def leftBy (start : Option ServiceEntry) (ops : List EntryOp) : Option ServiceEntry :=
  ops.foldl (fun object op => (Attempt.mk op fun _ => none).leaves false object) start

theorem leftBy_concat_delete (start : Option ServiceEntry) (ops : List EntryOp)
    (e : ServiceEntry) : leftBy start (ops ++ [.delete e]) = none := by
  have hleaves (object : Option ServiceEntry) :
      (Attempt.mk (.delete e) fun _ => none).leaves false object = none := by
    simp [Attempt.leaves, FailurePattern.Allows]
  rw [leftBy, List.foldl_append, List.foldl_cons, hleaves]
  rfl

theorem leftBy_concat_upsert (start : Option ServiceEntry) (ops : List EntryOp)
    (hnamed : MeshStore.isNamed e = true) :
    leftBy start (ops ++ [.upsert e]) = some (e.brought (leftBy start ops)) := by
  have hleaves (object : Option ServiceEntry) :
      (Attempt.mk (.upsert e) fun _ => none).leaves false object = some (e.brought object) := by
    simp [Attempt.leaves, FailurePattern.Allows, hnamed]
  rw [leftBy, List.foldl_append, List.foldl_cons, hleaves]
  rfl

/-- While nothing asks for a merge, an object has its metadata from where it was founded and its
specification from the last operation, and there is none only where none can have been founded. -/
theorem leftBy_cases
    (hstart : ∀ object ∈ start, object.annotation? mergeAnnotation = none)
    (hops : ∀ e, .upsert e ∈ ops → e.annotation? mergeAnnotation = none)
    (hnamed : ∀ op ∈ ops, MeshStore.isNamed op.entry = true) :
    match leftBy start ops with
    | none => Free start ops
    | some object =>
      (∃ origin, FoundedBy start ops origin ∧
        object.unversioned = (origin.withSpec object.spec).unversioned) ∧
      ∀ e, ops.getLast? = some (.upsert e) → object.spec = e.spec := by
  -- The induction takes operations off the end, as the last one decides about the specification
  -- and leaves the origin to those before it.
  induction ops using List.reverseRecOn with
  | nil =>
    cases start with
    | none => exact .inl ⟨rfl, rfl⟩
    | some origin => exact ⟨⟨origin, .start rfl (by simp), rfl⟩, by simp⟩
  | append_singleton ops op ih =>
    have hops' : ∀ e, .upsert e ∈ ops → e.annotation? mergeAnnotation = none :=
      fun e he => hops e (List.mem_append_left _ he)
    have hnamed' : ∀ op ∈ ops, MeshStore.isNamed op.entry = true :=
      fun op hop => hnamed op (List.mem_append_left _ hop)
    replace ih := ih hops' hnamed'
    cases op with
    | delete e =>
      rw [leftBy_concat_delete]
      exact .inr (by simp [EntryOp.removes])
    | upsert e =>
      have hwritten : MeshStore.isNamed e = true := hnamed (.upsert e) (by simp)
      rw [leftBy_concat_upsert start ops hwritten]
      rw [List.getLast?_concat]
      cases hbefore : leftBy start ops with
      | none =>
        -- The entry founds an object of its own.
        rw [hbefore] at ih
        refine ⟨⟨e, .entry ops [] rfl ih (by simp), rfl⟩, ?_⟩
        rintro _ ⟨⟩
        rfl
      | some old =>
        rw [hbefore] at ih
        obtain ⟨⟨origin, hfounded, hsame⟩, -⟩ := ih
        -- The object has the metadata of its origin, so it does not ask for a merge either.
        have hold : old.annotation? mergeAnnotation = none :=
          (congrArg (ServiceEntry.annotation? · mergeAnnotation) hsame).trans
            (hfounded.unmarked hstart hops')
        rw [brought_of_unmarked hold]
        refine ⟨⟨origin, hfounded.concat rfl, ?_⟩, ?_⟩
        · exact congrArg (ServiceEntry.withSpec · e.spec) hsame
        · rintro _ ⟨⟩
          rfl

end Founded

/-! ## Runs of operations -/

/-- The operations that are about a key. -/
def opsAt (key : ObjectKey) (ops : List EntryOp) : List EntryOp := ops.filter (·.entry.key = key)

theorem mem_opsAt_iff {key : ObjectKey} {ops : List EntryOp} {op : EntryOp} :
    op ∈ opsAt key ops ↔ op ∈ ops ∧ op.entry.key = key := by
  simp [opsAt]

namespace Mesh

section Runs

variable {m m' : Mesh} {key : ObjectKey} {ops ops' : List EntryOp}
  {failures failures' : FailurePattern}

/-- Two runs that agree on the object under a key at the beginning and on the attempts for the key
agree on the object at the end. -/
theorem content_run_congr (hkeyed : m.Keyed) (hkeyed' : m'.Keyed)
    (hstart : m.content key = m'.content key) (hdown : m.store.down = m'.store.down)
    (hsame : attemptsAt key (attempts failures ops m) =
      attemptsAt key (attempts failures' ops' m')) :
    ((applyAll ops).run api.withPattern (failures, m)).2.2.content key =
      ((applyAll ops').run api.withPattern (failures', m')).2.2.content key := by
  rw [← attemptAll_attempts, ← attemptAll_attempts, content_attemptAll hkeyed,
    content_attemptAll hkeyed', hstart, hdown, hsame]

/-- Without failures, a run leaves what the operations for the key leave. -/
theorem content_run_applyAll (hkeyed : m.Keyed) (hup : m.store.down = false) :
    ((applyAll ops).run api m).2.content key = leftBy (m.content key) (opsAt key ops) := by
  rw [← attemptAll_map_op, content_attemptAll hkeyed, hup, attemptsAt, List.filter_map,
    List.foldl_map]
  rfl

theorem content_eq_none_iff : m.content key = none ↔ m.stored? key = none :=
  Option.map_eq_none_iff

theorem content_unmarked (h : ∀ object ∈ m.stored? key, object.annotation? mergeAnnotation = none) :
    ∀ object ∈ m.content key, object.annotation? mergeAnnotation = none := by
  intro object hobject
  obtain ⟨stored, hstored, rfl⟩ := Option.map_eq_some_iff.mp hobject
  exact h stored hstored

theorem isNamed_of_mem_opsAt {e : ServiceEntry} (hkey : e.key = key)
    (hnamed : MeshStore.isNamed e = true) :
    ∀ op ∈ opsAt key ops, MeshStore.isNamed op.entry = true := by
  intro op hop
  rw [MeshStore.isNamed_congr ((mem_opsAt_iff.mp hop).2.trans hkey.symm)]
  exact hnamed

/-- Runs of operations, one object at a time. Whatever has calls fail, some pattern has them fail
alike. What is left under a key, versions aside, is settled by the object that was there and by the
operations for the key with the failures of their calls. While no call fails and nothing under the
key asks for a merge, the last of these operations wins: a removal leaves nothing, and an entry with
a name and a namespace leaves its specification in the object that the others have led to. -/
theorem last_writer_wins (key : ObjectKey) :
    (∀ {σ : Type} {api : MeshApi σ} {mesh : σ → Mesh}, api.Relays mesh → ∀ ops s, ∃ failures,
      mesh ((applyAll ops).run api s).2 =
        ((applyAll ops).run Mesh.api.withPattern (failures, mesh s)).2.2) ∧
    (∀ {m m' : Mesh} {ops ops' : List EntryOp} {failures failures' : FailurePattern},
      m.Keyed → m'.Keyed → m.content key = m'.content key → m.store.down = m'.store.down →
      attemptsAt key (attempts failures ops m) = attemptsAt key (attempts failures' ops' m') →
      ((applyAll ops).run api.withPattern (failures, m)).2.2.content key =
        ((applyAll ops').run api.withPattern (failures', m')).2.2.content key) ∧
    (∀ {m : Mesh} {ops : List EntryOp}, m.Keyed → m.store.down = false →
      (∀ object ∈ m.stored? key, object.annotation? mergeAnnotation = none) →
      (∀ e, .upsert e ∈ opsAt key ops → e.annotation? mergeAnnotation = none) →
      let final := ((applyAll ops).run api m).2
      (∀ e, (opsAt key ops).getLast? = some (.delete e) → final.stored? key = none) ∧
      (∀ e, (opsAt key ops).getLast? = some (.upsert e) → MeshStore.isNamed e = true →
        ∃ object origin, final.stored? key = some object ∧
          FoundedBy (m.content key) (opsAt key ops) origin ∧
          object.unversioned = (origin.withSpec e.spec).unversioned)) := by
  refine ⟨fun hapi ops s => ?_, content_run_congr, ?_⟩
  · obtain ⟨failures, -, hafter⟩ := hapi.exists_failures (applyAll ops) s
    exact ⟨failures, hafter.symm⟩
  intro m ops hkeyed hup hstart hops final
  have hfinal : final.content key = leftBy (m.content key) (opsAt key ops) :=
    content_run_applyAll hkeyed hup
  constructor
  · intro e hlast
    obtain ⟨before, hsplit⟩ := List.getLast?_eq_some_iff.mp hlast
    rw [hsplit, leftBy_concat_delete] at hfinal
    exact content_eq_none_iff.mp hfinal
  · intro e hlast hnamed
    have hkey : e.key = key := (mem_opsAt_iff.mp (List.mem_of_getLast? hlast)).2
    have hcases := leftBy_cases (content_unmarked hstart) hops (isNamed_of_mem_opsAt hkey hnamed)
    rw [← hfinal] at hcases
    cases hobject : final.stored? key with
    | none =>
      -- There is an object, as the last operation was no removal and not nothing.
      rw [content_eq_none_iff.mpr hobject] at hcases
      rcases hcases with ⟨hnothing, -⟩ | hremoved
      · rw [hnothing] at hlast
        cases hlast
      · rw [hlast] at hremoved
        cases hremoved
    | some object =>
      have hcontent : final.content key = some object.unversioned := congrArg _ hobject
      rw [hcontent] at hcases
      obtain ⟨⟨origin, horigin, hsame⟩, hspec⟩ := hcases
      rw [hspec e hlast] at hsame
      exact ⟨object, origin, rfl, horigin, hsame⟩

/-- Two entries in a row for an object that a removal has taken out before: the object has the
metadata of the first of them and the hosts of the second. Whatever it is that cannot be created
before, entries for the object leave the same. -/
theorem last_entry_wins_after_removal :
    let entry : String → String → List String → ServiceEntry := fun name owner hosts =>
      { metadata :=
          { name := some name, space := some "mesh"
            labels := some (.singleton "owner" owner) }
        spec := { hosts } }
    let key : ObjectKey := ⟨"mesh", "orders"⟩
    let m := fresh {}
    let ops : List EntryOp :=
      [.upsert (entry "orders" "first" ["a"]), .upsert (entry "users" "first" ["u"]),
        .delete (entry "orders" "first" []), .upsert (entry "orders" "second" ["b"]),
        .upsert (entry "orders" "third" ["c"])]
    let early : List EntryOp :=
      [.upsert (entry "users" "first" ["u"]), .upsert (entry "orders" "first" ["a"]),
        .upsert (entry "orders" "second" ["b"])]
    let early' : List EntryOp :=
      [.upsert (entry "items" "first" ["i"]), .upsert (entry "orders" "first" ["a"]),
        .upsert (entry "orders" "second" ["b"])]
    let failures : FailurePattern := fun n => if n = 2 then some .unnamed else none
    (∃ failures, ((applyAll ops).run api.withFaults ([⟨.create, .unavailable⟩], m)).2.2 =
      ((applyAll ops).run api.withPattern (failures, m)).2.2) ∧
    attemptsAt key (attempts failures early m) = attemptsAt key (attempts failures early' m) ∧
    ((applyAll early).run api.withPattern (failures, m)).2.2.content key =
      ((applyAll early').run api.withPattern (failures, m)).2.2.content key ∧
    ((applyAll (ops.take 3)).run api m).2.stored? key = none ∧
    ∃ object origin, ((applyAll ops).run api m).2.stored? key = some object ∧
      FoundedBy none (opsAt key ops) origin ∧
      object.unversioned = (origin.withSpec { hosts := ["c"] }).unversioned := by
  intro entry key m ops early early' failures
  have hkeyed : m.Keyed := fun _ _ he => by cases he
  have hstart : ∀ object ∈ m.stored? key, object.annotation? mergeAnnotation = none :=
    fun _ hobject => by cases hobject
  have hsame : attemptsAt key (attempts failures early m) =
      attemptsAt key (attempts failures early' m) := rfl
  have hplain : ∀ op ∈ ops, op.entry.annotation? mergeAnnotation = none := by decide +kernel
  have hunmarked : ∀ e, .upsert e ∈ opsAt key ops → e.annotation? mergeAnnotation = none :=
    fun e he => hplain _ (mem_opsAt_iff.mp he).1
  have hunmarked' : ∀ e, .upsert e ∈ opsAt key (ops.take 3) →
      e.annotation? mergeAnnotation = none :=
    fun e he => hplain _ (List.mem_of_mem_take (mem_opsAt_iff.mp he).1)
  obtain ⟨hreproduced, hagree, hlast⟩ := last_writer_wins key
  have hpattern := hreproduced relays_api.withFaults ops ([⟨.create, .unavailable⟩], m)
  have hcontent := hagree hkeyed hkeyed rfl rfl hsame
  refine ⟨hpattern, hsame, hcontent, ?_, ?_⟩
  · exact (hlast hkeyed rfl hstart hunmarked').1 (entry "orders" "first" []) (by decide +kernel)
  · exact (hlast hkeyed rfl hstart hunmarked).2 (entry "orders" "third" ["c"]) (by decide +kernel)
      (by decide +kernel)

/-- The version of an object tells that another one has been written before. -/
theorem version_tells_of_other_objects :
    let entry : String → ServiceEntry := fun name =>
      { metadata := { name := some name, space := some "mesh" }, spec := { hosts := [name] } }
    let key : ObjectKey := ⟨"mesh", "orders"⟩
    let m := fresh {}
    let ops : List EntryOp := [.upsert (entry "orders")]
    let ops' : List EntryOp := [.upsert (entry "users"), .upsert (entry "orders")]
    opsAt key ops = opsAt key ops' ∧
      ((applyAll ops).run api m).2.stored? key ≠ ((applyAll ops').run api m).2.stored? key := by
  decide +kernel

end Runs

end Mesh

end MeshRegistry
