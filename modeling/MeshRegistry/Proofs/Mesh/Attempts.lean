import MeshRegistry.Proofs.Mesh.Applying
import Mathlib.Tactic.IntervalCases
import Mathlib.Tactic.Push
/-!
# Operations whose calls may fail

Whether a call fails on its way to the mesh may be settled before it is made: a pattern tells it of
every call to come. Whatever has calls fail without effect, a conversation cannot be told from one
under a suitable pattern. An attempt is an operation together with the pattern for its calls, so
what happens to the mesh in a run of operations is what a list of attempts does to it.

An attempt concerns one object. If none of its calls fails it does what its operation does, and if
one fails the object is what it was before.

## Main definitions

- `FailurePattern`, `MeshApi.withPattern`: an API in which calls fail by a pattern.
- `Attempt`, `Mesh.attemptAll`: operations under patterns, one after the other.
- `Mesh.attempts`: the attempts that a run of operations consists of.
- `Mesh.AttemptEffect`: what an attempt to apply an entry does.

## Main results

- `MeshApi.Relays.exists_failures`: whatever has calls fail, some pattern has them fail alike.
- `Mesh.attemptAll_attempts`: what a run of operations does to a mesh is done by its attempts.
- `Mesh.attempt_upsert_effect`, `Mesh.stored?_attempt_delete`: what attempts do to their object.
- `Mesh.stored?_attempt_of_ne`: attempts leave other objects alone.
-/

namespace MeshRegistry

/-- Tells of each of the calls to come whether it fails, and how. -/
abbrev FailurePattern : Type := Nat → Option MeshError

namespace FailurePattern

/-- The pattern when the first call is over. -/
def rest (failures : FailurePattern) : FailurePattern := fun n => failures (n + 1)

/-- The pattern with another call to come first. -/
def before (first : Option MeshError) (failures : FailurePattern) : FailurePattern
  | 0 => first
  | n + 1 => failures n

/-- The pattern for the first calls, with nothing said about the calls after them. -/
def upTo (failures : FailurePattern) (count : Nat) : FailurePattern := fun n =>
  if n < count then failures n else none

/-- None of the first calls fails. -/
def Allows (failures : FailurePattern) (count : Nat) : Prop := ∀ n < count, failures n = none

instance (failures : FailurePattern) (count : Nat) : Decidable (failures.Allows count) :=
  decidable_of_iff (∀ n < count, (failures n).isNone = true) (by simp [Allows])

end FailurePattern

namespace MeshApi

variable {α σ : Type} {api : MeshApi σ} {mesh : σ → Mesh} {c : Call} {s : FailurePattern × σ}
  {err : MeshError}

/-! ## Patterns of failures -/

/-- An API in which calls fail by a pattern. The state begins with the pattern for the calls to
come. -/
def withPattern (api : MeshApi σ) : MeshApi (FailurePattern × σ) where
  perform c s :=
    match s.1 0 with
    | some err => (.error err, (s.1.rest, s.2))
    | none => ((api.perform c s.2).1, (s.1.rest, (api.perform c s.2).2))
  ownership s := api.ownership s.2

theorem perform_withPattern_of_some (h : s.1 0 = some err) :
    api.withPattern.perform c s = (.error err, (s.1.rest, s.2)) := by
  simp [withPattern, h]

theorem perform_withPattern_of_none (h : s.1 0 = none) :
    api.withPattern.perform c s = ((api.perform c s.2).1, (s.1.rest, (api.perform c s.2).2)) := by
  simp [withPattern, h]

theorem Relays.withPattern (h : api.Relays mesh) : api.withPattern.Relays fun s => mesh s.2 where
  perform c s := by
    cases hfails : s.1 0 with
    | none => simpa [perform_withPattern_of_none hfails] using h.perform c s.2
    | some err =>
      rw [perform_withPattern_of_some hfails]
      exact .inr ⟨⟨err, rfl⟩, rfl⟩
  ownership s := h.ownership s.2

/-- Whatever has a call fail or lets it through, so does some pattern. -/
theorem Relays.exists_first (h : api.Relays mesh) (c : Call) (s : σ) :
    ∃ first, ∀ failures : FailurePattern,
      Mesh.api.withPattern.perform c (failures.before first, mesh s) =
        ((api.perform c s).1, (failures, mesh (api.perform c s).2)) := by
  rcases h.perform c s with ⟨hanswer, hmesh⟩ | ⟨⟨err, hanswer⟩, hmesh⟩
  · refine ⟨none, fun failures => ?_⟩
    rw [perform_withPattern_of_none rfl, hanswer, hmesh]
    rfl
  · refine ⟨some err, fun failures => ?_⟩
    rw [perform_withPattern_of_some rfl, hanswer, hmesh]
    rfl

/-- Whatever has calls fail, a conversation is held as under some pattern. -/
theorem Relays.exists_failures (h : api.Relays mesh) (p : Session α) (s : σ) :
    ∃ failures : FailurePattern,
      (p.run Mesh.api.withPattern (failures, mesh s)).1 = (p.run api s).1 ∧
        (p.run Mesh.api.withPattern (failures, mesh s)).2.2 = mesh (p.run api s).2 := by
  induction p generalizing s with
  | done a => exact ⟨fun _ => none, rfl, rfl⟩
  | look next ih =>
    obtain ⟨failures, hsame⟩ := ih (api.ownership s) s
    have hshown : Mesh.api.withPattern.ownership (failures, mesh s) = (mesh s).ownership := rfl
    refine ⟨failures, ?_⟩
    rw [h.ownership] at hsame
    simpa only [Session.run, h.ownership, hshown] using hsame
  | ask c next ih =>
    -- What is to come is settled by the state after the call, so its pattern is found first.
    obtain ⟨failures, hsame⟩ := ih (api.perform c s).1 (api.perform c s).2
    obtain ⟨first, hfirst⟩ := h.exists_first c s
    refine ⟨failures.before first, ?_⟩
    simpa only [Session.run, hfirst] using hsame

end MeshApi

/-! ## Attempts -/

/-- An operation, and which of its calls fail. -/
structure Attempt where
  op : EntryOp
  failures : FailurePattern := fun _ => none

namespace Mesh

/-- What becomes of an operation in an attempt, and the mesh after it. -/
def attempt (m : Mesh) (a : Attempt) : Except MeshError ApplyOutcome × Mesh :=
  ((a.op.apply.run api.withPattern (a.failures, m)).1,
    (a.op.apply.run api.withPattern (a.failures, m)).2.2)

/-- The mesh after attempts that are made one after the other. -/
def attemptAll (m : Mesh) (attempts : List Attempt) : Mesh :=
  attempts.foldl (fun m a => (m.attempt a).2) m

/-- The attempts that a run of operations under a pattern consists of: every operation with the
failures of its own calls. -/
def attempts : FailurePattern → List EntryOp → Mesh → List Attempt
  | _, [], _ => []
  | failures, op :: rest, m =>
    let ran := op.apply.run api.withPattern (failures, m)
    ⟨op, failures.upTo (op.apply.calls api.withPattern (failures, m)).length⟩ ::
      attempts ran.2.1 rest ran.2.2

end Mesh

section Ties

variable {σ : Type} {api : MeshApi σ} {mesh : σ → Mesh}

theorem run_applyAll_cons (api : MeshApi σ) (op : EntryOp) (rest : List EntryOp) (s : σ) :
    (applyAll (op :: rest)).run api s =
      ((op.apply.run api s).1 :: ((applyAll rest).run api (op.apply.run api s).2).1,
        ((applyAll rest).run api (op.apply.run api s).2).2) := by
  rw [applyAll, Session.run_bind, Session.run_bind]
  rfl

/-- Whatever has calls fail, an operation is an attempt. -/
theorem MeshApi.Relays.exists_attempt (h : api.Relays mesh) (op : EntryOp) (s : σ) :
    ∃ failures, (mesh s).attempt ⟨op, failures⟩ =
      ((op.apply.run api s).1, mesh (op.apply.run api s).2) := by
  obtain ⟨failures, hvalue, hafter⟩ := h.exists_failures op.apply s
  exact ⟨failures, Prod.ext hvalue hafter⟩

end Ties

namespace Mesh

variable {α : Type} {m : Mesh} {failures failures' : FailurePattern}

/-- Without failures a conversation is held as with the mesh itself. -/
theorem run_withPattern_of_none (p : Session α) (failures : FailurePattern)
    (h : ∀ n, n < (p.calls api m).length → failures n = none) :
    (p.run api.withPattern (failures, m)).1 = (p.run api m).1 ∧
      (p.run api.withPattern (failures, m)).2.2 = (p.run api m).2 := by
  induction p generalizing failures m with
  | done a => exact ⟨rfl, rfl⟩
  | look next ih => exact ih _ _ h
  | ask c next ih =>
    have hmade : api.withPattern.perform c (failures, m) =
        ((m.perform c).1, (failures.rest, (m.perform c).2)) :=
      MeshApi.perform_withPattern_of_none (h 0 (Nat.zero_lt_succ _))
    have hrest : ∀ n, n < ((next (m.perform c).1).calls api (m.perform c).2).length →
        failures.rest n = none := fun n hn => h (n + 1) (Nat.succ_lt_succ hn)
    simp only [Session.run, hmade]
    exact ih _ _ hrest

theorem perform_withPattern_congr {c : Call} (h : failures' 0 = failures 0) :
    ∃ r : c.Result × Mesh, api.withPattern.perform c (failures, m) = (r.1, (failures.rest, r.2)) ∧
      api.withPattern.perform c (failures', m) = (r.1, (failures'.rest, r.2)) := by
  cases hfails : failures 0 with
  | none =>
    exact ⟨m.perform c, MeshApi.perform_withPattern_of_none hfails,
      MeshApi.perform_withPattern_of_none (h.trans hfails)⟩
  | some err =>
    exact ⟨(.error err, m), MeshApi.perform_withPattern_of_some hfails,
      MeshApi.perform_withPattern_of_some (h.trans hfails)⟩

/-- Only the calls that are made ask the pattern. -/
theorem run_withPattern_congr (p : Session α) (failures failures' : FailurePattern)
    (h : ∀ n, n < (p.calls api.withPattern (failures, m)).length → failures' n = failures n) :
    (p.run api.withPattern (failures', m)).1 = (p.run api.withPattern (failures, m)).1 ∧
      (p.run api.withPattern (failures', m)).2.2 = (p.run api.withPattern (failures, m)).2.2 := by
  induction p generalizing failures failures' m with
  | done a => exact ⟨rfl, rfl⟩
  | look next ih => exact ih _ _ _ h
  | ask c next ih =>
    obtain ⟨r, hfirst, hfirst'⟩ :=
      perform_withPattern_congr (c := c) (m := m) (h 0 (Nat.zero_lt_succ _))
    have hrest := fun n hn => h (n + 1) (Nat.succ_lt_succ hn)
    rw [hfirst] at hrest
    simp only [Session.run, hfirst, hfirst']
    exact ih _ _ _ hrest

/-- A run of operations does to the mesh what its attempts do. -/
theorem attemptAll_attempts (failures : FailurePattern) (ops : List EntryOp) (m : Mesh) :
    m.attemptAll (attempts failures ops m) =
      ((applyAll ops).run api.withPattern (failures, m)).2.2 := by
  induction ops generalizing failures m with
  | nil => rfl
  | cons op rest ih =>
    -- What the pattern says after the calls of the first operation is of no concern to it.
    have hfirst := run_withPattern_congr op.apply failures
      (failures.upTo (op.apply.calls api.withPattern (failures, m)).length) fun n hn => if_pos hn
    rw [run_applyAll_cons, ← ih]
    rw [attempts, attemptAll, List.foldl_cons]
    exact congrArg (attemptAll · _) hfirst.2

/-- Without failures, operations are attempts under a pattern that lets all calls through. -/
theorem attemptAll_map_op (ops : List EntryOp) (m : Mesh) :
    m.attemptAll (ops.map fun op => ⟨op, fun _ => none⟩) = ((applyAll ops).run api m).2 := by
  induction ops generalizing m with
  | nil => rfl
  | cons op rest ih =>
    have hfirst := run_withPattern_of_none (m := m) op.apply (fun _ => none) fun _ _ => rfl
    rw [run_applyAll_cons, ← ih]
    exact congrArg (attemptAll · _) hfirst.2

end Mesh

namespace Mesh

variable {m : Mesh} {e : ServiceEntry} {failures : FailurePattern} {key : ObjectKey}

/-! ## What attempts do -/

/-- A call fails by the pattern, or because calls are refused. -/
theorem perform_withPattern_of_fails {c : Call}
    (h : m.store.down = true ∨ failures 0 ≠ none) :
    ∃ err, api.withPattern.perform c (failures, m) = (.error err, (failures.rest, m)) := by
  cases hfails : failures 0 with
  | some err => exact ⟨err, MeshApi.perform_withPattern_of_some hfails⟩
  | none =>
    have hdown : m.store.down = true := h.resolve_right fun hne => hne hfails
    rw [MeshApi.perform_withPattern_of_none hfails]
    cases c <;> exact ⟨_, by simp [perform, MeshStore.get, MeshStore.create, MeshStore.update,
      MeshStore.delete, MeshStore.ensureSpace, hdown]; rfl⟩

section Runs

variable {α : Type} {c : Call} {next : c.Result → Session α}

theorem run_withPattern_of_made (h : failures 0 = none) :
    (Session.call c >>= next).run api.withPattern (failures, m) =
      (next (m.perform c).1).run api.withPattern (failures.rest, (m.perform c).2) := by
  rw [Session.run_bind, Session.run_call, MeshApi.perform_withPattern_of_none h]
  rfl

theorem run_withPattern_of_fails (h : m.store.down = true ∨ failures 0 ≠ none) :
    ∃ err, (Session.call c >>= next).run api.withPattern (failures, m) =
      (next (.error err)).run api.withPattern (failures.rest, m) := by
  obtain ⟨err, herr⟩ := perform_withPattern_of_fails (c := c) h
  exact ⟨err, by rw [Session.run_bind, Session.run_call, herr]⟩

end Runs

/-- An attempt to apply an entry in which a call fails leaves all objects as they are. There is no
third call if the object is as it should be. -/
theorem attempt_upsert_of_fails
    (h : (m.store.down = true ∨ failures 0 ≠ none) ∨ failures 1 ≠ none ∨ failures 2 ≠ none ∧
      ∀ old, m.stored? e.key = some old → old.spec ≠ (applied old e).spec) :
    ∃ err after, m.attempt ⟨.upsert e, failures⟩ = (.error err, after) ∧
      ∀ key, after.stored? key = m.stored? key := by
  dsimp only [attempt, EntryOp.apply]
  unfold applyEntry
  -- One case for each of the calls in turn: it fails, or the next one is looked at. The first of
  -- them may have made the namespace by then, which no object is about.
  by_cases hfirst : m.store.down = true ∨ failures 0 ≠ none
  · obtain ⟨err, herr⟩ := run_withPattern_of_fails hfirst
    rw [herr]
    exact ⟨err, m, rfl, fun _ => rfl⟩
  obtain ⟨hup, hmade⟩ := not_or.mp hfirst
  have hup' : m.store.down = false := eq_false_of_ne_true hup
  rw [run_withPattern_of_made (of_not_not hmade), perform_ensureSpace hup']
  dsimp only
  by_cases hsecond : failures.rest 0 ≠ none
  · obtain ⟨err, herr⟩ := run_withPattern_of_fails (.inr hsecond)
    rw [herr]
    exact ⟨err, m.withSpace e.space, rfl, fun _ => rfl⟩
  -- Only the third call is left to fail, and `hother` says that it is made.
  obtain ⟨hthird, hother⟩ := (h.resolve_left hfirst).resolve_left hsecond
  rw [run_withPattern_of_made (of_not_not hsecond), perform_get_withSpace hup']
  dsimp only
  have hfails : (m.withSpace e.space).store.down = true ∨ failures.rest.rest 0 ≠ none :=
    .inr hthird
  cases hold : m.stored? e.key with
  | none =>
    obtain ⟨err, herr⟩ := run_withPattern_of_fails hfails
    dsimp only
    rw [herr]
    exact ⟨err, m.withSpace e.space, rfl, fun _ => rfl⟩
  | some old =>
    obtain ⟨err, herr⟩ := run_withPattern_of_fails hfails
    dsimp only
    rw [if_neg (hother old hold), herr]
    exact ⟨err, m.withSpace e.space, rfl, fun _ => rfl⟩

/-- What an attempt to apply an entry does, and what it ends with. -/
inductive AttemptEffect (e : ServiceEntry) (failures : FailurePattern) (m : Mesh) :
    Except MeshError ApplyOutcome × Mesh → Prop where
  /-- A call has failed, and the objects are what they were. -/
  | failed (err : MeshError) (after : Mesh)
      (fails : m.store.down = true ∨ ¬ failures.Allows 3)
      (kept : ∀ key, after.stored? key = m.stored? key) :
      AttemptEffect e failures m (.error err, after)
  /-- No call has failed. If there were three of them, the pattern lets all three through. -/
  | made (ran : Except MeshError ApplyOutcome × Mesh) (up : m.store.down = false)
      (effect : ApplyEffect e m ran)
      (heeded : ran.1 = .ok .unchanged ∨ failures.Allows 3) :
      AttemptEffect e failures m ran

theorem attempt_upsert_of_made
    (h : ∀ n, n < ((applyEntry e).calls api m).length → failures n = none) :
    m.attempt ⟨.upsert e, failures⟩ = (applyEntry e).run api m :=
  have hsame := run_withPattern_of_none (applyEntry e) failures h
  Prod.ext hsame.1 hsame.2

theorem attempt_upsert_effect (hkeyed : m.Keyed) (e : ServiceEntry) (failures : FailurePattern) :
    AttemptEffect e failures m (m.attempt ⟨.upsert e, failures⟩) := by
  by_cases hfails : (m.store.down = true ∨ failures 0 ≠ none) ∨ failures 1 ≠ none ∨
      failures 2 ≠ none ∧ ∀ old, m.stored? e.key = some old → old.spec ≠ (applied old e).spec
  · obtain ⟨err, after, hattempt, hkept⟩ := attempt_upsert_of_fails hfails
    rw [hattempt]
    refine .failed err after ?_ hkept
    rcases hfails with (hdown | hzero) | hone | ⟨htwo, -⟩
    · exact .inl hdown
    · exact .inr fun hallows => hzero (hallows 0 (by omega))
    · exact .inr fun hallows => hone (hallows 1 (by omega))
    · exact .inr fun hallows => htwo (hallows 2 (by omega))
  · -- No call that is made fails. What is left open is whether there is a third one.
    push Not at hfails
    obtain ⟨⟨hup, hzero⟩, hone, htwo⟩ := hfails
    have hup' : m.store.down = false := eq_false_of_ne_true hup
    have heffect := run_applyEntry_effect hup' hkeyed e
    by_cases hthird : failures 2 = none
    · have hnone : failures.Allows 3 := by
        intro n hn
        interval_cases n <;> assumption
      rw [attempt_upsert_of_made fun n hn =>
        hnone n (hn.trans_le (length_calls_applyEntry_le api e m))]
      exact .made _ hup' heffect (.inr hnone)
    · -- The third call would fail, but it is not made.
      obtain ⟨old, hold, hsame⟩ := htwo hthird
      have hmade : m.attempt ⟨.upsert e, failures⟩ = (applyEntry e).run api m := by
        refine attempt_upsert_of_made fun n hn => ?_
        rw [calls_applyEntry_of_same hup' hold hsame] at hn
        simp only [List.length_cons, List.length_nil] at hn
        interval_cases n <;> assumption
      rw [hmade]
      exact .made _ hup' heffect (.inl (heffect.unchanged_of_same hold hsame))

/-- After an attempt to remove an entry, it is gone unless a call has failed. -/
theorem stored?_attempt_delete (e : ServiceEntry) (failures : FailurePattern) :
    (m.attempt ⟨.delete e, failures⟩).2.stored? e.key =
      if m.store.down = false ∧ failures.Allows 2 then none else m.stored? e.key := by
  dsimp only [attempt, EntryOp.apply]
  unfold removeEntry
  by_cases hfirst : m.store.down = true ∨ failures 0 ≠ none
  · obtain ⟨err, herr⟩ := run_withPattern_of_fails hfirst
    have hnot : ¬ (m.store.down = false ∧ failures.Allows 2) := by
      rintro ⟨hup, hallows⟩
      rcases hfirst with hdown | hfails
      · rw [hup] at hdown
        cases hdown
      · exact hfails (hallows 0 (by omega))
    rw [herr, if_neg hnot]
    rfl
  obtain ⟨hup, hmade⟩ := not_or.mp hfirst
  have hup' : m.store.down = false := eq_false_of_ne_true hup
  rw [run_withPattern_of_made (of_not_not hmade), perform_get hup']
  dsimp only
  cases hold : m.stored? e.key with
  | none => simpa using hold
  | some old =>
    dsimp only
    by_cases hsecond : failures.rest 0 ≠ none
    · obtain ⟨err, herr⟩ := run_withPattern_of_fails (.inr hsecond)
      rw [herr, if_neg fun h => hsecond (h.2 1 (by omega))]
      dsimp only
      -- The operation looks at the failure, but the object is there all the same.
      split <;> exact hold
    · have hallows : failures.Allows 2 := by
        intro n hn
        interval_cases n
        · exact of_not_not hmade
        · exact of_not_not hsecond
      rw [run_withPattern_of_made (of_not_not hsecond), perform_delete_of_present hup' hold,
        if_pos ⟨hup', hallows⟩]
      simp

theorem stored?_attempt_of_ne {a : Attempt} (hkeyed : m.Keyed) (h : a.op.entry.key ≠ key) :
    (m.attempt a).2.stored? key = m.stored? key :=
  relays_api.withPattern.stored?_run_of_spares (s := (a.failures, m)) hkeyed (spares_apply h)

theorem Keyed.attempt (h : m.Keyed) (a : Attempt) : (m.attempt a).2.Keyed :=
  relays_api.withPattern.run_preserves (s := (a.failures, m)) a.op.apply
    (fun x _ _ hm _ => hm.happen (.call x.call)) h

theorem down_attempt (m : Mesh) (a : Attempt) : (m.attempt a).2.store.down = m.store.down :=
  relays_api.withPattern.run_preserves (s := (a.failures, m)) a.op.apply
    (P := fun after => after.store.down = m.store.down)
    (fun x _ after hafter _ => (perform_effect x.call after).frame.1.trans hafter) rfl

end Mesh

end MeshRegistry
