import Mathlib.Algebra.Order.Ring.Rat
import Mathlib.Tactic.NormNum
import Mathlib.Tactic.Ring
import MeshRegistry.Discovery.Backoff
/-!
# The delays of a run of attempts

A delay is asked for before each attempt, and the delays start over after a success. What chance
makes of one delay has no part in the next ones, so the delay that is due depends on nothing but
the number of delays since the last time they started over: it is a power of the factor, cut off at
the greatest delay. The first delay alone is not cut off before chance acts on it.

A delay that has grown is cut off before it has to be a span of time, so it always is one. A delay
that chance has stretched is cut off afterwards. If it is too long for a span the run is broken off
there, however short the greatest delay is.

## Main definitions

- `Backoff.Policy.base`: the delay that is due after so many others, before chance.
- `Backoff.Call`, `Backoff.run?`: the calls that are made, and what they answer.
- `Backoff.Call.InRange`: a call has an answer.
- `Backoff.sinceReset`: how many delays were asked for since they started over.
- `Backoff.At`: as many delays were asked for as are counted.

## Main results

- `Backoff.Policy.base_grown`: one delay grows into the next.
- `Backoff.At.exists_call?_iff`, `Backoff.At.exists_run?_iff`: which calls and runs have answers.
- `Backoff.At.of_call?`, `Backoff.At.of_run?`: what the answers are.
- `Backoff.delays_closed_form`: the delay of every call that has one, which runs have all of theirs,
  and the growth of the bases.
-/

namespace MeshRegistry.Backoff

/-! ## Bases -/

namespace Policy

/-- The delay that is due after so many others, before chance, in milliseconds. -/
def base (p : Policy) : Nat → Rat
  | 0 => p.initial.millis
  | k + 1 => min (p.initial.millis * p.factor ^ (k + 1)) p.greatest.millis

section Growth

variable {p : Policy} (hfactor : 1 ≤ p.factor)

include hfactor

theorem base_nonneg (k : Nat) : 0 ≤ p.base k := by
  cases k with
  | zero => exact p.initial.nonneg
  | succ k =>
    have hpower : 0 ≤ p.factor ^ (k + 1) := pow_nonneg (zero_le_one.trans hfactor) _
    exact le_min (mul_nonneg p.initial.nonneg hpower) p.greatest.nonneg

/-- A delay that is due grows into the next one. -/
theorem base_grown (k : Nat) :
    min (p.base k * p.factor) p.greatest.millis = p.base (k + 1) := by
  have hnonneg : 0 ≤ p.factor := zero_le_one.trans hfactor
  cases k with
  | zero => simp [base]
  | succ k =>
    -- What was cut off already is still cut off after it has grown.
    have hcut : p.greatest.millis ≤ p.greatest.millis * p.factor :=
      le_mul_of_one_le_right p.greatest.nonneg hfactor
    calc min (min (p.initial.millis * p.factor ^ (k + 1)) p.greatest.millis * p.factor)
          p.greatest.millis
        = min (min (p.initial.millis * p.factor ^ (k + 2)) (p.greatest.millis * p.factor))
            p.greatest.millis := by rw [min_mul_of_nonneg _ _ hnonneg, mul_assoc, ← pow_succ]
      _ = min (p.initial.millis * p.factor ^ (k + 2)) p.greatest.millis := by
          rw [min_assoc, min_eq_right hcut]

theorem base_le_succ (hfirst : p.initial.millis ≤ p.greatest.millis) (k : Nat) :
    p.base k ≤ p.base (k + 1) := by
  have hbase : p.base k ≤ p.greatest.millis := by
    cases k with
    | zero => exact hfirst
    | succ k => exact min_le_right _ _
  rw [← base_grown hfactor k]
  apply le_min
  · exact le_mul_of_one_le_right (base_nonneg hfactor k) hfactor
  · exact hbase

end Growth

theorem base_le_max (p : Policy) (k : Nat) :
    p.base k ≤ max p.initial.millis p.greatest.millis := by
  cases k with
  | zero => exact le_max_left _ _
  | succ k => exact (min_le_right _ _).trans (le_max_right _ _)

end Policy

/-! ## Calls -/

/-- A call at the delays. -/
inductive Call where
  /-- The delay before the next attempt is asked for, and chance stretches it. -/
  | next (chance : Rat)
  /-- The delays start over. -/
  | reset
deriving DecidableEq

/-- What a call answers, and the delays after it. Starting over answers nothing. -/
def call? (b : Backoff) : Call → Option (Option Span × Backoff)
  | .next chance => (b.next? chance).map fun r => (some r.1, r.2)
  | .reset => some (none, b.reset)

/-- What calls answer one after the other, and the delays after them. The calls end where one of
them has no answer. -/
def run? (b : Backoff) : List Call → Option (List (Option Span) × Backoff)
  | [] => some ([], b)
  | c :: rest => do
    let (answer, b) ← b.call? c
    let (answers, b) ← run? b rest
    return (answer :: answers, b)

namespace Call

/-- How many delays were asked for since they started over, if there were `k` before the call. -/
def count (k : Nat) : Call → Nat
  | next _ => k + 1
  | reset => 0

/-- How long the delay is that a call should answer when `k` delays were asked for since they
started over. -/
def answer (p : Policy) (k : Nat) : Call → Option Rat
  | next chance => some (min (chance * p.base k) p.greatest.millis)
  | reset => none

/-- The delay that a call stretches is still a span of time. -/
def InRange (p : Policy) (k : Nat) : Call → Prop
  | next chance => 0 ≤ chance * p.base k ∧ chance * p.base k < Span.bound
  | reset => True

end Call

/-- How many delays were asked for since they started over. -/
def sinceReset (calls : List Call) : Nat := calls.foldl Call.count 0

/-- The delays stand where they do after `k` of them. -/
structure At (p : Policy) (k : Nat) (b : Backoff) : Prop where
  /-- They grow as the policy says. -/
  policy : b.policy = p
  /-- The next base is due. -/
  due : b.due.millis = p.base k

variable {p : Policy} {b b' : Backoff} {k : Nat}

theorem At.ofPolicy (p : Policy) : At p 0 (ofPolicy p) := ⟨rfl, rfl⟩

theorem lesser_eq_min (x y : Rat) : lesser x y = min x y := (min_def x y).symm

theorem Span.shorter_millis (s t : Span) : (s.shorter t).millis = min s.millis t.millis := by
  unfold Span.shorter
  split
  next hle => exact (min_eq_left hle).symm
  next hnle => exact (min_eq_right (not_le.mp hnle).le).symm

/-- What a run of calls is: the answer to the first call, and those to the others. -/
theorem run?_cons_eq_some_iff {c : Call} {rest : List Call} {answers : List (Option Span)} :
    run? b (c :: rest) = some (answers, b') ↔
      ∃ answer middle others, b.call? c = some (answer, middle) ∧
        run? middle rest = some (others, b') ∧ answers = answer :: others := by
  simp only [run?, Option.bind_eq_bind, Option.bind_eq_some_iff, Prod.exists, Option.pure_def,
    Option.some.injEq, Prod.mk.injEq]
  constructor
  · rintro ⟨answer, middle, hcall, others, _, hrun, rfl, rfl⟩
    exact ⟨answer, middle, others, hcall, hrun, rfl⟩
  · rintro ⟨answer, middle, others, hcall, hrun, rfl⟩
    exact ⟨answer, middle, hcall, others, b', hrun, rfl, rfl⟩

namespace At

/-- The delay that is due grows into one that is a span of time again. -/
theorem exists_grown (hfactor : 1 ≤ p.factor) (h : At p k b) :
    ∃ s, Span.of? (lesser (b.due.millis * b.policy.factor) b.policy.greatest.millis) = some s ∧
      s.millis = p.base (k + 1) := by
  have hgrown :
      lesser (b.due.millis * b.policy.factor) b.policy.greatest.millis = p.base (k + 1) := by
    rw [h.policy, h.due, lesser_eq_min, Policy.base_grown hfactor]
  -- It is cut off before it has to be a span, so no factor makes it too long.
  have hbound : p.base (k + 1) < Span.bound := (min_le_right _ _).trans_lt p.greatest.lt_bound
  obtain ⟨s, hs⟩ := Span.exists_of?_iff.mpr ⟨Policy.base_nonneg hfactor (k + 1), hbound⟩
  exact ⟨s, hgrown ▸ hs, Span.of?_eq_some_iff.mp hs⟩

/-- The next delay is the stretched one, cut off at the greatest delay; there is none if the
stretched one is no span of time. -/
theorem exists_next?_eq (hfactor : 1 ≤ p.factor) (h : At p k b) :
    ∃ b', At p (k + 1) b' ∧ ∀ chance,
      b.next? chance = (Span.of? (chance * p.base k)).map fun s => (s.shorter p.greatest, b') := by
  obtain ⟨s, hs, hbase⟩ := h.exists_grown hfactor
  refine ⟨{ b with due := s }, ⟨h.policy, hbase⟩, fun chance => ?_⟩
  rw [next?, hs, h.due, h.policy, mul_comm chance]
  cases Span.of? (p.base k * chance) with
  | none => rfl
  | some stretched => rfl

/-- Which calls have an answer. -/
theorem exists_call?_iff (hfactor : 1 ≤ p.factor) (h : At p k b) (c : Call) :
    (∃ answer b', b.call? c = some (answer, b')) ↔ c.InRange p k := by
  cases c with
  | reset => exact iff_of_true ⟨none, b.reset, rfl⟩ trivial
  | next chance =>
    obtain ⟨grown, -, hnext⟩ := h.exists_next?_eq hfactor
    rw [call?, hnext, Call.InRange, ← Span.exists_of?_iff]
    cases Span.of? (chance * p.base k) with
    | none => simp
    | some s => simp

/-- What a call answers, and how many delays are counted after it. -/
theorem of_call? (hfactor : 1 ≤ p.factor) (h : At p k b) {c : Call} {answer : Option Span}
    (hcall : b.call? c = some (answer, b')) :
    answer.map (·.millis) = c.answer p k ∧ At p (c.count k) b' := by
  cases c with
  | reset =>
    obtain ⟨rfl, rfl⟩ := Prod.mk.inj (Option.some.inj hcall)
    exact ⟨rfl, h.policy, h.policy ▸ rfl⟩
  | next chance =>
    obtain ⟨grown, hgrown, hnext⟩ := h.exists_next?_eq hfactor
    rw [call?, hnext, Option.map_map, Option.map_eq_some_iff] at hcall
    obtain ⟨s, hs, heq⟩ := hcall
    obtain ⟨rfl, rfl⟩ := Prod.mk.inj heq
    refine ⟨?_, hgrown⟩
    rw [Option.map_some, Span.shorter_millis, Span.of?_eq_some_iff.mp hs]
    rfl

/-- A run has answers exactly if each of its calls has one. -/
theorem exists_run?_iff (hfactor : 1 ≤ p.factor) (h : At p k b) (calls : List Call) :
    (∃ answers b', run? b calls = some (answers, b')) ↔
      ∀ before c after, calls = before ++ c :: after →
        c.InRange p (before.foldl Call.count k) := by
  -- The delays are counted from `k`, so that the rest of a run is a run as well.
  induction calls generalizing b k with
  | nil => simp [run?]
  | cons first rest ih =>
    constructor
    · rintro ⟨answers, b', hrun⟩ before c after heq
      obtain ⟨answer, middle, others, hcall, hothers, -⟩ := run?_cons_eq_some_iff.mp hrun
      cases before with
      | nil =>
        obtain ⟨rfl, -⟩ := List.cons.inj heq
        exact (h.exists_call?_iff hfactor first).mp ⟨answer, middle, hcall⟩
      | cons earlier before =>
        obtain ⟨rfl, hrest⟩ := List.cons.inj heq
        have hmiddle := (h.of_call? hfactor hcall).2
        exact (ih hmiddle).mp ⟨others, b', hothers⟩ before c after hrest
    · intro hrange
      obtain ⟨answer, middle, hcall⟩ :=
        (h.exists_call?_iff hfactor first).mpr (hrange [] first rest rfl)
      have hmiddle := (h.of_call? hfactor hcall).2
      obtain ⟨others, b', hothers⟩ := (ih hmiddle).mpr fun before c after heq =>
        hrange (first :: before) c after (congrArg (first :: ·) heq)
      exact ⟨_, b', run?_cons_eq_some_iff.mpr ⟨answer, middle, others, hcall, hothers, rfl⟩⟩

/-- The answers of a run: to each call the one for its place in the run. -/
theorem of_run? (hfactor : 1 ≤ p.factor) (h : At p k b) {calls : List Call}
    {answers : List (Option Span)} (hrun : run? b calls = some (answers, b')) :
    answers.length = calls.length ∧
      ∀ before c after, calls = before ++ c :: after → ∃ answer,
        answers[before.length]? = some answer ∧
          answer.map (·.millis) = c.answer p (before.foldl Call.count k) := by
  -- The answer to the first call stands for itself; the others are those of the rest of the run.
  induction calls generalizing b k answers with
  | nil =>
    obtain ⟨rfl, -⟩ := Prod.mk.inj (Option.some.inj hrun)
    simp
  | cons first rest ih =>
    obtain ⟨answer, middle, others, hcall, hothers, rfl⟩ := run?_cons_eq_some_iff.mp hrun
    obtain ⟨hanswer, hmiddle⟩ := h.of_call? hfactor hcall
    obtain ⟨hlength, hrest⟩ := ih hmiddle hothers
    refine ⟨by simp [hlength], fun before c after heq => ?_⟩
    cases before with
    | nil =>
      obtain ⟨rfl, -⟩ := List.cons.inj heq
      exact ⟨answer, rfl, hanswer⟩
    | cons earlier before =>
      obtain ⟨rfl, hafter⟩ := List.cons.inj heq
      exact hrest before c after hafter

/-- No answer of a run is greater than the greatest delay. -/
theorem le_greatest_of_run? (hfactor : 1 ≤ p.factor) (h : At p k b) {calls : List Call}
    {answers : List (Option Span)} (hrun : run? b calls = some (answers, b')) {delay : Span}
    (hmem : some delay ∈ answers) : delay.millis ≤ p.greatest.millis := by
  obtain ⟨hlength, hanswers⟩ := h.of_run? hfactor hrun
  obtain ⟨i, hi, hget⟩ := List.getElem_of_mem hmem
  rw [hlength] at hi
  -- The answer at a place is the answer to the call at that place.
  have hsplit : calls = calls.take i ++ calls[i] :: calls.drop (i + 1) := by simp
  obtain ⟨answer, hplace, hanswer⟩ := hanswers _ _ _ hsplit
  rw [List.length_take_of_le hi.le, List.getElem?_eq_getElem (hlength ▸ hi), hget] at hplace
  obtain rfl := Option.some.inj hplace
  cases hcall : calls[i] with
  | reset =>
    rw [hcall] at hanswer
    cases hanswer
  | next chance =>
    rw [hcall] at hanswer
    exact (Option.some.inj hanswer).trans_le (min_le_right _ _)

end At

/-- Chance makes no delay of at most two thirds of the longest span too long. -/
theorem stretched_lt_bound (hfactor : 1 ≤ p.factor)
    (hinitial : p.initial.millis ≤ 2 / 3 * Span.bound)
    (hgreatest : p.greatest.millis ≤ 2 / 3 * Span.bound) {chance : Rat} (hchance : chance < 3 / 2)
    (k : Nat) : chance * p.base k < Span.bound := by
  have hbase : p.base k ≤ 2 / 3 * Span.bound := (p.base_le_max k).trans (max_le hinitial hgreatest)
  have hbound : 0 < Span.bound := p.greatest.nonneg.trans_lt p.greatest.lt_bound
  -- A delay of zero stays one, and any other grows by less than a half.
  rcases (Policy.base_nonneg hfactor k).eq_or_lt with hzero | hpositive
  · rwa [← hzero, mul_zero]
  · calc chance * p.base k < 3 / 2 * p.base k := mul_lt_mul_of_pos_right hchance hpositive
      _ ≤ 3 / 2 * (2 / 3 * Span.bound) := mul_le_mul_of_nonneg_left hbase (by norm_num)
      _ = Span.bound := by ring

/-- What the delays of a run of calls are. Every delay that is answered is the first one or, later
on, a power of the factor, stretched by chance and cut off at the greatest delay, so none is greater
than that one. A run has all its answers exactly if chance makes no delay too long for a span of
time before it is cut off, and a run that is broken off has those of the calls before, which are a
run as well. Delays of at most two thirds of the longest span are never broken off. What chance
acts on does not shrink before the delays start over. -/
theorem delays_closed_form (hfactor : 1 ≤ p.factor) (calls : List Call)
    (hchance : ∀ chance, .next chance ∈ calls → 1 / 2 ≤ chance ∧ chance < 3 / 2) :
    (∀ answers b, run? (ofPolicy p) calls = some (answers, b) →
      answers.length = calls.length ∧
      (∀ before chance after, calls = before ++ .next chance :: after → ∃ delay,
        answers[before.length]? = some (some delay) ∧
          delay.millis = min (chance * p.base (sinceReset before)) p.greatest.millis) ∧
      ∀ delay, some delay ∈ answers → delay.millis ≤ p.greatest.millis) ∧
    ((∃ answers b, run? (ofPolicy p) calls = some (answers, b)) ↔
      ∀ before chance after, calls = before ++ .next chance :: after →
        chance * p.base (sinceReset before) < Span.bound) ∧
    (p.initial.millis ≤ 2 / 3 * Span.bound → p.greatest.millis ≤ 2 / 3 * Span.bound →
      ∃ answers b, run? (ofPolicy p) calls = some (answers, b)) ∧
    (p.initial.millis ≤ p.greatest.millis → Monotone p.base) := by
  have hstart := At.ofPolicy p
  have hanswered : (∃ answers b, run? (ofPolicy p) calls = some (answers, b)) ↔
      ∀ before chance after, calls = before ++ .next chance :: after →
        chance * p.base (sinceReset before) < Span.bound := by
    rw [hstart.exists_run?_iff hfactor]
    constructor
    · intro hrange before chance after heq
      exact (hrange before _ after heq).2
    · intro hbound before c after heq
      cases c with
      | reset => trivial
      | next chance =>
        obtain ⟨hlow, -⟩ := hchance chance (by simp [heq])
        have hpositive : 0 ≤ chance := le_trans (by norm_num) hlow
        exact ⟨mul_nonneg hpositive (Policy.base_nonneg hfactor _), hbound before chance after heq⟩
  refine ⟨fun answers b hrun => ?_, hanswered, fun hinitial hgreatest => ?_, fun hfirst => ?_⟩
  · obtain ⟨hlength, hanswers⟩ := hstart.of_run? hfactor hrun
    refine ⟨hlength, fun before chance after heq => ?_, fun delay hmem =>
      hstart.le_greatest_of_run? hfactor hrun hmem⟩
    obtain ⟨answer, hplace, hanswer⟩ := hanswers before _ after heq
    obtain ⟨delay, rfl, hdelay⟩ := Option.map_eq_some_iff.mp hanswer
    exact ⟨delay, hplace, hdelay⟩
  · refine hanswered.mpr fun before chance after heq => ?_
    exact stretched_lt_bound hfactor hinitial hgreatest (hchance chance (by simp [heq])).2 _
  · exact monotone_nat_of_le_succ (Policy.base_le_succ hfactor hfirst)

/-- A first delay beyond the greatest one: chance still acts on the whole of it, so the first answer
may be below the greatest delay and above the half of it. A first delay that chance makes too long
for a span of time has no answer, even though the greatest delay is short. -/
theorem delays_of_long_start :
    let p : Policy := ⟨.ofSeconds 4, .ofSeconds 3, 3 / 2⟩
    let calls : List Call := [.next (1 / 2), .next (1 / 2), .reset, .next (5 / 4)]
    let far : Policy := { initial := .ofSeconds 15000000000000000000, factor := 1 }
    1 ≤ p.factor ∧ (∀ chance, .next chance ∈ calls → 1 / 2 ≤ chance ∧ chance < 3 / 2) ∧
      (∃ answers b, run? (ofPolicy p) calls = some (answers, b) ∧
        (∃ delay, answers[0]? = some (some delay) ∧ delay.millis = 2000) ∧
        (∃ delay, answers[1]? = some (some delay) ∧ delay.millis = 1500) ∧
        ∃ delay, answers[3]? = some (some delay) ∧ delay.millis = 3000) ∧
      ¬ ∃ answers b, run? (ofPolicy far) [.next (7 / 5)] = some (answers, b) := by
  intro p calls far
  have hfactor : 1 ≤ p.factor := by norm_num [p]
  have hchance : ∀ chance, .next chance ∈ calls → 1 / 2 ≤ chance ∧ chance < 3 / 2 := by
    intro chance hmem
    simp only [calls, List.mem_cons, Call.next.injEq, List.not_mem_nil, or_false] at hmem
    rcases hmem with rfl | rfl | h | rfl
    · norm_num
    · norm_num
    · cases h
    · norm_num
  have hbound : Span.bound = 18446744073709551616000 := by norm_num [Span.bound, UInt64.size]
  have hinitial : p.initial.millis = 4000 := by decide
  have hgreatest : p.greatest.millis = 3000 := by decide
  obtain ⟨hanswers, -, hshort, -⟩ := delays_closed_form hfactor calls hchance
  obtain ⟨answers, b, hrun⟩ :=
    hshort (by norm_num [hinitial, hbound]) (by norm_num [hgreatest, hbound])
  obtain ⟨-, hdelays, -⟩ := hanswers answers b hrun
  refine ⟨hfactor, hchance, ⟨answers, b, hrun, ?_, ?_, ?_⟩, ?_⟩
  · obtain ⟨delay, hplace, hdelay⟩ := hdelays [] (1 / 2) _ rfl
    refine ⟨delay, hplace, hdelay.trans ?_⟩
    norm_num [Policy.base, sinceReset, hinitial, hgreatest]
  · obtain ⟨delay, hplace, hdelay⟩ := hdelays [.next (1 / 2)] (1 / 2) _ rfl
    refine ⟨delay, hplace, hdelay.trans ?_⟩
    have hgrown : p.base 1 = 3000 := by
      norm_num [Policy.base, hinitial, hgreatest, show p.factor = 3 / 2 from rfl]
    norm_num [sinceReset, Call.count, hgrown, hgreatest]
  · obtain ⟨delay, hplace, hdelay⟩ := hdelays [.next (1 / 2), .next (1 / 2), .reset] (5 / 4) _ rfl
    refine ⟨delay, hplace, hdelay.trans ?_⟩
    norm_num [Policy.base, sinceReset, Call.count, hinitial, hgreatest]
  · have hfar : ∀ chance, Call.next chance ∈ [Call.next (7 / 5)] →
        1 / 2 ≤ chance ∧ chance < 3 / 2 := by
      intro chance hmem
      obtain rfl : chance = 7 / 5 := by simpa using hmem
      norm_num
    obtain ⟨-, hanswered, -⟩ := delays_closed_form (p := far) le_rfl [.next (7 / 5)] hfar
    intro hrun
    have hlong := hanswered.mp hrun [] (7 / 5) [] rfl
    have hdistant : far.initial.millis = 15000000000000000000000 := by decide
    norm_num [Policy.base, sinceReset, hdistant, hbound] at hlong

end MeshRegistry.Backoff
