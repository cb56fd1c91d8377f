/-!
# Waiting before a reconnection

The delay before an attempt to reconnect grows by a factor up to a greatest delay, and starts over
after a success. Each delay is stretched or shrunk by chance, which is a parameter here.

Delays are spans of time: none is negative, and none is longer than the seconds that 64 bits count.
Where a delay would be no span there is none, and the attempts end.

## Main definitions

- `Span`: spans of time, `Span.ofSeconds` and `Span.of?` for a number of seconds or milliseconds.
- `Backoff.Policy`: the first delay, the greatest delay and the factor.
- `Backoff`: a policy and the delay that is due.
- `Backoff.next?`, `Backoff.reset`: the delay before the next attempt, and starting over.
-/

namespace MeshRegistry

/-! ## Spans of time -/

/-- Every span of time is shorter than this, in milliseconds. -/
def Span.bound : Rat := (UInt64.size * 1000 : Nat)

/-- A span of time. -/
structure Span where
  /-- How long it is, in milliseconds. -/
  millis : Rat
  /-- No span is negative. -/
  nonneg : 0 ≤ millis
  /-- No span is too long. -/
  lt_bound : millis < Span.bound
deriving DecidableEq

namespace Span

/-- The span of so many seconds. -/
def ofSeconds (seconds : UInt64) : Span where
  millis := (seconds.toNat * 1000 : Nat)
  nonneg := Rat.natCast_nonneg
  lt_bound := by
    have hseconds : seconds.toNat < UInt64.size := seconds.toNat_lt_size
    rw [bound, Rat.natCast_lt_natCast]
    omega

/-- The span of so many milliseconds, if there is one. -/
def of? (millis : Rat) : Option Span :=
  if h : 0 ≤ millis ∧ millis < bound then some ⟨millis, h.1, h.2⟩ else none

/-- The shorter of two spans. -/
def shorter (s t : Span) : Span := if s.millis ≤ t.millis then s else t

theorem of?_eq_some_iff {millis : Rat} {s : Span} : of? millis = some s ↔ s.millis = millis := by
  unfold of?
  constructor
  · intro h
    split at h
    · rw [← Option.some.inj h]
    · cases h
  · rintro rfl
    rw [dif_pos ⟨s.nonneg, s.lt_bound⟩]

theorem exists_of?_iff {millis : Rat} :
    (∃ s, of? millis = some s) ↔ 0 ≤ millis ∧ millis < bound := by
  constructor
  · rintro ⟨s, hs⟩
    rw [← of?_eq_some_iff.mp hs]
    exact ⟨s.nonneg, s.lt_bound⟩
  · rintro ⟨hnonneg, hbound⟩
    exact ⟨⟨millis, hnonneg, hbound⟩, of?_eq_some_iff.mpr rfl⟩

end Span

/-! ## Delays -/

/-- How delays grow. -/
structure Backoff.Policy where
  /-- The first delay. -/
  initial : Span := .ofSeconds 1
  /-- No delay is greater. -/
  greatest : Span := .ofSeconds 30
  /-- The factor from one delay to the next. -/
  factor : Rat := 2
deriving DecidableEq

/-- The delays between attempts. -/
structure Backoff where
  /-- How delays grow. -/
  policy : Backoff.Policy
  /-- The delay that is due, before chance. -/
  due : Span
deriving DecidableEq

namespace Backoff

/-- The lesser of two numbers. -/
def lesser (a b : Rat) : Rat := if a ≤ b then a else b

/-- The delays of a policy, from the first. -/
def ofPolicy (p : Policy) : Backoff := ⟨p, p.initial⟩

/-- The delay before the next attempt, given how chance stretches it, and the delays after it. There
is none if the delay that would be due next, or the one that chance has stretched, is no span of
time. -/
def next? (b : Backoff) (chance : Rat) : Option (Span × Backoff) := do
  -- Chance acts on the delay that is due and never on the ones after it.
  let due ← Span.of? (lesser (b.due.millis * b.policy.factor) b.policy.greatest.millis)
  -- A stretched delay has to be a span before it is cut off, unlike one that has grown.
  let stretched ← Span.of? (b.due.millis * chance)
  return (stretched.shorter b.policy.greatest, { b with due })

/-- The delays from the first again. -/
def reset (b : Backoff) : Backoff := ofPolicy b.policy

end Backoff

end MeshRegistry
