import MeshRegistry.Config.Controller
import MeshRegistry.Config.Datum
/-!
# Texts whose type is guessed

A text that looks like a truth value or a number becomes one. Where a text is wanted, the value is
written again: `007` comes back as `7`, `1e3` as `1000` and `TRUE` as `true`. A text comes back as
it was given exactly if it is written as its value would be, and no text comes back blank that was
not.

## Main definitions

- `Datum.WrittenPlainly`: a text is written as the value is that it stands for.
- `Datum.Guessed`: what a text is guessed to be.

## Main results

- `Datum.Guessed.exists_text?`: which texts come back as they were given.
- `Datum.Guessed.isBlankText_text?`: no text comes back blank that was not.
-/

namespace MeshRegistry

namespace Datum

/-- A text is written as the value is that it stands for: a truth value in lower case, an integer
without a plus sign and without leading zeros, a number with the fewest digits and without an
exponent. A text that stands for no such value is written plainly in any case. -/
structure WrittenPlainly (v : String) : Prop where
  yes : Text.lowercase v = "true" → v = "true"
  no : Text.lowercase v = "false" → v = "false"
  int : ∀ n, Text.int64? v.toList = some n → v = toString n
  real : ∀ x, Text.int64? v.toList = none → Double.ofText? v = some x → v = x.text

/-- What a text is guessed to be, one case for each kind of values. -/
inductive Guessed (v : String) : Datum → Prop where
  | yes (h : Text.lowercase v = "true") : Guessed v (.flag true)
  | no (h : Text.lowercase v = "false") : Guessed v (.flag false)
  | int {n : Int} (htrue : Text.lowercase v ≠ "true") (hfalse : Text.lowercase v ≠ "false")
      (h : Text.int64? v.toList = some n) : Guessed v (.int n)
  | real {x : Double} (htrue : Text.lowercase v ≠ "true") (hfalse : Text.lowercase v ≠ "false")
      (hint : Text.int64? v.toList = none) (h : Double.ofText? v = some x) : Guessed v (.real x)
  | text (htrue : Text.lowercase v ≠ "true") (hfalse : Text.lowercase v ≠ "false")
      (hint : Text.int64? v.toList = none) (hreal : Double.ofText? v = none) : Guessed v (.text v)

theorem guessed_ofWord (v : String) : Guessed v (ofWord v) := by
  unfold ofWord
  simp only
  split
  next h => exact .yes h
  next htrue =>
    split
    next h => exact .no h
    next hfalse =>
      split
      next n h => exact .int htrue hfalse h
      next hint =>
        split
        next x h => exact .real htrue hfalse hint h
        next hreal => exact .text htrue hfalse hint hreal

/-- The words for truth values are no numbers. -/
theorem number_of_word {w : String} (h : w = "true" ∨ w = "false") :
    Text.int64? w.toList = none ∧ Double.ofText? w = none := by
  rcases h with rfl | rfl <;> decide +kernel

/-- A guessed value stands for a text, and for the text that was given exactly if that is written
plainly. -/
theorem Guessed.exists_text? {v : String} {d : Datum} (h : Guessed v d) :
    ∃ w, text? d = some w ∧ (w = v ↔ WrittenPlainly v) := by
  cases h with
  | yes h =>
    refine ⟨"true", rfl, ?_, fun hplain => (hplain.yes h).symm⟩
    rintro rfl
    obtain ⟨hint, hreal⟩ := number_of_word (.inl rfl)
    exact ⟨fun _ => rfl, fun hno => absurd (h.symm.trans hno) (by decide),
      fun _ hn => (nomatch hint.symm.trans hn), fun _ _ hx => (nomatch hreal.symm.trans hx)⟩
  | no h =>
    refine ⟨"false", rfl, ?_, fun hplain => (hplain.no h).symm⟩
    rintro rfl
    obtain ⟨hint, hreal⟩ := number_of_word (.inr rfl)
    exact ⟨fun hyes => absurd (h.symm.trans hyes) (by decide), fun _ => rfl,
      fun _ hn => (nomatch hint.symm.trans hn), fun _ _ hx => (nomatch hreal.symm.trans hx)⟩
  | int htrue hfalse h =>
    refine ⟨_, rfl, fun hv => ?_, fun hplain => (hplain.int _ h).symm⟩
    exact ⟨fun hyes => absurd hyes htrue, fun hno => absurd hno hfalse,
      fun _ hn => by rw [← hv, Option.some.inj (h.symm.trans hn)],
      fun _ hint => (nomatch hint.symm.trans h)⟩
  | real htrue hfalse hint h =>
    refine ⟨_, rfl, fun hv => ?_, fun hplain => (hplain.real _ hint h).symm⟩
    exact ⟨fun hyes => absurd hyes htrue, fun hno => absurd hno hfalse,
      fun _ hn => (nomatch hint.symm.trans hn),
      fun _ _ hx => by rw [← hv, Option.some.inj (h.symm.trans hx)]⟩
  | text htrue hfalse hint hreal =>
    refine ⟨_, rfl, fun _ => ?_, fun _ => rfl⟩
    exact ⟨fun hyes => absurd hyes htrue, fun hno => absurd hno hfalse,
      fun _ hn => (nomatch hint.symm.trans hn), fun _ _ hx => (nomatch hreal.symm.trans hx)⟩

example : text? (ofWord "007") = some "7" ∧ text? (ofWord "1e3") = some "1000" ∧
    text? (ofWord "TRUE") = some "true" ∧ text? (ofWord "v1.5") = some "v1.5" := by
  decide +kernel

/-- A value that is guessed takes the place of anything below. -/
theorem Guessed.overlay {v : String} {d : Datum} (h : Guessed v d) (below : Datum) :
    overlay below d = d := by
  cases h <;> simp [Datum.overlay]

end Datum

/-! ## Blank texts -/

namespace ControllerConfig

theorem isBlankText_eq_false_of_mem {s : String} {c : Char} (hmem : c ∈ s.toList)
    (hc : Text.isBlank c = false) : isBlankText s = false :=
  List.all_eq_false.mpr ⟨c, hmem, by simp [hc]⟩

end ControllerConfig

/-- A digit is no blank. -/
theorem Text.isBlank_of_isDigit {c : Char} (h : c.isDigit = true) : isBlank c = false := by
  have hcode : 48 ≤ c.toNat ∧ c.toNat ≤ 57 := by
    simpa [Char.isDigit, UInt32.le_iff_toNat_le] using h
  have hranges : ∀ r ∈ blankRanges, r.2 < 48 ∨ 57 < r.1 := by decide
  have hoff : ∀ r ∈ blankRanges, ¬(r.1 ≤ c.toNat ∧ c.toNat ≤ r.2) := by
    intro r hr
    have hrange := hranges r hr
    omega
  simpa [isBlank, inRanges] using hoff

theorem exists_not_blank_toDigits (n : Nat) :
    ∃ c ∈ Nat.toDigits 10 n, Text.isBlank c = false := by
  obtain ⟨c, hc⟩ := List.exists_mem_of_ne_nil _ (@Nat.toDigits_ne_nil n 10)
  exact ⟨c, hc, Text.isBlank_of_isDigit (Nat.isDigit_of_mem_toDigits (by decide) (by decide) hc)⟩

theorem isBlankText_toString (n : Int) : ControllerConfig.isBlankText (toString n) = false := by
  cases n with
  | ofNat n =>
    obtain ⟨c, hc, hblank⟩ := exists_not_blank_toDigits n
    have hmem : c ∈ (toString (Int.ofNat n)).toList := by
      simpa [toString, Int.repr, Nat.repr] using hc
    exact ControllerConfig.isBlankText_eq_false_of_mem hmem hblank
  | negSucc n =>
    have hmem : '-' ∈ (toString (Int.negSucc n)).toList := by simp [toString, Int.repr]
    exact ControllerConfig.isBlankText_eq_false_of_mem hmem (by decide)

namespace Double

theorem exists_not_blank_positional (n : Nat) (place : Int) :
    ∃ c ∈ positional (Nat.toDigits 10 n) place, Text.isBlank c = false := by
  obtain ⟨c, hc, hblank⟩ := exists_not_blank_toDigits n
  unfold positional
  split
  -- The digits stand there as they are, or there is a point.
  · exact ⟨c, List.mem_append_left _ hc, hblank⟩
  · exact ⟨'.', by simp, by decide⟩

theorem isBlankText_text (x : Double) : ControllerConfig.isBlankText x.text = false := by
  match x with
  | .undefined => decide +kernel
  | .infinite negative => cases negative <;> decide +kernel
  | .finite true m e =>
    have hmem : '-' ∈ (text (.finite true m e)).toList := by simp [text]
    exact ControllerConfig.isBlankText_eq_false_of_mem hmem (by decide)
  | .finite false m e =>
    obtain ⟨c, hc, hblank⟩ := exists_not_blank_positional (shortest m e).1 (shortest m e).2
    by_cases hm : m = 0
    · have hmem : '0' ∈ (text (.finite false m e)).toList := by simp [text, hm]
      exact ControllerConfig.isBlankText_eq_false_of_mem hmem (by decide)
    · have hmem : c ∈ (text (.finite false m e)).toList := by simpa [text, hm] using hc
      exact ControllerConfig.isBlankText_eq_false_of_mem hmem hblank

end Double

/-- Guessing makes no text blank. -/
theorem Datum.Guessed.isBlankText_text? {v w : String} {d : Datum} (h : Guessed v d)
    (hw : text? d = some w) : w = v ∨ ControllerConfig.isBlankText w = false := by
  cases h with
  | yes => cases hw; exact .inr (by decide +kernel)
  | no => cases hw; exact .inr (by decide +kernel)
  | int => cases hw; exact .inr (isBlankText_toString _)
  | real => cases hw; exact .inr (Double.isBlankText_text _)
  | text => cases hw; exact .inl rfl

end MeshRegistry
