import MeshRegistry.Json.Printer
import MeshRegistry.Proofs.Json.Spelling
/-!
# Compact JSON is read back

The compact form is one of the texts that write a value: each character of a text has one of its
escapes or stands for itself, and a number keeps its digits and the power of ten that they count.
So what is written in the compact form is read as the value that it came from. Only a text that
could not be kept is lost, as nothing is written for it but a null.

## Main definitions

- `Json.Whole`: a value in which nothing is lost.

## Main results

- `Json.spellsText_escaped`, `Json.spellsNumber_intChars`, `Json.spellsNumber_realChars`: texts and
  numbers.
- `Json.Whole.spells`: the compact form writes the value.
- `Json.parse?_compact`: a whole value is read back.
-/

namespace MeshRegistry.Json

/-! ## Texts -/

theorem quad?_control {n : Nat} (h : n < 0x20) :
    quad? '0' '0' (Text.hexDigit (n / 16)) (Text.hexDigit (n % 16)) = some n := by
  have hhigh : Text.hexDigit? (Text.hexDigit (n / 16)) = some (n / 16) :=
    Text.hexDigit?_hexDigit (by omega)
  have hlow : Text.hexDigit? (Text.hexDigit (n % 16)) = some (n % 16) :=
    Text.hexDigit?_hexDigit (Nat.mod_lt n (by decide))
  have hzero : Text.hexDigit? '0' = some 0 := by decide
  simp only [quad?, hzero, hhigh, hlow, Option.bind_eq_bind, Option.bind_some, Option.pure_def,
    Option.some.injEq]
  omega

/-- The form of a character inside a text writes that character. -/
theorem SpellsText.escapeChar {t : Option (List Char)} {cs : List Char} (h : SpellsText t cs)
    (c : Char) : SpellsText (t.map (c :: ·)) (escapeChar c ++ cs) := by
  unfold Json.escapeChar
  split
  · exact .short rfl h
  · exact .short rfl h
  · exact .short rfl h
  · exact .short rfl h
  · exact .short rfl h
  · exact .short rfl h
  · exact .short rfl h
  next hquote hbackslash _ _ _ _ _ =>
    split
    next hcontrol =>
      have hwhole : ¬IsHalf c.toNat := by
        unfold IsHalf
        omega
      simpa using h.code (quad?_control hcontrol) hwhole
    next hplain => exact .plain hquote hbackslash hplain h

theorem spellsText_escaped (cs : List Char) : SpellsText (some cs) (cs.flatMap escapeChar) := by
  induction cs with
  | nil => exact .nil
  | cons c cs ih => exact ih.escapeChar c

/-! ## Numbers -/

theorem digits_toDigits (n : Nat) : Digits (Nat.toDigits 10 n) :=
  ⟨Nat.toDigits_ne_nil, fun _ hc => Nat.isDigit_of_mem_toDigits (by decide) (by decide) hc⟩

/-- Of all numerals only that of zero begins with a zero. -/
theorem eq_zero_of_head?_toDigits {n : Nat} (h : (Nat.toDigits 10 n).head? = some '0') : n = 0 := by
  induction n using Nat.strongRecOn with
  | ind n ih =>
    rw [Nat.toDigits_eq_if (by decide)] at h
    split at h
    next => simpa using h
    next hlarge =>
      have hhead : (Nat.toDigits 10 (n / 10)).head? = some '0' := by
        simpa [List.head?_append, List.head?_eq_some_head Nat.toDigits_ne_nil] using h
      have := ih (n / 10) (by omega) hhead
      omega

theorem spellsSigned_intChars (z : Int) : SpellsSigned z (intChars z) := by
  cases z with
  | ofNat n => simpa [intChars] using SpellsSigned.bare (digits_toDigits n)
  | negSucc n => simpa [intChars, Int.negSucc_eq] using SpellsSigned.minus (digits_toDigits (n + 1))

/-- A numeral writes a number without a fraction. -/
theorem spellsUnsigned_toDigits (negative : Bool) (n : Nat) {exponent : Option Int}
    {es : List Char} (h : SpellsExponent exponent es) :
    SpellsUnsigned negative
      (if exponent.isNone ∧ ¬(negative ∧ n = 0) then .int (if negative then -(n : Int) else n)
        else .real ⟨negative, n, exponent.getD 0⟩)
      (Nat.toDigits 10 n ++ es) := by
  have hlead : (Nat.toDigits 10 n).head? = some '0' → Nat.toDigits 10 n = ['0'] := by
    intro hzero
    rw [eq_zero_of_head?_toDigits hzero, Nat.toDigits_zero]
  have hparts : SpellsUnsigned negative (ofNumeral negative (Nat.toDigits 10 n) none exponent)
      (Nat.toDigits 10 n ++ ([] ++ es)) :=
    .parts (digits_toDigits n) hlead .absent h
  simpa [ofNumeral, Decimal.ofParts] using hparts

theorem spellsNumber_intChars (z : Int) : SpellsNumber (.int z) (intChars z) := by
  cases z with
  | ofNat n =>
    exact .bare (by simpa [intChars] using spellsUnsigned_toDigits false n .absent)
  | negSucc n =>
    exact .minus (by simpa [Int.negSucc_eq] using spellsUnsigned_toDigits true (n + 1) .absent)

theorem spellsNumber_realChars (d : Decimal) : SpellsNumber (.real d) (realChars d) := by
  obtain ⟨negative, digits, exponent⟩ := d
  have hexponent := SpellsExponent.given (.inl rfl) (spellsSigned_intChars exponent)
  cases negative with
  | false => exact .bare (by simpa [realChars] using spellsUnsigned_toDigits false digits hexponent)
  | true => exact .minus (by simpa using spellsUnsigned_toDigits true digits hexponent)

/-! ## Values -/

/-- A value without texts that cannot be kept. -/
inductive Whole : Json → Prop where
  | null : Whole .null
  | bool (b : Bool) : Whole (.bool b)
  | int (n : Int) : Whole (.int n)
  | real (d : Decimal) : Whole (.real d)
  | str (s : String) : Whole (.str s)
  | arr {items : List Json} (h : ∀ j ∈ items, Whole j) : Whole (.arr items)
  | obj {fields : List (String × Json)} (h : ∀ f ∈ fields, Whole f.2) : Whole (.obj fields)

theorem charsItems_eq_intercalate (items : List Json) :
    charsItems items = [','].intercalate (items.map chars) := by
  induction items with
  | nil => rfl
  | cons j items ih =>
    cases items with
    | nil => simp [charsItems]
    | cons j' items => simpa [charsItems, List.intercalate_cons_cons] using ih

/-- A field as the compact form has it. -/
def compactMember (f : String × Json) : Member where
  before := []
  key := some f.1.toList
  keyChars := f.1.toList.flatMap escapeChar
  between := []
  value := f.2
  valueChars := chars f.2

theorem legal_compactMember (f : String × Json) : (compactMember f).Legal where
  before := List.forall_mem_nil _
  key := spellsText_escaped f.1.toList
  between := List.forall_mem_nil _

theorem charsFields_eq_intercalate (fields : List (String × Json)) :
    charsFields fields = [','].intercalate ((fields.map compactMember).map Member.chars) := by
  induction fields with
  | nil => rfl
  | cons f fields ih =>
    cases fields with
    | nil => simp [charsFields, quoted, compactMember, Member.chars]
    | cons f' fields =>
      rw [charsFields, ih]
      · simp [quoted, compactMember, Member.chars, List.intercalate_cons_cons]
      · simp

theorem fields?_compactMember (fields : List (String × Json)) :
    Member.fields? (fields.map compactMember) = some fields := by
  induction fields with
  | nil => rfl
  | cons f fields ih => simp [Member.fields?, ih, compactMember]

/-- The compact form writes the value. -/
theorem Whole.spells {j : Json} (h : j.Whole) : Spells j (chars j) := by
  induction h with
  | null =>
    rw [chars]
    exact .null
  | bool b =>
    cases b with
    | false =>
      rw [chars]
      exact .boolFalse
    | true =>
      rw [chars]
      exact .boolTrue
  | int z =>
    rw [chars]
    exact .number (spellsNumber_intChars z)
  | real d =>
    rw [chars]
    exact .number (spellsNumber_realChars d)
  | str s => simpa [chars, quoted, ofText] using Spells.str (spellsText_escaped s.toList)
  | @arr items _ ih =>
    rw [chars, charsItems_eq_intercalate]
    by_cases hne : items = []
    · subst hne
      exact .arrEmpty (List.forall_mem_nil _)
    · have hparts : ∀ p ∈ items.map fun j => (j, chars j), Spells p.1 p.2 := by simpa using ih
      simpa [Function.comp_def] using Spells.arr (by simpa using hne) hparts
  | @obj fields _ ih =>
    rw [chars, charsFields_eq_intercalate]
    by_cases hne : fields = []
    · subst hne
      exact .objEmpty (List.forall_mem_nil _)
    · have hlegal : ∀ m ∈ fields.map compactMember, m.Legal :=
        List.forall_mem_map.mpr fun f _ => legal_compactMember f
      have hvalues : ∀ m ∈ fields.map compactMember, Spells m.value m.valueChars :=
        List.forall_mem_map.mpr ih
      have hspells := Spells.obj (by simpa using hne) hlegal hvalues
      rwa [fields?_compactMember] at hspells

theorem parse?_compact {j : Json} (h : j.Whole) : parse? j.compact = some j := by
  have hspells := h.spells
  exact Spells.parse? (by simpa [compact] using hspells)

end MeshRegistry.Json
