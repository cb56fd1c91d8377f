import MeshRegistry.Json.Parser
/-!
# The texts of a value

A value has many texts: gaps may stand around every part, a character of a text may be escaped in
several ways, and a number may have a fraction and an exponent. The grammar here says which texts
write a value, without saying how they are read. The reader finds the value of each of them.

A value is read up to its end. The reader does not take the gaps behind it, while the grammar
counts them as part of the text, so what is left over is only determined up to gaps.

## Main definitions

- `Json.SpellsText`, `Json.SpellsNumber`: how texts and numbers are written.
- `Json.Spells`: how a value is written.
- `Json.Ends`: what may follow a value.
- `Json.ReadsAs`: characters are read as a value, whatever follows them.

## Main results

- `Json.SpellsText.textBody`, `Json.SpellsNumber.number`: texts and numbers are read.
- `Json.Spells.readsAs`: a value is read up to its end.
- `Json.Spells.parse?`: a text that writes a value is read as that value.
- `Json.Spells.unique`: a text writes at most one value.
-/

namespace MeshRegistry.Json

/-! ## The grammar -/

/-- Characters that may stand between the parts of a value. -/
def Gap (cs : List Char) : Prop := ∀ c ∈ cs, isGap c = true

/-- A code that only counts as half of a pair. -/
def IsHalf (n : Nat) : Prop := 0xD800 ≤ n ∧ n < 0xE000

/-- A code that is the first half of a pair. -/
def IsHigh (n : Nat) : Prop := 0xD800 ≤ n ∧ n < 0xDC00

/-- A code that is the second half of a pair. -/
def IsLow (n : Nat) : Prop := 0xDC00 ≤ n ∧ n < 0xE000

/-- An escape with the second half of a pair comes next. -/
def LowNext (cs : List Char) : Prop :=
  ∃ a b c d n rest, cs = '\\' :: 'u' :: a :: b :: c :: d :: rest ∧ quad? a b c d = some n ∧ IsLow n

/-- How the characters of a text are written between quotes. A text with a half that has no other
half is written as well, but it is lost. -/
inductive SpellsText : Option (List Char) → List Char → Prop where
  | nil : SpellsText (some []) []
  | plain {c : Char} {t : Option (List Char)} {cs : List Char} (quote : c ≠ '"')
      (backslash : c ≠ '\\') (control : ¬c.toNat < 0x20) (rest : SpellsText t cs) :
      SpellsText (t.map (c :: ·)) (c :: cs)
  | short {e c : Char} {t : Option (List Char)} {cs : List Char} (letter : shortEscape? e = some c)
      (rest : SpellsText t cs) : SpellsText (t.map (c :: ·)) ('\\' :: e :: cs)
  | code {a b c d : Char} {n : Nat} {t : Option (List Char)} {cs : List Char}
      (digits : quad? a b c d = some n) (whole : ¬IsHalf n) (rest : SpellsText t cs) :
      SpellsText (t.map (Char.ofNat n :: ·)) ('\\' :: 'u' :: a :: b :: c :: d :: cs)
  | pair {a b c d a' b' c' d' : Char} {hi lo : Nat} {t : Option (List Char)} {cs : List Char}
      (digits : quad? a b c d = some hi) (high : IsHigh hi)
      (digits' : quad? a' b' c' d' = some lo) (low : IsLow lo) (rest : SpellsText t cs) :
      SpellsText (t.map (Char.ofNat (0x10000 + (hi - 0xD800) * 0x400 + (lo - 0xDC00)) :: ·))
        ('\\' :: 'u' :: a :: b :: c :: d :: '\\' :: 'u' :: a' :: b' :: c' :: d' :: cs)
  | half {a b c d : Char} {n : Nat} {t : Option (List Char)} {cs : List Char}
      (digits : quad? a b c d = some n) (half : IsHalf n) (alone : IsHigh n → ¬LowNext cs)
      (rest : SpellsText t cs) : SpellsText none ('\\' :: 'u' :: a :: b :: c :: d :: cs)

/-- One digit or more. -/
def Digits (ds : List Char) : Prop := ds ≠ [] ∧ ∀ c ∈ ds, c.isDigit = true

/-- How an integer is written that may have a sign and zeros in front. -/
inductive SpellsSigned : Int → List Char → Prop where
  | bare {ds : List Char} (digits : Digits ds) : SpellsSigned (Nat.ofDigitChars 10 ds 0) ds
  | plus {ds : List Char} (digits : Digits ds) : SpellsSigned (Nat.ofDigitChars 10 ds 0) ('+' :: ds)
  | minus {ds : List Char} (digits : Digits ds) :
      SpellsSigned (-(Nat.ofDigitChars 10 ds 0 : Int)) ('-' :: ds)

/-- How the exponent of a number is written, if there is one. -/
inductive SpellsExponent : Option Int → List Char → Prop where
  | absent : SpellsExponent none []
  | given {mark : Char} {z : Int} {cs : List Char} (letter : mark = 'e' ∨ mark = 'E')
      (exponent : SpellsSigned z cs) : SpellsExponent (some z) (mark :: cs)

/-- How the fraction of a number is written, if there is one. -/
inductive SpellsFraction : Option (List Char) → List Char → Prop where
  | absent : SpellsFraction none []
  | given {ds : List Char} (digits : Digits ds) : SpellsFraction (some ds) ('.' :: ds)

/-- The number with the given parts. Only what has neither fraction nor exponent is an integer, and
a negative zero is none. -/
def ofNumeral (negative : Bool) (whole : List Char) (fraction : Option (List Char))
    (exponent : Option Int) : Json :=
  let n := Nat.ofDigitChars 10 whole 0
  if fraction.isNone ∧ exponent.isNone ∧ ¬(negative ∧ n = 0) then
    .int (if negative then -(n : Int) else n)
  else .real (Decimal.ofParts negative whole (fraction.getD []) (exponent.getD 0))

/-- How a number is written whose sign has been written. -/
inductive SpellsUnsigned (negative : Bool) : Json → List Char → Prop where
  | parts {ds fs es : List Char} {fraction : Option (List Char)} {exponent : Option Int}
      (whole : Digits ds) (lead : ds.head? = some '0' → ds = ['0'])
      (fractionPart : SpellsFraction fraction fs) (exponentPart : SpellsExponent exponent es) :
      SpellsUnsigned negative (ofNumeral negative ds fraction exponent) (ds ++ (fs ++ es))

/-- How a number is written. -/
inductive SpellsNumber : Json → List Char → Prop where
  | bare {j : Json} {cs : List Char} (h : SpellsUnsigned false j cs) : SpellsNumber j cs
  | minus {j : Json} {cs : List Char} (h : SpellsUnsigned true j cs) : SpellsNumber j ('-' :: cs)

/-- The value of a text, which may be lost. -/
def ofText : Option (List Char) → Json
  | some cs => .str (String.ofList cs)
  | none => .unkept

/-- A field of an object as it is written. -/
structure Member where
  /-- The gap in front of the key. -/
  before : List Char
  /-- The key, which may be lost. -/
  key : Option (List Char)
  /-- The characters of the key between its quotes. -/
  keyChars : List Char
  /-- The gap behind the key. -/
  between : List Char
  /-- The value. -/
  value : Json
  /-- The characters of the value, with the gaps around it. -/
  valueChars : List Char

namespace Member

/-- The characters of a field. -/
def chars (m : Member) : List Char :=
  m.before ++ '"' :: (m.keyChars ++ '"' :: (m.between ++ ':' :: m.valueChars))

/-- Everything of a field but its value is well written. -/
structure Legal (m : Member) : Prop where
  before : Gap m.before
  key : SpellsText m.key m.keyChars
  between : Gap m.between

/-- The fields of an object; `none` when a key is lost. -/
def fields? : List Member → Option (List (String × Json))
  | [] => some []
  | m :: ms =>
    match m.key, fields? ms with
    | some k, some fields => some ((String.ofList k, m.value) :: fields)
    | _, _ => none

end Member

/-- The value of an object, which is lost with any of its keys. -/
def ofFields : Option (List (String × Json)) → Json
  | some fields => .obj fields
  | none => .unkept

/-- How a value is written. -/
inductive Spells : Json → List Char → Prop where
  | null : Spells .null ['n', 'u', 'l', 'l']
  | boolTrue : Spells (.bool true) ['t', 'r', 'u', 'e']
  | boolFalse : Spells (.bool false) ['f', 'a', 'l', 's', 'e']
  | number {j : Json} {cs : List Char} (h : SpellsNumber j cs) : Spells j cs
  | str {t : Option (List Char)} {cs : List Char} (h : SpellsText t cs) :
      Spells (ofText t) ('"' :: (cs ++ ['"']))
  | arrEmpty {gap : List Char} (h : Gap gap) : Spells (.arr []) ('[' :: (gap ++ [']']))
  | arr {parts : List (Json × List Char)} (nonempty : parts ≠ [])
      (items : ∀ p ∈ parts, Spells p.1 p.2) :
      Spells (.arr (parts.map (·.1))) ('[' :: ([','].intercalate (parts.map (·.2)) ++ [']']))
  | objEmpty {gap : List Char} (h : Gap gap) : Spells (.obj []) ('{' :: (gap ++ ['}']))
  | obj {members : List Member} (nonempty : members ≠ []) (legal : ∀ m ∈ members, m.Legal)
      (values : ∀ m ∈ members, Spells m.value m.valueChars) :
      Spells (ofFields (Member.fields? members))
        ('{' :: ([','].intercalate (members.map Member.chars) ++ ['}']))
  | spaced {j : Json} {before cs after : List Char} (hbefore : Gap before) (h : Spells j cs)
      (hafter : Gap after) : Spells j (before ++ (cs ++ after))

/-! ## Gaps -/

theorem skipGap_append {gap : List Char} (h : Gap gap) (cs : List Char) :
    skipGap (gap ++ cs) = skipGap cs :=
  List.dropWhile_append_of_pos h

theorem skipGap_cons {c : Char} (h : isGap c = false) (cs : List Char) :
    skipGap (c :: cs) = c :: cs := by
  simp [skipGap, h]

theorem skipGap_skipGap (cs : List Char) : skipGap (skipGap cs) = skipGap cs := by
  induction cs with
  | nil => rfl
  | cons c cs ih =>
    by_cases hgap : isGap c = true
    · simpa [skipGap, hgap] using ih
    · simp [skipGap, hgap]

theorem value_skipGap (n : Nat) (cs : List Char) : value n (skipGap cs) = value n cs := by
  cases n with
  | zero => rfl
  | succ n => rw [value, value, skipGap_skipGap]

theorem members_skipGap (n : Nat) (cs : List Char) : members n (skipGap cs) = members n cs := by
  cases n with
  | zero => rfl
  | succ n => rw [members, members, skipGap_skipGap]

theorem items_skipGap (n : Nat) (cs : List Char) : items n (skipGap cs) = items n cs := by
  cases n with
  | zero => rfl
  | succ n => rw [items, items, value_skipGap]

/-- What may follow a value: nothing, a gap, or what separates and closes. -/
def Ends (rest : List Char) : Prop :=
  ∀ c ∈ rest.head?, isGap c = true ∨ c = ',' ∨ c = ']' ∨ c = '}'

theorem Ends.nil : Ends [] := by
  intro c hc
  cases hc

theorem Ends.cons {c : Char} (h : c = ',' ∨ c = ']' ∨ c = '}') (rest : List Char) :
    Ends (c :: rest) := by
  rintro _ ⟨⟩
  exact .inr h

theorem Ends.gap_append {gap rest : List Char} (hgap : Gap gap) (h : Ends rest) :
    Ends (gap ++ rest) := by
  cases gap with
  | nil => exact h
  | cons c gap =>
    rintro _ ⟨⟩
    exact .inl (hgap c List.mem_cons_self)

/-! ## Texts -/

/-- An escape whose digits are no digits spoils a text. -/
theorem textBody_of_quad?_none {a b c d : Char} (h : quad? a b c d = none) (rest : List Char) :
    textBody ('\\' :: 'u' :: a :: b :: c :: d :: rest) = none := by
  by_cases hnext : ∃ a' b' c' d' rest', rest = '\\' :: 'u' :: a' :: b' :: c' :: d' :: rest'
  · obtain ⟨a', b', c', d', rest', rfl⟩ := hnext
    rw [textBody]
    simp [h]
  · rw [textBody]
    · simp [h]
    · intro a' b' c' d' rest' hrest
      exact hnext ⟨_, _, _, _, _, hrest⟩

/-- An escape that does not begin a pair is read by itself. -/
theorem textBody_single {a b c d : Char} {rest : List Char} {n : Nat}
    (hquad : quad? a b c d = some n) (halone : IsHigh n → ¬LowNext rest) :
    textBody ('\\' :: 'u' :: a :: b :: c :: d :: rest) =
      (textBody rest).map
        (if 0xD800 ≤ n ∧ n < 0xE000 then fun r => (none, r.2) else pushChar (Char.ofNat n)) := by
  -- Where another escape follows, both are looked at together.
  by_cases hnext : ∃ a' b' c' d' rest', rest = '\\' :: 'u' :: a' :: b' :: c' :: d' :: rest'
  · obtain ⟨a', b', c', d', rest', rfl⟩ := hnext
    cases hquad' : quad? a' b' c' d' with
    | none =>
      -- It is looked at too early, but it would spoil the text later as well.
      rw [textBody]
      simp [hquad, hquad', textBody_of_quad?_none hquad']
    | some lo =>
      have hpair : ¬(0xD800 ≤ n ∧ n < 0xDC00 ∧ 0xDC00 ≤ lo ∧ lo < 0xE000) := by
        rintro ⟨hhigh, hhigh', hlow⟩
        exact halone ⟨hhigh, hhigh'⟩ ⟨_, _, _, _, lo, _, rfl, hquad', hlow⟩
      rw [textBody]
      simp only [hquad, hquad', if_neg hpair]
      split <;> rfl
  · rw [textBody]
    · simp only [hquad]
      split <;> rfl
    · intro a' b' c' d' rest' h
      exact hnext ⟨_, _, _, _, _, h⟩

/-- An escape that is no half of a pair stands for its character. -/
theorem textBody_code {a b c d : Char} {n : Nat} (hquad : quad? a b c d = some n)
    (hwhole : ¬IsHalf n) (rest : List Char) :
    textBody ('\\' :: 'u' :: a :: b :: c :: d :: rest) =
      (textBody rest).map (pushChar (Char.ofNat n)) := by
  have halone : IsHigh n → ¬LowNext rest := by
    rintro ⟨hhigh, hhigh'⟩ _
    exact hwhole ⟨hhigh, by omega⟩
  unfold IsHalf at hwhole
  rw [textBody_single hquad halone, if_neg hwhole]

/-- A half without its other half loses the text, but not what follows it. -/
theorem textBody_half {a b c d : Char} {n : Nat} (hquad : quad? a b c d = some n)
    (hhalf : IsHalf n) {rest : List Char} (halone : IsHigh n → ¬LowNext rest) :
    textBody ('\\' :: 'u' :: a :: b :: c :: d :: rest) =
      (textBody rest).map fun r => (none, r.2) := by
  unfold IsHalf at hhalf
  rw [textBody_single hquad halone, if_pos hhalf]

theorem textBody_short {e c : Char} (h : shortEscape? e = some c) (rest : List Char) :
    textBody ('\\' :: e :: rest) = (textBody rest).map (pushChar c) := by
  have hletter : e ≠ 'u' := by
    rintro rfl
    cases h
  rw [textBody]
  · simp [h]
  · exact fun _ _ _ _ _ _ _ _ _ he => absurd he hletter
  · exact fun _ _ _ _ _ he => absurd he hletter

theorem textBody_plain {c : Char} (hquote : c ≠ '"') (hbackslash : c ≠ '\\')
    (hcontrol : ¬c.toNat < 0x20) (rest : List Char) :
    textBody (c :: rest) = (textBody rest).map (pushChar c) := by
  rw [textBody]
  · rw [if_neg (not_or.mpr ⟨hbackslash, hcontrol⟩)]
  · exact hquote
  -- None of the patterns with a backslash fits.
  all_goals intros; exact hbackslash ‹_›

theorem textBody_pair {a b c d a' b' c' d' : Char} {hi lo : Nat} {rest : List Char}
    (hquad : quad? a b c d = some hi) (hhigh : IsHigh hi) (hquad' : quad? a' b' c' d' = some lo)
    (hlow : IsLow lo) :
    textBody ('\\' :: 'u' :: a :: b :: c :: d :: '\\' :: 'u' :: a' :: b' :: c' :: d' :: rest) =
      (textBody rest).map
        (pushChar (Char.ofNat (0x10000 + (hi - 0xD800) * 0x400 + (lo - 0xDC00)))) := by
  have hpair : 0xD800 ≤ hi ∧ hi < 0xDC00 ∧ 0xDC00 ≤ lo ∧ lo < 0xE000 :=
    ⟨hhigh.1, hhigh.2, hlow.1, hlow.2⟩
  rw [textBody]
  simp only [hquad, hquad', if_pos hpair]

theorem ne_quote_of_quad? {a b c d : Char} {n : Nat} (h : quad? a b c d = some n) :
    '"' ≠ a ∧ '"' ≠ b ∧ '"' ≠ c ∧ '"' ≠ d := by
  have hquote : Text.hexDigit? '"' = none := by decide
  refine ⟨?_, ?_, ?_, ?_⟩
  all_goals
    rintro rfl
    simp [quad?, hquote] at h

/-- The closing quote is no part of an escape. -/
theorem lowNext_of_closed {cs rest : List Char} (h : LowNext (cs ++ '"' :: rest)) : LowNext cs := by
  obtain ⟨a, b, c, d, n, rest', hcs, hquad, hlow⟩ := h
  obtain ⟨ha, hb, hc, hd⟩ := ne_quote_of_quad? hquad
  -- With fewer than six characters the quote would be one of the escape.
  rcases cs with _ | ⟨c₁, _ | ⟨c₂, _ | ⟨c₃, _ | ⟨c₄, _ | ⟨c₅, _ | ⟨c₆, cs⟩⟩⟩⟩⟩⟩
  · simp at hcs
  · simp at hcs
  · simp [ha] at hcs
  · simp [hb] at hcs
  · simp [hc] at hcs
  · simp [hd] at hcs
  · simp only [List.cons_append, List.cons.injEq] at hcs
    obtain ⟨rfl, rfl, rfl, rfl, rfl, rfl, -⟩ := hcs
    exact ⟨_, _, _, _, n, cs, rfl, hquad, hlow⟩

/-- A text is read up to the quote that closes it. -/
theorem SpellsText.textBody {t : Option (List Char)} {cs : List Char} (h : SpellsText t cs)
    (rest : List Char) : textBody (cs ++ '"' :: rest) = some (t, rest) := by
  induction h with
  | nil => simp [Json.textBody]
  | plain quote backslash control _ ih =>
    rw [List.cons_append, textBody_plain quote backslash control, ih]
    rfl
  | short letter _ ih =>
    simp only [List.cons_append]
    rw [textBody_short letter, ih]
    rfl
  | code digits whole _ ih =>
    simp only [List.cons_append]
    rw [textBody_code digits whole, ih]
    rfl
  | pair digits high digits' low _ ih =>
    simp only [List.cons_append]
    rw [textBody_pair digits high digits' low, ih]
    rfl
  | half digits half alone _ ih =>
    simp only [List.cons_append]
    rw [textBody_half digits half fun hhigh hlow => alone hhigh (lowNext_of_closed hlow), ih]
    rfl

/-! ## Numbers -/

theorem Digits.nat? {ds : List Char} (h : Digits ds) :
    Text.nat? ds = some (Nat.ofDigitChars 10 ds 0) := by
  rw [Text.nat?, if_pos ⟨h.1, List.all_eq_true.mpr h.2⟩]

/-- Digits do not begin with a sign. -/
theorem Digits.exists_cons {ds : List Char} (h : Digits ds) :
    ∃ c cs, ds = c :: cs ∧ c.isDigit = true ∧ c ≠ '-' ∧ c ≠ '+' := by
  obtain ⟨hne, hdigits⟩ := h
  obtain ⟨c, cs, rfl⟩ := List.exists_cons_of_ne_nil hne
  have hdigit : c.isDigit = true := hdigits c List.mem_cons_self
  refine ⟨c, cs, rfl, hdigit, ?_, ?_⟩
  · rintro rfl
    cases hdigit
  · rintro rfl
    cases hdigit

/-- No digit comes next. -/
def NoDigitNext (rest : List Char) : Prop := ∀ c ∈ rest.head?, c.isDigit = false

theorem Digits.span {ds rest : List Char} (h : Digits ds) (hrest : NoDigitNext rest) :
    (ds ++ rest).takeWhile Char.isDigit = ds ∧ (ds ++ rest).dropWhile Char.isDigit = rest := by
  rw [List.takeWhile_append_of_pos h.2, List.dropWhile_append_of_pos h.2]
  cases rest with
  | nil => simp
  | cons c rest => simp [hrest c rfl]

/-- A number has no digit, point or exponent more. -/
structure Closed (c : Char) : Prop where
  digit : c.isDigit = false
  point : c ≠ '.'
  mark : ¬(c = 'e' ∨ c = 'E')

theorem Ends.closed {rest : List Char} (h : Ends rest) {c : Char} (hc : c ∈ rest.head?) :
    Closed c := by
  rcases h c hc with hgap | rfl | rfl | rfl
  · simp only [isGap, Bool.or_eq_true, beq_iff_eq] at hgap
    rcases hgap with ((rfl | rfl) | rfl) | rfl <;> constructor <;> simp
  all_goals constructor <;> simp

theorem Ends.noDigitNext {rest : List Char} (h : Ends rest) : NoDigitNext rest :=
  fun _ hc => (h.closed hc).digit

/-- An exponent is read up to its end. -/
theorem SpellsExponent.exponentPart {exponent : Option Int} {es : List Char}
    (h : SpellsExponent exponent es) {rest : List Char} (hrest : Ends rest) :
    exponentPart (es ++ rest) = some (exponent, rest) := by
  cases h with
  | absent =>
    cases rest with
    | nil => rfl
    | cons c rest => simp [Json.exponentPart, (hrest.closed rfl).mark]
  | given letter exponent =>
    cases exponent with
    | @bare ds digits =>
      obtain ⟨htake, hdrop⟩ := digits.span hrest.noDigitNext
      have hvalue := digits.nat?
      obtain ⟨c, cs, rfl, -, hminus, hplus⟩ := digits.exists_cons
      rw [List.cons_append] at htake hdrop
      simp [Json.exponentPart, letter, hminus, hplus, htake, hdrop, hvalue]
    | plus digits =>
      obtain ⟨htake, hdrop⟩ := digits.span hrest.noDigitNext
      simp [Json.exponentPart, letter, htake, hdrop, digits.nat?]
    | minus digits =>
      obtain ⟨htake, hdrop⟩ := digits.span hrest.noDigitNext
      simp [Json.exponentPart, letter, htake, hdrop, digits.nat?]

/-- What follows the fraction neither continues it nor starts another one. -/
theorem SpellsExponent.head {exponent : Option Int} {es : List Char}
    (h : SpellsExponent exponent es) {rest : List Char} (hrest : Ends rest) :
    ∀ c ∈ (es ++ rest).head?, c.isDigit = false ∧ c ≠ '.' := by
  cases h with
  | absent => exact fun c hc => ⟨(hrest.closed hc).digit, (hrest.closed hc).point⟩
  | given letter exponent =>
    rintro _ ⟨⟩
    rcases letter with rfl | rfl <;> simp

/-- A fraction is read up to its end. -/
theorem SpellsFraction.fractionPart {fraction : Option (List Char)} {fs : List Char}
    (h : SpellsFraction fraction fs) {rest : List Char}
    (hrest : ∀ c ∈ rest.head?, c.isDigit = false ∧ c ≠ '.') :
    fractionPart (fs ++ rest) = some (fraction, rest) := by
  cases h with
  | absent =>
    cases rest with
    | nil => rfl
    | cons c rest => simp [Json.fractionPart, (hrest c rfl).2]
  | given digits =>
    obtain ⟨htake, hdrop⟩ := digits.span fun c hc => (hrest c hc).1
    simp [Json.fractionPart, htake, hdrop, digits.1]

theorem SpellsFraction.noDigitNext {fraction : Option (List Char)} {fs : List Char}
    (h : SpellsFraction fraction fs) {rest : List Char}
    (hrest : ∀ c ∈ rest.head?, c.isDigit = false ∧ c ≠ '.') : NoDigitNext (fs ++ rest) := by
  cases h with
  | absent => exact fun c hc => (hrest c hc).1
  | given digits =>
    rintro _ ⟨⟩
    rfl

/-- A number is read up to its end. -/
theorem SpellsUnsigned.unsigned {negative : Bool} {j : Json} {cs : List Char}
    (h : SpellsUnsigned negative j cs) {rest : List Char} (hrest : Ends rest) :
    unsigned negative (cs ++ rest) = some (j, rest) := by
  cases h with
  | @parts ds fs es fraction exponent whole lead hfraction hexponent =>
    have hhead := hexponent.head hrest
    obtain ⟨htake, hdrop⟩ := whole.span (hfraction.noDigitNext hhead)
    -- The check for leading zeros passes.
    have hlead : ¬(1 < ds.length ∧ ds.head? = some '0') := by
      rintro ⟨hlength, hzero⟩
      rw [lead hzero] at hlength
      simp at hlength
    simp only [Json.unsigned, List.append_assoc, htake, hdrop, whole.nat?, gt_iff_lt, if_neg hlead,
      hfraction.fractionPart hhead, hexponent.exponentPart hrest, Option.bind_eq_bind,
      Option.bind_some, Option.pure_def, ofNumeral]
    split <;> rfl

theorem SpellsNumber.number {j : Json} {cs : List Char} (h : SpellsNumber j cs)
    {rest : List Char} (hrest : Ends rest) : number (cs ++ rest) = some (j, rest) := by
  cases h with
  | minus h => exact h.unsigned hrest
  | bare h =>
    have hread := h.unsigned hrest
    cases h with
    | parts whole lead hfraction hexponent =>
      obtain ⟨c, cs, rfl, -, hminus, -⟩ := whole.exists_cons
      simpa [Json.number, hminus] using hread

/-- A number begins with a minus sign or with a digit. -/
def NumberStart (c : Char) : Prop := c = '-' ∨ c.isDigit = true

theorem NumberStart.isGap {c : Char} (h : NumberStart c) : isGap c = false := by
  refine Bool.eq_false_iff.mpr fun hgap => ?_
  simp only [Json.isGap, Bool.or_eq_true, beq_iff_eq] at hgap
  rcases hgap with ((rfl | rfl) | rfl) | rfl <;> simp [NumberStart] at h

theorem SpellsNumber.exists_start {j : Json} {cs : List Char} (h : SpellsNumber j cs) :
    ∃ c cs', cs = c :: cs' ∧ NumberStart c := by
  cases h with
  | minus h => exact ⟨_, _, rfl, .inl rfl⟩
  | bare h =>
    cases h with
    | parts whole lead hfraction hexponent =>
      obtain ⟨c, cs', rfl, hdigit, -⟩ := whole.exists_cons
      exact ⟨c, _, rfl, .inr hdigit⟩

theorem value_of_number (n : Nat) {c : Char} (h : NumberStart c) (cs : List Char) :
    value (n + 1) (c :: cs) = number (c :: cs) := by
  have hstart {d : Char} {rest : List Char} (heq : c :: cs = d :: rest) : NumberStart d :=
    (List.cons.inj heq).1 ▸ h
  rw [value, skipGap_cons h.isGap]
  -- None of the other values begins like a number.
  split
  next heq => exact absurd (hstart heq) (by simp [NumberStart])
  next heq => exact absurd (hstart heq) (by simp [NumberStart])
  next heq => exact absurd (hstart heq) (by simp [NumberStart])
  next heq => exact absurd (hstart heq) (by simp [NumberStart])
  next heq => exact absurd (hstart heq) (by simp [NumberStart])
  next heq => exact absurd (hstart heq) (by simp [NumberStart])
  next => rfl

/-! ## Values -/

/-- Characters are read as a value, whatever follows them. -/
def ReadsAs (j : Json) (cs : List Char) : Prop :=
  ∀ n rest, Ends rest → 2 * cs.length ≤ n →
    ∃ rest', value n (cs ++ rest) = some (j, rest') ∧ skipGap rest' = skipGap rest

/-- For characters that begin a value it is enough to look at counts that are not zero. -/
theorem readsAs_cons {j : Json} {c : Char} {cs : List Char}
    (h : ∀ n rest, Ends rest → 2 * cs.length + 1 ≤ n →
      value (n + 1) (c :: (cs ++ rest)) = some (j, rest)) : ReadsAs j (c :: cs) := by
  intro n rest hrest hn
  rw [List.length_cons] at hn
  obtain ⟨n, rfl⟩ : ∃ m, n = m + 1 := Nat.exists_eq_succ_of_ne_zero (by omega)
  exact ⟨rest, h n rest hrest (by omega), rfl⟩

/-- A closing bracket is no value. -/
theorem value_closing (n : Nat) (cs : List Char) : value n (']' :: cs) = none := by
  cases n with
  | zero => rfl
  | succ n => simp [value, skipGap, isGap, number, unsigned, Text.nat?]

theorem items_closing (n : Nat) (cs : List Char) : items n (']' :: cs) = none := by
  cases n with
  | zero => rfl
  | succ n => rw [items, value_closing]

theorem members_closing (n : Nat) (cs : List Char) : members n ('}' :: cs) = none := by
  cases n with
  | zero => rfl
  | succ n => simp [members, skipGap, isGap]

/-- The items of a list are read one by one. -/
theorem items_intercalate {parts : List (Json × List Char)} (hne : parts ≠ [])
    (h : ∀ p ∈ parts, ReadsAs p.1 p.2) {n : Nat} (rest : List Char)
    (hn : 2 * ([','].intercalate (parts.map (·.2))).length + 1 ≤ n) :
    items n ([','].intercalate (parts.map (·.2)) ++ ']' :: rest) =
      some (parts.map (·.1), rest) := by
  induction parts generalizing n with
  | nil => exact absurd rfl hne
  | cons p parts ih =>
    obtain ⟨n, rfl⟩ : ∃ m, n = m + 1 := Nat.exists_eq_succ_of_ne_zero (by omega)
    obtain ⟨hp, hparts⟩ := List.forall_mem_cons.mp h
    cases parts with
    | nil =>
      simp only [List.map_cons, List.map_nil, List.intercalate_singleton] at hn ⊢
      obtain ⟨rest', hvalue, hgap⟩ := hp n (']' :: rest) (.cons (by simp) rest) (by omega)
      simp [items, hvalue, hgap, skipGap_cons, isGap]
    | cons p' parts =>
      simp only [List.map_cons, List.intercalate_cons_cons, List.length_append, List.length_cons,
        List.length_nil] at hn
      have hrest := ih (List.cons_ne_nil p' parts) hparts (n := n) (by simp; omega)
      obtain ⟨rest', hvalue, hgap⟩ := hp n
        (',' :: ([','].intercalate ((p' :: parts).map (·.2)) ++ ']' :: rest))
        (.cons (by simp) _) (by omega)
      rw [skipGap_cons rfl] at hgap
      simp only [List.map_cons, List.intercalate_cons_cons, List.append_assoc,
        List.cons_append, List.nil_append, items] at hvalue hgap hrest ⊢
      rw [hvalue]
      simp only [hgap, hrest, Option.map_some]

section Fields

variable {m : Member} {n : Nat} {rest : List Char}

/-- A field is read up to the end of its value. -/
theorem Member.Legal.exists_value (hlegal : m.Legal) (h : ReadsAs m.value m.valueChars)
    (hrest : Ends rest) (hn : 2 * m.chars.length ≤ n) :
    ∃ keyRest valueRest rest', skipGap (m.chars ++ rest) = '"' :: keyRest ∧
      textBody keyRest = some (m.key, valueRest) ∧
      (∃ rest'', skipGap valueRest = ':' :: rest'' ∧ Json.value n rest'' = some (m.value, rest')) ∧
      skipGap rest' = skipGap rest := by
  simp only [chars, List.length_append, List.length_cons] at hn
  obtain ⟨rest', hvalue, hgap⟩ := h n rest hrest (by omega)
  refine ⟨m.keyChars ++ '"' :: (m.between ++ ':' :: (m.valueChars ++ rest)),
    m.between ++ ':' :: (m.valueChars ++ rest), rest', ?_, hlegal.key.textBody _,
    ⟨m.valueChars ++ rest, ?_, hvalue⟩, hgap⟩
  · simp [chars, skipGap_append hlegal.before, skipGap_cons, isGap]
  · rw [skipGap_append hlegal.between, skipGap_cons rfl]

theorem members_last (hlegal : m.Legal) (h : ReadsAs m.value m.valueChars)
    (hn : 2 * m.chars.length ≤ n) :
    members (n + 1) (m.chars ++ '}' :: rest) = some (Member.fields? [m], rest) := by
  have hend : Ends ('}' :: rest) := .cons (by simp) rest
  obtain ⟨keyRest, valueRest, rest', hquote, htext, ⟨rest'', hcolon, hvalue⟩, hgap⟩ :=
    hlegal.exists_value h hend hn
  rw [skipGap_cons rfl] at hgap
  simp only [members, hquote, htext, hcolon, hvalue, hgap, Member.fields?]
  cases m.key <;> simp

theorem members_more {ms : List Member} {between : List Char} (hlegal : m.Legal)
    (h : ReadsAs m.value m.valueChars) (hn : 2 * m.chars.length ≤ n)
    (hrest : members n between = some (Member.fields? ms, rest)) :
    members (n + 1) (m.chars ++ ',' :: between) = some (Member.fields? (m :: ms), rest) := by
  have hend : Ends (',' :: between) := .cons (by simp) between
  obtain ⟨keyRest, valueRest, rest', hquote, htext, ⟨rest'', hcolon, hvalue⟩, hgap⟩ :=
    hlegal.exists_value h hend hn
  rw [skipGap_cons rfl] at hgap
  simp only [members, hquote, htext, hcolon, hvalue, hgap, hrest, Option.map_some]
  rfl

/-- The fields of an object are read one by one. -/
theorem members_intercalate {ms : List Member} (hne : ms ≠ []) (hlegal : ∀ m ∈ ms, m.Legal)
    (h : ∀ m ∈ ms, ReadsAs m.value m.valueChars) (rest : List Char)
    (hn : 2 * ([','].intercalate (ms.map Member.chars)).length + 1 ≤ n) :
    members n ([','].intercalate (ms.map Member.chars) ++ '}' :: rest) =
      some (Member.fields? ms, rest) := by
  induction ms generalizing n with
  | nil => exact absurd rfl hne
  | cons m ms ih =>
    obtain ⟨n, rfl⟩ : ∃ k, n = k + 1 := Nat.exists_eq_succ_of_ne_zero (by omega)
    obtain ⟨hm, hms⟩ := List.forall_mem_cons.mp h
    obtain ⟨hlegalm, hlegalms⟩ := List.forall_mem_cons.mp hlegal
    cases ms with
    | nil =>
      simp only [List.map_cons, List.map_nil, List.intercalate_singleton] at hn ⊢
      exact members_last hlegalm hm (by omega)
    | cons m' ms =>
      simp only [List.map_cons, List.intercalate_cons_cons, List.length_append, List.length_cons,
        List.length_nil] at hn
      have hrest := ih (List.cons_ne_nil m' ms) hlegalms hms (n := n) (by simp; omega)
      simpa [List.intercalate_cons_cons] using members_more hlegalm hm (by omega) hrest

end Fields

/-- A value is read up to its end. -/
theorem Spells.readsAs {j : Json} {cs : List Char} (h : Spells j cs) : ReadsAs j cs := by
  induction h with
  | null => exact readsAs_cons fun n rest _ _ => by simp [value, skipGap, isGap]
  | boolTrue => exact readsAs_cons fun n rest _ _ => by simp [value, skipGap, isGap]
  | boolFalse => exact readsAs_cons fun n rest _ _ => by simp [value, skipGap, isGap]
  | number h =>
    obtain ⟨c, cs, rfl, hstart⟩ := h.exists_start
    exact readsAs_cons fun n rest hrest _ =>
      (value_of_number n hstart (cs ++ rest)).trans (h.number hrest)
  | @str t cs h =>
    refine readsAs_cons fun n rest _ _ => ?_
    have hbody := h.textBody rest
    cases t <;> simp [value, skipGap_cons, isGap, hbody, ofText]
  | arrEmpty h =>
    refine readsAs_cons fun n rest _ _ => ?_
    simp [value, skipGap_append h, skipGap_cons, isGap]
  | @arr parts hne _ ih =>
    refine readsAs_cons fun n rest _ hn => ?_
    rw [List.length_append, List.length_singleton] at hn
    have hitems := items_intercalate hne ih rest (n := n) (by omega)
    rw [← items_skipGap] at hitems
    simp only [value, List.append_assoc, List.singleton_append, skipGap_cons (c := '[') rfl]
    split
    -- The list would be empty.
    next heq =>
      rw [heq, items_closing] at hitems
      cases hitems
    next => rw [hitems, Option.map_some]
  | objEmpty h =>
    refine readsAs_cons fun n rest _ _ => ?_
    simp [value, skipGap_append h, skipGap_cons, isGap]
  | @obj ms hne hlegal _ ih =>
    refine readsAs_cons fun n rest _ hn => ?_
    rw [List.length_append, List.length_singleton] at hn
    have hmembers := members_intercalate hne hlegal ih rest (n := n) (by omega)
    rw [← members_skipGap] at hmembers
    simp only [value, List.append_assoc, List.singleton_append, skipGap_cons (c := '{') rfl]
    split
    next heq =>
      rw [heq, members_closing] at hmembers
      cases hmembers
    next =>
      rw [hmembers, Option.map_some]
      rfl
  | @spaced j before cs after hbefore _ hafter ih =>
    intro n rest hrest hn
    simp only [List.length_append] at hn
    obtain ⟨rest', hvalue, hgap⟩ := ih n (after ++ rest) (hrest.gap_append hafter) (by omega)
    refine ⟨rest', ?_, hgap.trans (skipGap_append hafter rest)⟩
    rw [List.append_assoc, List.append_assoc, ← value_skipGap, skipGap_append hbefore,
      value_skipGap, hvalue]

/-- A text that writes a value is read as that value. -/
theorem Spells.parse? {j : Json} {text : String} (h : Spells j text.toList) :
    parse? text = some j := by
  obtain ⟨rest, hvalue, hgap⟩ := h.readsAs (2 * text.toList.length + 2) [] .nil (by omega)
  rw [List.append_nil] at hvalue
  have hend : (skipGap rest).isEmpty = true := by
    rw [hgap]
    rfl
  simp [Json.parse?, parseChars?, hvalue, hend]

/-- The grammar is not ambiguous. -/
theorem Spells.unique {j j' : Json} {text : String} (h : Spells j text.toList)
    (h' : Spells j' text.toList) : j = j' := by
  have hsame := h.parse?.symm.trans h'.parse?
  exact Option.some.inj hsame

end MeshRegistry.Json
