import MeshRegistry.Text.CompositionTable
/-!
# Composed characters

A letter with marks may be written in several ways: as one character or as a letter and its marks,
and the marks in any order where they do not touch each other. In the composed form the marks are
in the order of their combining classes, and every letter is one character with as many of its
marks as there is a character for.

A syllable of Hangul is composed of two or three letters by a rule; all other compositions are in a
table.

## Main definitions

- `Text.composed`: the composed form of a text.
- `Text.decompose`, `Text.ordered`, `Text.compose`: the three steps towards it.
-/

namespace MeshRegistry.Text

/-- The combining class of a character. -/
def combiningClass (c : Char) : Nat :=
  match combiningRanges.find? fun r => r.range.1 ≤ c.toNat && c.toNat ≤ r.range.2 with
  | some r => r.rank
  | none => 0

/-! ## Decomposition -/

/-- The first syllable of Hangul, and the code points before the first letter of each kind. -/
def firstSyllable : Nat := 0xAC00

/-- The first leading consonant. -/
def firstLeading : Nat := 0x1100

/-- The first vowel. -/
def firstVowel : Nat := 0x1161

/-- The code point before the first trailing consonant. -/
def noTrailing : Nat := 0x11A7

/-- The letters of a syllable of Hangul. -/
def syllableParts (n : Nat) : List Char :=
  let place := n - firstSyllable
  let trailing := place % 28
  let letters := [firstLeading + place / 588, firstVowel + place % 588 / 28]
  (letters ++ if trailing = 0 then [] else [noTrailing + trailing]).map Char.ofNat

/-- The parts of a character, down to a depth that no character exceeds. -/
def partsOf : Nat → Char → List Char
  | 0, c => [c]
  | depth + 1, c =>
    if 0xAC00 ≤ c.toNat ∧ c.toNat ≤ 0xD7A3 then syllableParts c.toNat
    else
      match compositions.find? fun p => p.whole == c.toNat with
      | some p => partsOf depth (Char.ofNat p.first) ++ [Char.ofNat p.second]
      | none => [c]

/-- The parts of all characters. A letter has at most three marks in one character. -/
def decompose (cs : List Char) : List Char := cs.flatMap (partsOf 3)

/-! ## Order -/

/-- A character put in front of ordered ones: a mark goes behind the marks of lower classes. -/
def insertMark (c : Char) : List Char → List Char
  | [] => [c]
  | d :: rest =>
    if combiningClass d ≠ 0 ∧ combiningClass d < combiningClass c then d :: insertMark c rest
    else c :: d :: rest

/-- The characters with the marks in the order of their classes. -/
def ordered (cs : List Char) : List Char := cs.foldr insertMark []

/-! ## Composition -/

/-- The syllable of Hangul that two characters make. -/
def syllable? (a b : Nat) : Option Nat :=
  if firstLeading ≤ a ∧ a < firstLeading + 19 ∧ firstVowel ≤ b ∧ b < firstVowel + 21 then
    some (firstSyllable + ((a - firstLeading) * 21 + (b - firstVowel)) * 28)
  else if firstSyllable ≤ a ∧ a ≤ 0xD7A3 ∧ (a - firstSyllable) % 28 = 0
      ∧ noTrailing < b ∧ b < noTrailing + 28 then
    some (a + (b - noTrailing))
  else none

/-- The character that two characters make. -/
def whole? (a b : Char) : Option Char :=
  ((syllable? a.toNat b.toNat).orElse fun _ =>
    (compositions.find? fun p => p.first == a.toNat && p.second == b.toNat).map
      Composition.whole).map Char.ofNat

/-- Composition behind a starting character; `kept` are the marks since then that stay, the last
one first. -/
def composeAfter (start : Char) (kept : List Char) : List Char → List Char
  | [] => start :: kept.reverse
  | c :: rest =>
    -- A mark is out of reach behind one of the same class.
    let isNear := kept.head?.all fun d => combiningClass d < combiningClass c
    match if isNear then whole? start c else none with
    | some w => composeAfter w kept rest
    | none =>
      if combiningClass c = 0 then start :: kept.reverse ++ composeAfter c [] rest
      else composeAfter start (c :: kept) rest

/-- Every letter composed with its marks. -/
def compose : List Char → List Char
  | [] => []
  | c :: rest => if combiningClass c = 0 then composeAfter c [] rest else c :: compose rest

/-- The composed form of a text. -/
def composed (cs : List Char) : List Char := compose (ordered (decompose cs))

end MeshRegistry.Text
