import MeshRegistry.Text.Numeral
import MeshRegistry.Text.Pieces
/-!
# Ranges of characters

Properties of characters are given as ranges of code points. Long tables of them are written as
texts, in lines of items with blanks between them: an item is one code point in hexadecimal, or the
two ends of a range with a dash between them.

The characters that count as white space around a value are the Unicode property `White_Space`:
twenty-five characters, six of them in ASCII (tab to carriage return and the space).

## Main definitions

- `Text.inRanges`: whether a character lies in one of some ranges.
- `Text.rangesOf`: the ranges that lines of text write.
- `Text.isBlank`: whether a character is white space.
- `Text.trim`: a text without the blanks at its two ends.
-/

namespace MeshRegistry.Text

/-! ## Tables of ranges -/

/-- Whether a character lies in one of the given ranges of code points. -/
def inRanges (ranges : List (Nat × Nat)) (c : Char) : Bool :=
  ranges.any fun r => r.1 ≤ c.toNat && c.toNat ≤ r.2

/-- The number that hexadecimal digits write; a character that is none counts as zero. -/
def hexOf (cs : List Char) : Nat := cs.foldl (fun n c => 16 * n + (hexDigit? c).getD 0) 0

/-- The range that an item writes. -/
def rangeOf (item : List Char) : Nat × Nat :=
  match cutFirst? '-' item with
  | some (first, last) => (hexOf first, hexOf last)
  | none => (hexOf item, hexOf item)

/-- The items of lines. -/
def itemsOf (lines : List String) : List (List Char) :=
  lines.flatMap fun line => pieces ' ' line.toList

/-- The ranges that lines of items write. -/
def rangesOf (lines : List String) : List (Nat × Nat) := (itemsOf lines).map rangeOf

example : rangesOf ["41-5A 5F", "100"] = [(0x41, 0x5A), (0x5F, 0x5F), (0x100, 0x100)] := by
  decide +kernel

/-! ## White space -/

/-- The code points of the blank characters, as ranges. -/
def blankRanges : List (Nat × Nat) :=
  [(0x09, 0x0D), (0x20, 0x20), (0x85, 0x85), (0xA0, 0xA0), (0x1680, 0x1680), (0x2000, 0x200A),
    (0x2028, 0x2029), (0x202F, 0x202F), (0x205F, 0x205F), (0x3000, 0x3000)]

/-- Whether a character is white space. -/
def isBlank (c : Char) : Bool := inRanges blankRanges c

/-- A list without its leading blanks. -/
def dropBlanks (cs : List Char) : List Char := cs.dropWhile isBlank

/-- A list without the blanks at its two ends. -/
def trimChars (cs : List Char) : List Char := (dropBlanks (dropBlanks cs).reverse).reverse

/-- A text without the blanks at its two ends. -/
def trim (s : String) : String := String.ofList (trimChars s.toList)

example : (blankRanges.map fun r => r.2 + 1 - r.1).sum = 25 := by decide

end MeshRegistry.Text
