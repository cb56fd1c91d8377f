import MeshRegistry.Text.CaseTable
import MeshRegistry.Text.Ranges
/-!
# Lower case

The full lower-casing of a text. Two characters need more than a table of single characters: a
capital dotted I becomes an i and a combining dot, and a capital sigma becomes a final sigma
where it ends a word.

## Main definitions

- `Text.lowercase`: the lower case of a text.
- `Text.asciiLowercase`: the same for the letters A to Z alone.
-/

namespace MeshRegistry.Text

/-- Whether a character has a case. -/
def isCased (c : Char) : Bool := inRanges casedRanges c

/-- Whether a character is passed over in looking for the end of a word. -/
def isCaseIgnorable (c : Char) : Bool := inRanges ignorableRanges c

/-- Whether the next character that is not passed over has a case. -/
def casedNext (cs : List Char) : Bool :=
  match cs.dropWhile isCaseIgnorable with
  | [] => false
  | c :: _ => isCased c

/-- The single-character lower case of a character. -/
def lowerChar (c : Char) : Char :=
  let n := c.toNat
  if n < 0x80 then c.toLower
  else
    match lowerRanges.find? fun r => r.first ≤ n && n ≤ r.last && (n - r.first) % r.step == 0 with
    | some r => Char.ofNat (Int.toNat (n + r.shift))
    | none => c

/-- The lower case of a text, given the characters before it, last one first. -/
def lowerFrom (before : List Char) : List Char → List Char
  | [] => []
  | c :: rest =>
    let image :=
      if c = 'İ' then ['i', '\u0307']
      else if c = 'Σ' then
        -- A sigma is final behind a letter and before none.
        if casedNext before && !casedNext rest then ['ς'] else ['σ']
      else [lowerChar c]
    image ++ lowerFrom (c :: before) rest

/-- The lower case of a text. -/
def lowercase (s : String) : String := String.ofList (lowerFrom [] s.toList)

/-- A text with the letters A to Z in lower case. -/
def asciiLowercase (s : String) : String := String.ofList (s.toList.map Char.toLower)

/-- A text with the letters a to z in upper case. -/
def asciiUppercase (s : String) : String := String.ofList (s.toList.map Char.toUpper)

example : lowercase "ODYSSEUΣ" = "odysseuς" := by decide +kernel
example : lowercase "ΣΣ AΣ.B İ" = "σς aσ.b i̇" := by decide +kernel
example : lowercase "ẞÅẲ" = "ßåẳ" := by decide +kernel

end MeshRegistry.Text
