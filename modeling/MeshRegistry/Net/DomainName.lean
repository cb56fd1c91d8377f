import MeshRegistry.Net.DomainTable
import MeshRegistry.Net.LabelTable
import MeshRegistry.Net.Percent
import MeshRegistry.Net.Punycode
import MeshRegistry.Text.Composition
/-!
# Domain names in ASCII

A domain name is brought to one form before it is used: letters become small, variants of a
character become that character, characters that do not show are left out, and letters are composed
with their marks. A label that still has characters beyond ASCII is then written in ASCII behind a
marked beginning; a label that is given in this way must be one that would be written so.

A label does not begin with a mark, and a joiner is only between letters that it has an effect on.
In a name with letters that are written to the left, every label keeps to one direction.

## Main definitions

- `DomainName.image`, `DomainName.settle`: the form of a character and of a name.
- `DomainName.label?`: the characters of a label, when it is given in ASCII.
- `DomainName.isJoinedWell`, `DomainName.hasOneDirection`: the rules for labels.
- `DomainName.ofOctets?`: the ASCII form of a name given in UTF-8.
-/

namespace MeshRegistry.DomainName

/-! ## One form -/

/-- Whether a character of ASCII has no place in a domain name. -/
def isForbidden (c : Char) : Bool :=
  c.toNat ≤ 0x20 || c.toNat == 0x7F || "%#/:<>?@[\\]^|".toList.contains c

/-- Whether a character is in a run of those that are replaced. -/
def Replacement.has (r : Replacement) (c : Char) : Bool :=
  r.first ≤ c.toNat && c.toNat ≤ r.last && (c.toNat - r.first) % r.step == 0

/-- What stands for a character of a run. -/
def Replacement.imageOf (r : Replacement) (c : Char) : List Char :=
  match r.image with
  -- All characters of a run are equally far from their images.
  | [n] => [Char.ofNat (n + (c.toNat - r.first))]
  | image => image.map Char.ofNat

/-- The characters that stand for a character. -/
def image (c : Char) : List Char :=
  if c.toNat < 0x80 then [c.toLower]
  else if Text.inRanges ignoredRanges c then []
  else
    match replacements.find? fun r => r.has c with
    | some r => r.imageOf c
    | none => [c]

/-- Whether a character has no place in a name in its one form. -/
def isRefused (c : Char) : Bool := isForbidden c || Text.inRanges refusedRanges c

/-- A name in its one form. -/
def settle (cs : List Char) : List Char := Text.composed (cs.flatMap image)

/-! ## Labels in ASCII -/

/-- Whether a character is in ASCII. -/
def isAscii (c : Char) : Bool := c.toNat < 128

/-- What a label begins with that stands for one with characters beyond ASCII. -/
def mark : List Char := "xn--".toList

/-- The greatest length of the rest of a marked label. -/
def readLimit : Nat := 2000

/-- The greatest length of a label with characters beyond ASCII. -/
def writeLimit : Nat := 1000

/-- The label that the rest of a marked label stands for. It has characters beyond ASCII and is in
its one form. -/
def read? (rest : List Char) : Option (List Char) :=
  if !rest.all isAscii || rest.getLast?.all (· == '-') || readLimit < rest.length then none
  else
    match Punycode.decode? rest with
    | some label =>
      if label.all isAscii || settle label != label || label.any isRefused then none
      else some label
    | none => none

/-- The characters of a label in its one form. -/
def label? (cs : List Char) : Option (List Char) :=
  match Text.stripChars? mark cs with
  | some rest => read? rest
  | none => some cs

/-- A label in ASCII. -/
def written? (label : List Char) : Option (List Char) :=
  if label.all isAscii then some label
  else if writeLimit < label.length then none
  else some (mark ++ Punycode.encode label)

/-! ## Joiners -/

/-- The combining class of the signs that take the vowel from a letter. -/
def virama : Nat := 9

/-- Whether the first character that joins at all is in some ranges. -/
def meets (ranges : List (Nat × Nat)) (cs : List Char) : Bool :=
  (cs.dropWhile (Text.inRanges transparentRanges)).head?.any (Text.inRanges ranges)

/-- Whether joiners in a label have an effect; `before` is what is before it, the last one first. A
joiner may follow the sign that takes the vowel from a letter, and one that keeps letters apart may
also stand between two letters that would join. -/
def isJoinedWell (before : List Char) : List Char → Bool
  | [] => true
  | c :: rest =>
    let afterSign := before.head?.any fun d => Text.combiningClass d == virama
    let keepsApart := meets (dualRanges ++ joinAfterRanges) before
      && meets (dualRanges ++ joinBeforeRanges) rest
    let isFine :=
      if c = '\u200d' then afterSign
      else if c = '\u200c' then afterSign || (!before.isEmpty && keepsApart)
      else true
    isFine && isJoinedWell (c :: before) rest

/-! ## Direction -/

/-- How a character is written. -/
inductive Direction where
  /-- A letter that is written to the right. -/
  | rightward
  /-- A letter that is written to the left. -/
  | leftward
  /-- A digit of a script that is written to the left. -/
  | leftwardDigit
  /-- Any other digit. -/
  | digit
  /-- A sign that takes the direction of what is around it. -/
  | neutral
  /-- A mark that takes the direction of the character before it. -/
  | spaceless
deriving DecidableEq, Repr

/-- The direction of a character. -/
def Direction.of (c : Char) : Direction :=
  if Text.inRanges leftwardRanges c then .leftward
  else if Text.inRanges leftwardDigitRanges c then .leftwardDigit
  else if Text.inRanges digitRanges c then .digit
  else if Text.inRanges neutralRanges c then .neutral
  else if Text.inRanges spacelessRanges c then .spaceless
  else .rightward

/-- Whether characters make a name one with letters that are written to the left. -/
def hasLeftward (ds : List Direction) : Bool :=
  ds.any fun d => d == .leftward || d == .leftwardDigit

/-- Whether the characters of a label keep to one direction. A label begins with a letter. One to
the right ends with such a letter or a digit and has nothing to the left; one to the left ends with
such a letter or a digit, has nothing to the right, and its digits are of one kind. -/
def hasOneDirection (ds : List Direction) : Bool :=
  let last := (ds.reverse.dropWhile (· == .spaceless)).head?
  match ds.head? with
  | none => true
  | some .rightward => !hasLeftward ds && last.any [.rightward, .digit].contains
  | some .leftward =>
    !ds.contains .rightward && last.any [.leftward, .digit, .leftwardDigit].contains
      && !(ds.contains .digit && ds.contains .leftwardDigit)
  | some _ => false

/-! ## Names -/

/-- Whether a label keeps to the rules for labels of any name. -/
def isSound (label : List Char) : Bool :=
  !label.head?.any (Text.inRanges markRanges) && isJoinedWell [] label

/-- Whether the labels of a name keep to the rules together. -/
def isOrderly (labels : List (List Char)) : Bool :=
  let directions := labels.map (·.map Direction.of)
  labels.all isSound && (!directions.any hasLeftward || directions.all hasOneDirection)

/-- The ASCII form of a domain name given in UTF-8. -/
def ofOctets? (bs : List UInt8) : Option String := do
  let s ← Text.ofOctets? bs
  let cs := settle s.toList
  if cs.any isRefused then none
  else
    let labels ← (Text.pieces '.' cs).mapM label?
    if isOrderly labels then
      let labels ← labels.mapM written?
      return Text.join "." (labels.map String.ofList)
    else none

end MeshRegistry.DomainName
