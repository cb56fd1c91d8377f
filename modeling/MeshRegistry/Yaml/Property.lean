import MeshRegistry.Text.Octets
import MeshRegistry.Yaml.Scalar
/-!
# Anchors, tags and directives of YAML

Besides its content a node may have an anchor, by which an alias refers to it, and a tag, which
says what kind of value it is. A tag is written in full, or as a handle with a suffix; a directive
at the beginning of a document says what a handle stands for. Another directive gives the version
of the notation.

## Main definitions

- `Yaml.Tag`, `Yaml.tag?`: a tag as it is written, and what follows it.
- `Yaml.anchor?`: the name of an anchor or an alias.
- `Yaml.Directive`, `Yaml.directive?`: the directives.
-/

namespace MeshRegistry.Yaml

/-- A tag: a handle, or what it stands for, with a suffix. -/
structure Tag where
  /-- The handle. -/
  handle : String
  /-- The suffix. -/
  suffix : String
deriving DecidableEq, Repr

namespace Tag

/-- A tag in full, when its handle has been replaced by what it stands for. -/
def full (t : Tag) : String := t.handle ++ t.suffix

/-- What the tags of the core kinds begin with. -/
def core : String := "tag:yaml.org,2002:"

end Tag

/-! ## Anchors -/

/-- Whether a character may stand in the name of an anchor. -/
def isAnchorChar (v : Version) (p : Placed) : Bool :=
  match v with
  | .v1_1 => isWordChar p.char
  | .v1_2 => !p.isGap && !isFlowSign p.char && p.char != '\ufeff'

/-- Whether an anchor may end before a list of characters. -/
def endsAnchor (v : Version) (t : List Placed) : Bool :=
  match v with
  | .v1_1 => atGap t || "?:,]\x7d%@\x60".toList.contains (frontChar t)
  | .v1_2 => true

/-- The name of an anchor or an alias, behind its sign, and what follows it. -/
def anchor? (v : Version) (t : List Placed) : Option (String × List Placed) :=
  let name := t.takeWhile (isAnchorChar v)
  let rest := t.dropWhile (isAnchorChar v)
  if name = [] ∨ !endsAnchor v rest then none
  else some (String.ofList (name.map Placed.char), rest)

/-! ## Tags -/

/-- Whether a character may stand in a tag that is written in full. -/
def isTagChar (v : Version) (c : Char) : Bool :=
  isWordChar c || ";/?:@&=+$.!~*'()%,[]".toList.contains c || (v == .v1_2 && c == '#')

/-- Whether a character may stand in the suffix of a tag. -/
def isSuffixChar (v : Version) (c : Char) : Bool :=
  isTagChar v c && !isFlowSign c && (v == .v1_1 || c != '!')

/-- How many octets a character has whose first octet is given. -/
def widthOf? (first : Nat) : Option Nat :=
  if first < 0x80 then some 1
  else if 0xc0 ≤ first ∧ first < 0xe0 then some 2
  else if 0xe0 ≤ first ∧ first < 0xf0 then some 3
  else if 0xf0 ≤ first ∧ first < 0xf8 then some 4
  else none

/-- The octets at the front of a text that are written by a percent sign and two digits each, and
what follows them. -/
def octets? : Nat → List Placed → Option (List Nat × List Placed)
  | 0, t => some ([], t)
  | n + 1, p :: a :: b :: rest => do
    if p.char ≠ '%' then none
    let octet ← hexValue? [a.char, b.char]
    let (more, rest) ← octets? n rest
    return (octet :: more, rest)
  | _, _ => none

/-- The character that octets stand for. In version 1.2 they are the digits of its number, in
version 1.1 its encoding; octets that encode nothing stand for the replacement character. -/
def ofTagOctets? (v : Version) (octets : List Nat) : Option Char :=
  match v with
  | .v1_1 =>
    match (Text.ofOctets? (octets.map UInt8.ofNat)).map String.toList with
    | some [c] => some c
    | _ => some '\ufffd'
  | .v1_2 => charOf? (octets.foldl (fun n octet => n * 256 + octet) 0)

/-- The character that is written by its octets at the front of a text, and what follows it. -/
def escapedTagChar? (v : Version) (t : List Placed) : Option (Char × List Placed) := do
  let (first, _) ← octets? 1 t
  let width ← widthOf? (first.headD 0)
  let (octets, rest) ← octets? width t
  if !(octets.tail.all fun octet => decide (0x80 ≤ octet ∧ octet < 0xc0)) then none
  let c ← ofTagOctets? v octets
  return (c, rest)

/-- The characters of a class at the front of a text, and what follows them. -/
def tagChars? (v : Version) (isInside : Char → Bool) : Nat → List Placed →
    Option (List Char × List Placed)
  | 0, _ => none
  | _ + 1, [] => some ([], [])
  | n + 1, p :: rest =>
    if !isInside p.char then some ([], p :: rest)
    else if p.char = '%' then do
      let (c, rest) ← escapedTagChar? v (p :: rest)
      let (more, rest) ← tagChars? v isInside n rest
      return (c :: more, rest)
    else (tagChars? v isInside n rest).map fun r => (p.char :: r.1, r.2)

/-- The characters of a class at the front of a text; there may be as many as the text has. -/
def tagText? (v : Version) (isInside : Char → Bool) (t : List Placed) :
    Option (List Char × List Placed) :=
  tagChars? v isInside (t.length + 1) t

/-- The handle at the front of a text, which need not be ended by a second sign, and what follows
it. -/
def handle? : List Placed → Option (List Char × List Placed)
  | [] => none
  | p :: rest =>
    if p.char ≠ '!' then none
    else
      let name := (rest.takeWhile fun q => isWordChar q.char).map Placed.char
      let behind := rest.dropWhile fun q => isWordChar q.char
      if frontChar behind = '!' then some ('!' :: name ++ ['!'], behind.tail)
      else some ('!' :: name, behind)

/-- Whether a handle is more than one sign, and ended by another. -/
def isFullHandle (cs : List Char) : Bool := decide (2 ≤ cs.length) && cs.getLast? == some '!'

/-- A tag at the front of a text, and what follows it. -/
def bareTag? (v : Version) (t : List Placed) : Option (Tag × List Placed) :=
  if nextChar t = '<' then do
    let (suffix, rest) ← tagText? v (isTagChar v) (t.drop 2)
    if frontChar rest ≠ '>' ∨ (v = .v1_1 ∧ suffix = []) then none
    return (⟨"", String.ofList suffix⟩, rest.tail)
  else do
    let (handle, rest) ← handle? t
    let (suffix, rest) ← tagText? v (isSuffixChar v) rest
    if isFullHandle handle then
      if suffix = [] then none else return (⟨String.ofList handle, String.ofList suffix⟩, rest)
    -- What looked like a handle belongs to the suffix.
    let suffix := handle.tail ++ suffix
    return (if suffix = [] then ⟨"", "!"⟩ else ⟨"!", String.ofList suffix⟩, rest)

/-- A tag at the front of a text, and what follows it: a gap, or the punctuation in brackets. -/
def tag? (v : Version) (inFlow : Bool) (t : List Placed) : Option (Tag × List Placed) :=
  (bareTag? v t).filter fun r =>
    let c := frontChar r.2
    atGap r.2 || (inFlow && if v = .v1_1 then c == ',' else isFlowSign c)

/-! ## Directives -/

/-- A directive. -/
inductive Directive where
  /-- The version of the notation. -/
  | version (major minor : Nat)
  /-- What a handle stands for. -/
  | handle (name meaning : String)
deriving DecidableEq, Repr

/-- A number of at most nine digits at the front of a text, and what follows it. -/
def versionPart? (t : List Placed) : Option (Nat × List Placed) :=
  let digits := (t.takeWhile fun p => p.char.isDigit).map Placed.char
  if digits.length ≤ 9 then (Text.nat? digits).map (·, t.drop digits.length) else none

/-- The text without blanks at its front. -/
def dropBlanks (t : List Placed) : List Placed := t.dropWhile fun p => isBlank p.char

/-- The version that is given, and what follows it. -/
def versionDirective? (t : List Placed) : Option (Directive × List Placed) := do
  let (major, rest) ← versionPart? (dropBlanks t)
  if frontChar rest ≠ '.' then none
  let (minor, rest) ← versionPart? rest.tail
  return (.version major minor, rest)

/-- What a handle stands for, and what follows it. Version 1.2 wants it to begin like a tag. -/
def meaning? (v : Version) (t : List Placed) : Option (List Char × List Placed) := do
  let (meaning, rest) ← tagText? v (isTagChar v) t
  let c := frontChar t
  if meaning = [] ∨ (v = .v1_2 ∧ c ≠ '!' ∧ !isSuffixChar v c) then none
  return (meaning, rest)

/-- A handle with what it stands for, and what follows that. -/
def handleDirective? (v : Version) (t : List Placed) : Option (Directive × List Placed) := do
  let (handle, rest) ← handle? (dropBlanks t)
  if handle ≠ ['!'] ∧ !isFullHandle handle then none
  if v = .v1_1 ∧ !isBlank (frontChar rest) then none
  let (meaning, rest) ← meaning? v (dropBlanks rest)
  if !atGap rest then none
  return (.handle (String.ofList handle) (String.ofList meaning), rest)

/-- The directive behind its sign, and what follows it. Version 1.1 refuses unknown directives; in
version 1.2 they give a meaning to nothing. -/
def directive? (v : Version) (t : List Placed) : Option (Directive × List Placed) := do
  let name := (t.takeWhile fun p => isWordChar p.char).map Placed.char
  let rest := t.drop name.length
  if name = [] ∨ !atGap rest then none
  let (directive, rest) ←
    if name = "YAML".toList then versionDirective? rest
    else if name = "TAG".toList then handleDirective? v rest
    else if v = .v1_2 then some (.handle "" "", dropLine rest)
    else none
  let rest ← skipIdle? v rest
  if atLineEnd rest then return (directive, rest) else none

end MeshRegistry.Yaml
