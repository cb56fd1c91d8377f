/-!
# Characters of YAML in their places

The structure of a YAML text follows from where its characters stand, so a text is a list of
characters with their lines and columns. All ways to break a line are brought into one form, and
the list ends with a mark, so that there is always a next character.

Two versions of YAML are in use, and they differ in many details of what may be written. Here they
differ in the characters that a text may have and in those that break a line.

## Main definitions

- `Yaml.Version`: the versions.
- `Yaml.Placed`: a character in its place.
- `Yaml.placed?`: the characters of a text.
-/

namespace MeshRegistry.Yaml

/-- The versions of YAML. -/
inductive Version where
  /-- Version 1.1. -/
  | v1_1
  /-- Version 1.2. -/
  | v1_2
deriving DecidableEq, Repr

/-! ## Classes of characters -/

/-- Whether a character separates words on a line. -/
def isBlank (c : Char) : Bool := c == ' ' || c == '\t'

/-- Whether a character belongs to the punctuation of a list or a mapping in brackets. -/
def isFlowSign (c : Char) : Bool := c == ',' || c == '[' || c == ']' || c == '\x7b' || c == '\x7d'

/-- Whether a character may stand in a plain word: a letter or a digit of ASCII, an underscore or
a hyphen. -/
def isWordChar (c : Char) : Bool := c.isAlphanum || c == '_' || c == '-'

/-- The characters that break a line. Version 1.1 has three more than the usual two. -/
def Version.breaks : Version → List Char
  | .v1_1 => ['\n', '\r', '\u0085', '\u2028', '\u2029']
  | .v1_2 => ['\n', '\r']

/-- The character that stands for a break: a line feed, except for the two breaks that separate
lines and paragraphs. -/
def breakOf (c : Char) : Char := if c = '\u2028' ∨ c = '\u2029' then c else '\n'

/-- Whether a text in version 1.1 may have a character. -/
def isAllowed (c : Char) : Bool :=
  c == '\t' || c == '\n' || c == '\r' || (' ' ≤ c && c ≤ '~') || c == '\u0085'
    || ('\u00a0' ≤ c && c ≤ '\ufffd') || 0x10000 ≤ c.toNat

/-! ## Places -/

/-- The mark at the end of a text. -/
def endMark : Char := '\x00'

/-- A character in its place. -/
structure Placed where
  /-- The character. -/
  char : Char
  /-- How many characters stand before it. -/
  index : Nat
  /-- Its line, counted from zero. -/
  line : Nat
  /-- Its column, counted from zero. -/
  column : Nat
  /-- Whether only blanks stand before it on its line. -/
  isFresh : Bool
  /-- Whether it breaks a line. -/
  isBreak : Bool
deriving DecidableEq, Repr, Inhabited

namespace Placed

/-- Whether a character is the mark at the end. -/
def isEnd (p : Placed) : Bool := p.char == endMark

/-- Whether a line ends at a character. -/
def endsLine (p : Placed) : Bool := p.isBreak || p.isEnd

/-- Whether a word ends at a character: at a blank, or where the line ends. -/
def isGap (p : Placed) : Bool := isBlank p.char || p.endsLine

end Placed

/-- The characters of a list with their places, from a place on. -/
def placeFrom (breaks : List Char) (index line column : Nat) (fresh : Bool) :
    List Char → List Placed
  | [] => [⟨endMark, index, line, column, fresh, false⟩]
  | '\r' :: '\n' :: rest =>
    ⟨'\n', index, line, column, fresh, true⟩ :: placeFrom breaks (index + 2) (line + 1) 0 true rest
  | c :: rest =>
    if breaks.contains c then
      ⟨breakOf c, index, line, column, fresh, true⟩
        :: placeFrom breaks (index + 1) (line + 1) 0 true rest
    else
      ⟨c, index, line, column, fresh, false⟩
        :: placeFrom breaks (index + 1) line (column + 1) (fresh && isBlank c) rest

/-- The characters of a text in their places. Version 1.1 refuses control characters; in version
1.2 a text ends at the first character that is the mark of its end. -/
def placed? (v : Version) (s : String) : Option (List Placed) :=
  match v with
  | .v1_1 => if s.toList.all isAllowed then some (placeFrom v.breaks 0 0 0 true s.toList) else none
  | .v1_2 => some (placeFrom v.breaks 0 0 0 true (s.toList.takeWhile (· != endMark)))

/-! ## Looking ahead -/

/-- The character at the front. -/
def frontChar : List Placed → Char
  | [] => endMark
  | p :: _ => p.char

/-- The character behind the one at the front. -/
def nextChar (t : List Placed) : Char := frontChar t.tail

/-- Whether a word ends before a list of characters. -/
def atGap : List Placed → Bool
  | [] => true
  | p :: _ => p.isGap

/-- Whether a line ends before a list of characters. -/
def atLineEnd : List Placed → Bool
  | [] => true
  | p :: _ => p.endsLine

/-- Whether a list of characters is at the end of the text. -/
def atEnd : List Placed → Bool
  | [] => true
  | p :: _ => p.isEnd

/-- The column of the character at the front. -/
def frontColumn : List Placed → Nat
  | [] => 0
  | p :: _ => p.column

/-- Whether a line begins with three times the same character, as one that separates documents
does. -/
def atMarker (c : Char) (t : List Placed) : Bool :=
  frontColumn t == 0 && (t.take 3).map Placed.char == [c, c, c] && atGap (t.drop 3)

/-- Whether a line separates documents. -/
def atSeparator (t : List Placed) : Bool := atMarker '-' t || atMarker '.' t

/-- What follows on the lines after the one at the front. -/
def dropLine (t : List Placed) : List Placed := t.dropWhile fun p => !p.endsLine

/-- What follows the blanks at the front and a comment behind them. Version 1.2 wants a blank
before a comment. -/
def skipIdle? (v : Version) (t : List Placed) : Option (List Placed) :=
  let rest := t.dropWhile fun p => isBlank p.char
  if frontChar rest ≠ '#' then some rest
  else if v = .v1_1 ∨ isBlank (frontChar t) then some (dropLine rest)
  else none

end MeshRegistry.Yaml
