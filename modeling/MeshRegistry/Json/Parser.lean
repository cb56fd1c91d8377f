import MeshRegistry.Json.Basic
/-!
# Reading JSON text

A strict reader: one value, with nothing but blanks around it. Blanks are the space, the tab and
the two line breaks. Control characters are refused inside texts, numbers have no leading zeros,
and commas do not trail. The depth of nesting is not limited here.

The reader recurses on a count of steps. Each step consumes a character or turns from a list to
its first item, so twice the length of the text is enough.

## Main definitions

- `Json.parse?`: the value that a text writes.
- `Json.value`, `Json.items`, `Json.members`: the reader of a value, and of the rest of a list
  and of an object.
-/

namespace MeshRegistry.Json

/-- Whether a character may stand between the parts of a value. -/
def isGap (c : Char) : Bool := c == ' ' || c == '\t' || c == '\n' || c == '\r'

/-- The characters after leading gaps. -/
def skipGap (cs : List Char) : List Char := cs.dropWhile isGap

/-- The number that four hexadecimal digits write. -/
def quad? (a b c d : Char) : Option Nat := do
  let a ← Text.hexDigit? a
  let b ← Text.hexDigit? b
  let c ← Text.hexDigit? c
  let d ← Text.hexDigit? d
  return ((a * 16 + b) * 16 + c) * 16 + d

/-- The character that the letter of a short escape stands for. -/
def shortEscape? : Char → Option Char
  | '"' => some '"'
  | '\\' => some '\\'
  | '/' => some '/'
  | 'b' => some '\x08'
  | 'f' => some '\x0c'
  | 'n' => some '\n'
  | 'r' => some '\r'
  | 't' => some '\t'
  | _ => none

/-- Put a character in front of a text that may be unkept. -/
def pushChar (c : Char) (r : Option (List Char) × List Char) : Option (List Char) × List Char :=
  (r.1.map (c :: ·), r.2)

/-- A text up to its closing quote, and what follows. The text is `none` when one of its escapes
is half of a surrogate pair. -/
def textBody : List Char → Option (Option (List Char) × List Char)
  | '"' :: rest => some (some [], rest)
  -- Two escapes in a row are looked at together: they may be one pair.
  | '\\' :: 'u' :: a :: b :: c :: d :: '\\' :: 'u' :: a' :: b' :: c' :: d' :: rest =>
    match quad? a b c d, quad? a' b' c' d' with
    | some hi, some lo =>
      if 0xD800 ≤ hi ∧ hi < 0xDC00 ∧ 0xDC00 ≤ lo ∧ lo < 0xE000 then
        let code := 0x10000 + (hi - 0xD800) * 0x400 + (lo - 0xDC00)
        (textBody rest).map (pushChar (Char.ofNat code))
      -- Half of a pair: the text is lost, but the rest of it is still read.
      else if 0xD800 ≤ hi ∧ hi < 0xE000 then
        (textBody ('\\' :: 'u' :: a' :: b' :: c' :: d' :: rest)).map fun r => (none, r.2)
      else
        (textBody ('\\' :: 'u' :: a' :: b' :: c' :: d' :: rest)).map (pushChar (Char.ofNat hi))
    | _, _ => none
  | '\\' :: 'u' :: a :: b :: c :: d :: rest =>
    match quad? a b c d with
    | some n =>
      if 0xD800 ≤ n ∧ n < 0xE000 then (textBody rest).map fun r => (none, r.2)
      else (textBody rest).map (pushChar (Char.ofNat n))
    | none => none
  | '\\' :: e :: rest =>
    match shortEscape? e with
    | some c => (textBody rest).map (pushChar c)
    | none => none
  | c :: rest => if c = '\\' ∨ c.toNat < 0x20 then none else (textBody rest).map (pushChar c)
  | [] => none

/-- The exponent of a number, if one follows. -/
def exponentPart (cs : List Char) : Option (Option Int × List Char) :=
  match cs with
  | [] => some (none, [])
  | e :: rest =>
    if e = 'e' ∨ e = 'E' then
      let (negative, rest) :=
        match rest with
        | '-' :: r => (true, r)
        | '+' :: r => (false, r)
        | r => (false, r)
      let digits := rest.takeWhile Char.isDigit
      (Text.nat? digits).map fun n =>
        (some (if negative then -(n : Int) else n), rest.dropWhile Char.isDigit)
    else some (none, cs)

/-- The digits after the point of a number, if a point follows. -/
def fractionPart (cs : List Char) : Option (Option (List Char) × List Char) :=
  match cs with
  | '.' :: rest =>
    let digits := rest.takeWhile Char.isDigit
    if digits.isEmpty then none else some (some digits, rest.dropWhile Char.isDigit)
  | _ => some (none, cs)

/-- A number whose sign has been read. -/
def unsigned (negative : Bool) (cs : List Char) : Option (Json × List Char) := do
  let whole := cs.takeWhile Char.isDigit
  let rest := cs.dropWhile Char.isDigit
  let n ← Text.nat? whole
  if whole.length > 1 ∧ whole.head? = some '0' then none
  let (fraction, rest) ← fractionPart rest
  let (exponent, rest) ← exponentPart rest
  -- A negative zero is not an integer: as one it would lose its sign.
  if fraction.isNone ∧ exponent.isNone ∧ ¬(negative ∧ n = 0) then
    return (.int (if negative then -(n : Int) else n), rest)
  else
    return (.real (Decimal.ofParts negative whole (fraction.getD []) (exponent.getD 0)), rest)

/-- A number. -/
def number : List Char → Option (Json × List Char)
  | '-' :: rest => unsigned true rest
  | cs => unsigned false cs

mutual

/-- A value, after gaps, and what follows it. -/
def value : Nat → List Char → Option (Json × List Char)
  | 0, _ => none
  | n + 1, cs =>
    match skipGap cs with
    | 'n' :: 'u' :: 'l' :: 'l' :: rest => some (.null, rest)
    | 't' :: 'r' :: 'u' :: 'e' :: rest => some (.bool true, rest)
    | 'f' :: 'a' :: 'l' :: 's' :: 'e' :: rest => some (.bool false, rest)
    | '"' :: rest =>
      (textBody rest).map fun r =>
        (match r.1 with | some cs => .str (String.ofList cs) | none => .unkept, r.2)
    | '[' :: rest =>
      match skipGap rest with
      | ']' :: rest => some (.arr [], rest)
      | rest => (items n rest).map fun r => (.arr r.1, r.2)
    | '{' :: rest =>
      match skipGap rest with
      | '}' :: rest => some (.obj [], rest)
      | rest =>
        (members n rest).map fun r =>
          (match r.1 with | some fields => .obj fields | none => .unkept, r.2)
    | cs => number cs

/-- The items of a list up to its closing bracket. -/
def items : Nat → List Char → Option (List Json × List Char)
  | 0, _ => none
  | n + 1, cs =>
    match value n cs with
    | none => none
    | some (j, rest) =>
      match skipGap rest with
      | ']' :: rest => some ([j], rest)
      | ',' :: rest => (items n rest).map fun r => (j :: r.1, r.2)
      | _ => none

/-- The fields of an object up to its closing brace; `none` when a key cannot be kept. -/
def members : Nat → List Char → Option (Option (List (String × Json)) × List Char)
  | 0, _ => none
  | n + 1, cs =>
    match skipGap cs with
    | '"' :: rest =>
      match textBody rest with
      | none => none
      | some (key, rest) =>
        match skipGap rest with
        | ':' :: rest =>
          match value n rest with
          | none => none
          | some (j, rest) =>
            match skipGap rest with
            | '}' :: rest => some (key.map fun k => [(String.ofList k, j)], rest)
            | ',' :: rest =>
              (members n rest).map fun r =>
                (match key, r.1 with
                  | some k, some fields => some ((String.ofList k, j) :: fields)
                  | _, _ => none, r.2)
            | _ => none
        | _ => none
    | _ => none

end

/-- The value that a list of characters writes. -/
def parseChars? (cs : List Char) : Option Json :=
  match value (2 * cs.length + 2) cs with
  | some (j, rest) => if (skipGap rest).isEmpty then some j else none
  | none => none

/-- The value that a text writes. -/
def parse? (s : String) : Option Json := parseChars? s.toList

end MeshRegistry.Json
