import MeshRegistry.Json.Basic
/-!
# Writing JSON text

The compact form has no gaps at all. The indented form puts every item and field on a line of
its own, two spaces deeper than its container, with a space after each colon; an empty list or
object stays on one line.

A text escapes the quote, the backslash and the control characters below the space, with a short
escape where JSON has one.

## Main definitions

- `Json.compact`: the compact form.
- `Json.indented`: the indented form.
-/

namespace MeshRegistry.Json

/-- A character inside a text. -/
def escapeChar (c : Char) : List Char :=
  match c with
  | '"' => ['\\', '"']
  | '\\' => ['\\', '\\']
  | '\x08' => ['\\', 'b']
  | '\x0c' => ['\\', 'f']
  | '\n' => ['\\', 'n']
  | '\r' => ['\\', 'r']
  | '\t' => ['\\', 't']
  | c =>
    if c.toNat < 0x20 then
      ['\\', 'u', '0', '0', Text.hexDigit (c.toNat / 16), Text.hexDigit (c.toNat % 16)]
    else [c]

/-- A text between quotes. -/
def quoted (s : String) : List Char := '"' :: s.toList.flatMap escapeChar ++ ['"']

/-- An integer. -/
def intChars : Int → List Char
  | .ofNat n => Nat.toDigits 10 n
  | .negSucc n => '-' :: Nat.toDigits 10 (n + 1)

/-- A number that is not a plain integer: its digits and the power of ten they count. -/
def realChars (d : Decimal) : List Char :=
  (if d.negative then ['-'] else []) ++ Nat.toDigits 10 d.digits ++ 'e' :: intChars d.exponent

mutual

/-- The compact form of a value. What cannot be kept is written as null. -/
def chars : Json → List Char
  | .null => ['n', 'u', 'l', 'l']
  | .bool true => ['t', 'r', 'u', 'e']
  | .bool false => ['f', 'a', 'l', 's', 'e']
  | .int n => intChars n
  | .real d => realChars d
  | .str s => quoted s
  | .arr items => '[' :: charsItems items ++ [']']
  | .obj fields => '{' :: charsFields fields ++ ['}']
  | .unkept => ['n', 'u', 'l', 'l']

/-- The items of a list, with commas between them. -/
def charsItems : List Json → List Char
  | [] => []
  | [j] => chars j
  | j :: rest => chars j ++ ',' :: charsItems rest

/-- The fields of an object, with commas between them. -/
def charsFields : List (String × Json) → List Char
  | [] => []
  | [(k, j)] => quoted k ++ ':' :: chars j
  | (k, j) :: rest => quoted k ++ ':' :: chars j ++ ',' :: charsFields rest

end

/-- A line break and the indentation of a depth. -/
def newline (depth : Nat) : List Char := '\n' :: List.replicate (2 * depth) ' '

mutual

/-- The indented form of a value at a depth. -/
def indentedChars (depth : Nat) : Json → List Char
  | .arr [] => ['[', ']']
  | .arr items => '[' :: indentedItems (depth + 1) items ++ newline depth ++ [']']
  | .obj [] => ['{', '}']
  | .obj fields => '{' :: indentedFields (depth + 1) fields ++ newline depth ++ ['}']
  | .null => ['n', 'u', 'l', 'l']
  | .bool b => chars (.bool b)
  | .int n => intChars n
  | .real d => realChars d
  | .str s => quoted s
  | .unkept => ['n', 'u', 'l', 'l']

/-- The items of a list, each on its own line. -/
def indentedItems (depth : Nat) : List Json → List Char
  | [] => []
  | [j] => newline depth ++ indentedChars depth j
  | j :: rest => newline depth ++ indentedChars depth j ++ ',' :: indentedItems depth rest

/-- The fields of an object, each on its own line. -/
def indentedFields (depth : Nat) : List (String × Json) → List Char
  | [] => []
  | [(k, j)] => newline depth ++ quoted k ++ ':' :: ' ' :: indentedChars depth j
  | (k, j) :: rest =>
    newline depth ++ quoted k ++ ':' :: ' ' :: indentedChars depth j ++
      ',' :: indentedFields depth rest

end

/-- The compact form of a value. -/
def compact (j : Json) : String := String.ofList (chars j)

/-- The indented form of a value. -/
def indented (j : Json) : String := String.ofList (indentedChars 0 j)

end MeshRegistry.Json
