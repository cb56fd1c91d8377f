import MeshRegistry.Decimal.Double
import MeshRegistry.Yaml.Node
/-!
# Values of YAML

A document in version 1.2 stands for a value. A plain scalar may stand for a truth value, a number
or nothing at all; a tag says so for any plain scalar, and one that does not fit makes it
unreadable. A scalar between quotes or in a block is a text. A reference stands for a copy of what
its anchor is on, as far as that has been read.

A mapping may not give two values to one key. A number of double precision is kept as it is
written, and it is the same key as another one only if both are written in the same way.

## Main definitions

- `Yaml.Value`: the values.
- `Yaml.Value.documents?`: the values of the documents of a text.
-/

namespace MeshRegistry.Yaml

/-- A value. -/
inductive Value where
  /-- A scalar that does not fit its tag, or a reference to what has not been read. -/
  | unreadable
  /-- Nothing. -/
  | null
  /-- A truth value. -/
  | flag (b : Bool)
  /-- An integer. -/
  | int (n : Int)
  /-- A number of double precision, as it is written. -/
  | real (written : String)
  /-- A text. -/
  | text (s : String)
  /-- A sequence. -/
  | sequence (items : List Value)
  /-- A mapping. -/
  | mapping (fields : List (Value × Value))
deriving Inhabited

namespace Value

/-! ## Scalars -/

/-- The words for infinity and for no number. -/
def wordsOfNumbers : List String :=
  [".inf", ".Inf", ".INF", "+.inf", "+.Inf", "+.INF", "-.inf", "-.Inf", "-.INF", ".nan", ".NaN",
    ".NAN"]

/-- Whether a plain scalar is taken for a number of double precision: one of the words for such a
number, or one that is written in digits. -/
def isReal (s : String) : Bool :=
  wordsOfNumbers.contains s || (s.toList.any Char.isDigit && (Double.ofText? s).isSome)

/-- The integer that a plain scalar writes: in base sixteen or eight behind a mark, or in
decimal. A sign may stand behind the mark, but not before it. -/
def plainInt? (s : String) : Option Int :=
  let marked : Option Int :=
    match s.toList with
    | '0' :: 'x' :: cs => (Text.integerIn? 16 cs).bind Text.inWord?
    | '0' :: 'o' :: cs => (Text.integerIn? 8 cs).bind Text.inWord?
    | '+' :: cs => Text.int64? cs
    | _ => none
  marked <|> Text.int64? s.toList

/-- The value of a plain scalar without a tag. -/
def ofPlain (s : String) : Value :=
  match plainInt? s with
  | some n => .int n
  | none =>
    if ["", "~", "null"].contains s then .null
    else if ["true", "True", "TRUE"].contains s then .flag true
    else if ["false", "False", "FALSE"].contains s then .flag false
    else if isReal s then .real s
    else .text s

/-- The value of a plain scalar with a tag of a core kind. -/
def ofKind (kind s : String) : Value :=
  if kind = "bool" then
    if s = "true" then .flag true else if s = "false" then .flag false else .unreadable
  else if kind = "int" then ((Text.int64? s.toList).map int).getD .unreadable
  else if kind = "float" then if isReal s then .real s else .unreadable
  else if kind = "null" then if s = "~" ∨ s = "null" then .null else .unreadable
  else .text s

/-- The value of a scalar. -/
def ofScalar (tag : Option Tag) (s : Scalar) : Value :=
  if !s.isPlain then .text s.text
  else
    match tag with
    | none => ofPlain s.text
    | some t => if t.handle = Tag.core then ofKind t.suffix s.text else .text s.text

/-! ## Mappings -/

/-- Whether two values are the same as keys. Only scalars are compared. -/
def isSameKey : Value → Value → Bool
  | .null, .null => true
  | .flag a, .flag b => a == b
  | .int a, .int b => a == b
  | .real a, .real b => a == b
  | .text a, .text b => a == b
  | _, _ => false

/-- Keys with their values, from a list that has them in turn. What is unreadable is no key, so
that the next value takes its place. -/
def pairs : List Value → List (Value × Value)
  | [] => []
  | .unreadable :: rest => pairs rest
  | [_] => []
  | k :: v :: rest => (k, v) :: pairs rest

/-- Whether no key is given twice. -/
def hasDistinctKeys : List (Value × Value) → Bool
  | [] => true
  | (k, _) :: rest => !(rest.any fun f => isSameKey k f.1) && hasDistinctKeys rest

/-! ## Nodes -/

/-- The values that have been read, by the numbers of their anchors. -/
abbrev Anchored : Type := List (Nat × Value)

/-- The values that have been read, with one more if it has an anchor. -/
def anchored (ps : Properties) (v : Value) (known : Anchored) : Anchored :=
  match ps.anchor with
  | some n => (n, v) :: known
  | none => known

mutual

/-- The value of a node, and the values that have been read then. -/
def ofNode? (known : Anchored) : Node → Option (Value × Anchored)
  | .scalar ps s =>
    let v := ofScalar ps.tag s
    some (v, anchored ps v known)
  | .sequence ps items =>
    match ofNodes? known items with
    | none => none
    | some (items, known) => some (.sequence items, anchored ps (.sequence items) known)
  | .mapping ps parts =>
    match ofNodes? known parts with
    | none => none
    | some (parts, known) =>
      let v : Value := .mapping (pairs parts)
      if hasDistinctKeys (pairs parts) then some (v, anchored ps v known) else none
  | .reference n => some ((known.lookup n).getD .unreadable, known)

/-- The values of nodes, one after the other. -/
def ofNodes? (known : Anchored) : List Node → Option (List Value × Anchored)
  | [] => some ([], known)
  | n :: rest =>
    match ofNode? known n with
    | none => none
    | some (v, known) => (ofNodes? known rest).map fun r => (v :: r.1, r.2)

end

/-- The values of the documents of a text. -/
def documents? (s : String) : Option (List Value) := do
  let nodes ← Node.documents? .v1_2 s
  return (← ofNodes? [] nodes).1

end Value

end MeshRegistry.Yaml
