import MeshRegistry.Decimal.Double
import MeshRegistry.Record
import MeshRegistry.Yaml.Node
/-!
# Values of YAML with tags of their own

A document in version 1.1 stands for a value that keeps the tags of an application. The core tags
say what kind of value a scalar is, and a scalar that does not fit its tag is refused. Digits with
a zero in front are a text, not a number.

A reference stands for what its anchor is on, wherever that is, also for what it is itself a part
of. So that every document has an end, values may be nested to a limited depth, and references may
be followed a limited number of times.

## Main definitions

- `Yaml.TaggedValue`: the values.
- `Yaml.TaggedValue.documents?`: the values of the documents of a text.
- `Yaml.TaggedValue.encoding`: how values hold plain data.
-/

namespace MeshRegistry.Yaml

/-- A value. -/
inductive TaggedValue where
  /-- Nothing. -/
  | null
  /-- A truth value. -/
  | flag (b : Bool)
  /-- An integer. -/
  | int (n : Int)
  /-- A number of double precision. -/
  | real (x : Double)
  /-- A text. -/
  | text (s : String)
  /-- A sequence. -/
  | sequence (items : List TaggedValue)
  /-- A mapping. -/
  | mapping (fields : List (TaggedValue × TaggedValue))
  /-- A value with a tag of the application. -/
  | tagged (tag : String) (v : TaggedValue)
deriving Inhabited

namespace TaggedValue

/-! ## Numbers -/

/-- Whether a scalar is written as digits with a zero in front, which is no number. -/
def hasLeadingZero (cs : List Char) : Bool :=
  match (Text.signOf cs).2 with
  | '0' :: d :: rest => (d :: rest).all Char.isDigit
  | _ => false

/-- The natural number in the base that a mark gives, behind an optional plus sign. -/
def natural? (cs : List Char) : Option Nat :=
  let body := if cs.head? = some '+' then cs.tail else cs
  match body with
  | '0' :: 'x' :: digits => Text.naturalIn? 16 digits
  | '0' :: 'o' :: digits => Text.naturalIn? 8 digits
  | '0' :: 'b' :: digits => Text.naturalIn? 2 digits
  | _ => if hasLeadingZero cs then none else Text.naturalIn? 10 body

/-- The integer that a scalar writes. -/
def integer? (cs : List Char) : Option Int :=
  match cs with
  | '-' :: body =>
    if body.head? = some '+' then none else (natural? body).map fun n => -(n : Int)
  | _ => (natural? cs).map Int.ofNat

/-- What an integer stands for. Integers of up to 64 bits are kept, and those of up to 128 bits are
refused; there is nothing to say about others. -/
def ofInteger? (n : Int) : Option (Option TaggedValue) :=
  if -(Nat.pow 2 63 : Int) ≤ n ∧ n < (Nat.pow 2 64 : Int) then some (some (.int n))
  else if -(Nat.pow 2 127 : Int) ≤ n ∧ n < (Nat.pow 2 128 : Int) then some none
  else none

/-- The number of double precision that a scalar writes in digits or as a word; digits give no
infinite number. -/
def real? (s : String) : Option Double :=
  if [".inf", ".Inf", ".INF", "+.inf", "+.Inf", "+.INF"].contains s then some (.infinite false)
  else if ["-.inf", "-.Inf", "-.INF"].contains s then some (.infinite true)
  else if [".nan", ".NaN", ".NAN"].contains s then some .undefined
  else
    (Double.ofText? s).filter fun
      | .finite .. => true
      | _ => false

/-! ## Scalars -/

/-- The truth value that a scalar writes. -/
def flagOf? (s : String) : Option Bool :=
  if ["true", "True", "TRUE"].contains s then some true
  else if ["false", "False", "FALSE"].contains s then some false
  else none

/-- The words for nothing. -/
def wordsOfNull : List String := ["null", "Null", "NULL", "~"]

/-- The value of a plain scalar without a tag. -/
def ofPlain? (s : String) : Option TaggedValue :=
  if s = "" ∨ wordsOfNull.contains s then some .null
  else
    match flagOf? s with
    | some b => some (.flag b)
    | none =>
      match (integer? s.toList).bind ofInteger? with
      | some v => v
      | none =>
        match if hasLeadingZero s.toList then none else real? s with
        | some x => some (.real x)
        | none => some (.text s)

/-- The value of a scalar with no tag that counts. -/
def ofUntagged? (s : Scalar) : Option TaggedValue :=
  if s.isPlain then ofPlain? s.text else some (.text s.text)

/-- The value of a scalar with a core tag, or with one that nothing is known of. -/
def ofKind? (tag s : String) : Option TaggedValue :=
  if tag = Tag.core ++ "bool" then (flagOf? s).map flag
  else if tag = Tag.core ++ "int" then ((integer? s.toList).bind ofInteger?).join
  else if tag = Tag.core ++ "float" then (real? s).map real
  else if tag = Tag.core ++ "null" then if wordsOfNull.contains s then some .null else none
  else some (.text s)

/-- The tag of an application that a node has, without the sign in front. The sign alone is
refused. -/
def ownTag? (tag : Option Tag) : Option (Option String) :=
  match tag.map fun t => t.full.toList with
  | some ['!'] => none
  | some ('!' :: name) => some (some (String.ofList name))
  | _ => some none

/-- A value with the tag of an application, if there is one. -/
def withOwnTag? (tag : Option Tag) (v : TaggedValue) : Option TaggedValue :=
  (ownTag? tag).map fun
    | some name => .tagged name v
    | none => v

/-- The value of a scalar. The sign of a tag alone says nothing of a scalar that is written. -/
def ofScalar? (tag : Option Tag) (s : Scalar) : Option TaggedValue :=
  let isMissing := s.isPlain && s.text == ""
  match tag with
  | none => ofUntagged? s
  | some t =>
    if t.full = "!" ∧ !isMissing then ofUntagged? s
    else
      match ownTag? tag with
      | none => none
      | some (some name) => (ofUntagged? s).map (tagged name)
      | some none => ofKind? t.full s.text

/-! ## Keys -/

/-- Whether two numbers of double precision are the same as keys. -/
def isSameReal : Double → Double → Bool
  | .finite _ 0 _, .finite _ 0 _ => true
  | a, b => a == b

mutual

/-- Whether two values are the same as keys. The order of a mapping does not count. -/
def isSame : TaggedValue → TaggedValue → Bool
  | .null, .null => true
  | .flag a, .flag b => a == b
  | .int a, .int b => a == b
  | .real a, .real b => isSameReal a b
  | .text a, .text b => a == b
  | .sequence a, .sequence b => areSame a b
  | .mapping a, .mapping b => a.length == b.length && areWithin b a
  | .tagged s a, .tagged t b => s == t && isSame a b
  | _, _ => false

/-- Whether two lists have the same values in the same order. -/
def areSame : List TaggedValue → List TaggedValue → Bool
  | [], [] => true
  | a :: as, b :: bs => isSame a b && areSame as bs
  | _, _ => false

/-- Whether all fields of the second list are also in the first one. -/
def areWithin (fields : List (TaggedValue × TaggedValue)) :
    List (TaggedValue × TaggedValue) → Bool
  | [] => true
  | (k, v) :: rest => fields.any (fun f => isSame k f.1 && isSame v f.2) && areWithin fields rest

end

/-- The fields of a mapping from a list of its keys and values in turn. No key may be given
twice. -/
def fields? : List TaggedValue → Option (List (TaggedValue × TaggedValue))
  | k :: v :: rest =>
    (fields? rest).bind fun fields =>
      if fields.any fun f => isSame k f.1 then none else some ((k, v) :: fields)
  | _ => some []

/-! ## Documents -/

mutual

/-- The nodes that have an anchor, by its number, in the order of the text. -/
def anchored : Node → List (Nat × Node)
  | .scalar ps s => (ps.anchor.map (·, .scalar ps s)).toList
  | .sequence ps items => (ps.anchor.map (·, .sequence ps items)).toList ++ anchoredIn items
  | .mapping ps parts => (ps.anchor.map (·, .mapping ps parts)).toList ++ anchoredIn parts
  | .reference _ => []

/-- The nodes of a list that have an anchor. -/
def anchoredIn : List Node → List (Nat × Node)
  | [] => []
  | n :: rest => anchored n ++ anchoredIn rest

end

mutual

/-- The size of a node: the beginning and the end of a sequence or a mapping count as one each. -/
def sizeOf : Node → Nat
  | .scalar .. => 1
  | .sequence _ items => 2 + sizeOfAll items
  | .mapping _ parts => 2 + sizeOfAll parts
  | .reference _ => 1

/-- The size of a list of nodes. -/
def sizeOfAll : List Node → Nat
  | [] => 0
  | n :: rest => sizeOf n + sizeOfAll rest

end

/-- What references stand for in a document. -/
structure Targets where
  /-- The nodes that have an anchor; of those with the same number the last one counts. -/
  anchored : List (Nat × Node)
  /-- How many references may be followed. -/
  limit : Nat

/-- The number of references that have been followed is kept while a document is read. -/
abbrev Follow : Type → Type := StateT Nat Option

/-- The node that a node stands for. -/
def follow (ts : Targets) : Node → Follow Node
  | .reference n => do
    let followed := (← get) + 1
    if ts.limit < followed then failure
    set followed
    match ts.anchored.reverse.lookup n with
    | some target => return target
    | none => failure
  | node => return node

/-- How deep sequences and mappings may be nested. -/
def depthLimit : Nat := 128

/-- The value of a node, which may be nested to a depth. -/
def ofNode? (ts : Targets) : Nat → Node → Follow TaggedValue
  | 0, node => do
    match ← follow ts node with
    | .scalar ps s => ofScalar? ps.tag s
    | _ => failure
  | depth + 1, node => do
    match ← follow ts node with
    | .scalar ps s => ofScalar? ps.tag s
    | .sequence ps items => withOwnTag? ps.tag (.sequence (← items.mapM (ofNode? ts depth)))
    | .mapping ps parts =>
      let fields ← fields? (← parts.mapM (ofNode? ts depth))
      withOwnTag? ps.tag (.mapping fields)
    | .reference _ => failure

/-- The value of a document. -/
def ofDocument? (root : Node) : Option TaggedValue :=
  ((ofNode? ⟨anchored root, 100 * sizeOf root⟩ depthLimit root).run 0).map (·.1)

/-- The values of the documents of a text. -/
def documents? (s : String) : Option (List TaggedValue) := do
  (← Node.documents? .v1_1 s).mapM ofDocument?

/-! ## Plain data -/

/-- A value without its tags. -/
def untag : TaggedValue → TaggedValue
  | .tagged _ v => untag v
  | v => v

/-- The text that a value is, whatever its tags. -/
def text? (v : TaggedValue) : Option String :=
  match untag v with
  | .text s => some s
  | _ => none

/-- How values hold plain data. Nothing stands for an empty list and an empty table; a list stands
for no record. -/
def encoding : Encoding TaggedValue where
  text? := text?
  flag? v :=
    match untag v with
    | .flag b => some b
    | _ => none
  nat? v :=
    match untag v with
    | .int (.ofNat n) => some n
    | _ => none
  isNull
    | .null => true
    | _ => false
  fields? v :=
    match untag v with
    | .mapping fields => fields.mapM fun f => (text? f.1).map (·, f.2)
    | .null => some []
    | _ => none
  items? v :=
    match untag v with
    | .sequence items => some items
    | .null => some []
    | _ => none
  listed := .refused

mutual

/-- Whether a value has no tags, and only texts as keys. -/
def isPlainData : TaggedValue → Bool
  | .sequence items => arePlainData items
  | .mapping fields => haveTextKeys fields
  | .tagged .. => false
  | _ => true

/-- Whether the values of a list have no tags, and only texts as keys. -/
def arePlainData : List TaggedValue → Bool
  | [] => true
  | v :: rest => isPlainData v && arePlainData rest

/-- Whether fields have texts as keys, and values without tags. -/
def haveTextKeys : List (TaggedValue × TaggedValue) → Bool
  | [] => true
  | (k, v) :: rest => (text? k).isSome && isPlainData v && haveTextKeys rest

end

end TaggedValue

end MeshRegistry.Yaml
