import MeshRegistry.Json.Basic
import MeshRegistry.Record
/-!
# JSON as a source of typed data

JSON keeps its types apart: a text is only read from a text, a number only from an integer, and a
list that stands for a record may not be longer than the record.

## Main definitions

- `Json.encoding`: how JSON values hold plain data.
- `Json.word32`, `Json.ofMap`, `Json.ofOption`: values for common kinds of data.
-/

namespace MeshRegistry.Json

/-- How JSON values hold plain data. -/
def encoding : Encoding Json where
  text?
    | .str s => some s
    | _ => none
  flag?
    | .bool b => some b
    | _ => none
  nat?
    | .int (.ofNat n) => some n
    | _ => none
  isNull
    | .null => true
    | _ => false
  fields?
    | .obj fields => some fields
    | _ => none
  items?
    | .arr items => some items
    | _ => none
  listed := .bounded

/-- An integer of 32 bits with a sign. -/
def int32? : Json → Option Int32
  | .int n => if -2147483648 ≤ n ∧ n ≤ 2147483647 then some (Int32.ofInt n) else none
  | _ => none

/-- The value of a natural number. -/
def nat (n : Nat) : Json := .int n

/-- The value of a word. -/
def word32 (n : UInt32) : Json := .int n.toNat

/-- The object of a map. -/
def ofMap {α : Type} (write : α → Json) (m : SortedMap String α) : Json :=
  .obj (m.entries.map fun e => (e.1, write e.2))

/-- The object of a map of texts. -/
def ofTexts (m : SortedMap String String) : Json := ofMap .str m

/-- The list of texts. -/
def texts (l : List String) : Json := .arr (l.map .str)

/-- The value of something optional, null when it is unset. -/
def ofOption {α : Type} (write : α → Json) (x : Option α) : Json := (x.map write).getD .null

/-- A field that is left out when it is unset. -/
def field? {α : Type} (name : String) (write : α → Json) : Option α → List (String × Json)
  | some x => [(name, write x)]
  | none => []

/-- A list that is left out when it is empty. -/
def listField (name : String) (items : List Json) : List (String × Json) :=
  if items.isEmpty then [] else [(name, .arr items)]

end MeshRegistry.Json
