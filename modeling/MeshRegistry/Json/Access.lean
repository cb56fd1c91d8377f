import MeshRegistry.Json.Encoding
/-!
# Fields with defaults

Looking up the fields of a JSON object where anything may be left out: a field that is missing,
null or of another type reads as empty, zero or false.

## Main definitions

- `Json.given?`: a field that is neither missing nor null.
- `Json.textAt`, `natAt`, `flagAt`, `itemsAt`, `textsAt`, `mapAt`: fields with their defaults.
-/

namespace MeshRegistry.Json

/-- A field that is neither missing nor null. -/
def given? (j : Json) (key : String) : Option Json :=
  match j.get? key with
  | some .null => none
  | other => other

/-- A text. -/
def textAt? (j : Json) (key : String) : Option String := (j.given? key).bind encoding.text?

/-- A text, empty by default. -/
def textAt (j : Json) (key : String) : String := (j.textAt? key).getD ""

/-- A truth value with a given default. -/
def flagOr (default : Bool) (j : Json) (key : String) : Bool :=
  ((j.given? key).bind encoding.flag?).getD default

/-- A truth value, false by default. -/
def flagAt (j : Json) (key : String) : Bool := flagOr false j key

/-- A natural number. -/
def natAt? (j : Json) (key : String) : Option Nat := (j.given? key).bind encoding.nat?

/-- A natural number, zero by default. -/
def natAt (j : Json) (key : String) : Nat := (j.natAt? key).getD 0

/-- A natural number as a word of 32 bits. -/
def wordAt (j : Json) (key : String) : UInt32 := UInt32.ofNat (j.natAt key)

/-- An integer, zero by default. -/
def intAt (j : Json) (key : String) : Int :=
  match j.given? key with
  | some (.int n) => n
  | _ => 0

/-- A list, empty by default. -/
def itemsAt (j : Json) (key : String) : List Json := ((j.given? key).bind encoding.items?).getD []

/-- The keys and values of an object, none by default. -/
def fieldsAt (j : Json) (key : String) : List (String × Json) :=
  ((j.given? key).bind encoding.fields?).getD []

/-- The texts in a list. -/
def textsAt (j : Json) (key : String) : List String := (j.itemsAt key).filterMap encoding.text?

/-- An object as a map. -/
def mapAt {α : Type} (read : Json → α) (j : Json) (key : String) : SortedMap String α :=
  SortedMap.ofList ((j.fieldsAt key).map fun f => (f.1, read f.2))

/-- An object as a map of texts. -/
def textMapAt (j : Json) (key : String) : SortedMap String String :=
  j.mapAt (fun v => (encoding.text? v).getD "") key

end MeshRegistry.Json
