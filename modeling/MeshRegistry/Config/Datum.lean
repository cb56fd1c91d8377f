import MeshRegistry.Decimal.Double
import MeshRegistry.Json.Encoding
import MeshRegistry.Text.Casing
import MeshRegistry.Yaml.Value
/-!
# Values of settings

Settings come from files in two notations, from the environment and from the command line. All of
them are brought into one kind of values, which knows tables, lists, texts, truth values, integers
and numbers of double precision. A value is converted to the type that a setting has: a number
may stand for a text and a text for a number or a truth value, but a table or a list stands for
nothing else.

## Main definitions

- `Datum`: the values.
- `Datum.ofJson?`, `Datum.ofYaml?`, `Datum.ofWord`: the values of the notations, and of a text
  whose type is guessed.
- `Datum.overlay`: a value laid over another.
- `Datum.encoding`: how values are converted to types.
-/

namespace MeshRegistry

/-- A value of a setting. -/
inductive Datum where
  /-- No value. -/
  | null
  /-- A truth value. -/
  | flag (b : Bool)
  /-- An integer. -/
  | int (n : Int)
  /-- A number of double precision. -/
  | real (x : Double)
  /-- A text. -/
  | text (s : String)
  /-- A list. -/
  | list (items : List Datum)
  /-- A table; no key occurs twice. -/
  | table (fields : List (String × Datum))
deriving Inhabited

namespace Datum

/-! ## Tables -/

/-- The fields of a table; another value has none. -/
def fieldsOf : Datum → List (String × Datum)
  | .table fields => fields
  | _ => []

/-- The items of a list; another value has none. -/
def itemsOf : Datum → List Datum
  | .list items => items
  | _ => []

/-- The value of a key. -/
def get? (key : String) : List (String × Datum) → Option Datum
  | [] => none
  | (k, v) :: rest => if k = key then some v else get? key rest

/-- Fields with the value of a key replaced, or added at the end. -/
def put (key : String) (v : Datum) : List (String × Datum) → List (String × Datum)
  | [] => [(key, v)]
  | (k, w) :: rest => if k = key then (key, v) :: rest else (k, w) :: put key v rest

@[simp] theorem get?_put (key k : String) (v : Datum) (fields : List (String × Datum)) :
    get? k (put key v fields) = if k = key then some v else get? k fields := by
  induction fields with
  | nil =>
    by_cases h : key = k
    · simp [put, get?, h]
    · simp [put, get?, h, Ne.symm h]
  | cons f rest ih =>
    obtain ⟨k', w⟩ := f
    by_cases hk : k' = key
    · subst hk
      by_cases h : k' = k
      · simp [put, get?, h]
      · simp [put, get?, h, Ne.symm h]
    · by_cases h : k' = k
      · subst h
        simp [put, get?, hk]
      · simp [put, get?, hk, h, ih]

mutual

/-- A value laid over another: the fields of a table are laid over the fields below, one by one,
and anything else takes the place of what is below. -/
def overlay (below : Datum) : Datum → Datum
  | .table fields => .table (overlayFields (fieldsOf below) fields)
  | v => v

/-- Fields laid over fields. -/
def overlayFields (below : List (String × Datum)) : List (String × Datum) → List (String × Datum)
  | [] => below
  | (k, v) :: rest => overlayFields (put k (overlay ((get? k below).getD .null) v) below) rest

end

/-! ## From texts -/

/-- The value of a text whose type is guessed: a truth value in any letter case, an integer, a
number, or else the text itself. -/
def ofWord (s : String) : Datum :=
  let lower := Text.lowercase s
  if lower = "true" then .flag true
  else if lower = "false" then .flag false
  else
    -- Digits are tried before the words for infinity and for no number.
    match Text.int64? s.toList with
    | some n => .int n
    | none =>
      match Double.ofText? s with
      | some x => .real x
      | none => .text s

/-! ## From JSON -/

/-- The value of an integer; one of more than 64 bits is a number of double precision. -/
def ofInt? (n : Int) : Option Datum :=
  if -9223372036854775808 ≤ n ∧ n < UInt64.size then some (.int n)
  else (Double.scaled? ⟨decide (n < 0), n.natAbs, 0⟩).map real

mutual

/-- The value of JSON; a number beyond all numbers has none. -/
def ofJson? : Json → Option Datum
  | .null => some .null
  | .bool b => some (.flag b)
  | .int n => ofInt? n
  | .real d => (Double.scaled? d).map real
  | .str s => some (.text s)
  | .arr items => (ofItems? items).map list
  | .obj fields => (ofFields? [] fields).map table
  | .unkept => none

/-- The values of a list. -/
def ofItems? : List Json → Option (List Datum)
  | [] => some []
  | j :: rest =>
    match ofJson? j with
    | none => none
    | some v => (ofItems? rest).map (v :: ·)

/-- The fields of an object; a repeated key has its last value. -/
def ofFields? (before : List (String × Datum)) : List (String × Json) →
    Option (List (String × Datum))
  | [] => some before
  | (k, j) :: rest =>
    match ofJson? j with
    | none => none
    | some v => ofFields? (put k v before) rest

end

/-! ## From YAML -/

/-- The key that a value stands for; only a value that is no number, no text and no truth value
stands for none. -/
def keyOf? : Yaml.Value → Option String
  | .text s => some s
  | .int n => some (toString n)
  | .flag b => some (toString b)
  | .real written => some written
  | _ => none

mutual

/-- The value of YAML. A number that is only written as a word has none. -/
def ofYaml? : Yaml.Value → Option Datum
  | .null => some .null
  | .unreadable => some .null
  | .flag b => some (.flag b)
  | .int n => some (.int n)
  | .real written => (Double.ofText? written).map real
  | .text s => some (.text s)
  | .sequence items => (ofSequence? items).map list
  | .mapping fields => (ofMapping? [] fields).map table

/-- The values of a sequence. -/
def ofSequence? : List Yaml.Value → Option (List Datum)
  | [] => some []
  | y :: rest =>
    match ofYaml? y with
    | none => none
    | some v => (ofSequence? rest).map (v :: ·)

/-- The fields of a mapping. -/
def ofMapping? (before : List (String × Datum)) : List (Yaml.Value × Yaml.Value) →
    Option (List (String × Datum))
  | [] => some before
  | (k, y) :: rest =>
    match keyOf? k, ofYaml? y with
    | some k, some v => ofMapping? (put k v before) rest
    | _, _ => none

end

/-! ## Conversions -/

/-- The words for a true setting. -/
def trueWords : List String := ["1", "true", "on", "yes"]

/-- The words for a false setting. -/
def falseWords : List String := ["0", "false", "off", "no"]

/-- A value as a text. -/
def text? : Datum → Option String
  | .text s => some s
  | .flag b => some (if b then "true" else "false")
  | .int n => some (toString n)
  | .real x => some x.text
  | _ => none

/-- A value as a truth value: a number is true unless it is zero. -/
def flag? : Datum → Option Bool
  | .flag b => some b
  | .int n => some (n != 0)
  | .real x => some x.isNonzero
  | .text s =>
    let word := Text.lowercase s
    if trueWords.contains word then some true
    else if falseWords.contains word then some false
    else none
  | _ => none

/-- A value as a natural number of 64 bits: a number of double precision is rounded. -/
def nat? : Datum → Option Nat
  | .int n => if 0 ≤ n then some n.toNat else none
  | .flag b => some (if b then 1 else 0)
  | .real x => some x.word64
  | .text s =>
    let word := Text.lowercase s
    match Text.word64? word with
    | some n => some n
    | none =>
      if trueWords.contains word then some 1
      else if falseWords.contains word then some 0
      else none
  | _ => none

/-- How values are converted to types. A list that stands for a record may be longer than it. -/
def encoding : Encoding Datum where
  text? := text?
  flag? := flag?
  nat? := nat?
  isNull
    | .null => true
    | _ => false
  fields?
    | .table fields => some fields
    | _ => none
  items?
    | .list items => some items
    | _ => none
  listed := .unbounded

end Datum

end MeshRegistry
