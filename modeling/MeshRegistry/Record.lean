import MeshRegistry.SortedMap
/-!
# Typed data in untyped values

Configuration and mesh objects arrive as trees of untyped values, from more than one notation. An
`Encoding` says how one kind of tree holds texts, flags, numbers, lists and tables; the readers
here are written once for all of them.

A record is read from a table whose keys are the fields' names or other accepted spellings of
them, or, in some kinds of trees, from a list of the fields in their order. Keys that name no
field are passed over. A field given twice, under whatever spellings, is refused.

## Main definitions

- `Encoding`: how a kind of tree holds plain data.
- `FieldName`: a field's name and its other spellings.
- `Encoding.record?`: the fields that a value gives.
- `Record.required`, `Record.orElse`, `Record.optional`: a field that must be given, one with a
  value for its absence, and one that may be null or absent.
-/

namespace MeshRegistry

/-- How a list stands for a record, whose fields it has in their order. -/
inductive ListedRecord where
  /-- Not at all. -/
  | refused
  /-- It may be shorter than the record, but not longer. -/
  | bounded
  /-- It may be shorter or longer than the record. -/
  | unbounded
deriving DecidableEq, Repr

/-- How values of a kind hold plain data. -/
structure Encoding (ν : Type) where
  /-- The text that a value is read as. -/
  text? : ν → Option String
  /-- The truth value that a value is read as. -/
  flag? : ν → Option Bool
  /-- The natural number that a value is read as. -/
  nat? : ν → Option Nat
  /-- Whether a value stands for the absence of one. -/
  isNull : ν → Bool
  /-- The keys and values of a table. -/
  fields? : ν → Option (List (String × ν))
  /-- The values of a list. -/
  items? : ν → Option (List ν)
  /-- How a list stands for a record. -/
  listed : ListedRecord

namespace Encoding

variable {ν α : Type}

/-- A list of values that are all read in the same way. -/
def list? (e : Encoding ν) (read : ν → Option α) (v : ν) : Option (List α) :=
  (e.items? v).bind fun items => items.mapM read

/-- A table as a map; a repeated key has its last value. -/
def map? (e : Encoding ν) (read : ν → Option α) (v : ν) : Option (SortedMap String α) :=
  (e.fields? v).bind fun fields =>
    (fields.mapM fun f => (read f.2).map (f.1, ·)).map SortedMap.ofList

end Encoding

/-- A field's name, and the other spellings under which it may be given. -/
structure FieldName where
  /-- The name. -/
  name : String
  /-- The other accepted spellings. -/
  others : List String := []

/-- Whether a key is one of the field's spellings. -/
def FieldName.accepts (f : FieldName) (key : String) : Bool :=
  key == f.name || f.others.contains key

/-- Fields without other spellings. -/
def FieldName.plain (names : List String) : List FieldName := names.map fun n => { name := n }

/-- The fields that a value gives, by their names. -/
structure Record (ν : Type) where
  /-- How the given values hold data. -/
  encoding : Encoding ν
  /-- The given fields. -/
  given : List (String × ν)

namespace Record

variable {ν α : Type}

/-- Collect the fields of a table; nothing when a field is given twice. -/
def collect? (shape : List FieldName) : List (String × ν) → Option (List (String × ν))
  | [] => some []
  | (key, v) :: rest => do
    let given ← collect? shape rest
    match shape.find? fun f => f.accepts key with
    | none => return given
    -- Two spellings of one field are one field given twice.
    | some f => if given.any fun g => g.1 == f.name then none else return (f.name, v) :: given

/-- The value given for a field. -/
def get? (r : Record ν) (name : String) : Option ν :=
  (r.given.find? fun f => f.1 == name).map (·.2)

/-- A field that must be given. -/
def required (r : Record ν) (name : String) (read : ν → Option α) : Option α :=
  (r.get? name).bind read

/-- A field that has a value of its own when it is not given. -/
def orElse (r : Record ν) (name : String) (absent : α) (read : ν → Option α) : Option α :=
  match r.get? name with
  | none => some absent
  | some v => read v

/-- A field that may be left out or null. -/
def optional (r : Record ν) (name : String) (read : ν → Option α) : Option (Option α) :=
  r.orElse name none fun v => if r.encoding.isNull v then some none else (read v).map some

/-- A text that is empty when it is not given. -/
def text (r : Record ν) (name : String) : Option String := r.orElse name "" r.encoding.text?

/-- A list that is empty when it is not given. -/
def list (r : Record ν) (name : String) (read : ν → Option α) : Option (List α) :=
  r.orElse name [] (r.encoding.list? read)

/-- A table as a map, empty when it is not given; a repeated key has its last value. -/
def map (r : Record ν) (name : String) (read : ν → Option α) : Option (SortedMap String α) :=
  r.orElse name .empty (r.encoding.map? read)

end Record

namespace Encoding

variable {ν : Type}

/-- The fields that a value gives to a record with the given shape. -/
def record? (e : Encoding ν) (shape : List FieldName) (v : ν) : Option (Record ν) :=
  match e.fields? v with
  | some fields => (Record.collect? shape fields).map (Record.mk e)
  | none =>
    match e.items? v with
    | some items =>
      -- A list stands for the fields in their order; those at its end may be missing.
      if e.listed = .refused ∨ (e.listed = .bounded ∧ shape.length < items.length) then none
      else some ⟨e, (shape.map (·.name)).zip items⟩
    | none => none

/-- A natural number of 64 bits. -/
def word64? (e : Encoding ν) (v : ν) : Option UInt64 :=
  (e.nat? v).bind fun n => if n < UInt64.size then some (UInt64.ofNat n) else none

/-- A natural number of 32 bits. -/
def word32? (e : Encoding ν) (v : ν) : Option UInt32 :=
  (e.nat? v).bind fun n => if n < UInt32.size then some (UInt32.ofNat n) else none

end Encoding

end MeshRegistry
