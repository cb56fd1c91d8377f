import MeshRegistry.Decimal.Double
/-!
# JSON values

A JSON value is kept as written: the order of keys and repeated keys stay, and so does the
difference between a plain integer and any other number. A reader of typed data decides what
repeated keys mean.

## Main definitions

- `Json`: the values.
- `Json.depth`: how deeply lists and objects are nested.
- `Json.kept?`, `Json.keepable?`: a value in the form in which it is kept.
- `Json.isKeepable`: whether a value can be kept whole.
- `Json.Origin`: where a value that is read comes from.
-/

namespace MeshRegistry

/-- A JSON value. -/
inductive Json where
  /-- The null value. -/
  | null
  /-- A truth value. -/
  | bool (b : Bool)
  /-- A number written without fraction and exponent, other than a negative zero. -/
  | int (n : Int)
  /-- Any other number. -/
  | real (d : Decimal)
  /-- A text. -/
  | str (s : String)
  /-- A list of values. -/
  | arr (items : List Json)
  /-- An object: its keys and values in the order they were written. -/
  | obj (fields : List (String × Json))
  /-- A text, or an object with a key, in which an escape names half of a surrogate pair. It may
  stand where values are passed over, and is no value where they are kept. -/
  | unkept
deriving Inhabited

namespace Json

mutual

/-- How deeply lists and objects are nested in a value. -/
def depth : Json → Nat
  | .arr items => depthItems items + 1
  | .obj fields => depthFields fields + 1
  | _ => 0

/-- The greatest depth among values. -/
def depthItems : List Json → Nat
  | [] => 0
  | j :: rest => max (depth j) (depthItems rest)

/-- The greatest depth among the values of fields. -/
def depthFields : List (String × Json) → Nat
  | [] => 0
  | (_, j) :: rest => max (depth j) (depthFields rest)

end

/-! ## Values that are kept -/

/-- The form in which an integer is kept: one of more than 64 bits is a number of double
precision, if it is not beyond all of them. -/
def keptInt? (n : Int) : Option Json :=
  if -9223372036854775808 ≤ n ∧ n < UInt64.size then some (.int n)
  else ((Double.scaled? ⟨decide (n < 0), n.natAbs, 0⟩).bind Double.decimal?).map real

/-- Fields with the last value of each key. -/
def lastGiven {α : Type} : List (String × α) → List (String × α)
  | [] => []
  | (k, a) :: rest =>
    if rest.any fun f => f.1 == k then lastGiven rest else (k, a) :: lastGiven rest

mutual

/-- The form in which a value is kept: numbers have double precision, and of a repeated key the
last value counts. A number beyond all of double precision is no value where it is kept. -/
def kept? : Json → Option Json
  | .null => some .null
  | .bool b => some (.bool b)
  | .int n => keptInt? n
  | .real d => ((Double.scaled? d).bind Double.decimal?).map real
  | .str s => some (.str s)
  | .arr items => (keptItems? items).map arr
  | .obj fields => (keptFields? fields).map fun fields => .obj (lastGiven fields)
  | .unkept => none

/-- The items of a list in the form in which they are kept. -/
def keptItems? : List Json → Option (List Json)
  | [] => some []
  | j :: rest =>
    match kept? j with
    | none => none
    | some j => (keptItems? rest).map (j :: ·)

/-- The fields of an object in the form in which they are kept. -/
def keptFields? : List (String × Json) → Option (List (String × Json))
  | [] => some []
  | (k, j) :: rest =>
    match kept? j with
    | none => none
    | some j => (keptFields? rest).map ((k, j) :: ·)

end

/-- How deeply a text may be nested where its values are kept whole. -/
def depthLimit : Nat := 127

/-- The form in which a value is kept that stands at a level of nesting. -/
def keepable? (level : Nat) (j : Json) : Option Json :=
  if level + j.depth ≤ depthLimit then j.kept? else none

/-- Whether a value at a level of nesting can be kept whole. -/
def isKeepable (level : Nat) (j : Json) : Bool := (j.keepable? level).isSome

/-- Where a value that is read comes from. -/
inductive Origin where
  /-- A text, in which so many lists and objects are open around the value. -/
  | text (level : Nat)
  /-- A value that has been kept whole before. -/
  | kept
deriving DecidableEq, Repr

namespace Origin

/-- The origin of a value that is a text of its own. -/
def whole : Origin := text 0

/-- The origin of what lies some levels inside of a value. -/
def inside (levels : Nat) : Origin → Origin
  | text level => text (level + levels)
  | kept => kept

/-- The form in which a value of that origin is kept: what has been kept before may be nested
deeper in what it becomes part of. -/
def keepable? : Origin → Json → Option Json
  | text level, j => j.keepable? level
  | kept, j => j.kept?

/-- Whether a value says no more than the key that it is given for: a null, and an object without
fields where it has been kept. -/
def isBare : Origin → Json → Bool
  | _, .null => true
  | kept, .obj [] => true
  | _, _ => false

end Origin

/-! ## Equality -/

mutual

/-- Whether two values are equal. -/
def isEqual : Json → Json → Bool
  | .null, .null => true
  | .bool a, .bool b => a == b
  | .int a, .int b => a == b
  | .real a, .real b => decide (a = b)
  | .str a, .str b => a == b
  | .arr a, .arr b => areEqual a b
  | .obj a, .obj b => areEqualFields a b
  | .unkept, .unkept => true
  | _, _ => false

/-- Whether two lists of values are equal. -/
def areEqual : List Json → List Json → Bool
  | [], [] => true
  | a :: as, b :: bs => isEqual a b && areEqual as bs
  | _, _ => false

/-- Whether two lists of fields are equal. -/
def areEqualFields : List (String × Json) → List (String × Json) → Bool
  | [], [] => true
  | (k, a) :: as, (l, b) :: bs => k == l && isEqual a b && areEqualFields as bs
  | _, _ => false

end

mutual

theorem isEqual_iff (a b : Json) : isEqual a b = true ↔ a = b := by
  cases a <;> cases b <;> simp [isEqual, areEqual_iff, areEqualFields_iff]

theorem areEqual_iff (a b : List Json) : areEqual a b = true ↔ a = b := by
  cases a <;> cases b <;> simp [areEqual, isEqual_iff, areEqual_iff]

theorem areEqualFields_iff (a b : List (String × Json)) : areEqualFields a b = true ↔ a = b := by
  rcases a with _ | ⟨⟨k, a⟩, as⟩ <;> rcases b with _ | ⟨⟨l, b⟩, bs⟩ <;>
    simp [areEqualFields, isEqual_iff, areEqualFields_iff, and_assoc]

end

instance : DecidableEq Json := fun a b => decidable_of_iff _ (isEqual_iff a b)

/-! ## Fields -/

/-- The value of a key of an object: the last one given, as a map would have it. -/
def get? (key : String) : Json → Option Json
  | .obj fields => (fields.reverse.find? fun f => f.1 == key).map (·.2)
  | _ => none

end Json

end MeshRegistry
