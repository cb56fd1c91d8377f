import MeshRegistry.Wire.Reading
/-!
# Dynamic values on the wire

The metadata of a node is a table of dynamic values: null, a truth value, a number, a text, a list
or another table. A value is a message with one field for each of these; the last field counts,
except that lists and tables which follow their own kind are merged.

## Main definitions

- `Wire.Value`: the dynamic values.
- `Wire.Value.fields`: a value as fields.
- `Wire.Value.take`: how a value takes in a field.
- `Wire.tableReader`: the reader of tables.
-/

namespace MeshRegistry.Wire

/-- A dynamic value. -/
inductive Value where
  /-- No value at all. -/
  | unset
  /-- The null value. -/
  | null
  /-- A number, by the bits of its double-precision form. -/
  | number (bits : Nat)
  /-- A text. -/
  | text (s : String)
  /-- A truth value. -/
  | flag (b : Bool)
  /-- A table, in ascending order of its keys. -/
  | table (fields : List (String × Value))
  /-- A list. -/
  | list (items : List Value)
deriving Inhabited

namespace Value

mutual

/-- A value as fields. -/
def fields : Value → List Field
  | unset => []
  | null => [.varint 1 0]
  | number bits => [.word64 2 bits]
  | text s => [.bytes 3 (Text.octets s)]
  | flag b => [.varint 4 (if b then 1 else 0)]
  | table entries => [nestedField 5 (tableFields entries)]
  | list items => [nestedField 6 (listFields items)]

/-- A table as fields: an entry for each key. The entry leaves out an empty key and an unset
value. -/
def tableFields : List (String × Value) → List Field
  | [] => []
  | (k, v) :: rest =>
    nestedField 1
        (textField 1 k ++ (match v with | unset => [] | v => [nestedField 2 (fields v)])) ::
      tableFields rest

/-- A list as fields. -/
def listFields : List Value → List Field
  | [] => []
  | v :: rest => nestedField 1 (fields v) :: listFields rest

end

/-- The table in a value that is one. -/
def tableOf : Value → List (String × Value)
  | table entries => entries
  | _ => []

/-- The list in a value that is one. -/
def listOf : Value → List Value
  | list items => items
  | _ => []

mutual

/-- A value with one more field. -/
def take : Nat → Value → Field → Option Value
  | levels, v, f =>
    match f.tag, levels with
    -- Whatever its number, the null value is null.
    | 1, _ => f.int32?.map fun _ => null
    | 2, _ =>
      match f with
      | .word64 _ bits => some (number bits)
      | _ => none
    | 3, _ => f.text?.map text
    | 4, _ => f.flag?.map flag
    | 5, n + 1 =>
      (f.octets?.bind (decode? fun t => t == 1)).bind fun fs =>
        (fs.foldlM (takeTable n) v.tableOf).map table
    | 5, 0 => none
    | 6, n + 1 =>
      (f.octets?.bind (decode? fun _ => false)).bind fun fs =>
        (fs.foldlM (takeList n) v.listOf).map list
    | 6, 0 => none
    | _, levels => f.skip? levels v

/-- A table with one more field. -/
def takeTable : Nat → List (String × Value) → Field → Option (List (String × Value))
  | levels, entries, f =>
    match f.tag, levels with
    | 1, n + 1 =>
      (f.octets?.bind (decode? fun _ => false)).bind fun fs =>
        (fs.foldlM (takeEntry n) ("", unset)).map fun e => SortedMap.insertEntry e.1 e.2 entries
    | 1, 0 => none
    | _, levels => f.skip? levels entries

/-- An entry of a table with one more field. -/
def takeEntry : Nat → String × Value → Field → Option (String × Value)
  | levels, entry, f =>
    match f.tag, levels with
    | 1, _ => f.text?.map fun k => (k, entry.2)
    | 2, n + 1 =>
      (f.octets?.bind (decode? fun _ => false)).bind fun fs =>
        (fs.foldlM (take n) entry.2).map fun v => (entry.1, v)
    | 2, 0 => none
    | _, levels => f.skip? levels entry

/-- A list with one more field. -/
def takeList : Nat → List Value → Field → Option (List Value)
  | levels, items, f =>
    match f.tag, levels with
    | 1, n + 1 =>
      (f.octets?.bind (decode? fun _ => false)).bind fun fs =>
        (fs.foldlM (take n) unset).map fun v => items ++ [v]
    | 1, 0 => none
    | _, levels => f.skip? levels items

end

end Value

/-- How tables are read. -/
def tableReader : Reader (SortedMap String Value) where
  empty := .empty
  maps := [1]
  take levels m f :=
    match f.tag with
    | 1 => (f.entry? .unset (fun n v f => f.nested? ⟨.unset, [], Value.take⟩ n v) levels).map
        fun e => m.insert e.1 e.2
    | _ => f.skip? levels m

/-- A table as fields. -/
def tableFields (m : SortedMap String Value) : List Field := Value.tableFields m.entries

end MeshRegistry.Wire
