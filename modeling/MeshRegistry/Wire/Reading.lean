import MeshRegistry.SortedMap
import MeshRegistry.Wire.Basic
/-!
# Messages from fields

A message is read by folding its fields over an empty message: a later value of a field replaces
an earlier one, a repeated field grows, and a nested message that occurs again is merged into the
one before. A known field must have the form of its type; unknown fields are passed over. Only so
many levels of nesting are read: a nested message, an entry of a map and a group take one each.

## Main definitions

- `Wire.Reader`: how a message takes in a field, at a number of levels that may still be entered.
- `Wire.Reader.message?`: the message that octets write.
- `Wire.Field.text?`, `natural?`, `nested?`, `entry?`: the value of a field of a given type.
- `Wire.textField`, `natField`, `nestedField`, `entryField`: the fields of values.
-/

namespace MeshRegistry.Wire

/-- How many levels of nesting a message may have. -/
def levelLimit : Nat := 100

/-- How messages of a type are read. -/
structure Reader (α : Type) where
  /-- The message without fields. -/
  empty : α
  /-- The numbers of the fields that are maps. -/
  maps : List Nat := []
  /-- The message with one more field, with the levels that may still be entered. -/
  take : Nat → α → Field → Option α

namespace Reader

variable {α : Type}

/-- Merge the message that octets write into a message. -/
def merge? (r : Reader α) (levels : Nat) (m : α) (bs : List UInt8) : Option α :=
  (decode? (fun t => r.maps.contains t) bs).bind fun fields => fields.foldlM (r.take levels) m

/-- The message that octets write. -/
def message? (r : Reader α) (bs : List UInt8) : Option α := r.merge? levelLimit r.empty bs

end Reader

namespace Field

/-- Pass over an unknown field and keep the message. -/
def skip? {α : Type} (levels : Nat) (m : α) (f : Field) : Option α :=
  -- Groups inside an unknown field take levels as known messages do.
  if f.height ≤ levels then some m else none

/-- A counted run of octets. -/
def octets? : Field → Option (List UInt8)
  | bytes _ bs => some bs
  | _ => none

/-- A text. -/
def text? (f : Field) : Option String := f.octets?.bind Text.ofOctets?

/-- An integer. -/
def natural? : Field → Option Nat
  | varint _ n => some n
  | _ => none

/-- An integer of 32 bits without sign; higher bits are dropped. -/
def word? (f : Field) : Option UInt32 := f.natural?.map UInt32.ofNat

/-- An integer of 32 bits with a sign; higher bits are dropped. -/
def int32? (f : Field) : Option Int32 := f.natural?.map Int32.ofNat

/-- An integer of 64 bits with a sign. -/
def int64? (f : Field) : Option Int64 := f.natural?.map Int64.ofNat

/-- A truth value: anything but zero is true. -/
def flag? (f : Field) : Option Bool := f.natural?.map (· != 0)

/-- Merge a nested message into a value, one level down. -/
def nested? {α : Type} (r : Reader α) (levels : Nat) (m : α) (f : Field) : Option α :=
  match levels with
  | 0 => none
  | n + 1 => f.octets?.bind (r.merge? n m)

/-- How an entry of a map is read: the key has the number 1 and the value 2. -/
def entryReader {α : Type} (absent : α) (value : Nat → α → Field → Option α) :
    Reader (String × α) where
  empty := ("", absent)
  take levels m f :=
    match f.tag with
    | 1 => f.text?.map fun k => (k, m.2)
    | 2 => (value levels m.2 f).map fun v => (m.1, v)
    | _ => f.skip? levels m

/-- An entry of a map, one level down. -/
def entry? {α : Type} (absent : α) (value : Nat → α → Field → Option α) (levels : Nat) (f : Field) :
    Option (String × α) :=
  nested? (entryReader absent value) levels ("", absent) f

/-- An entry of a map of texts. -/
def textEntry? (levels : Nat) (f : Field) : Option (String × String) :=
  f.entry? "" (fun _ _ f => f.text?) levels

/-- An entry of a map of words. -/
def wordEntry? (levels : Nat) (f : Field) : Option (String × UInt32) :=
  f.entry? 0 (fun _ _ f => f.word?) levels

end Field

/-! ## Writing values -/

/-- A text, left out when it is empty. -/
def textField (tag : Nat) (s : String) : List Field :=
  if s = "" then [] else [.bytes tag (Text.octets s)]

/-- Texts, the empty ones too. -/
def textFields (tag : Nat) (l : List String) : List Field :=
  l.map fun s => .bytes tag (Text.octets s)

/-- An integer, left out when it is zero. -/
def natField (tag : Nat) (n : Nat) : List Field := if n = 0 then [] else [.varint tag n]

/-- A signed integer as 64 bits, in two's complement. -/
def twosComplement (n : Int) : Nat := (n % UInt64.size).toNat

/-- A truth value, left out when it is false. -/
def flagField (tag : Nat) (b : Bool) : List Field := if b then [.varint tag 1] else []

/-- A counted run of octets, left out when it is empty. -/
def octetsField (tag : Nat) (bs : List UInt8) : List Field :=
  if bs = [] then [] else [.bytes tag bs]

/-- A nested message, given its fields. -/
def nestedField (tag : Nat) (fields : List Field) : Field := .bytes tag (encode fields)

/-- A nested message that may be unset. -/
def optionField {α : Type} (tag : Nat) (write : α → List Field) : Option α → List Field
  | none => []
  | some m => [nestedField tag (write m)]

/-- A map of texts: an entry for each key. -/
def textMapFields (tag : Nat) (m : SortedMap String String) : List Field :=
  m.entries.map fun e => nestedField tag (textField 1 e.1 ++ textField 2 e.2)

/-- A map of words: an entry for each key. -/
def wordMapFields (tag : Nat) (m : SortedMap String UInt32) : List Field :=
  m.entries.map fun e => nestedField tag (textField 1 e.1 ++ natField 2 e.2.toNat)

end MeshRegistry.Wire
