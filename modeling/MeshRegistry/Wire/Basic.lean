import MeshRegistry.Text.Octets
/-!
# Fields on the wire

A protocol buffer message is a sequence of fields. Each has a number and a value in one of five
forms: a variable-length integer, eight octets, four octets, a counted run of octets, or a group of
fields. This module reads octets as fields and writes fields as octets; what the fields of a
message mean is said elsewhere.

Integers are written seven bits to an octet, least significant first; all octets but the last have
their high bit set. A reader accepts up to ten octets as long as the value has 64 bits.

## Main definitions

- `Wire.Field`: the fields.
- `Wire.integer`, `Wire.readInteger?`: integers to octets and back.
- `Wire.encode`, `Wire.decode?`: fields to octets and back.
- `Wire.Field.height`: how deeply groups are nested in a field.
-/

namespace MeshRegistry.Wire

/-! ## Integers -/

/-- An integer in at most the given number of octets. -/
def integerIn : Nat → Nat → List UInt8
  | 0, _ => []
  | k + 1, n =>
    if n < 128 then [UInt8.ofNat n] else UInt8.ofNat (n % 128 + 128) :: integerIn k (n / 128)

/-- An integer of 64 bits. -/
def integer (n : Nat) : List UInt8 := integerIn 10 n

/-- An integer of at most the given number of octets, and what follows. The last possible octet
may only carry one bit. -/
def readIntegerIn? : Nat → List UInt8 → Option (Nat × List UInt8)
  | 0, _ => none
  | _ + 1, [] => none
  | k + 1, b :: rest =>
    if b.toNat < 128 then
      -- Nine octets carry 63 bits, so the tenth may add one.
      if k = 0 ∧ 2 ≤ b.toNat then none else some (b.toNat, rest)
    else (readIntegerIn? k rest).map fun r => (b.toNat - 128 + 128 * r.1, r.2)

/-- An integer of 64 bits, and what follows. -/
def readInteger? (bs : List UInt8) : Option (Nat × List UInt8) := readIntegerIn? 10 bs

/-- The given number of octets of an integer, least significant first. -/
def littleEndian : Nat → Nat → List UInt8
  | 0, _ => []
  | k + 1, n => UInt8.ofNat (n % 256) :: littleEndian k (n / 256)

/-- The integer of octets, least significant first. -/
def ofLittleEndian : List UInt8 → Nat
  | [] => 0
  | b :: rest => b.toNat + 256 * ofLittleEndian rest

/-- A given number of octets, and what follows; nothing when there are not as many. -/
def take? (n : Nat) (bs : List UInt8) : Option (List UInt8 × List UInt8) :=
  if n ≤ bs.length then some (bs.take n, bs.drop n) else none

/-- A count and as many octets, and what follows. -/
def readCounted? (bs : List UInt8) : Option (List UInt8 × List UInt8) := do
  let (n, rest) ← readInteger? bs
  take? n rest

/-! ## Fields -/

/-- A field: its number and its value. -/
inductive Field where
  /-- An integer. -/
  | varint (tag : Nat) (n : Nat)
  /-- Eight octets, as a number. -/
  | word64 (tag : Nat) (n : Nat)
  /-- A counted run of octets. -/
  | bytes (tag : Nat) (bs : List UInt8)
  /-- A group of fields. -/
  | group (tag : Nat) (fields : List Field)
  /-- Four octets, as a number. -/
  | word32 (tag : Nat) (n : Nat)
deriving Inhabited

namespace Field

/-- The number of a field. -/
def tag : Field → Nat
  | varint t _ => t
  | word64 t _ => t
  | bytes t _ => t
  | group t _ => t
  | word32 t _ => t

mutual

/-- How many levels it takes to pass over a field: one, and one more for each group inside. -/
def height : Field → Nat
  | group _ fields => heights fields + 1
  | _ => 1

/-- The greatest height of fields. -/
def heights : List Field → Nat
  | [] => 0
  | f :: rest => max (height f) (heights rest)

end

end Field

/-! ## Writing -/

/-- The key of a field: its number and the form of its value. -/
def key (tag form : Nat) : List UInt8 := integer (tag * 8 + form)

mutual

/-- A field as octets. -/
def encodeField : Field → List UInt8
  | .varint t n => key t 0 ++ integer n
  | .word64 t n => key t 1 ++ littleEndian 8 n
  | .bytes t bs => key t 2 ++ integer bs.length ++ bs
  | .group t fields => key t 3 ++ encode fields ++ key t 4
  | .word32 t n => key t 5 ++ littleEndian 4 n

/-- Fields as octets. -/
def encode : List Field → List UInt8
  | [] => []
  | f :: rest => encodeField f ++ encode rest

end

/-! ## Reading -/

/-- A key: the number of a field and the form of its value, and what follows. Keys have 32 bits,
and no field has the number zero. -/
def readKey? (bs : List UInt8) : Option (Nat × Nat × List UInt8) := do
  let (k, rest) ← readInteger? bs
  if k < UInt32.size ∧ k / 8 ≠ 0 then some (k / 8, k % 8, rest) else none

/-- Fields up to the end of the octets, or up to the end of the group with a given number, and
what follows. The fields whose numbers satisfy `counted` are counted runs of octets, whatever form
their key names. -/
def readFields? (counted : Nat → Bool) :
    Nat → Option Nat → List UInt8 → Option (List Field × List UInt8)
  | 0, _, _ => none
  | _ + 1, none, [] => some ([], [])
  | _ + 1, some _, [] => none
  | fuel + 1, close, bs =>
    match readKey? bs with
    | none => none
    | some (tag, form, rest) =>
      let go (f : Field) (rest : List UInt8) : Option (List Field × List UInt8) :=
        (readFields? counted fuel close rest).map fun r => (f :: r.1, r.2)
      -- An entry of a map is read as a counted run before its form is looked at.
      if form ≤ 5 ∧ counted tag then
        (readCounted? rest).bind fun r => go (.bytes tag r.1) r.2
      else
        match form with
        | 0 => (readInteger? rest).bind fun r => go (.varint tag r.1) r.2
        | 1 => (take? 8 rest).bind fun r => go (.word64 tag (ofLittleEndian r.1)) r.2
        | 2 => (readCounted? rest).bind fun r => go (.bytes tag r.1) r.2
        | 3 =>
          (readFields? (fun _ => false) fuel (some tag) rest).bind fun r => go (.group tag r.1) r.2
        -- The end of a group must close the group that is open.
        | 4 => if close = some tag then some ([], rest) else none
        | 5 => (take? 4 rest).bind fun r => go (.word32 tag (ofLittleEndian r.1)) r.2
        | _ => none

/-- The fields that octets write. Each field takes at least one octet, so the number of octets
bounds the number of steps. -/
def decode? (counted : Nat → Bool) (bs : List UInt8) : Option (List Field) :=
  (readFields? counted (bs.length + 1) none bs).map (·.1)

end MeshRegistry.Wire
