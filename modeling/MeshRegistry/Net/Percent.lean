import MeshRegistry.Text.Octets
/-!
# Percent encoding

Octets that must not appear as themselves are written as a percent sign and two upper-case
hexadecimal digits. Which octets those are depends on the place; beyond ASCII all are.

## Main definitions

- `Percent.encode`: a text with the octets of a set encoded.
- `Percent.decode`: the octets of a text with encoded octets put back.
- `Percent.inFragment`, `inPath`, `inSegment`, `inQuery`, `inUserInfo`: the sets.
-/

namespace MeshRegistry.Percent

/-- Whether an octet is the code of one of some characters. -/
def isOneOf (chars : String) (b : UInt8) : Bool := chars.toList.any fun c => c.toNat == b.toNat

/-- The octets that are encoded everywhere: control characters and all beyond ASCII. -/
def everywhere (b : UInt8) : Bool := b.toNat < 0x20 || 0x7F ≤ b.toNat

/-- The octets that are encoded in a fragment. -/
def inFragment (b : UInt8) : Bool := everywhere b || isOneOf " \"<>\x60" b

/-- The octets that are encoded in a path. -/
def inPath (b : UInt8) : Bool := inFragment b || isOneOf "#?\x7b\x7d" b

/-- The octets that are encoded in a single segment of a path. -/
def inSegment (b : UInt8) : Bool := inPath b || isOneOf "/%\\" b

/-- The octets that are encoded in a query; where a scheme is known, the apostrophe too. -/
def inQuery (known : Bool) (b : UInt8) : Bool :=
  everywhere b || isOneOf " \"#<>" b || (known && isOneOf "'" b)

/-- The octets that are encoded in user information. -/
def inUserInfo (b : UInt8) : Bool := inPath b || isOneOf "/:;=@[\\]^|" b

/-- The upper-case hexadecimal digit of a number below sixteen. -/
def digit (n : Nat) : Char := (Text.hexDigit n).toUpper

/-- One octet, encoded where the set has it. -/
def encodeOctet (set : UInt8 → Bool) (b : UInt8) : List Char :=
  if set b then ['%', digit (b.toNat / 16), digit (b.toNat % 16)] else [Char.ofNat b.toNat]

/-- The text of octets with those of the set encoded. -/
def encodeOctets (set : UInt8 → Bool) (bs : List UInt8) : String :=
  String.ofList (bs.flatMap (encodeOctet set))

/-- A text with the octets of the set encoded. -/
def encode (set : UInt8 → Bool) (s : String) : String := encodeOctets set (Text.octets s)

/-- Octets with every percent sign and two hexadecimal digits put back to an octet. -/
def decodeOctets : List UInt8 → List UInt8
  | [] => []
  | p :: a :: b :: rest =>
    if p = 37 then
      match Text.hexDigit? (Char.ofNat a.toNat), Text.hexDigit? (Char.ofNat b.toNat) with
      | some high, some low => UInt8.ofNat (16 * high + low) :: decodeOctets rest
      | _, _ => p :: decodeOctets (a :: b :: rest)
    else p :: decodeOctets (a :: b :: rest)
  | p :: rest => p :: decodeOctets rest

/-- The octets of a text with encoded octets put back. -/
def decode (s : String) : List UInt8 := decodeOctets (Text.octets s)

example : encode inPath "a b\x60é" = "a%20b%60%C3%A9" := by decide +kernel
example : Text.ofOctets? (decode "%41%c3%A9%4") = some "Aé%4" := by decide +kernel

end MeshRegistry.Percent
