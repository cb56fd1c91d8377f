import MeshRegistry.Text.Numeral
/-!
# Octets in base 64

Three octets are written as four digits of six bits. What is left at the end is written as two or
three digits and padded with equals signs to four; the bits that the octets do not fill are zero,
so that octets have one written form.

## Main definitions

- `Text.ofBase64?`: the octets that a text writes.
-/

namespace MeshRegistry.Text

/-- The value of a digit in base 64. -/
def base64Digit? (c : Char) : Option Nat :=
  if 'A' ≤ c ∧ c ≤ 'Z' then some (c.toNat - 'A'.toNat)
  else if 'a' ≤ c ∧ c ≤ 'z' then some (c.toNat - 'a'.toNat + 26)
  else if c.isDigit then some (c.toNat - '0'.toNat + 52)
  else if c = '+' then some 62
  else if c = '/' then some 63
  else none

/-- The octets of the last digits, of which there are two or three before the padding. -/
def lastOctets? (a b : Char) (c : Option Char) : Option (List UInt8) := do
  let a ← base64Digit? a
  let b ← base64Digit? b
  match c with
  | none => if b % 16 = 0 then some [UInt8.ofNat (4 * a + b / 16)] else none
  | some c =>
    let c ← base64Digit? c
    if c % 4 = 0 then
      some [UInt8.ofNat (4 * a + b / 16), UInt8.ofNat (b % 16 * 16 + c / 4)]
    else none

/-- The octets that a text in base 64 writes. -/
def ofBase64? : List Char → Option (List UInt8)
  | [] => some []
  | [a, b, '=', '='] => lastOctets? a b none
  | [a, b, c, '='] => lastOctets? a b (some c)
  | a :: b :: c :: d :: rest => do
    let a ← base64Digit? a
    let b ← base64Digit? b
    let c ← base64Digit? c
    let d ← base64Digit? d
    let more ← ofBase64? rest
    return UInt8.ofNat (4 * a + b / 16) :: UInt8.ofNat (b % 16 * 16 + c / 4)
      :: UInt8.ofNat (c % 4 * 64 + d) :: more
  | _ => none

example : ofBase64? "aGVsbG8=".toList = some [104, 101, 108, 108, 111] := by decide

end MeshRegistry.Text
