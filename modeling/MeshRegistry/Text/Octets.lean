import MeshRegistry.Text.Numeral
/-!
# Texts as octets

The UTF-8 form of a text as a list of octets, and octets in hexadecimal.

## Main definitions

- `Text.octets`, `Text.ofOctets?`: a text to its UTF-8 octets and back.
- `Text.hex`, `Text.ofHex?`: octets to lower-case hexadecimal and back.
- `Text.unmarked`: a text without the mark of its encoding.
-/

namespace MeshRegistry.Text

/-- The UTF-8 octets of a text. -/
def octets (s : String) : List UInt8 := s.toByteArray.data.toList

/-- The text that octets encode in UTF-8, if they do. -/
def ofOctets? (bs : List UInt8) : Option String := String.fromUTF8? ⟨bs.toArray⟩

/-- The octets as pairs of lower-case hexadecimal digits. -/
def hex (bs : List UInt8) : String :=
  String.ofList (bs.flatMap fun b => [hexDigit (b.toNat / 16), hexDigit (b.toNat % 16)])

/-- The octets that pairs of hexadecimal digits stand for. -/
def ofHexChars? : List Char → Option (List UInt8)
  | [] => some []
  | a :: b :: rest => do
    let high ← hexDigit? a
    let low ← hexDigit? b
    let bytes ← ofHexChars? rest
    return UInt8.ofNat (16 * high + low) :: bytes
  | [_] => none

/-- The octets that a text of hexadecimal digits stands for. -/
def ofHex? (s : String) : Option (List UInt8) := ofHexChars? s.toList

/-- A text without the mark of its encoding that may stand at the beginning. -/
def unmarked (s : String) : String :=
  match s.toList with
  | '\ufeff' :: cs => String.ofList cs
  | _ => s

/-- Reading back the octets of a text gives the text. -/
@[simp] theorem ofOctets?_octets (s : String) : ofOctets? (octets s) = some s := by
  have h : (⟨(octets s).toArray⟩ : ByteArray) = s.toByteArray := by simp [octets]
  rw [ofOctets?, h, String.fromUTF8?, dif_pos s.isValidUTF8]
  rfl

end MeshRegistry.Text
