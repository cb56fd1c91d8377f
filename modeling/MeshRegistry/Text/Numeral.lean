/-!
# Numerals

Reading numbers written in decimal or in another base. Leading zeros are harmless to a reader;
whether a sign is allowed is the caller's choice.

## Main definitions

- `Text.nat?`: the value of a non-empty run of digits.
- `Text.signedNat?`: the same after an optional plus sign.
- `Text.word64?`: a natural number below 2^64, with an optional plus sign.
- `Text.integerIn?`, `Text.int64?`: integers in a base, and decimal ones of 64 bits, with an
  optional sign.
-/

namespace MeshRegistry.Text

/-- The value of a list of digits; nothing when it is empty or holds another character. -/
def nat? (cs : List Char) : Option Nat :=
  if cs ≠ [] ∧ cs.all Char.isDigit then some (Nat.ofDigitChars 10 cs 0) else none

/-- The value of a list of digits after an optional plus sign. -/
def signedNat? : List Char → Option Nat
  | '+' :: cs => nat? cs
  | cs => nat? cs

/-- The natural number below 2^64 that a text writes, with an optional plus sign. -/
def word64? (s : String) : Option Nat := (signedNat? s.toList).filter (· < UInt64.size)

/-- The value of a hexadecimal digit of either case. -/
def hexDigit? (c : Char) : Option Nat :=
  if '0' ≤ c ∧ c ≤ '9' then some (c.toNat - '0'.toNat)
  else if 'a' ≤ c ∧ c ≤ 'f' then some (c.toNat - 'a'.toNat + 10)
  else if 'A' ≤ c ∧ c ≤ 'F' then some (c.toNat - 'A'.toNat + 10)
  else none

/-- The value of a digit in a base of at most sixteen. -/
def digitIn? (base : Nat) (c : Char) : Option Nat := (hexDigit? c).filter (· < base)

/-- The natural number in a base that a list of digits writes. -/
def naturalIn? (base : Nat) (cs : List Char) : Option Nat :=
  if cs = [] then none else cs.foldlM (fun n c => (digitIn? base c).map (n * base + ·)) 0

/-- Whether a list of characters begins with a minus sign, and what follows its sign. -/
def signOf : List Char → Bool × List Char
  | '-' :: cs => (true, cs)
  | '+' :: cs => (false, cs)
  | cs => (false, cs)

/-- The integer in a base that digits write, with an optional sign. -/
def integerIn? (base : Nat) (cs : List Char) : Option Int :=
  let (negative, digits) := signOf cs
  (naturalIn? base digits).map fun (n : Nat) => if negative then -(n : Int) else n

/-- An integer, if it has at most 64 bits. -/
def inWord? (n : Int) : Option Int :=
  if -9223372036854775808 ≤ n ∧ n ≤ 9223372036854775807 then some n else none

/-- The decimal integer of 64 bits that a list of characters writes, with an optional sign. -/
def int64? (cs : List Char) : Option Int := (integerIn? 10 cs).bind inWord?

/-- The hexadecimal digit of a number below sixteen, in lower case. -/
def hexDigit (n : Nat) : Char :=
  if n < 10 then Char.ofNat ('0'.toNat + n) else Char.ofNat ('a'.toNat + (n - 10))

theorem hexDigit?_hexDigit {n : Nat} (h : n < 16) : hexDigit? (hexDigit n) = some n := by
  have hall : ∀ n < 16, hexDigit? (hexDigit n) = some n := by decide
  exact hall n h

theorem nat?_toDigits (n : Nat) : nat? (Nat.toDigits 10 n) = some n := by
  have hall : (Nat.toDigits 10 n).all Char.isDigit = true :=
    List.all_eq_true.mpr fun c hc => Nat.isDigit_of_mem_toDigits (by decide) (by decide) hc
  rw [nat?, if_pos ⟨Nat.toDigits_ne_nil, hall⟩, Nat.ofDigitChars_ten_toDigits]

end MeshRegistry.Text
