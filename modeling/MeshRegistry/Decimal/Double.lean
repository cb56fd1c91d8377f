import MeshRegistry.Text.Numeral
/-!
# Decimal numbers and numbers of double precision

A decimal number is a sign, the digits that were written and the power of ten that they count.
The digits are not reduced, so a number keeps the way it was written, a negative zero included.

A number of double precision is infinite, undefined, or a mantissa of at most 53 bits times a
power of two. Everything is computed exactly: a quotient of natural numbers is rounded to the
nearest such number, and the text of a number has the fewest digits that are rounded to it again.

## Main definitions

- `Decimal`: sign, digits and exponent.
- `Decimal.ofParts`: the number with given digits before and after the point and an exponent.
- `Double`: the numbers of double precision.
- `Double.nearest`: the number nearest to a quotient, an even mantissa in the middle.
- `Double.ofDecimal`, `Double.ofText?`: the number nearest to a written one.
- `Double.scaled?`: the number that comes of rounding the digits first and scaling them then.
- `Double.decimal?`, `Double.text`: the fewest digits, and their text without an exponent.
- `Double.word64`: the nearest natural number of 64 bits.
-/

namespace MeshRegistry

/-! ## Decimal numbers as written -/

/-- A decimal number: the digits, times a power of ten, with a sign. -/
structure Decimal where
  /-- Whether a minus sign was written. -/
  negative : Bool
  /-- The written digits as one number. -/
  digits : Nat
  /-- The power of ten that the last digit counts. -/
  exponent : Int
deriving DecidableEq, Repr, Inhabited

namespace Decimal

/-- The number with the given digits before the point, after it, and the given exponent. -/
def ofParts (negative : Bool) (whole fraction : List Char) (exponent : Int) : Decimal where
  negative := negative
  digits := Nat.ofDigitChars 10 (whole ++ fraction) 0
  exponent := exponent - fraction.length

/-- The value of an optionally signed run of digits; nothing when there is no digit. -/
def exponent? : List Char → Option Int
  | '-' :: cs => (Text.nat? cs).map fun n => -(n : Int)
  | '+' :: cs => (Text.nat? cs).map Int.ofNat
  | cs => (Text.nat? cs).map Int.ofNat

end Decimal

/-! ## Double precision -/

/-- A number of double precision. -/
inductive Double where
  /-- No number. -/
  | undefined
  /-- Beyond all numbers, on either side. -/
  | infinite (negative : Bool)
  /-- The mantissa, times a power of two, with a sign. -/
  | finite (negative : Bool) (mantissa : Nat) (exponent : Int)
deriving DecidableEq, Repr, Inhabited

namespace Double

/-! ## Rounding -/

/-- The least exponent of a number. -/
def leastExponent : Int := -1074

/-- The greatest exponent of a number. -/
def greatestExponent : Int := 971

/-- One more than the greatest mantissa. -/
def mantissaBound : Nat := 9007199254740992

/-- A quotient rounded to the nearest natural number, to the even one in the middle. -/
def roundEven (num den : Nat) : Nat :=
  let q := num / den
  let r := num % den
  if den < 2 * r ∨ (2 * r = den ∧ q % 2 = 1) then q + 1 else q

/-- A quotient divided by a power of a base, as a quotient. -/
def unscale (base : Nat) (num den : Nat) (e : Int) : Nat × Nat :=
  if e < 0 then (num * Nat.pow base (-e).toNat, den)
  else (num, den * Nat.pow base e.toNat)

/-- A number with its mantissa brought into bounds. -/
def bounded (negative : Bool) (mantissa : Nat) (e : Int) : Double :=
  -- Rounding up may have carried into one bit more.
  let (mantissa, e) := if mantissa = mantissaBound then (mantissa / 2, e + 1) else (mantissa, e)
  if greatestExponent < e then .infinite negative else .finite negative mantissa e

/-- The exponent with which a quotient that is not zero has a mantissa of 53 bits, or the least
one. -/
def exponentOf (num den : Nat) : Int :=
  -- The logarithms give the exponent up to one, which the bound then decides.
  let guess : Int := (Nat.log2 num : Int) - Nat.log2 den - 53
  let (n, d) := unscale 2 num den guess
  max leastExponent (if n / d < mantissaBound then guess else guess + 1)

/-- The number nearest to a quotient. -/
def nearest (negative : Bool) (num den : Nat) : Double :=
  if num = 0 then .finite negative 0 leastExponent
  else
    let e := exponentOf num den
    let (n, d) := unscale 2 num den e
    bounded negative (roundEven n d) e

/-- How many digits a number has before the point when it is too great for any double. -/
def sizeLimit : Int := 400

/-- The number nearest to a decimal number. -/
def ofDecimal (d : Decimal) : Double :=
  let size : Int := (Nat.toDigits 10 d.digits).length + d.exponent
  if d.digits = 0 then .finite d.negative 0 leastExponent
  -- Far outside of the range the quotient would only be a large number to compute.
  else if sizeLimit < size then .infinite d.negative
  else if size < -sizeLimit then .finite d.negative 0 leastExponent
  else
    let (num, den) := unscale 10 d.digits 1 (-d.exponent)
    nearest d.negative num den

/-! ## Rounding before scaling -/

/-- The magnitude of a number as a quotient; nothing when it is not finite. -/
def ratio? : Double → Option (Nat × Nat)
  | .finite _ m e => some (unscale 2 m 1 (-e))
  | _ => none

/-- The first digits of a number, as many as 64 bits hold, and how many are left out. -/
def leading : Nat → Nat → Nat × Nat
  | 0, n => (n, 0)
  | fuel + 1, n =>
    if n < UInt64.size then (n, 0)
    else
      let (n, dropped) := leading fuel (n / 10)
      (n, dropped + 1)

/-- The greatest power of ten that is scaled by in one step. -/
def stepLimit : Nat := 308

/-- A magnitude multiplied by a rounded power of ten, or divided by it, and rounded. -/
def step (x : Double) (e : Int) : Double :=
  match ratio? x, ratio? (nearest false (Nat.pow 10 e.natAbs) 1) with
  | some (n, d), some (p, q) =>
    if e < 0 then nearest false (n * q) (d * p) else nearest false (n * p) (d * q)
  | _, _ => x

/-- A number with a sign in front. -/
def signed (negative : Bool) : Double → Double
  | .finite _ m e => .finite negative m e
  | .infinite _ => .infinite negative
  | .undefined => .undefined

/-- The number that comes of rounding the first digits and scaling them by a rounded power of ten;
nothing when it would be beyond all numbers. A power that is too small for one step is reached in
two, and nothing is left after a third. -/
def scaled? (d : Decimal) : Option Double :=
  let (n, dropped) := leading (Nat.toDigits 10 d.digits).length d.digits
  let e := d.exponent + dropped
  let x := nearest false n 1
  let found : Option Double :=
    if n = 0 then some x
    -- Beyond one step a power of ten is itself beyond all numbers.
    else if (stepLimit : Int) < e then none
    else if -(stepLimit : Int) ≤ e then some (step x e)
    else if -(2 * stepLimit : Int) ≤ e then some (step (step x (-stepLimit)) (e + stepLimit))
    else some (.finite false 0 leastExponent)
  match found with
  | some (.infinite _) => none
  | other => other.map (signed d.negative)

/-! ## Reading -/

/-- The digits of a magnitude with a point and an exponent, each of which may be missing. There
must be a digit before or after the point. -/
def magnitude? (negative : Bool) (cs : List Char) : Option Decimal :=
  let whole := cs.takeWhile Char.isDigit
  let rest := cs.dropWhile Char.isDigit
  let (fraction, rest) :=
    match rest with
    | '.' :: rest => (rest.takeWhile Char.isDigit, rest.dropWhile Char.isDigit)
    | rest => ([], rest)
  -- A point alone is no number.
  if whole = [] ∧ fraction = [] then none
  else
    match rest with
    | [] => some (Decimal.ofParts negative whole fraction 0)
    | e :: rest =>
      if e = 'e' ∨ e = 'E' then
        (Decimal.exponent? rest).map fun n => Decimal.ofParts negative whole fraction n
      else none

/-- The number that a text writes: digits with a point and an exponent, or one of the words for
infinity and for no number, in any letter case. -/
def ofText? (s : String) : Option Double :=
  let (negative, cs) := Text.signOf s.toList
  let word := String.ofList (cs.map Char.toLower)
  if word = "inf" ∨ word = "infinity" then some (.infinite negative)
  else if word = "nan" then some .undefined
  else (magnitude? negative cs).map ofDecimal

/-! ## Writing -/

/-- The numbers around a finite one that are rounded to it, in quarters of its last bit: from,
the number itself, and to. Below a power of two the neighbour is nearer. -/
def interval (m : Nat) (e : Int) : Nat × Nat × Nat :=
  (if m = mantissaBound / 2 ∧ leastExponent < e then 4 * m - 1 else 4 * m - 2, 4 * m, 4 * m + 2)

/-- How many digits a quotient has before the point, or minus the zeros after it. -/
def placeOf (num den : Nat) : Int :=
  if den ≤ num then (Nat.toDigits 10 (num / den)).length
  else 1 - ((Nat.toDigits 10 (den / num)).length : Int)

/-- The multiple of a power of ten that is rounded to a number, the nearer of two. -/
def onGrid? (even : Bool) (low num high den : Nat) (place : Int) : Option Nat :=
  let (n, d) := unscale 10 num den place
  let (l, _) := unscale 10 low den place
  let (h, _) := unscale 10 high den place
  let inside (c : Nat) : Bool :=
    if even then decide (l ≤ c * d ∧ c * d ≤ h) else decide (l < c * d ∧ c * d < h)
  let q := n / d
  match inside q, inside (q + 1) with
  | true, true => some (if 2 * (n % d) < d ∨ (2 * (n % d) = d ∧ q % 2 = 0) then q else q + 1)
  | true, false => some q
  | false, true => some (q + 1)
  | false, false => none

/-- The fewest digits that are rounded to a finite number, and the power of ten that they
count. -/
def shortest (m : Nat) (e : Int) : Nat × Int :=
  let (low, mid, high) := interval m e
  let (num, den) := unscale 2 mid 1 (2 - e)
  let (lowNum, _) := unscale 2 low 1 (2 - e)
  let (highNum, _) := unscale 2 high 1 (2 - e)
  let top := placeOf num den
  -- Seventeen digits always suffice; the first place may be one too far to the left.
  let found := (List.range 20).findSome? fun (i : Nat) =>
    let place := top - Int.ofNat i
    (onGrid? (m % 2 == 0) lowNum num highNum den place).map fun c => (c, place)
  found.getD (0, 0)

/-- The decimal number with the fewest digits that is rounded to a finite number. -/
def decimal? : Double → Option Decimal
  | .finite negative m e =>
    if m = 0 then some ⟨negative, 0, 0⟩
    else
      let (digits, place) := shortest m e
      some ⟨negative, digits, place⟩
  | _ => none

/-- Digits with a power of ten, written without an exponent. -/
def positional (digits : List Char) (place : Int) : List Char :=
  if 0 ≤ place then digits ++ List.replicate place.toNat '0'
  else
    let after := (-place).toNat
    let padded := List.replicate (after + 1 - digits.length) '0' ++ digits
    padded.take (padded.length - after) ++ '.' :: padded.drop (padded.length - after)

/-- The text of a number: the fewest digits that are rounded to it again, without an exponent. -/
def text : Double → String
  | .undefined => "NaN"
  | .infinite negative => if negative then "-inf" else "inf"
  | .finite negative m e =>
    let digits :=
      if m = 0 then ['0']
      else
        let (n, place) := shortest m e
        positional (Nat.toDigits 10 n) place
    String.ofList ((if negative then ['-'] else []) ++ digits)

/-! ## Other readings of a number -/

/-- Whether a number differs from zero; what is no number does. -/
def isNonzero : Double → Bool
  | .finite _ m _ => m != 0
  | _ => true

/-- The nearest natural number of 64 bits, the greater one in the middle. What is no number counts
as zero. -/
def word64 : Double → Nat
  | .undefined => 0
  | .infinite negative => if negative then 0 else UInt64.size - 1
  | .finite negative m e =>
    if negative then 0
    else
      let (num, den) := unscale 2 m 1 (-e)
      min ((2 * num + den) / (2 * den)) (UInt64.size - 1)

end Double

end MeshRegistry
