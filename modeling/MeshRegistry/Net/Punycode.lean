/-!
# Labels beyond ASCII

A label of a domain name is written in ASCII by taking its ASCII characters first and then telling,
as one number for each other character, where it is inserted. The numbers are written in digits of
growing weight with thresholds that adapt to the numbers before.

## Main definitions

- `Punycode.encode`, `Punycode.decode?`: code points to digits and back.
-/

namespace MeshRegistry.Punycode

/-- The bias after a number, given how many characters there are and whether it is the first. -/
def adapt (delta points : Nat) (first : Bool) : Nat :=
  let d := if first then delta / 700 else delta / 2
  let d := d + d / points
  let rec shrink : Nat → Nat → Nat → Nat
    | 0, k, d => k + 36 * d / (d + 38)
    | fuel + 1, k, d => if 455 < d then shrink fuel (k + 36) (d / 35) else k + 36 * d / (d + 38)
  shrink d 0 d

/-- The threshold of the digit with a given weight index. -/
def threshold (k bias : Nat) : Nat :=
  if k ≤ bias + 1 then 1 else if bias + 26 ≤ k then 26 else k - bias

/-- The character of a digit. -/
def digitChar (n : Nat) : Char :=
  if n < 26 then Char.ofNat ('a'.toNat + n) else Char.ofNat ('0'.toNat + (n - 26))

/-- The digit of a character. -/
def digit? (c : Char) : Option Nat :=
  if 'a' ≤ c ∧ c ≤ 'z' then some (c.toNat - 'a'.toNat)
  else if 'A' ≤ c ∧ c ≤ 'Z' then some (c.toNat - 'A'.toNat)
  else if '0' ≤ c ∧ c ≤ '9' then some (c.toNat - '0'.toNat + 26)
  else none

/-- The digits of a number. -/
def digits (bias : Nat) : Nat → Nat → Nat → List Char
  | 0, _, q => [digitChar q]
  | fuel + 1, k, q =>
    let t := threshold k bias
    if q < t then [digitChar q]
    else digitChar (t + (q - t) % (36 - t)) :: digits bias fuel (k + 36) ((q - t) / (36 - t))

/-- Where the writing of a label stands. -/
structure Writing where
  /-- The number for the next character, so far. -/
  delta : Nat := 0
  /-- The bias of the next number. -/
  bias : Nat := 72
  /-- How many characters have been written. -/
  done : Nat
  /-- Whether the next number is the first one. -/
  first : Bool := true
  /-- The written digits. -/
  out : List Char := []

/-- Pass over a character, or write the number of one that is due. -/
def Writing.visit (n : Nat) (w : Writing) (c : Char) : Writing :=
  if c.toNat < n then { w with delta := w.delta + 1 }
  else if c.toNat = n then
    { delta := 0
      bias := adapt w.delta (w.done + 1) w.first
      done := w.done + 1
      first := false
      out := w.out ++ digits w.bias w.delta 36 w.delta }
  else w

/-- Write all occurrences of one code point; `last` is the code point written before. -/
def Writing.point (label : List Char) (w : Writing) (last n : Nat) : Writing :=
  let w := { w with delta := w.delta + (n - last) * (w.done + 1) }
  let w := label.foldl (Writing.visit n) w
  { w with delta := w.delta + 1 }

/-- Write the code points of a list, in ascending order. -/
def Writing.points (label : List Char) : Writing → Nat → List Nat → Writing
  | w, _, [] => w
  | w, last, n :: rest => (w.point label last n).points label (n + 1) rest

/-- A number put into an ascending list, unless it is there. -/
def insertAscending (n : Nat) : List Nat → List Nat
  | [] => [n]
  | m :: rest =>
    if n < m then n :: m :: rest else if n = m then m :: rest else m :: insertAscending n rest

/-- The code points beyond ASCII in a label, each once and in ascending order. -/
def beyond (label : List Char) : List Nat :=
  ((label.map Char.toNat).filter (128 ≤ ·)).foldr insertAscending []

/-- A label in ASCII. -/
def encode (label : List Char) : List Char :=
  let basic := label.filter (·.toNat < 128)
  let w := Writing.points label { done := basic.length } 128 (beyond label)
  (if basic.isEmpty then [] else basic ++ ['-']) ++ w.out

/-- Where the reading of a label stands. -/
structure Reading where
  /-- The code point of the last inserted character. -/
  point : Nat := 128
  /-- Where the last character was inserted. -/
  position : Nat := 0
  /-- The bias of the current number. -/
  bias : Nat := 72
  /-- The number so far. -/
  number : Nat := 0
  /-- The weight of the next digit. -/
  weight : Nat := 1
  /-- The index of the weight. -/
  index : Nat := 36
  /-- Whether no digit of the number has been read. -/
  fresh : Bool := true
  /-- Whether no number has been read. -/
  first : Bool := true
  /-- The label so far. -/
  label : List Char

/-- Read one more digit. -/
def Reading.take? (r : Reading) (c : Char) : Option Reading := do
  let d ← digit? c
  let number := r.number + d * r.weight
  let t := threshold r.index r.bias
  if t ≤ d then
    return { r with number, weight := r.weight * (36 - t), index := r.index + 36, fresh := false }
  else
    let size := r.label.length + 1
    let place := r.position + number
    let point := r.point + place / size
    if point < 0x110000 ∧ ¬(0xD800 ≤ point ∧ point < 0xE000) then
      let position := place % size
      return { point
               position := position + 1
               bias := adapt number size r.first
               first := false
               label := r.label.take position ++ Char.ofNat point :: r.label.drop position }
    else none

/-- The ASCII characters of a label, and the digits behind the last hyphen. A hyphen that nothing
stands before separates nothing. -/
def parts (cs : List Char) : List Char × List Char :=
  let tail := (cs.reverse.takeWhile (· != '-')).reverse
  let basic := (cs.take (cs.length - tail.length)).dropLast
  if basic.isEmpty then ([], cs) else (basic, tail)

/-- The label that is written in ASCII, if it is one. -/
def decode? (cs : List Char) : Option (List Char) := do
  let (basic, tail) := parts cs
  let r ← tail.foldlM Reading.take? { label := basic }
  if r.fresh then some r.label else none

example : encode "bücher".toList = "bcher-kva".toList := by decide +kernel
example : encode "中国".toList = "fiqs8s".toList := by decide +kernel
example : decode? "bcher-kva".toList = some "bücher".toList := by decide +kernel
example : decode? "fiqs8s".toList = some "中国".toList := by decide +kernel
example : decode? "-e3n".toList = none := by decide +kernel

end MeshRegistry.Punycode
