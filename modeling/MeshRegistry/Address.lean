import MeshRegistry.Text.Pieces
import MeshRegistry.Text.Numeral
/-!
# Internet addresses as text

Which texts are internet addresses. A version 4 address is a strict dotted quad, without leading
zeros. A version 6 address is eight groups of up to four hexadecimal digits; one run of zero
groups may be left out as a double colon, and the last two groups may be a dotted quad. Zones
are not part of an address.

## Main definitions

- `Address.isQuad`: version 4.
- `Address.isGrouped`: version 6.
- `Address.isLiteral`: either.
-/

namespace MeshRegistry.Address

/-- Whether digits write a number from 0 to 255 without a leading zero. -/
def isOctet (cs : List Char) : Bool :=
  match Text.nat? cs with
  | some n => n < 256 && cs.length ≤ 3 && (cs.length == 1 || cs.head? != some '0')
  | none => false

/-- Whether a text is a version 4 address. -/
def isQuad (cs : List Char) : Bool :=
  let parts := Text.pieces '.' cs
  parts.length == 4 && parts.all isOctet

/-- Whether a text is one group of a version 6 address. -/
def isGroup (cs : List Char) : Bool :=
  cs != [] && cs.length ≤ 4 && cs.all fun c => (Text.hexDigit? c).isSome

/-- The number of groups that colon-separated parts stand for; a last part in dotted form stands
for two, where that form is allowed. -/
def groupCount? (quadAllowed : Bool) : List (List Char) → Option Nat
  | [] => some 0
  | [last] =>
    if isGroup last then some 1
    else if quadAllowed && isQuad last then some 2
    else none
  | part :: rest => if isGroup part then (groupCount? quadAllowed rest).map (· + 1) else none

/-- The number of groups in a run of groups, which may be empty. -/
def runCount? (quadAllowed : Bool) (cs : List Char) : Option Nat :=
  if cs.isEmpty then some 0 else groupCount? quadAllowed (Text.pieces ':' cs)

/-- The two sides of the first double colon. -/
def cutGap? : List Char → Option (List Char × List Char)
  | ':' :: ':' :: rest => some ([], rest)
  | c :: rest => (cutGap? rest).map fun p => (c :: p.1, p.2)
  | [] => none

/-- Whether a text is a version 6 address. -/
def isGrouped (cs : List Char) : Bool :=
  match cutGap? cs with
  | none => groupCount? true (Text.pieces ':' cs) == some 8
  | some (before, after) =>
    match runCount? false before, runCount? true after with
    -- The double colon stands for one group at least.
    | some m, some n => m + n ≤ 7
    | _, _ => false

/-- Whether a text is an internet address of either version. -/
def isLiteral (s : String) : Bool := isQuad s.toList || isGrouped s.toList

example : ["1.2.3.4", "::", "::1", "1::", "::ffff:1.2.3.4", "1:2:3:4:5:6:7:8"].all isLiteral := by
  decide
example : ! ["01.2.3.4", "1.2.3", "1.2.3.256", "1:2:3:4:5:6:7", "1:2:3:4:5:6:7::8", ":1:2",
    "1::2::3", "fe80::1%eth0", "1.2.3.4::"].any isLiteral := by decide

end MeshRegistry.Address
