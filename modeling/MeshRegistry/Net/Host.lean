import MeshRegistry.Net.DomainName
import MeshRegistry.Text.Numeral
/-!
# Hosts

The host of a web address is a domain name or an internet address. Where the scheme is known, a
name whose last part is a number is a version 4 address, which may be written with fewer parts and
in octal or hexadecimal; version 6 addresses stand in brackets.

## Main definitions

- `Host`, `Host.text`: the hosts and how they are written.
- `AddressError`: why a web address is none.
- `Host.parse`: the host that a text names.
-/

namespace MeshRegistry

/-- Why a web address is none. -/
inductive AddressError where
  /-- There is no host where one is needed. -/
  | emptyHost
  /-- The port is not a number, or too great. -/
  | invalidPort
  /-- The host looks like a version 4 address and is none. -/
  | invalidV4
  /-- The host in brackets is no version 6 address. -/
  | invalidV6
  /-- The host is no domain name. -/
  | invalidName
  /-- The host has a character that it cannot have. -/
  | invalidCharacter
  /-- There is no scheme. -/
  | relative
deriving DecidableEq, Repr

/-- How a failure is worded. -/
def AddressError.message : AddressError → String
  | .emptyHost => "empty host"
  | .invalidPort => "invalid port number"
  | .invalidV4 => "invalid IPv4 address"
  | .invalidV6 => "invalid IPv6 address"
  | .invalidName => "invalid international domain name"
  | .invalidCharacter => "invalid domain character"
  | .relative => "relative URL without a base"

/-- A host. -/
inductive Host where
  /-- A name. -/
  | name (s : String)
  /-- A version 4 address, as a number. -/
  | v4 (n : Nat)
  /-- A version 6 address, as its eight groups. -/
  | v6 (groups : List Nat)
deriving DecidableEq, Repr

namespace Host

/-! ## Version 4 -/

/-- The number that a list of digits writes in a base. -/
def inBase? (base : Nat) (cs : List Char) : Option Nat :=
  cs.foldlM (fun n c =>
    match Text.hexDigit? c with
    | some d => if d < base then some (base * n + d) else none
    | none => none) 0

/-- The number that a part of a version 4 address writes: hexadecimal after `0x`, octal after
another leading zero, decimal otherwise. -/
def part? : List Char → Option Nat
  | [] => none
  | '0' :: 'x' :: rest => inBase? 16 rest
  | '0' :: 'X' :: rest => inBase? 16 rest
  -- A single zero is not taken for a mark.
  | '0' :: c :: rest => inBase? 8 (c :: rest)
  | cs => inBase? 10 cs

/-- The parts of a name between dots; an empty last part does not count. -/
def parts (cs : List Char) : List (List Char) :=
  let ps := Text.pieces '.' cs
  if ps.getLast? = some [] then ps.dropLast else ps

/-- Whether the last part of a name is a number. -/
def endsInNumber (cs : List Char) : Bool :=
  match (parts cs).getLast? with
  | none => false
  | some last => (last != [] && last.all Char.isDigit) || (part? last).isSome

/-- The address of at most four numbers: the last one fills the octets that are left. -/
def v4OfNumbers? : List Nat → Option Nat
  | [] => none
  | numbers =>
    let last := numbers.getLast?.getD 0
    let before := numbers.dropLast
    if 4 < numbers.length ∨ before.any (255 < ·) ∨ Nat.pow 256 (4 - before.length) ≤ last then none
    else some (before.foldl (fun n k => 256 * n + k) 0 * Nat.pow 256 (4 - before.length) + last)

/-- The version 4 address that a name writes. -/
def v4? (cs : List Char) : Option Nat := ((parts cs).mapM part?).bind v4OfNumbers?

/-- A version 4 address as four numbers. -/
def v4Text (n : Nat) : String :=
  Text.join "." ((List.range 4).reverse.map fun i => toString (n / Nat.pow 256 i % 256))

/-! ## Version 6 -/

/-- The value of a group of a version 6 address. -/
def group? (cs : List Char) : Option Nat :=
  if cs.length ≤ 4 ∧ cs ≠ [] then inBase? 16 cs else none

/-- The number of an octet in a dotted form: no leading zero. -/
def octet? (cs : List Char) : Option Nat :=
  match Text.nat? cs with
  | some n => if n < 256 ∧ (cs.length = 1 ∨ cs.head? ≠ some '0') then some n else none
  | none => none

/-- The groups of a dotted form at the end of a version 6 address. -/
def dotted? (cs : List Char) : Option (List Nat) :=
  match (Text.pieces '.' cs).mapM octet? with
  | some [a, b, c, d] => some [256 * a + b, 256 * c + d]
  | _ => none

/-- The groups that colon-separated pieces write; the last one may be in dotted form. -/
def groups? : List (List Char) → Option (List Nat)
  | [] => some []
  | [last] => ((group? last).map fun g => [g]).or (dotted? last)
  | p :: rest => do
    let g ← group? p
    let gs ← groups? rest
    return g :: gs

/-- The two sides of the first double colon. -/
def gap? : List Char → Option (List Char × List Char)
  | ':' :: ':' :: rest => some ([], rest)
  | c :: rest => (gap? rest).map fun p => (c :: p.1, p.2)
  | [] => none

/-- The groups of a run that may be empty. -/
def run? (cs : List Char) : Option (List Nat) :=
  if cs = [] then some [] else groups? (Text.pieces ':' cs)

/-- The version 6 address that a text writes. -/
def v6? (cs : List Char) : Option (List Nat) :=
  match gap? cs with
  | none => (groups? (Text.pieces ':' cs)).filter (·.length = 8)
  | some (before, after) => do
    let a ← if before.contains '.' then none else run? before
    let b ← run? after
    if a.length + b.length ≤ 7 then
      return a ++ List.replicate (8 - a.length - b.length) 0 ++ b
    else none

/-- The length of the run of zeros at the beginning. -/
def zeros (gs : List Nat) : Nat := (gs.takeWhile (· = 0)).length

/-- The place and the length of the first longest run of zeros. -/
def longestZeros : Nat → List Nat → Nat × Nat
  | i, [] => (i, 0)
  | i, g :: gs =>
    let here := zeros (g :: gs)
    let later := longestZeros (i + 1) gs
    -- Of two runs of one length the first is left out.
    if later.2 ≤ here then (i, here) else later

/-- A group in hexadecimal. -/
def groupText (n : Nat) : String := String.ofList (Nat.toDigits 16 n)

/-- A version 6 address with its longest run of zeros, if it has two or more, left out. -/
def v6Text (gs : List Nat) : String :=
  let written (l : List Nat) : String := Text.join ":" (l.map groupText)
  let (i, n) := longestZeros 0 gs
  if n < 2 then written gs
  else written (gs.take i) ++ "::" ++ written (gs.drop (i + n))

/-! ## Hosts -/

/-- How a host is written. -/
def text : Host → String
  | .name s => s
  | .v4 n => v4Text n
  | .v6 gs => "[" ++ v6Text gs ++ "]"

/-- The address in brackets. -/
def bracketed (cs : List Char) : Except AddressError Host :=
  if cs.getLast? = some ']' then
    match v6? (cs.drop 1).dropLast with
    | some gs => .ok (.v6 gs)
    | none => .error .invalidV6
  else .error .invalidV6

/-- The host that a text names, where the scheme is known. -/
def parse (cs : List Char) : Except AddressError Host :=
  if cs.head? = some '[' then bracketed cs
  else
    match DomainName.ofOctets? (Percent.decode (String.ofList cs)) with
    | none => .error .invalidName
    | some domain =>
      if domain = "" then .error .emptyHost
      else if endsInNumber domain.toList then
        match v4? domain.toList with
        | some n => .ok (.v4 n)
        | none => .error .invalidV4
      else .ok (.name domain)

/-- The host that a text names, where the scheme is not known: any name is taken as it is. -/
def parseAny (cs : List Char) : Except AddressError Host :=
  if cs.head? = some '[' then bracketed cs
  else if cs.any fun c => "\x00\t\n\r #/:<>?@[\\]^|".toList.contains c then
    .error .invalidCharacter
  else .ok (.name (Percent.encode Percent.everywhere (String.ofList cs)))

example : (v4? "0x7f.1".toList).map v4Text = some "127.0.0.1" := by decide +kernel
example : (bracketed "[0:0:1::0.0.0.2]".toList).toOption.map text = some "[0:0:1::2]" := by
  decide +kernel

end Host

end MeshRegistry
