import MeshRegistry.Text.Casing
import MeshRegistry.Text.Octets
import MeshRegistry.Text.Pieces
/-!
# Absolute identifiers of servers

Whether a text is an absolute identifier with a scheme and an authority. The scheme ends at the
first `://`; the authority goes up to the path, the query or the fragment, and may have user
information, a name or a bracketed address, and a port. What the parts mean is not looked at.

## Main definitions

- `Uri.afterScheme?`: what follows the scheme.
- `Uri.authority?`: the authority, and what follows it.
- `Uri.isAbsolute`: whether a text is an absolute identifier.
- `Uri.normal?`: an identifier in its normal form.
-/

namespace MeshRegistry.Uri

/-- The greatest number of octets of an identifier. -/
def lengthLimit : Nat := 65534

/-- The greatest number of octets of a scheme. -/
def schemeLimit : Nat := 64

/-- Whether an octet is the code of one of some characters. -/
def isOneOf (chars : String) (b : UInt8) : Bool := chars.toList.any fun c => c.toNat == b.toNat

/-- Whether an octet is the code of a letter or a digit. -/
def isAlphanumeric (b : UInt8) : Bool :=
  (48 ≤ b.toNat && b.toNat ≤ 57) || (65 ≤ b.toNat && b.toNat ≤ 90)
    || (97 ≤ b.toNat && b.toNat ≤ 122)

/-- Whether an octet may stand in a scheme. -/
def isSchemeOctet (b : UInt8) : Bool := isAlphanumeric b || isOneOf "+-.~" b

/-- Whether an octet may stand in an authority; a percent sign has rules of its own. -/
def isAuthorityOctet (b : UInt8) : Bool := isAlphanumeric b || isOneOf "!$&'()*+,-.:;=@[]_~" b

/-- Whether an octet ends an authority. -/
def endsAuthority (b : UInt8) : Bool := isOneOf "/?#" b

/-- Whether an octet may stand in a path. -/
def isPathOctet (b : UInt8) : Bool :=
  0x21 ≤ b.toNat && !isOneOf "#<>?\x60\x7f" b

/-- Whether an octet may stand in a query. -/
def isQueryOctet (b : UInt8) : Bool := 0x21 ≤ b.toNat && !isOneOf "\"#<>\x7f" b

/-- What follows the scheme of an identifier, if it has one. -/
def afterScheme? (bs : List UInt8) : Option (List UInt8) :=
  let scheme := bs.takeWhile isSchemeOctet
  if scheme.length ≤ schemeLimit then
    match bs.dropWhile isSchemeOctet with
    | 58 :: 47 :: 47 :: rest => some rest
    | _ => none
  else none

/-- What has been seen of an authority. -/
structure Seen where
  /-- How many colons could belong to a port. -/
  colons : Nat := 0
  /-- Whether a bracket has been opened. -/
  opened : Bool := false
  /-- Whether the bracket has been closed. -/
  closed : Bool := false
  /-- Whether there is a percent sign outside of user information and brackets. -/
  percent : Bool := false
  /-- Whether the last octet ended user information. -/
  atSign : Bool := false

/-- The authority with one more octet. User information and bracketed addresses may have any
colons and percent signs. -/
def Seen.take? (s : Seen) (b : UInt8) : Option Seen :=
  if b = 58 then
    if 8 ≤ s.colons then none else some { s with colons := s.colons + 1, atSign := false }
  else if b = 91 then
    if s.percent || s.opened then none else some { s with opened := true, atSign := false }
  else if b = 93 then
    if !s.opened || s.closed then none
    else some { s with closed := true, colons := 0, percent := false, atSign := false }
  else if b = 64 then some { s with colons := 0, percent := false, atSign := true }
  else if b = 37 then some { s with percent := true, atSign := false }
  else if isAuthorityOctet b then some { s with atSign := false }
  else none

/-- Whether an authority may end after what has been seen. -/
def Seen.isComplete (s : Seen) : Bool :=
  s.opened == s.closed && s.colons ≤ 1 && !s.atSign && !s.percent

/-- The authority at the beginning of octets, and what follows it. It must not be empty. -/
def authority? (bs : List UInt8) : Option (List UInt8 × List UInt8) :=
  let here := bs.takeWhile fun b => !endsAuthority b
  if here = [] then none
  else
    match here.foldlM Seen.take? {} with
    | some s => if s.isComplete then some (here, bs.drop here.length) else none
    | none => none

/-- Whether octets are a path, a query and a fragment, each of which may be missing. -/
def isPathAndQuery (bs : List UInt8) : Bool :=
  match bs.dropWhile isPathOctet with
  | [] => true
  | b :: rest =>
    if b = 35 then true
    else if b = 63 then
      match rest.dropWhile isQueryOctet with
      | [] => true
      | c :: _ => c == 35
    else false

/-- Whether a text is an absolute identifier with an authority. -/
def isAbsolute (s : String) : Bool :=
  let bs := Text.octets s
  bs.length ≤ lengthLimit
    && match (afterScheme? bs).bind authority? with
      | some (_, rest) => isPathAndQuery rest
      | none => false

/-- The scheme of an identifier and what follows it, if it has one. -/
def scheme? (bs : List UInt8) : Option (List UInt8 × List UInt8) :=
  (afterScheme? bs).map fun rest => (bs.takeWhile isSchemeOctet, rest)

/-- A path with its query, without the fragment. -/
def withoutFragment (bs : List UInt8) : List UInt8 := bs.takeWhile (· != 35)

/-- The known schemes, which are written in lower case. -/
def normalScheme (s : String) : String :=
  let lower := Text.asciiLowercase s
  if lower = "http" ∨ lower = "https" then lower else s

/-- A path with its query, beginning with a slash. -/
def normalPath (bs : List UInt8) : List UInt8 :=
  match withoutFragment bs with
  | [] => [47]
  | b :: rest => if b = 47 then b :: rest else 47 :: b :: rest

/-- The text of an identifier in its normal form: the scheme in lower case where it is a known
one, a path that is at least a slash, and no fragment. An identifier may also be a path alone, or
an authority alone. -/
def normal? (s : String) : Option String := do
  let bs := Text.octets s
  if bs.length > lengthLimit ∨ bs = [] then none
  if bs.head? = some 47 then
    if isPathAndQuery bs then Text.ofOctets? (withoutFragment bs) else none
  else
    match scheme? bs with
    | none =>
      let (here, rest) ← authority? bs
      if rest = [] then Text.ofOctets? here else none
    | some (scheme, rest) =>
      let (here, rest) ← authority? rest
      if !isPathAndQuery rest then none
      let scheme ← Text.ofOctets? scheme
      let here ← Text.ofOctets? here
      let path ← Text.ofOctets? (normalPath rest)
      return normalScheme scheme ++ "://" ++ here ++ path

/-- An address with a scheme: that of plain transfer is put in front unless there is one. -/
def withScheme (address : String) : String :=
  if Text.occursIn "://".toList address.toList then address else "http://" ++ address

end MeshRegistry.Uri
