import MeshRegistry.Net.Host
import MeshRegistry.Text.Casing
/-!
# Web addresses

A web address has a scheme, user information, a host, a port, a path, a query and a fragment. It
is read leniently: blanks around it, tabs and line ends do not count, backslashes are slashes
where the scheme is known, the scheme and the host become lower case, the default port of the
scheme is left out, and steps to the same or the upper directory are taken.

## Main definitions

- `Url`: the web addresses.
- `Url.parse`: the web address that a text writes, or why it is none.
- `Url.text`: how a web address is written.
- `Url.extend`: a web address with segments put behind its path.
-/

namespace MeshRegistry

/-- What is known about a scheme. -/
inductive SchemeKind where
  /-- Addresses of servers, with a default port. -/
  | server (port : Nat)
  /-- Files, which need no host. -/
  | file
  /-- Any other scheme. -/
  | other
deriving DecidableEq, Repr

/-- Whether a scheme is known. -/
def SchemeKind.isKnown : SchemeKind → Bool
  | .other => false
  | _ => true

/-- What is known about the scheme with a given name. -/
def SchemeKind.ofName : String → SchemeKind
  | "http" => .server 80
  | "ws" => .server 80
  | "https" => .server 443
  | "wss" => .server 443
  | "ftp" => .server 21
  | "file" => .file
  | _ => .other

/-- A web address. -/
structure Url where
  /-- The scheme. -/
  scheme : String
  /-- User name and password as written in front of the host, with their sign at the end. -/
  userInfo : String := ""
  /-- The host. -/
  host : Option Host
  /-- The port, when it is not the scheme's own. -/
  port : Option Nat := none
  /-- The segments of the path, encoded; a path without segments is empty. -/
  path : List String
  /-- Whether the path starts at a root. -/
  rooted : Bool := true
  /-- The query, encoded. -/
  query : Option String := none
  /-- The fragment, encoded. -/
  fragment : Option String := none
deriving DecidableEq, Repr

namespace Url

/-! ## Scheme -/

/-- The characters of a text that count: blanks and controls around it do not, nor do tabs and
line ends. -/
def significant (s : String) : List Char :=
  let drop (cs : List Char) : List Char := cs.dropWhile (·.toNat ≤ 0x20)
  (drop (drop s.toList).reverse).reverse.filter fun c => c ≠ '\t' ∧ c ≠ '\n' ∧ c ≠ '\r'

/-- Whether a character may stand in a scheme after its first letter. -/
def isSchemeChar (c : Char) : Bool := c.isAlphanum || c == '+' || c == '-' || c == '.'

/-- The scheme in lower case, and what follows its colon. -/
def scheme? (cs : List Char) : Option (String × List Char) :=
  match cs with
  | [] => none
  | c :: _ =>
    if c.isAlpha then
      match cs.dropWhile isSchemeChar with
      | ':' :: rest => some (Text.asciiLowercase (String.ofList (cs.takeWhile isSchemeChar)), rest)
      | _ => none
    else none

/-! ## Authority -/

/-- Whether a character ends an authority. -/
def endsAuthority (known : Bool) (c : Char) : Bool :=
  c == '/' || c == '?' || c == '#' || (known && c == '\\')

/-- User information and what follows it, split at the last at-sign of an authority. -/
def cutUserInfo? (authority : List Char) : Option (List Char × List Char) :=
  if authority.contains '@' then
    -- Earlier signs belong to the user information, where they are encoded.
    let after := (authority.reverse.takeWhile (· ≠ '@')).reverse
    some (authority.take (authority.length - after.length - 1), after)
  else none

/-- User information as it is written: an empty password is left out, and so is the sign when
nothing is left. -/
def userInfoText (cs : List Char) : String :=
  let encoded (l : List Char) : String := Percent.encode Percent.inUserInfo (String.ofList l)
  let (name, password) :=
    match Text.cutFirst? ':' cs with
    | some (name, password) => (name, password)
    | none => (cs, [])
  let written := encoded name ++ if password = [] then "" else ":" ++ encoded password
  if written = "" then "" else written ++ "@"

/-- The characters of a host, and what follows: a colon inside brackets belongs to the host. -/
def cutHost (bracket : Bool) : List Char → List Char × List Char
  | [] => ([], [])
  | c :: rest =>
    if c = ':' ∧ !bracket then ([], c :: rest)
    else
      let inside := if c = '[' then true else if c = ']' then false else bracket
      let (host, after) := cutHost inside rest
      (c :: host, after)

/-- The port after a colon, and what follows it. A backslash ends a port under any scheme. -/
def readPort (kind : SchemeKind) (cs : List Char) : Except AddressError (Option Nat × List Char) :=
  let digits := cs.takeWhile Char.isDigit
  let rest := cs.dropWhile Char.isDigit
  let n := Nat.ofDigitChars 10 digits 0
  if 65535 < n then .error .invalidPort
  else
    match rest with
    | [] => .ok (if digits = [] ∨ kind = .server n then none else some n, [])
    | c :: _ =>
      if c = '/' ∨ c = '\\' ∨ c = '?' ∨ c = '#' then
        .ok (if digits = [] ∨ kind = .server n then none else some n, rest)
      else .error .invalidPort

/-! ## Path, query and fragment -/

/-- Whether a segment stays in the same directory. -/
def isHere (s : String) : Bool := [".", "%2e", "%2E"].contains s

/-- Whether a segment goes to the upper directory. -/
def isUp (s : String) : Bool :=
  ["..", "%2e%2e", "%2e%2E", "%2E%2e", "%2E%2E", "%2e.", "%2E.", ".%2e", ".%2E"].contains s

/-- The path that segments lead to. A last segment that moves leaves an empty segment. -/
def walk : List String → List String → List String
  | path, [] => path
  | path, [s] =>
    if isUp s then path.dropLast ++ [""] else if isHere s then path ++ [""] else path ++ [s]
  | path, s :: rest =>
    if isUp s then walk path.dropLast rest
    else if isHere s then walk path rest
    else walk (path ++ [s]) rest

/-- The pieces of a path between slashes, encoded. -/
def segments (known : Bool) (cs : List Char) : List String :=
  let cs := if known then cs.map fun c => if c = '\\' then '/' else c else cs
  (Text.pieces '/' cs).map fun p => Percent.encode Percent.inPath (String.ofList p)

/-- The characters of a path, and what follows them. -/
def cutPath (cs : List Char) : List Char × List Char :=
  let isPath (c : Char) : Bool := c != '?' && c != '#'
  (cs.takeWhile isPath, cs.dropWhile isPath)

/-- The segments of the path after an authority. -/
def pathAfterHost (known : Bool) (cs : List Char) : List String :=
  match cs with
  | [] => if known then [""] else []
  | c :: rest =>
    if c = '/' ∨ (known ∧ c = '\\') then walk [] (segments known rest)
    else walk [] (segments known cs)

/-- The query and the fragment, each of which may be missing. -/
def queryAndFragment (known : Bool) (cs : List Char) : Option String × Option String :=
  let fragment (cs : List Char) : Option String :=
    match cs with
    | '#' :: rest => some (Percent.encode Percent.inFragment (String.ofList rest))
    | _ => none
  match cs with
  | '?' :: rest =>
    (some (Percent.encode (Percent.inQuery known) (String.ofList (rest.takeWhile (· ≠ '#')))),
      fragment (rest.dropWhile (· ≠ '#')))
  | _ => (none, fragment cs)

/-! ## Reading -/

/-- The rest of a web address after its host and port. -/
def finish (scheme userInfo : String) (host : Option Host) (port : Option Nat) (known : Bool)
    (cs : List Char) : Url :=
  let (path, rest) := cutPath cs
  let (query, fragment) := queryAndFragment known rest
  { scheme, userInfo, host, port, path := pathAfterHost known path, query, fragment }

/-- A web address after its double slash. -/
def afterSlashes (scheme : String) (kind : SchemeKind) (cs : List Char) :
    Except AddressError Url := do
  let known := kind.isKnown
  let authority := cs.takeWhile fun c => !endsAuthority known c
  let rest := cs.dropWhile fun c => !endsAuthority known c
  let (info, place) := (cutUserInfo? authority).getD ([], authority)
  let (hostChars, after) := cutHost false place
  let userInfo := userInfoText info
  if authority.head? = some '@' ∧ info = [] ∧ place = [] ∧ rest ≠ [] then throw .emptyHost
  if hostChars = [] ∧ (known ∨ after ≠ []) then throw .emptyHost
  let host ← if known then Host.parse hostChars else Host.parseAny hostChars
  let (port, after) ←
    match after with
    | [] => pure (none, rest)
    | _ :: digits => readPort kind (digits ++ rest)
  if hostChars = [] then
    -- User information needs a host, even under an unknown scheme.
    if userInfo ≠ "" then throw .emptyHost
    return finish scheme "" none port known after
  return finish scheme userInfo (some host) port known after

/-- Whether a text is a letter and a colon or a bar. -/
def isDrive (cs : List Char) : Bool :=
  match cs with
  | [a, b] => a.isAlpha && (b == ':' || b == '|')
  | _ => false

/-- A file: it has a host only after two slashes, and not when the path begins with a drive or the
host is this one. -/
def file (cs : List Char) : Except AddressError Url := do
  let slash (c : Char) : Bool := c == '/' || c == '\\'
  match cs with
  | a :: b :: rest =>
    if slash a ∧ slash b then
      let hostChars := rest.takeWhile fun c => !endsAuthority true c
      let after := rest.dropWhile fun c => !endsAuthority true c
      if hostChars = [] ∨ isDrive hostChars then
        return finish "file" "" none none true (if hostChars = [] then after else rest)
      else
        let host ← Host.parse hostChars
        let url := finish "file" "" (some host) none true after
        let path :=
          match url.path.dropWhile (· = "") with
          | [] => [""]
          | p => p
        if host = .name "localhost" ∨ (path.head?.map fun s => isDrive s.toList) = some true then
          return { url with host := none, path }
        else return { url with path }
    else return finish "file" "" none none true cs
  | _ => return finish "file" "" none none true cs

/-- The web address that a text writes, or why it is none. -/
def parse (s : String) : Except AddressError Url :=
  match scheme? (significant s) with
  | none => .error .relative
  | some (scheme, rest) =>
    match SchemeKind.ofName scheme with
    | .file => file rest
    | .server port =>
      afterSlashes scheme (.server port) (rest.dropWhile fun c => c = '/' ∨ c = '\\')
    | .other =>
      match rest with
      | '/' :: '/' :: after => afterSlashes scheme .other after
      | '/' :: _ => .ok (finish scheme "" none none false rest)
      | _ =>
        let (path, after) := cutPath rest
        let (query, fragment) := queryAndFragment false after
        .ok { scheme, host := none, rooted := false, query, fragment,
              path := [Percent.encode Percent.everywhere (String.ofList path)] }

/-! ## Writing -/

/-- A path as it is written. -/
def pathText (u : Url) : String :=
  if u.rooted then String.join (u.path.map fun s => "/" ++ s) else String.join u.path

/-- How a web address is written. -/
def text (u : Url) : String :=
  u.scheme ++ ":"
    ++ (match u.host with
      | some h => "//" ++ u.userInfo ++ h.text ++ ((u.port.map fun n => ":" ++ toString n).getD "")
      | none => if u.scheme = "file" then "//" else "")
    ++ u.pathText ++ ((u.query.map ("?" ++ ·)).getD "") ++ ((u.fragment.map ("#" ++ ·)).getD "")

/-- A single segment of a path as it is written. Tabs and line ends do not count. -/
def segmentText (s : String) : String :=
  Percent.encode Percent.inSegment
    (String.ofList (s.toList.filter fun c => c ≠ '\t' ∧ c ≠ '\n' ∧ c ≠ '\r'))

/-- A web address with segments put behind its path, from which an empty last segment is taken.
Segments that move are left out. -/
def extend (u : Url) (names : List String) : Url :=
  -- The slash at the end of a path is not doubled.
  let base := if u.path.getLast? = some "" then u.path.dropLast else u.path
  { u with path := base ++ ((names.filter fun s => !isHere s && !isUp s).map segmentText) }

example :
    (parse "A://u:@H:80/a/../b?q'#f").toOption.map text = some "a://u@H:80/b?q'#f" := by
  decide +kernel
example : (parse "a://b").toOption.map text = some "a://b" := by decide +kernel

end Url

end MeshRegistry
