import MeshRegistry.Text.Base64
import MeshRegistry.Text.Ranges
import MeshRegistry.Text.Octets
import MeshRegistry.Text.Pieces
/-!
# Labelled sections of octets

Certificates are kept in files of labelled sections. A section stands between a line that begins it
and one that ends it, which both have its label; between them are its octets in base 64, after
headers and an empty line where it has headers. What stands outside of sections does not count, nor
does a section that is not ended.

## Main definitions

- `Pem.Section`: a section.
- `Pem.sections?`: the sections of a file.
-/

namespace MeshRegistry.Pem

/-- A section. -/
structure Section where
  /-- The label. -/
  label : String
  /-- The headers. -/
  headers : List (String × String)
  /-- The octets. -/
  content : List UInt8
deriving DecidableEq, Repr

/-- What stands before the first occurrence of some octets, and what follows it. -/
def cutAt? (marker : List UInt8) : List UInt8 → Option (List UInt8 × List UInt8)
  | [] => if marker = [] then some ([], []) else none
  | b :: rest =>
    if marker.isPrefixOf (b :: rest) then some ([], (b :: rest).drop marker.length)
    else (cutAt? marker rest).map fun r => (b :: r.1, r.2)

/-- The octets without white space at the front. -/
def dropSpace (bs : List UInt8) : List UInt8 :=
  bs.dropWhile fun b => b == 32 || b == 9 || b == 10 || b == 13

/-- The parts of a section as they are written. -/
structure Written where
  /-- The label where it begins. -/
  start : List UInt8
  /-- What stands before the first empty line, if there is one. -/
  headers : List UInt8
  /-- The octets in base 64. -/
  body : List UInt8
  /-- The label where it ends. -/
  finish : List UInt8
deriving DecidableEq, Repr

/-- The first section of a file, and what follows it. -/
def written? (bs : List UInt8) : Option (Written × List UInt8) := do
  let (_, bs) ← cutAt? (Text.octets "-----BEGIN ") bs
  let (start, bs) ← cutAt? (Text.octets "-----") bs
  let (inner, bs) ← cutAt? (Text.octets "-----END ") (dropSpace bs)
  let (finish, bs) ← cutAt? (Text.octets "-----") bs
  let (headers, body) :=
    match cutAt? [10, 10] inner <|> cutAt? [13, 10, 13, 10] inner with
    | some parts => parts
    | none => ([], inner)
  return (⟨start, headers, body, finish⟩, dropSpace bs)

/-- The lines of a text, without the one after a line break at its end. -/
def lines (s : String) : List (List Char) :=
  let all := (Text.pieces '\n' s.toList).map fun l =>
    if l.getLast? = some '\r' then l.dropLast else l
  if all.getLast? = some [] then all.dropLast else all

/-- A header: what stands before and after its colon. -/
def header? (line : List Char) : Option (String × String) :=
  (Text.cutFirst? ':' line).map fun (name, value) =>
    (String.ofList (Text.trimChars name), String.ofList (Text.trimChars value))

/-- The line without the blanks at its end. -/
def trimEnd (line : List Char) : List Char := (Text.dropBlanks line.reverse).reverse

/-- The section that is written by its parts. -/
def section? (w : Written) : Option Section := do
  let label ← Text.ofOctets? w.start
  let finish ← Text.ofOctets? w.finish
  if label = "" ∨ label ≠ finish then none
  let body ← Text.ofOctets? w.body
  let content ← Text.ofBase64? ((lines body).flatMap trimEnd)
  let headers ← (lines (← Text.ofOctets? w.headers)).mapM header?
  return { label, headers, content }

/-- The sections of a file, of which there are at most as many as are given. -/
def sectionsUpTo? : Nat → List UInt8 → Option (List Section)
  | 0, _ => some []
  | n + 1, bs =>
    match written? bs with
    | none => some []
    | some (w, rest) => do
      let s ← section? w
      let more ← sectionsUpTo? n rest
      return s :: more

/-- The sections of a file; nothing when one of them cannot be read. -/
def sections? (bs : List UInt8) : Option (List Section) := sectionsUpTo? bs.length bs

end MeshRegistry.Pem
