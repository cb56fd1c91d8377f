import MeshRegistry.Entry.Basic
import MeshRegistry.Text.Pieces
import MeshRegistry.Text.Shown
import MeshRegistry.Text.Numeral
/-!
# Errors of the mesh API

Why a call to the mesh API fails, and how each failure is worded.

## Main definitions

- `MeshError`: the failures.
- `MeshError.isNotFound`: whether a failure says that the object does not exist.
- `MeshError.message?`: the wording of a failure.
-/

namespace MeshRegistry

/-- The kinds of objects that calls are about. -/
inductive ObjectKind where
  /-- A service entry. -/
  | entry
  /-- A namespace. -/
  | space
deriving DecidableEq, Repr

/-- The name of a kind of objects. -/
def ObjectKind.text : ObjectKind → String
  | .entry => "ServiceEntry"
  | .space => "Namespace"

/-- Why a call to the mesh API fails. -/
inductive MeshError where
  /-- There is no such object. -/
  | notFound (kind : ObjectKind) (key : ObjectKey)
  /-- There is such an object already. -/
  | alreadyExists (kind : ObjectKind) (key : ObjectKey)
  /-- The caller's version of the object is not the stored one. -/
  | conflict (key : ObjectKey) (version : Option String)
  /-- The object has no name or no namespace. -/
  | unnamed
  /-- The API cannot be reached. -/
  | unavailable (reason : String)
  /-- A cluster answered with a status. -/
  | status (code : Nat) (reason message : String)
  /-- A cluster gave no answer, or one that cannot be read. -/
  | noAnswer
  /-- The description of the cluster cannot be used. -/
  | badClusterFile
deriving DecidableEq, Repr

/-- The version that a caller gave, as it is shown in an error. -/
def shownVersion : Option String → String
  | some v => "Some(" ++ Text.shown v ++ ")"
  | none => "None"

namespace MeshError

/-- Whether a failure says that the object does not exist. -/
def isNotFound : MeshError → Bool
  | .notFound _ _ => true
  | .status code _ _ => code == 404
  | _ => false

/-- The wording of a failure; the answers of a cluster are worded by the cluster. -/
def message? : MeshError → Option String
  | .notFound kind key => some (kind.text ++ " " ++ key.text ++ " not found")
  | .alreadyExists kind key => some (kind.text ++ " " ++ key.text ++ " already exists")
  | .conflict key version =>
    some ("conflict updating " ++ key.text ++ ": resource version " ++ shownVersion version
      ++ " is stale")
  | .unnamed => some "invalid object: ServiceEntry requires a name and a namespace"
  | .unavailable reason => some ("mesh API unavailable: " ++ reason)
  | .status _ _ message => some message
  | .noAnswer => none
  | .badClusterFile => none

end MeshError

end MeshRegistry
