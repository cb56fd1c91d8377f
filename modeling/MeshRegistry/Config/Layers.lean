import MeshRegistry.Config.Datum
import MeshRegistry.Text.Ranges
import MeshRegistry.Text.Pieces
/-!
# Layers of settings

Settings are laid over each other: a file at the bottom, the environment over it, the command line
on top. A layer is a list of paths with values. A path names a field of a table and may go on into
tables and lists below it; what is in the way of a path gives place to a table or a list. Where a
table is laid over a table, the fields of both remain.

A variable of the environment is a setting when its name begins with the prefix of the controller,
in any letter case; two underscores separate the fields of its path.

## Main definitions

- `SettingPath`, `SettingPath.ofText`: the paths.
- `layOver`: a layer over settings.
- `Environment`, `Environment.layer`: the variables of a process and the settings among them.
-/

namespace MeshRegistry

/-! ## Paths -/

/-- A step of a path, below a value. -/
inductive PathStep where
  /-- To a field of a table. -/
  | field (name : String)
  /-- To an item of a list, counted from its end when negative. -/
  | item (place : Int)
deriving DecidableEq, Repr

/-- A path to a setting. -/
structure SettingPath where
  /-- The field at the top. -/
  root : String
  /-- The steps from there. -/
  steps : List PathStep := []
deriving DecidableEq, Repr

namespace SettingPath

/-- Whether a character may stand in the name of a field of a path. -/
def isNameChar (c : Char) : Bool := c.isAlphanum || c == '_' || c == '-'

/-- Whether a character may stand around a place. -/
def isPlaceGap (c : Char) : Bool := c == ' ' || c == '\t'

/-- The place between brackets: an integer with spaces and tabs around it. -/
def place? (cs : List Char) : Option Int :=
  let inner := ((cs.dropWhile isPlaceGap).reverse.dropWhile isPlaceGap).reverse
  match inner with
  | '+' :: _ => none
  | _ => Text.int64? inner

/-- The steps that a text writes behind the first field. -/
def steps? : Nat → List Char → Option (List PathStep)
  | 0, _ => none
  | _ + 1, [] => some []
  | n + 1, '.' :: rest =>
    let name := rest.takeWhile isNameChar
    if name = [] then none
    else (steps? n (rest.dropWhile isNameChar)).map (.field (String.ofList name) :: ·)
  | n + 1, '[' :: rest =>
    -- Brackets do not nest.
    match Text.cutFirst? ']' rest with
    | some (inner, rest) =>
      (place? inner).bind fun i => (steps? n rest).map (.item i :: ·)
    | none => none
  | _ + 1, _ => none

/-- The path that a text writes. A text that writes no path is the name of a field as a whole. -/
def ofText (s : String) : SettingPath :=
  let cs := s.toList
  let root := cs.takeWhile isNameChar
  let steps := if root = [] then none else steps? (cs.length + 1) (cs.dropWhile isNameChar)
  match steps with
  | some steps => ⟨String.ofList root, steps⟩
  | none => ⟨s, []⟩

end SettingPath

namespace Datum

/-- Items with the one at a place changed. A list that is too short is filled up with null, at its
end or, where the place is counted from there, at its beginning. -/
def amendItem (f : Datum → Datum) (place : Int) (items : List Datum) : List Datum :=
  let fromStart : Int := if 0 ≤ place then place else items.length + place
  if 0 ≤ fromStart then
    let i := fromStart.toNat
    -- A place behind the end makes the list longer, with null in between.
    let filled := items ++ List.replicate (i + 1 - items.length) .null
    filled.set i (f (filled.getD i .null))
  else
    let filled := List.replicate (-fromStart).toNat .null ++ items
    filled.set 0 (f (filled.getD 0 .null))

/-- A value with what is at the end of some steps changed. -/
def amend (f : Datum → Datum) : List PathStep → Datum → Datum
  | [], d => f d
  | .field name :: rest, d =>
    let fields := fieldsOf d
    .table (put name (amend f rest ((get? name fields).getD .null)) fields)
  | .item place :: rest, d => .list (amendItem (amend f rest) place (itemsOf d))

end Datum

/-- Settings, by the names of the fields at the top. -/
abbrev Settings : Type := List (String × Datum)

/-- Settings with a value laid over what is at a path. -/
def layValue (below : Settings) (path : SettingPath) (v : Datum) : Settings :=
  let old := (Datum.get? path.root below).getD .null
  Datum.put path.root (old.amend (Datum.overlay · v) path.steps) below

/-- Laying a value over a path changes the field at its root and no other. -/
@[simp] theorem get?_layValue (below : Settings) (path : SettingPath) (v : Datum) (k : String) :
    Datum.get? k (layValue below path v) =
      if k = path.root then
        some (((Datum.get? path.root below).getD .null).amend (Datum.overlay · v) path.steps)
      else Datum.get? k below := by
  simp [layValue]

/-- Settings with a layer over them. -/
def layOver (below : Settings) (layer : List (String × Datum)) : Settings :=
  layer.foldl (fun settings entry => layValue settings (.ofText entry.1) entry.2) below

/-! ## The environment -/

/-- The variables of a process. -/
abbrev Environment : Type := List (String × String)

namespace Environment

/-- The value of a variable. -/
def get? (env : Environment) (name : String) : Option String :=
  (env.reverse.find? fun v => v.1 == name).map (·.2)

/-- What the names of all settings begin with, in lower case. -/
def settingPrefix : String := "meshsync_"

/-- A name with each pair of underscores replaced by a point. -/
def pointed : List Char → List Char
  | '_' :: '_' :: rest => '.' :: pointed rest
  | c :: rest => c :: pointed rest
  | [] => []

/-- The setting that the name of a variable stands for. -/
def settingName? (name : String) : Option String :=
  (Text.stripStart? settingPrefix (Text.lowercase name)).map fun rest =>
    String.ofList (pointed rest.toList)

/-- The settings among the variables; a setting that is given twice has its last value. -/
def layer (env : Environment) : List (String × Datum) :=
  env.foldl (fun settings v =>
    match settingName? v.1 with
    | some name => Datum.put name (.ofWord v.2) settings
    | none => settings) []

end Environment

end MeshRegistry
