import MeshRegistry.SortedMap
import MeshRegistry.Text.Pieces
/-!
# Files

As much of a file system as is needed to read configuration and to store a text: the directories
that exist, and the files with their contents. A file can only be written into a directory that
exists.

A path may have steps that lead nowhere: an empty one between two slashes, and a point. It leads
to the same file without them, so files are kept under paths that have none. A last step is kept
as it is, since a path that ends in a slash or a point is that of a directory.

## Main definitions

- `Files`: directories and files.
- `Files.settled`: a path without steps that lead nowhere.
- `Files.holding`: the files with given contents.
- `Files.read?`, `Files.write?`: the content of a file, and the files after one is written.
-/

namespace MeshRegistry

/-- Directories and files. -/
structure Files where
  /-- The directories that exist; the empty path is where relative paths start. -/
  directories : List String := [""]
  /-- The contents of the files, by their paths. -/
  contents : SortedMap String String := .empty
deriving DecidableEq

namespace Files

/-- The steps of a path without those that lead nowhere. -/
def stepsOf : List String → List String
  | [] => []
  | [last] => [last]
  | step :: rest => if step = "" ∨ step = "." then stepsOf rest else step :: stepsOf rest

/-- A path without steps that lead nowhere. -/
def settled (path : String) : String :=
  let relative := Text.join "/" (stepsOf (Text.split '/' path))
  if Text.startsWith path "/" then "/" ++ relative else relative

example : settled "a/./b//c" = "a/b/c" ∧ settled "./c" = "c" ∧ settled "//c" = "/c" := by
  decide +kernel

example : settled "" = "" ∧ settled "c/" = "c/" ∧ settled "../c" = "../c" := by decide +kernel

/-- The directory that a path leads into: all before its last slash. -/
def directoryOf (path : String) : String :=
  match path.toList.reverse.dropWhile (· != '/') with
  | ['/'] => "/"
  | before => String.ofList (before.drop 1).reverse

/-- The files with given contents, in directories. -/
def holding (directories : List String) (contents : List (String × String)) : Files where
  directories := directories.map settled
  contents := SortedMap.ofList (contents.map fun f => (settled f.1, f.2))

/-- The content of a file, if it exists. -/
def read? (f : Files) (path : String) : Option String := f.contents.get? (settled path)

/-- The files after one is written, where its directory exists. -/
def write? (f : Files) (path content : String) : Option Files :=
  if f.directories.contains (directoryOf (settled path)) then
    some { f with contents := f.contents.insert (settled path) content }
  else none

end Files

end MeshRegistry
