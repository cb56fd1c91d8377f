import MeshRegistry.Mesh.Session
/-!
# An API that fails by a script

A script lists the calls that will fail. Whenever the next call is of the kind that the script
expects, the call fails as the script says, has no effect, and the script moves on; any other call
goes through.

## Main definitions

- `CallKind`, `Fault`: an expected kind of call and how it fails.
- `MeshApi.withFaults`: an API behind a script.
-/

namespace MeshRegistry

/-- The kinds of calls. -/
inductive CallKind where
  /-- Fetching an entry. -/
  | get
  /-- Storing a new entry. -/
  | create
  /-- Replacing an entry. -/
  | update
  /-- Removing an entry. -/
  | delete
  /-- Creating a namespace. -/
  | ensureSpace
deriving DecidableEq, Repr

/-- The kind of a call. -/
def Call.kind : Call → CallKind
  | .get _ => .get
  | .create _ => .create
  | .update _ => .update
  | .delete _ => .delete
  | .ensureSpace _ => .ensureSpace

/-- The object that a call is about; the creation of a namespace names no object. -/
def Call.key : Call → ObjectKey
  | .get key => key
  | .create e => e.key
  | .update e => e.key
  | .delete key => key
  | .ensureSpace space => ⟨space, ""⟩

/-- How a scripted call fails. -/
inductive FaultKind where
  /-- As if the object did not exist. -/
  | notFound
  /-- As if the object had changed. -/
  | conflict
  /-- As if the API could not be reached. -/
  | unavailable
deriving DecidableEq, Repr

/-- One failure of a script. -/
structure Fault where
  /-- The kind of call that fails. -/
  call : CallKind
  /-- How it fails. -/
  kind : FaultKind
deriving DecidableEq, Repr

/-- The failure of a call. -/
def FaultKind.error (k : FaultKind) (c : Call) : MeshError :=
  match k with
  | .notFound => .notFound .entry c.key
  | .conflict => .conflict c.key none
  | .unavailable => .unavailable "injected"

/-- An API behind a script of failures. -/
def MeshApi.withFaults {σ : Type} (api : MeshApi σ) : MeshApi (List Fault × σ) where
  perform c s :=
    match s.1 with
    | fault :: rest =>
      -- Only the first fault is waited for; later ones do not overtake it.
      if fault.call = c.kind then (.error (fault.kind.error c), (rest, s.2))
      else
        let (result, inner) := api.perform c s.2
        (result, (s.1, inner))
    | [] =>
      let (result, inner) := api.perform c s.2
      (result, ([], inner))
  ownership s := api.ownership s.2

end MeshRegistry
