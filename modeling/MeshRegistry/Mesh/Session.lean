import MeshRegistry.Mesh.Error
import MeshRegistry.Mesh.Ownership
/-!
# Conversations with the mesh API

What the controller does to the mesh is a conversation: it makes a call, looks at the reply and
decides on the next call. A `Session` is such a conversation as a value. It can be held with the
mesh in memory, with a cluster, with an API that fails by a script, or be interrupted between two
calls by somebody else's calls.

## Main definitions

- `Call`, `Call.Reply`: the calls and the kind of value that each of them returns.
- `Session`: a conversation that ends with a value.
- `MeshApi`: something that performs calls and lets the ownership model be looked at.
- `Session.run`: the conversation held with an API.
-/

namespace MeshRegistry

/-- A call to the mesh API. -/
inductive Call where
  /-- Fetch an entry. -/
  | get (key : ObjectKey)
  /-- Store a new entry. -/
  | create (entry : ServiceEntry)
  /-- Replace an entry; it carries the version that was last read. -/
  | update (entry : ServiceEntry)
  /-- Remove an entry. -/
  | delete (key : ObjectKey)
  /-- Create a namespace unless it exists. -/
  | ensureSpace (space : String)
deriving DecidableEq

/-- What a successful call returns. -/
@[reducible] def Call.Reply : Call → Type
  | .get _ => Option ServiceEntry
  | .create _ => ServiceEntry
  | .update _ => ServiceEntry
  | .delete _ => Unit
  | .ensureSpace _ => Unit

/-- The result of a call. -/
abbrev Call.Result (c : Call) : Type := Except MeshError c.Reply

/-- A conversation with the mesh API that ends with a value. -/
inductive Session (α : Type) where
  /-- The end of the conversation. -/
  | done (a : α)
  /-- A call, and how to go on after its result. -/
  | ask (c : Call) (next : c.Result → Session α)
  /-- A look at the ownership model, and how to go on after it. -/
  | look (next : OwnershipModel → Session α)

/-- Something that performs calls and that an ownership model follows. -/
structure MeshApi (σ : Type) where
  /-- The result of a call and the state after it. -/
  perform : (c : Call) → σ → c.Result × σ
  /-- The ownership model in a state. -/
  ownership : σ → OwnershipModel

namespace Session

variable {α β σ : Type}

/-- One conversation, and another that depends on its value. -/
def andThen : Session α → (α → Session β) → Session β
  | .done a, f => f a
  | .ask c next, f => .ask c fun r => (next r).andThen f
  | .look next, f => .look fun m => (next m).andThen f

instance : Monad Session where
  pure := .done
  bind := andThen

/-- A single call. -/
def call (c : Call) : Session c.Result := .ask c .done

/-- A look at the ownership model. -/
def ownership : Session OwnershipModel := .look .done

/-- The value of a conversation held with an API, and the state after it. -/
def run (api : MeshApi σ) : Session α → σ → α × σ
  | .done a, s => (a, s)
  | .ask c next, s =>
    let (r, s) := api.perform c s
    (next r).run api s
  | .look next, s => (next (api.ownership s)).run api s

@[simp] theorem run_pure (api : MeshApi σ) (a : α) (s : σ) :
    (pure a : Session α).run api s = (a, s) := rfl

@[simp] theorem run_call (api : MeshApi σ) (c : Call) (s : σ) :
    (call c).run api s = api.perform c s := rfl

@[simp] theorem run_ownership (api : MeshApi σ) (s : σ) :
    ownership.run api s = (api.ownership s, s) := rfl

/-- Two conversations after each other are held one after the other. -/
@[simp] theorem run_bind (api : MeshApi σ) (p : Session α) (f : α → Session β) (s : σ) :
    (p >>= f).run api s = (f (p.run api s).1).run api (p.run api s).2 := by
  show (p.andThen f).run api s = _
  induction p generalizing s with
  | done a => rfl
  | ask c next ih => exact ih _ _
  | look next ih => exact ih _ _

end Session

end MeshRegistry
