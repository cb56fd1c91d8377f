import MeshRegistry.Mesh.Ownership
/-!
# Following a watch stream

A watch reports the entries of the mesh as events: a complete listing, then single changes, and
another listing whenever the watch has to start over. The informer keeps the last known entries
by namespace and name, tells its observer what changed, and notices the entries that went missing
between two listings.

## Main definitions

- `WatchEvent`: the events of a watch.
- `Informer`: the known entries, and what the running listing has shown.
- `Informer.handle`: the informer after an event, and the changes that it announces.
-/

namespace MeshRegistry

/-- An event of a watch. -/
inductive WatchEvent where
  /-- A complete listing begins. -/
  | init
  /-- The listing shows an entry. -/
  | initApply (entry : ServiceEntry)
  /-- The listing is complete. -/
  | initDone
  /-- An entry was created or replaced. -/
  | apply (entry : ServiceEntry)
  /-- An entry was deleted. -/
  | delete (entry : ServiceEntry)

/-- The known entries of the mesh. -/
structure Informer where
  /-- The known entries, by namespace and name. -/
  store : SortedMap String ServiceEntry := .empty
  /-- The keys that the running listing has shown, while one runs. -/
  listed : Option (List String) := none

namespace Informer

/-- The key of an entry in the store. -/
def storeKey (e : ServiceEntry) : String := e.key.text

/-- Take in an entry. Its observer hears of it unless version and specification are known. -/
def applyEntry (i : Informer) (e : ServiceEntry) : Informer × List Change :=
  let changes :=
    match i.store.get? (storeKey e) with
    | some old =>
      -- A listing shows again what is known; only news are told.
      if old.metadata.resourceVersion ≠ e.metadata.resourceVersion ∨ old.spec ≠ e.spec then
        [Change.update old e]
      else []
    | none => [Change.add e]
  ({ i with store := i.store.insert (storeKey e) e }, changes)

/-- Whether the running listing has shown a key. -/
def wasListed (i : Informer) (key : String) : Bool := (i.listed.getD []).contains key

/-- The informer after an event, and the changes that it announces. -/
def handle (i : Informer) : WatchEvent → Informer × List Change
  | .init => ({ i with listed := some [] }, [])
  | .initApply e =>
    applyEntry { i with listed := i.listed.map (storeKey e :: ·) } e
  | .initDone =>
    -- What the listing has not shown went missing while nobody watched.
    let stale := i.store.filter fun k _ => !i.wasListed k
    ({ store := i.store.filter fun k _ => i.wasListed k, listed := none },
      stale.values.map Change.delete)
  | .apply e => applyEntry i e
  | .delete e => ({ i with store := i.store.erase (storeKey e) }, [Change.delete e])

/-- The informer after a list of events, and all changes in their order. -/
def handleAll (i : Informer) : List WatchEvent → Informer × List Change
  | [] => (i, [])
  | event :: rest =>
    let (i, changes) := i.handle event
    let (i, later) := handleAll i rest
    (i, changes ++ later)

end Informer

end MeshRegistry
