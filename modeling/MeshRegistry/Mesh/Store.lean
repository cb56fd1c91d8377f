import MeshRegistry.Mesh.Session
/-!
# The mesh in memory

Service entries kept in memory with the rules of a cluster: objects have versions, an update has
to carry the stored version, and an entry can only be created in a namespace that exists. Every
version is given to one stored object only, because they are counted up and never reused. This takes
for granted that a store hands out fewer than `2 ^ 64` versions: a count in 64 bits would start over
there, and the one below does not. Changes may be announced to an ownership model, as a watch of a
cluster would announce them.

## Main definitions

- `MeshStore`: the stored entries and namespaces, and the counts of calls.
- `MeshStore.create`, `update`, `delete`, `ensureSpace`: the calls.
- `Mesh`: a store and the ownership model that follows it.
- `Mesh.api`: the mesh in memory as an API.
-/

namespace MeshRegistry

/-- The stored entries and namespaces. -/
structure MeshStore where
  /-- The stored entries. -/
  entries : SortedMap ObjectKey ServiceEntry := .empty
  /-- The namespaces that exist. -/
  spaces : SortedMap String Unit := .empty
  /-- The last version that was handed out. It is taken to fit into 64 bits. -/
  version : Nat := 0
  /-- How many entries were created by calls. -/
  creates : Nat := 0
  /-- How many entries were replaced by calls. -/
  updates : Nat := 0
  /-- How many entries were removed by calls. -/
  deletes : Nat := 0
  /-- Whether calls are refused. -/
  down : Bool := false

namespace MeshStore

/-- The failure of every call while calls are refused. -/
def outage : MeshError := .unavailable "simulated outage"

/-- Whether a namespace exists. -/
def hasSpace (s : MeshStore) (space : String) : Bool := s.spaces.contains space

/-- The store with a namespace. -/
def addSpace (s : MeshStore) (space : String) : MeshStore :=
  { s with spaces := s.spaces.insert space () }

/-- The text of the next version. -/
def nextVersion (s : MeshStore) : String := toString (s.version + 1)

/-- The store after its next version has been handed out. -/
def draw (s : MeshStore) : MeshStore := { s with version := s.version + 1 }

/-- Whether an entry has a name and a namespace. -/
def isNamed (e : ServiceEntry) : Bool := !e.space.isEmpty && !e.name.isEmpty

/-- Put an entry into the store without a call: it gets the next version, and its namespace
exists from then on. -/
def seed (s : MeshStore) (e : ServiceEntry) : ServiceEntry × MeshStore :=
  let stored := e.withVersion (some s.nextVersion)
  (stored, { (s.addSpace e.space).draw with entries := s.entries.insert e.key stored })

/-- Fetch an entry. -/
def get (s : MeshStore) (key : ObjectKey) : Except MeshError (Option ServiceEntry) :=
  if s.down then .error outage else .ok (s.entries.get? key)

/-- Store a new entry. A version is handed out before a name that is taken is noticed. -/
def create (s : MeshStore) (e : ServiceEntry) : Except MeshError ServiceEntry × MeshStore :=
  if s.down then (.error outage, s)
  else if !isNamed e then (.error .unnamed, s)
  else if !s.hasSpace e.space then (.error (.notFound .space ⟨e.space, e.space⟩), s)
  -- The version is lost with the call, and is not handed out again.
  else if s.entries.contains e.key then (.error (.alreadyExists .entry e.key), s.draw)
  else
    let stored := e.withVersion (some s.nextVersion)
    (.ok stored,
      { s.draw with entries := s.entries.insert e.key stored, creates := s.creates + 1 })

/-- Replace an entry. A success returns the old and the new entry. -/
def update (s : MeshStore) (e : ServiceEntry) :
    Except MeshError (ServiceEntry × ServiceEntry) × MeshStore :=
  if s.down then (.error outage, s)
  else if !isNamed e then (.error .unnamed, s)
  else
    match s.entries.get? e.key with
    | none => (.error (.notFound .entry e.key), s)
    | some old =>
      -- Somebody else has written since the caller read, or the caller has not read at all.
      if old.metadata.resourceVersion ≠ e.metadata.resourceVersion then
        (.error (.conflict e.key e.metadata.resourceVersion), s)
      else
        let stored := e.withVersion (some s.nextVersion)
        (.ok (old, stored),
          { s.draw with entries := s.entries.insert e.key stored, updates := s.updates + 1 })

/-- Remove an entry. A success returns the removed entry. -/
def delete (s : MeshStore) (key : ObjectKey) : Except MeshError ServiceEntry × MeshStore :=
  if s.down then (.error outage, s)
  else
    match s.entries.get? key with
    | none => (.error (.notFound .entry key), s)
    | some old => (.ok old, { s with entries := s.entries.erase key, deletes := s.deletes + 1 })

/-- Create a namespace unless it exists. -/
def ensureSpace (s : MeshStore) (space : String) : Except MeshError Unit × MeshStore :=
  if s.down then (.error outage, s) else (.ok (), s.addSpace space)

end MeshStore

/-- A store and the ownership model that may follow it. -/
structure Mesh where
  /-- The store. -/
  store : MeshStore
  /-- The ownership model. -/
  ownership : OwnershipModel
  /-- Whether changes of the store are announced to the model. -/
  announced : Bool := true

namespace Mesh

/-- The mesh after its store has changed. -/
def advance (m : Mesh) (store : MeshStore) (change : Change) : Mesh :=
  { m with store, ownership := if m.announced then m.ownership.receive change else m.ownership }

/-- Put an entry into the store without a call. -/
def seed (m : Mesh) (e : ServiceEntry) : Mesh :=
  let (stored, store) := m.store.seed e
  m.advance store (.add stored)

/-- The mesh with calls refused, or accepted again. -/
def setDown (m : Mesh) (down : Bool) : Mesh := { m with store := { m.store with down } }

/-- The result of a call and the mesh after it. -/
def perform (c : Call) (m : Mesh) : c.Result × Mesh :=
  match c with
  | .get key => (m.store.get key, m)
  | .create e =>
    match m.store.create e with
    | (.ok stored, store) => (.ok stored, m.advance store (.add stored))
    | (.error err, store) => (.error err, { m with store })
  | .update e =>
    match m.store.update e with
    | (.ok (old, stored), store) => (.ok stored, m.advance store (.update old stored))
    | (.error err, store) => (.error err, { m with store })
  | .delete key =>
    match m.store.delete key with
    | (.ok old, store) => (.ok (), m.advance store (.delete old))
    | (.error err, store) => (.error err, { m with store })
  | .ensureSpace space =>
    let (result, store) := m.store.ensureSpace space
    (result, { m with store })

/-- The mesh in memory as an API. -/
def api : MeshApi Mesh where
  perform := perform
  ownership := Mesh.ownership

end Mesh

end MeshRegistry
