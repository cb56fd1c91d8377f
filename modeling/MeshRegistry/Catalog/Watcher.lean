import MeshRegistry.Catalog.Client
import MeshRegistry.HostName
import MeshRegistry.Mesh.Reconcile
import MeshRegistry.Config.Registry
/-!
# Watching a catalog

A watcher polls a catalog and keeps a snapshot of its hosts. When the catalog has a new index, all
its services are described again and the snapshot is replaced as a whole; a service that cannot be
described is left out of it. When the list of services cannot be read, nothing changes.

## Main definitions

- `CatalogWatcher`: a watcher with its snapshot and the last known index.
- `CatalogWatcher.refresh`: one poll, and `RefreshOutcome`, what it did.
-/

namespace MeshRegistry

/-- How all catalogs of a process are polled. -/
structure PollSettings where
  /-- The time from one poll to the next, in milliseconds. -/
  tick : Nat := 10000
  /-- How long an answer may be held back, in milliseconds. -/
  wait : Nat := 5000
  /-- The access token. -/
  token : Option String := none
deriving DecidableEq, Repr

/-- A watcher of a catalog. -/
structure CatalogWatcher where
  /-- The client of the catalog. -/
  client : CatalogClient
  /-- What the hosts of this registry begin with. -/
  hostPrefix : String := ""
  /-- The namespace that its entries are written to. -/
  targetSpace : String
  /-- The time from one poll to the next, in milliseconds. -/
  tick : Nat := 10000
  /-- The hosts of the catalog. -/
  snapshot : Snapshot := .empty
  /-- The index of the catalog that was shown last. -/
  lastIndex : Nat := 0

/-- What a poll did. -/
inductive RefreshOutcome where
  /-- The catalog has not changed. -/
  | unchanged
  /-- The snapshot was replaced, by one with so many hosts. -/
  | refreshed (hosts : Nat)
deriving DecidableEq, Repr

namespace CatalogWatcher

/-- The watcher of a registry, or why there is none. An empty token is none. -/
def create (r : RegistryConfig) (targetSpace : String) (s : PollSettings) :
    Except CatalogError CatalogWatcher := do
  let client ← CatalogClient.create
    { endpoint := r.endpoint, space := r.sourceSpace, token := s.token.filter (· != ""),
      wait := s.wait }
  return { client, hostPrefix := r.hostPrefix, targetSpace, tick := s.tick }

/-- The snapshot with endpoints added to those of a host. -/
def addEndpoints (s : Snapshot) (host : String) (endpoints : List Endpoint) : Snapshot :=
  if endpoints = [] then s else s.insert host ((s.get? host).getD [] ++ endpoints)

/-- The snapshot with the instances of one more service. One that cannot be described is left
out. -/
def addService (hostPrefix : String) (c : Catalog) (s : Snapshot) (service : String) : Snapshot :=
  match c.instances service with
  | .error _ => s
  | .ok instances =>
    addEndpoints s (HostName.key hostPrefix service) (instances.filterMap (·.endpoint?))

/-- The snapshot of services, in the order in which they are described. -/
def snapshotOf (hostPrefix : String) (c : Catalog) (services : List String) : Snapshot :=
  services.foldl (addService hostPrefix c) .empty

/-- One poll of a catalog, in which its services are visited in a given order. -/
def refresh (w : CatalogWatcher) (order : Arrangement) (c : Catalog) :
    Except CatalogError RefreshOutcome × CatalogWatcher :=
  match c.services w.lastIndex with
  | .error e => (.error e, w)
  | .ok (services, index) =>
    -- The answer was held back until the waiting time was over.
    if index = w.lastIndex then (.ok .unchanged, w)
    else
      let snapshot := snapshotOf w.hostPrefix c (order.arrange services.keys)
      (.ok (.refreshed snapshot.size), { w with snapshot, lastIndex := index })

end CatalogWatcher

end MeshRegistry
