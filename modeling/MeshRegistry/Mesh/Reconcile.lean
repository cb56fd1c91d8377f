import MeshRegistry.Entry.Build
import MeshRegistry.Mesh.Session
/-!
# Reconciling a registry with the mesh

A pass compares the snapshot of a registry with the ownership model. A host whose entry is ours
and has the right endpoints is left alone, and so is a host of somebody else; any other host gets
the entry that is wanted for it. Afterwards the entries of ours whose host has left the registry
are collected, if they lie in the target namespace, begin as this registry's hosts do, and carry
its label. A failure concerns one host and is left to the next pass.

The order in which hosts are visited is not part of the meaning of a pass, so it is a parameter.

A registry is reconciled at once and then at every multiple of an interval, with the snapshot that
is current at that time, until it is told to stop.

## Main definitions

- `Snapshot`: the endpoints of every host of a registry.
- `Reconciler`: the settings of the passes for one registry.
- `Arrangement`: an order of visit.
- `Reconciler.pass`: one pass, and `PassReport`, what it did.
- `Reconciler.ticks`: how many passes fall into a span of time.
- `Reconciler.runThrough`: the passes of a run during which the snapshot changes.
-/

namespace MeshRegistry

/-- The endpoints of every host of a registry. -/
abbrev Snapshot : Type := SortedMap String (List Endpoint)

/-- An order in which hosts are visited. -/
structure Arrangement where
  /-- The hosts in the order of visit. -/
  arrange : List String → List String
  /-- Every host is visited once. -/
  perm : ∀ hosts, (arrange hosts).Perm hosts

/-- The order in which the hosts are given. -/
def Arrangement.given : Arrangement := ⟨id, fun _ => .refl _⟩

instance : Inhabited Arrangement := ⟨.given⟩

/-- The settings of the passes for one registry. -/
structure Reconciler where
  /-- The namespace that entries are written to. -/
  space : String
  /-- The kind of the registry. -/
  registry : RegistryKind
  /-- What the hosts of this registry begin with. -/
  hostPrefix : String := ""
  /-- Where the services live. -/
  location : Location := .meshExternal
  /-- The time from one pass to the next, in milliseconds. -/
  interval : Nat := 5000
  /-- The owner that created entries are stamped with. -/
  owner : Option OwnerReference := none

/-- What was done about one host. -/
inductive HostAction where
  /-- Its entry was created. -/
  | created
  /-- Its entry was replaced. -/
  | updated
  /-- Its entry was right. -/
  | unchanged
  /-- It belongs to somebody else. -/
  | skipped
deriving DecidableEq, Repr

/-- What a pass did. -/
structure PassReport where
  /-- How many entries were created. -/
  created : Nat := 0
  /-- How many entries were replaced. -/
  updated : Nat := 0
  /-- How many hosts had the right entry. -/
  unchanged : Nat := 0
  /-- How many hosts belong to somebody else. -/
  skipped : Nat := 0
  /-- How many entries were collected. -/
  deleted : Nat := 0
  /-- How many hosts could not be reconciled. -/
  failed : Nat := 0
deriving DecidableEq, Repr

/-- The report with the result for one more host. -/
def PassReport.count (r : PassReport) : Except MeshError HostAction → PassReport
  | .ok .created => { r with created := r.created + 1 }
  | .ok .updated => { r with updated := r.updated + 1 }
  | .ok .unchanged => { r with unchanged := r.unchanged + 1 }
  | .ok .skipped => { r with skipped := r.skipped + 1 }
  | .error _ => { r with failed := r.failed + 1 }

namespace Reconciler

/-- The builder of the entries that are wanted. -/
def builder (r : Reconciler) : EntryBuilder where
  space := r.space
  registry := r.registry
  location := r.location
  owner := r.owner

/-- The key of the entry of a host. -/
def keyOf (r : Reconciler) (host : String) : ObjectKey := ⟨r.space, HostName.formatted host⟩

/-- Write the entry that is wanted for a host: over the stored object if there is one. -/
def writeHost (r : Reconciler) (host : String) (endpoints : List Endpoint) :
    Session (Except MeshError HostAction) := do
  let wanted := r.builder.build host endpoints
  match ← Session.call (.get (r.keyOf host)) with
  | .error e => return .error e
  | .ok (some current) =>
    match ← Session.call (.update (wanted.withVersion current.metadata.resourceVersion)) with
    | .error e => return .error e
    | .ok _ => return .ok .updated
  | .ok none =>
    match ← Session.call (.create wanted) with
    | .error e => return .error e
    | .ok _ => return .ok .created

/-- Reconcile one host, given its entry among ours at the beginning of the pass. -/
def reconcileHost (r : Reconciler) (host : String) (endpoints : List Endpoint)
    (owned : Option ServiceEntry) : Session (Except MeshError HostAction) := do
  match owned with
  | some entry =>
    -- Whatever else somebody has changed in the entry is left as it is.
    if entry.spec.endpoints = endpoints then return .ok .unchanged
    else r.writeHost host endpoints
  | none =>
    -- The model is looked at anew, since writes of this pass have changed it.
    let model ← Session.ownership
    if model.classify host = .them then return .ok .skipped
    else r.writeHost host endpoints

/-- Reconcile hosts one after the other. -/
def reconcileHosts (r : Reconciler) (snapshot : Snapshot)
    (ours : SortedMap String ServiceEntry) (report : PassReport) :
    List String → Session PassReport
  | [] => return report
  | host :: rest =>
    match snapshot.get? host with
    | none => r.reconcileHosts snapshot ours report rest
    | some endpoints => do
      let result ← r.reconcileHost host endpoints (ours.get? host)
      r.reconcileHosts snapshot ours (report.count result) rest

/-- Whether the entry at a host of ours is to be looked at for collection. -/
def isCandidate (r : Reconciler) (snapshot : Snapshot) (host : String) (e : ServiceEntry) : Bool :=
  Text.startsWith host r.hostPrefix && e.space == r.space && !snapshot.contains host

/-- Collect an entry, if the stored object still carries the label of this registry. The value
tells whether it was removed. -/
def collectEntry (r : Reconciler) (e : ServiceEntry) : Session Bool := do
  match ← Session.call (.get ⟨r.space, e.name⟩) with
  | .error _ => return false
  | .ok none => return false
  | .ok (some current) =>
    -- The model may lag behind: the stored object decides.
    if current.label? registryLabel ≠ some r.registry.text then return false
    else
      match ← Session.call (.delete ⟨r.space, e.name⟩) with
      | .ok _ => return true
      | .error _ => return false

/-- Collect entries one after the other; the value is how many were removed. -/
def collectHosts (r : Reconciler) (snapshot : Snapshot)
    (ours : SortedMap String ServiceEntry) (deleted : Nat) : List String → Session Nat
  | [] => return deleted
  | host :: rest =>
    match ours.get? host with
    | none => r.collectHosts snapshot ours deleted rest
    | some e =>
      if r.isCandidate snapshot host e then do
        let removed ← r.collectEntry e
        r.collectHosts snapshot ours (if removed then deleted + 1 else deleted) rest
      else r.collectHosts snapshot ours deleted rest

/-- One pass over a snapshot. -/
def pass (r : Reconciler) (visit collect : Arrangement) (snapshot : Snapshot) :
    Session PassReport := do
  let before ← Session.ownership
  let report ← r.reconcileHosts snapshot before.ours {} (visit.arrange snapshot.keys)
  -- Collection looks at the hosts as they are after the writes.
  let after ← Session.ownership
  let deleted ← r.collectHosts snapshot after.ours 0 (collect.arrange after.ours.keys)
  return { report with deleted }

/-! ## Passes at intervals -/

/-- How many multiples of the interval lie after one time and not after another. -/
def ticks (r : Reconciler) (since upTo : Nat) : Nat := upTo / r.interval - since / r.interval

/-- A number of passes over one snapshot. -/
def passes (r : Reconciler) (order : Arrangement) (snapshot : Snapshot) : Nat → Session Unit
  | 0 => return ()
  | n + 1 => do
    let _ ← r.pass order order snapshot
    r.passes order snapshot n

/-- The passes after the first one: each change of the snapshot comes some time after the one
before it, and the run stops some time after the last. -/
def followChanges (r : Reconciler) (order : Arrangement) (now : Nat) (snapshot : Snapshot)
    (stopAfter : Nat) : List (Nat × Snapshot) → Session Unit
  | [] => r.passes order snapshot (r.ticks now (now + stopAfter))
  | (after, next) :: rest => do
    r.passes order snapshot (r.ticks now (now + after))
    r.followChanges order (now + after) next stopAfter rest

/-- The passes of a run that starts with a pass at once. -/
def runThrough (r : Reconciler) (order : Arrangement) (snapshot : Snapshot)
    (changes : List (Nat × Snapshot)) (stopAfter : Nat) : Session Unit := do
  r.passes order snapshot 1
  r.followChanges order 0 snapshot stopAfter changes

end Reconciler

end MeshRegistry
