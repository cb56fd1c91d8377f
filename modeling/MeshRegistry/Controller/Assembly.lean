import MeshRegistry.Catalog.Watcher
import MeshRegistry.Config.Controller
import MeshRegistry.Discovery.Stream
import MeshRegistry.Entry.Json
/-!
# Assembling the controller

A configuration says which watchers run: one for each registry that is followed. A watcher of a
catalog keeps a snapshot, and a reconciler brings it into the mesh; a watcher of a stream applies
its entries by itself. Before anything runs, the namespaces that entries are written to are
created; it does not matter when that fails.

## Main definitions

- `Watcher`: the watchers of both kinds.
- `Assembly`: the watchers and reconcilers of a controller.
- `ControllerConfig.assemble`: the parts that a configuration asks for.
- `Assembly.ensureSpaces`: the conversation that creates their namespaces.
-/

namespace MeshRegistry

/-- A watcher of a registry. -/
inductive Watcher where
  /-- A watcher of a catalog. -/
  | catalog (w : CatalogWatcher)
  /-- A watcher of a stream. -/
  | stream (w : StreamWatcher)

namespace Watcher

/-- The kind of the registry. -/
def kind : Watcher → RegistryKind
  | .catalog _ => .consul
  | .stream _ => .nacos

/-- What the hosts of the registry begin with. -/
def hostPrefix : Watcher → String
  | .catalog w => w.hostPrefix
  | .stream _ => StreamWatcher.hostPrefix

/-- The namespace that entries are written to. -/
def targetSpace : Watcher → String
  | .catalog w => w.targetSpace
  | .stream w => w.targetSpace

/-- Whether the watcher keeps a snapshot. -/
def hasSnapshot : Watcher → Bool
  | .catalog _ => true
  | .stream _ => false

/-- Whether the watcher tells which types it has received. -/
def announces : Watcher → Bool
  | .catalog _ => false
  | .stream _ => true

end Watcher

/-- Why a controller cannot be assembled. -/
inductive AssemblyError where
  /-- A catalog cannot be asked. -/
  | catalog (endpoint : String) (cause : CatalogError)
  /-- A stream cannot be followed. -/
  | stream (endpoint : String) (cause : DiscoveryError)
deriving DecidableEq, Repr

/-- The wording of an error. -/
def AssemblyError.message : AssemblyError → String
  | .catalog endpoint _ => "invalid consul registry " ++ endpoint
  | .stream endpoint _ => "invalid nacos registry " ++ endpoint

/-- The watchers and reconcilers of a controller. -/
structure Assembly where
  /-- The watchers, in the order of the registries. -/
  watchers : List Watcher
  /-- The reconcilers of the watchers that keep a snapshot, in the same order. -/
  reconcilers : List Reconciler

namespace Assembly

/-- The namespaces that entries are written to. -/
def spaces (a : Assembly) : List String := a.watchers.map Watcher.targetSpace

/-- Create namespaces. A failure is passed over. -/
def ensureAll : List String → Session Unit
  | [] => return ()
  | space :: rest => do
    let _ ← Session.call (.ensureSpace space)
    ensureAll rest

/-- Create the namespaces that entries are written to. -/
def ensureSpaces (a : Assembly) : Session Unit := ensureAll a.spaces

end Assembly

namespace ControllerConfig

/-- How the catalogs are polled, in milliseconds; at most once a second. -/
def pollSettings (c : ControllerConfig) : PollSettings where
  tick := max 1 c.pollIntervalSecs.toNat * 1000
  wait := c.waitSecs.toNat * 1000
  token := c.consulToken

/-- The watcher of a registry, for a process that has the given address and files. -/
def watcher (c : ControllerConfig) (hostAddress : String) (files : Files) (r : RegistryConfig) :
    Except AssemblyError Watcher :=
  let target := r.targetSpaceOr c.space
  match r.kind with
  | .consul =>
    match CatalogWatcher.create r target c.pollSettings with
    | .ok w => .ok (.catalog w)
    | .error e => .error (.catalog r.endpoint e)
  | .nacos =>
    match DiscoveryClient.create (.ofSettings hostAddress r.endpoint c.discovery) files with
    | .ok client => .ok (.stream ⟨client, target⟩)
    | .error e => .error (.stream r.endpoint e)

/-- The reconciler of a watcher that keeps a snapshot; it makes at most one pass a second. -/
def reconciler? (c : ControllerConfig) (w : Watcher) : Option Reconciler :=
  if w.hasSnapshot then
    some
      { space := w.targetSpace, registry := w.kind, hostPrefix := w.hostPrefix,
        interval := max 1 c.syncIntervalSecs.toNat * 1000,
        owner := c.owner.map OwnerConfig.reference }
  else none

/-- The parts that a configuration asks for, or the first that cannot be made. -/
def assemble (c : ControllerConfig) (hostAddress : String) (files : Files) :
    Except AssemblyError Assembly := do
  -- The first registry that cannot be watched ends the assembly.
  let watchers ← c.activeRegistries.mapM (c.watcher hostAddress files)
  return { watchers, reconcilers := watchers.filterMap c.reconciler? }

end ControllerConfig

/-! ## Assemblies as JSON -/

/-- A watcher as JSON. -/
def Watcher.toJson (w : Watcher) : Json :=
  .obj [("kind", .str w.kind.text), ("prefix", .str w.hostPrefix), ("target", .str w.targetSpace),
    ("cache", .bool w.hasSnapshot)]

/-- A reconciler as JSON, with its interval in seconds. -/
def Reconciler.toJson (r : Reconciler) : Json :=
  .obj [("namespace", .str r.space), ("prefix", .str r.hostPrefix),
    ("registry", .str r.registry.text), ("location", .str r.location.text),
    ("interval_secs", Json.nat (r.interval / 1000)),
    ("owner", Json.ofOption OwnerReference.toJson r.owner)]

/-- The parts of a controller as fields of an object. -/
def Assembly.toFields (a : Assembly) : List (String × Json) :=
  [("watchers", .arr (a.watchers.map Watcher.toJson)),
    ("synchronizers", .arr (a.reconcilers.map Reconciler.toJson)),
    ("updates", .bool (a.watchers.any Watcher.announces))]

end MeshRegistry
