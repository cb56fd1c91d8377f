import MeshRegistry.Config.Owner
import MeshRegistry.Config.Registry
/-!
# The configuration of the controller

Everything that can be configured: which mesh is written to, which registries are followed and how
often, the identity that is stamped on entries, the discovery client and the log. Every field has
a value for its absence.

A configuration is acceptable when it names a mesh, every registry has an address, and all
registries are of one kind. Of several faults the first in that order is reported.

## Main definitions

- `DiscoverySettings`, `LogSettings`, `ControllerConfig`: the configuration and its parts.
- `ControllerConfig.validate`: whether a configuration is acceptable.
- `ControllerConfig.activeRegistries`: the registries that are run.
- `ControllerConfig.resolveSpace`: the namespace that is published into.
-/

namespace MeshRegistry

/-- The settings of the discovery client. -/
structure DiscoverySettings where
  /-- The namespace of the node identity. -/
  space : String := "default"
  /-- The type of the node. -/
  nodeType : String := "sidecar"
  /-- The workload of the node. -/
  workload : String := "test-1"
  /-- The address of the node; that of the host when it is unset. -/
  ip : Option String := none
  /-- The locality of the node. -/
  locality : Option String := none
  /-- Metadata of the node. -/
  metadata : SortedMap String String := .empty
  /-- What the path of the stored mesh configuration begins with. -/
  cacheDir : Option String := none
  /-- Whether a lost stream is opened again. -/
  reconnect : Bool := true
  /-- How many operations may wait to be applied. -/
  queueCapacity : UInt64 := 50
deriving DecidableEq

/-- The settings of the log. -/
structure LogSettings where
  /-- The least severe level that is logged. -/
  level : String := "info"
  /-- The directory of log files; there are none when it is unset. -/
  dir : Option String := none
  /-- Whether the log is written to the console. -/
  console : Bool := true
deriving DecidableEq, Repr

/-- The configuration of the controller. -/
structure ControllerConfig where
  /-- The identity of the mesh. -/
  meshId : String := ""
  /-- The identity of the region. -/
  regionId : String := ""
  /-- The namespace for registries that name none. -/
  space : String := ""
  /-- Seconds from one reconciliation to the next. -/
  syncIntervalSecs : UInt64 := 5
  /-- Seconds from one poll of a catalog to the next. -/
  pollIntervalSecs : UInt64 := 10
  /-- Seconds that a catalog may hold back an answer. -/
  waitSecs : UInt64 := 5
  /-- The access token of catalogs. -/
  consulToken : Option String := none
  /-- Whether everything is logged. -/
  debug : Bool := false
  /-- Whether entries are kept in memory. -/
  dryRun : Bool := false
  /-- The file that describes the mesh cluster. -/
  kubeconfig : Option String := none
  /-- The owner that entries are stamped with. -/
  owner : Option OwnerConfig := none
  /-- The discovery client. -/
  discovery : DiscoverySettings := {}
  /-- The log. -/
  log : LogSettings := {}
  /-- The registries. -/
  registries : List RegistryConfig := []
deriving DecidableEq

/-! ## Reading and writing -/

namespace DiscoverySettings

/-- The fields of the discovery settings. -/
def shape : List FieldName :=
  FieldName.plain ["namespace", "node_type", "workload", "ip", "locality", "metadata",
    "local_cache_dir", "reconnect", "queue_capacity"]

/-- The discovery settings that a value describes. -/
def read? {ν : Type} (e : Encoding ν) (v : ν) : Option DiscoverySettings := do
  let r ← e.record? shape v
  let space ← r.orElse "namespace" "default" e.text?
  let nodeType ← r.orElse "node_type" "sidecar" e.text?
  let workload ← r.orElse "workload" "test-1" e.text?
  let ip ← r.optional "ip" e.text?
  let locality ← r.optional "locality" e.text?
  let metadata ← r.map "metadata" e.text?
  let cacheDir ← r.optional "local_cache_dir" e.text?
  let reconnect ← r.orElse "reconnect" true e.flag?
  let queueCapacity ← r.orElse "queue_capacity" 50 e.word64?
  return { space, nodeType, workload, ip, locality, metadata, cacheDir, reconnect, queueCapacity }

/-- Discovery settings as JSON. -/
def toJson (s : DiscoverySettings) : Json :=
  .obj [("namespace", .str s.space), ("node_type", .str s.nodeType), ("workload", .str s.workload),
    ("ip", Json.ofOption .str s.ip), ("locality", Json.ofOption .str s.locality),
    ("metadata", Json.ofTexts s.metadata), ("local_cache_dir", Json.ofOption .str s.cacheDir),
    ("reconnect", .bool s.reconnect), ("queue_capacity", Json.nat s.queueCapacity.toNat)]

end DiscoverySettings

namespace LogSettings

/-- The fields of the log settings. -/
def shape : List FieldName := FieldName.plain ["level", "dir", "console"]

/-- The log settings that a value describes. -/
def read? {ν : Type} (e : Encoding ν) (v : ν) : Option LogSettings := do
  let r ← e.record? shape v
  let level ← r.orElse "level" "info" e.text?
  let dir ← r.optional "dir" e.text?
  let console ← r.orElse "console" true e.flag?
  return { level, dir, console }

/-- Log settings as JSON. -/
def toJson (s : LogSettings) : Json :=
  .obj [("level", .str s.level), ("dir", Json.ofOption .str s.dir), ("console", .bool s.console)]

/-- The level that is logged: everything while debugging. -/
def effectiveLevel (s : LogSettings) (debug : Bool) : String := if debug then "debug" else s.level

/-- The directory of log files, if there is one. -/
def directory (s : LogSettings) : Option String := s.dir.filter fun d => !d.isEmpty

end LogSettings

namespace ControllerConfig

/-- The fields of the configuration. -/
def shape : List FieldName :=
  FieldName.plain ["mesh_id", "region_id", "namespace", "sync_interval_secs",
    "consul_poll_interval_secs", "consul_wait_secs", "consul_token", "debug", "dry_run",
    "kubeconfig", "owner", "ads", "log", "registries"]

/-- The configuration that a value describes. -/
def read? {ν : Type} (e : Encoding ν) (v : ν) : Option ControllerConfig := do
  let r ← e.record? shape v
  let meshId ← r.text "mesh_id"
  let regionId ← r.text "region_id"
  let space ← r.text "namespace"
  let syncIntervalSecs ← r.orElse "sync_interval_secs" 5 e.word64?
  let pollIntervalSecs ← r.orElse "consul_poll_interval_secs" 10 e.word64?
  let waitSecs ← r.orElse "consul_wait_secs" 5 e.word64?
  let consulToken ← r.optional "consul_token" e.text?
  let debug ← r.orElse "debug" false e.flag?
  let dryRun ← r.orElse "dry_run" false e.flag?
  let kubeconfig ← r.optional "kubeconfig" e.text?
  let owner ← r.optional "owner" (OwnerConfig.read? e)
  let discovery ← r.orElse "ads" {} (DiscoverySettings.read? e)
  let log ← r.orElse "log" {} (LogSettings.read? e)
  let registries ← r.list "registries" (RegistryConfig.read? e)
  return { meshId, regionId, space, syncIntervalSecs, pollIntervalSecs, waitSecs, consulToken,
           debug, dryRun, kubeconfig, owner, discovery, log, registries }

/-- A configuration as JSON. -/
def toJson (c : ControllerConfig) : Json :=
  .obj [("mesh_id", .str c.meshId), ("region_id", .str c.regionId), ("namespace", .str c.space),
    ("sync_interval_secs", Json.nat c.syncIntervalSecs.toNat),
    ("consul_poll_interval_secs", Json.nat c.pollIntervalSecs.toNat),
    ("consul_wait_secs", Json.nat c.waitSecs.toNat),
    ("consul_token", Json.ofOption .str c.consulToken), ("debug", .bool c.debug),
    ("dry_run", .bool c.dryRun), ("kubeconfig", Json.ofOption .str c.kubeconfig),
    ("owner", Json.ofOption OwnerConfig.toJson c.owner), ("ads", c.discovery.toJson),
    ("log", c.log.toJson), ("registries", .arr (c.registries.map RegistryConfig.toJson))]

/-! ## What a configuration means -/

/-- Whether a text has nothing but blanks. -/
def isBlankText (s : String) : Bool := s.toList.all Text.isBlank

/-- The first registry without an address, with its place in the list. -/
def firstWithoutEndpoint (start : Nat) : List RegistryConfig → Option (Nat × RegistryConfig)
  | [] => none
  | r :: rest =>
    if isBlankText r.endpoint then some (start, r) else firstWithoutEndpoint (start + 1) rest

/-- The one kind of all registries, if there are any. -/
def registryKind (c : ControllerConfig) : Except ConfigError (Option RegistryKind) :=
  match c.registries with
  | [] => .ok none
  | first :: rest =>
    -- The first one that differs from the first of all is reported.
    match rest.find? fun r => r.kind ≠ first.kind with
    | some other => .error (.mixedRegistries first.kind other.kind)
    | none => .ok (some first.kind)

/-- Whether a configuration is acceptable. -/
def validate (c : ControllerConfig) : Except ConfigError Unit :=
  if isBlankText c.meshId then .error .missingMeshId
  else
    match firstWithoutEndpoint 0 c.registries with
    | some (index, r) => .error (.missingEndpoint index r.kind)
    | none => c.registryKind.map fun _ => ()

/-- Registries without the streaming ones that follow another. -/
def dropLaterStreams (seen : Bool) : List RegistryConfig → List RegistryConfig
  | [] => []
  | r :: rest =>
    if r.kind = .nacos then
      if seen then dropLaterStreams seen rest else r :: dropLaterStreams true rest
    else r :: dropLaterStreams seen rest

/-- The registries that are run: only one stream is followed, the first. -/
def activeRegistries (c : ControllerConfig) : List RegistryConfig :=
  dropLaterStreams false c.registries

/-- The namespace that is published into: the configured one, else the first of two from the
environment that is not empty, else the default one. -/
def resolveSpace (c : ControllerConfig) (publish pod : Option String) : String :=
  let given := [some c.space, publish, pod].filterMap id
  (given.find? fun s => !s.isEmpty).getD "default"

end ControllerConfig

end MeshRegistry
