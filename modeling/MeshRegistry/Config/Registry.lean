import MeshRegistry.Json.Parser
import MeshRegistry.Json.Encoding
import MeshRegistry.Text.Ranges
import MeshRegistry.Text.Casing
/-!
# Configured registries

Which external registries are followed. A registry is of one of two kinds: a Consul catalog, which
is polled, or a Nacos discovery feed, which is streamed. A list of registries can stand in a file
of its own, whose keys have an older spelling.

## Main definitions

- `RegistryKind`, `RegistryKind.ofText`: the kinds and how they are written.
- `RegistryConfig`: one configured registry.
- `RegistryConfig.parseList`: the list of registries that a text writes.
- `ConfigError`: what can be wrong with a configuration.
-/

namespace MeshRegistry

/-- The kind of an external registry. -/
inductive RegistryKind where
  /-- A Consul catalog, polled. -/
  | consul
  /-- A Nacos discovery feed, streamed. -/
  | nacos
deriving DecidableEq, Repr, Inhabited

/-- What can be wrong with a configuration. -/
inductive ConfigError where
  /-- No mesh is named. -/
  | missingMeshId
  /-- A registry has a kind that does not exist. -/
  | unsupportedRegistry (kind : String)
  /-- Registries of two kinds are configured. -/
  | mixedRegistries (first other : RegistryKind)
  /-- A registry has no address. -/
  | missingEndpoint (index : Nat) (kind : RegistryKind)
  /-- A file cannot be read as text. -/
  | unreadable
  /-- A text is not a configuration. -/
  | malformed
deriving DecidableEq, Repr

namespace RegistryKind

/-- The name of a kind. -/
def text : RegistryKind → String
  | .consul => "consul"
  | .nacos => "nacos"

/-- The kind that a text names, in any letter case and with blanks around it. -/
def ofText (s : String) : Except ConfigError RegistryKind :=
  let name := Text.asciiLowercase (Text.trim s)
  if name = "consul" then .ok .consul
  else if name = "nacos" then .ok .nacos
  else .error (.unsupportedRegistry s)

/-- The kind that a text names, if it names one. -/
def ofText? (s : String) : Option RegistryKind := (ofText s).toOption

end RegistryKind

namespace ConfigError

/-- The wording of an error; errors of reading have none of their own. -/
def message? : ConfigError → Option String
  | .missingMeshId => some "mesh id is required"
  | .unsupportedRegistry kind => some ("unsupported registry type: " ++ kind)
  | .mixedRegistries first other =>
    some ("registry types must not be mixed: found " ++ first.text ++ " and " ++ other.text)
  | .missingEndpoint index kind =>
    some ("registry #" ++ toString index ++ " (" ++ kind.text ++ ") has no endpoint")
  | .unreadable => none
  | .malformed => none

end ConfigError

/-- One configured registry. -/
structure RegistryConfig where
  /-- The kind of the registry. -/
  kind : RegistryKind
  /-- The address of the registry. -/
  endpoint : String := ""
  /-- The namespace inside the registry. -/
  sourceSpace : String := ""
  /-- What every host of this registry begins with. -/
  hostPrefix : String := ""
  /-- The mesh namespace that entries are written to. -/
  targetSpace : String := ""
deriving DecidableEq, Repr

namespace RegistryConfig

/-- The target namespace, or a default when none is configured. -/
def targetSpaceOr (r : RegistryConfig) (default : String) : String :=
  if r.targetSpace.isEmpty then default else r.targetSpace

/-- The fields of a registry. Some have an older spelling. -/
def shape : List FieldName :=
  [⟨"type", []⟩, ⟨"endpoint", []⟩, ⟨"source_namespace", ["consulNamespace", "sourceNamespace"]⟩,
    ⟨"prefix", ["hostPrefix"]⟩, ⟨"target_namespace", ["toNamespace", "targetNamespace"]⟩]

/-- The registry that a value describes. -/
def read? {ν : Type} (e : Encoding ν) (v : ν) : Option RegistryConfig := do
  let r ← e.record? shape v
  let kind ← r.required "type" fun v => (e.text? v).bind RegistryKind.ofText?
  let endpoint ← r.text "endpoint"
  let sourceSpace ← r.text "source_namespace"
  let hostPrefix ← r.text "prefix"
  let targetSpace ← r.text "target_namespace"
  return { kind, endpoint, sourceSpace, hostPrefix, targetSpace }

/-- A registry as JSON. -/
def toJson (r : RegistryConfig) : Json :=
  .obj [("type", .str r.kind.text), ("endpoint", .str r.endpoint),
    ("source_namespace", .str r.sourceSpace), ("prefix", .str r.hostPrefix),
    ("target_namespace", .str r.targetSpace)]

/-- The list of registries that a value describes. -/
def listOfJson? : Json → Option (List RegistryConfig)
  | .arr items => items.mapM (read? Json.encoding)
  | _ => none

/-- The list of registries that a text writes in JSON. -/
def parseList (text : String) : Except ConfigError (List RegistryConfig) :=
  match (Json.parse? text).bind listOfJson? with
  | some registries => .ok registries
  | none => .error .malformed

end RegistryConfig

end MeshRegistry
