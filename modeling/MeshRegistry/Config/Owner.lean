import MeshRegistry.Entry.Basic
import MeshRegistry.Json.Encoding
/-!
# The configured owner

The identity under which this controller owns the entries that it creates. A configuration names
it; the API version and the kind have defaults, and so has the whole identity.

## Main definitions

- `OwnerConfig`: the configured identity.
- `OwnerConfig.reference`: the owner reference of an identity.
- `defaultOwner`: the reference without a configuration.
-/

namespace MeshRegistry

/-- The API version of owners without one of their own. -/
def defaultOwnerApiVersion : String := "meshsync.io/v1beta1"

/-- The kind of owners without one of their own. -/
def defaultOwnerKind : String := "ServiceRegistry"

/-- A configured owner. -/
structure OwnerConfig where
  /-- The group and version of the owner. -/
  apiVersion : String := defaultOwnerApiVersion
  /-- The kind of the owner. -/
  kind : String := defaultOwnerKind
  /-- The name of the owner. -/
  name : String
  /-- The identity of the owner. -/
  uid : String := ""
deriving DecidableEq, Repr

namespace OwnerConfig

/-- The fields of an owner. -/
def shape : List FieldName := FieldName.plain ["api_version", "kind", "name", "uid"]

/-- The owner that a value describes. -/
def read? {ν : Type} (e : Encoding ν) (v : ν) : Option OwnerConfig := do
  let r ← e.record? shape v
  let apiVersion ← r.orElse "api_version" defaultOwnerApiVersion e.text?
  let kind ← r.orElse "kind" defaultOwnerKind e.text?
  let name ← r.required "name" e.text?
  let uid ← r.text "uid"
  return { apiVersion, kind, name, uid }

/-- An owner as JSON. -/
def toJson (o : OwnerConfig) : Json :=
  .obj [("api_version", .str o.apiVersion), ("kind", .str o.kind), ("name", .str o.name),
    ("uid", .str o.uid)]

/-- The reference of a managing controller with this identity. -/
def reference (o : OwnerConfig) : OwnerReference where
  apiVersion := o.apiVersion
  kind := o.kind
  name := o.name
  uid := o.uid
  controller := some true

end OwnerConfig

/-- The reference of a controller without a configured identity. -/
def defaultOwner : OwnerReference where
  apiVersion := defaultOwnerApiVersion
  kind := defaultOwnerKind
  controller := some true

/-- The reference of a controller with an optional identity. -/
def ownerReference (o : Option OwnerConfig) : OwnerReference :=
  match o with
  | some o => o.reference
  | none => defaultOwner

end MeshRegistry
