import MeshRegistry.Entry.Basic
import MeshRegistry.Json.Encoding
/-!
# Service entries in JSON

The written form of a service entry and its reader. Writing leaves out what is unset, and of the
lists of a specification all but hosts and ports when they are empty. The reader supplies the
same defaults, so reading a written entry gives it back.

In the metadata every field may be null or be given again, the last one counting; the fields of a
specification, a port or an endpoint may be given only once. Two things depend on the origin of
the value: how deeply the managed fields may be nested, and what may stand for an enumerated name.

## Main definitions

- `Endpoint.toJson`, `Endpoint.ofJson?`, and the same for the other parts of an entry.
- `ServiceEntry.toJson`, `ServiceEntry.ofJson?`: the whole object, with its API version and kind.
- `ServiceEntry.read?`: the same where the object is a part of something else.
-/

namespace MeshRegistry

open Json (encoding)

/-! ## Enumerations -/

/-- The name of an enumerated value: a text, or an object with that one key and a bare value. -/
def Json.variant? (origin : Json.Origin) : Json → Option String
  | .str s => some s
  | .obj [(key, j)] => if origin.isBare j then some key else none
  | _ => none

namespace Location

/-- The name of a location. -/
def text : Location → String
  | .meshExternal => "MESH_EXTERNAL"
  | .meshInternal => "MESH_INTERNAL"

/-- The location with a name. -/
def ofText? (s : String) : Option Location :=
  [meshExternal, meshInternal].find? fun l => l.text == s

/-- The location that a value names. -/
def ofJson? (origin : Json.Origin) (j : Json) : Option Location :=
  (j.variant? origin).bind ofText?

end Location

namespace Resolution

/-- The name of a way of finding endpoints. -/
def text : Resolution → String
  | .none => "NONE"
  | .static => "STATIC"
  | .dns => "DNS"
  | .dnsRoundRobin => "DNS_ROUND_ROBIN"

/-- The way of finding endpoints with a name. -/
def ofText? (s : String) : Option Resolution :=
  [none, static, dns, dnsRoundRobin].find? fun r => r.text == s

/-- The way of finding endpoints that a value names. -/
def ofJson? (origin : Json.Origin) (j : Json) : Option Resolution :=
  (j.variant? origin).bind ofText?

end Resolution

/-! ## The service -/

namespace Port

/-- The fields of a port. -/
def shape : List FieldName := FieldName.plain ["number", "protocol", "name", "targetPort"]

/-- A port as JSON. -/
def toJson (p : Port) : Json :=
  .obj ([("number", Json.word32 p.number), ("protocol", .str p.protocol), ("name", .str p.name)]
    ++ Json.field? "targetPort" Json.word32 p.targetPort)

/-- The port that a value describes. -/
def ofJson? (j : Json) : Option Port := do
  let r ← encoding.record? shape j
  let number ← r.required "number" encoding.word32?
  let protocol ← r.text "protocol"
  let name ← r.text "name"
  let targetPort ← r.optional "targetPort" encoding.word32?
  return ⟨number, protocol, name, targetPort⟩

end Port

namespace Endpoint

/-- The fields of an endpoint. -/
def shape : List FieldName :=
  FieldName.plain
    ["address", "ports", "labels", "network", "locality", "weight", "serviceAccount"]

/-- An endpoint as JSON. -/
def toJson (e : Endpoint) : Json :=
  .obj ([("address", .str e.address)]
    ++ (if e.ports.isEmpty then [] else [("ports", Json.ofMap Json.word32 e.ports)])
    ++ (if e.labels.isEmpty then [] else [("labels", Json.ofTexts e.labels)])
    ++ Json.field? "network" Json.str e.network
    ++ Json.field? "locality" Json.str e.locality
    ++ Json.field? "weight" Json.word32 e.weight
    ++ Json.field? "serviceAccount" Json.str e.serviceAccount)

/-- The endpoint that a value describes. -/
def ofJson? (j : Json) : Option Endpoint := do
  let r ← encoding.record? shape j
  let address ← r.text "address"
  let ports ← r.map "ports" encoding.word32?
  let labels ← r.map "labels" encoding.text?
  let network ← r.optional "network" encoding.text?
  let locality ← r.optional "locality" encoding.text?
  let weight ← r.optional "weight" encoding.word32?
  let serviceAccount ← r.optional "serviceAccount" encoding.text?
  return { address, ports, labels, network, locality, weight, serviceAccount }

end Endpoint

namespace ServiceSpec

/-- The fields of a specification. -/
def shape : List FieldName :=
  FieldName.plain ["hosts", "addresses", "ports", "location", "resolution", "endpoints",
    "exportTo", "subjectAltNames"]

/-- A specification as JSON. -/
def toJson (s : ServiceSpec) : Json :=
  .obj ([("hosts", Json.texts s.hosts)]
    ++ Json.listField "addresses" (s.addresses.map .str)
    ++ [("ports", .arr (s.ports.map Port.toJson)), ("location", .str s.location.text),
      ("resolution", .str s.resolution.text)]
    ++ Json.listField "endpoints" (s.endpoints.map Endpoint.toJson)
    ++ Json.listField "exportTo" (s.exportTo.map .str)
    ++ Json.listField "subjectAltNames" (s.subjectAltNames.map .str))

/-- The specification that a value of some origin describes. -/
def read? (origin : Json.Origin) (j : Json) : Option ServiceSpec := do
  let r ← encoding.record? shape j
  let hosts ← r.list "hosts" encoding.text?
  let addresses ← r.list "addresses" encoding.text?
  let ports ← r.list "ports" Port.ofJson?
  let location ← r.orElse "location" .meshExternal (Location.ofJson? origin)
  let resolution ← r.orElse "resolution" .none (Resolution.ofJson? origin)
  let endpoints ← r.list "endpoints" Endpoint.ofJson?
  let exportTo ← r.list "exportTo" encoding.text?
  let subjectAltNames ← r.list "subjectAltNames" encoding.text?
  return { hosts, addresses, ports, location, resolution, endpoints, exportTo, subjectAltNames }

/-- The specification that a value describes. -/
def ofJson? (j : Json) : Option ServiceSpec := read? .whole j

end ServiceSpec

/-! ## Metadata -/

namespace Json

/-- The reading of a metadata field, which is unset by a null. -/
def orUnset? {α : Type} (read : Json → Option α) : Json → Option (Option α)
  | .null => some none
  | j => (read j).map some

/-- A list whose items are all of one kind. -/
def listOf? {α : Type} (read : Json → Option α) : Json → Option (List α)
  | .arr items => items.mapM read
  | _ => none

/-- An object as a map of texts. -/
def textMap? : Json → Option (SortedMap String String)
  | .obj fields => (fields.mapM fun f => (encoding.text? f.2).map (f.1, ·)).map SortedMap.ofList
  | _ => none

/-- An integer of 64 bits with a sign. -/
def int64? : Json → Option Int
  | .int n => if -9223372036854775808 ≤ n ∧ n ≤ 9223372036854775807 then some n else none
  | _ => none

/-- The moment that a text writes. -/
def moment? (j : Json) : Option Moment := (encoding.text? j).bind Moment.ofText?

/-- A moment as a text. -/
def ofMoment (m : Moment) : Json := .str m.text

end Json

namespace OwnerReference

/-- A reference as JSON: the four texts are always written. -/
def toJson (r : OwnerReference) : Json :=
  .obj ([("apiVersion", .str r.apiVersion)]
    ++ Json.field? "blockOwnerDeletion" Json.bool r.blockOwnerDeletion
    ++ Json.field? "controller" Json.bool r.controller
    ++ [("kind", .str r.kind), ("name", .str r.name), ("uid", .str r.uid)])

/-- The reference with one more field read. -/
def put? (r : OwnerReference) : String × Json → Option OwnerReference
  | ("apiVersion", j) =>
    (Json.orUnset? encoding.text? j).map fun v => { r with apiVersion := v.getD "" }
  | ("kind", j) => (Json.orUnset? encoding.text? j).map fun v => { r with kind := v.getD "" }
  | ("name", j) => (Json.orUnset? encoding.text? j).map fun v => { r with name := v.getD "" }
  | ("uid", j) => (Json.orUnset? encoding.text? j).map fun v => { r with uid := v.getD "" }
  | ("controller", j) => (Json.orUnset? encoding.flag? j).map fun v => { r with controller := v }
  | ("blockOwnerDeletion", j) =>
    (Json.orUnset? encoding.flag? j).map fun v => { r with blockOwnerDeletion := v }
  | _ => some r

/-- The reference that a value describes. -/
def ofJson? : Json → Option OwnerReference
  | .obj fields => fields.foldlM put? {}
  | _ => none

end OwnerReference

namespace ManagedFields

/-- Managed fields as JSON: what is unset is left out. -/
def toJson (m : ManagedFields) : Json :=
  .obj (Json.field? "apiVersion" Json.str m.apiVersion
    ++ Json.field? "fieldsType" Json.str m.fieldsType
    ++ Json.field? "fieldsV1" id m.fields
    ++ Json.field? "manager" Json.str m.manager
    ++ Json.field? "operation" Json.str m.operation
    ++ Json.field? "subresource" Json.str m.subresource
    ++ Json.field? "time" Json.ofMoment m.time)

/-- The managed fields with one more field read. -/
def put? (origin : Json.Origin) (m : ManagedFields) : String × Json → Option ManagedFields
  | ("apiVersion", j) =>
    (Json.orUnset? encoding.text? j).map fun v => { m with apiVersion := v }
  | ("fieldsType", j) =>
    (Json.orUnset? encoding.text? j).map fun v => { m with fieldsType := v }
  | ("fieldsV1", j) =>
    (Json.orUnset? (origin.inside 1).keepable? j).map fun v => { m with fields := v }
  | ("manager", j) => (Json.orUnset? encoding.text? j).map fun v => { m with manager := v }
  | ("operation", j) => (Json.orUnset? encoding.text? j).map fun v => { m with operation := v }
  | ("subresource", j) =>
    (Json.orUnset? encoding.text? j).map fun v => { m with subresource := v }
  | ("time", j) => (Json.orUnset? Json.moment? j).map fun v => { m with time := v }
  | _ => some m

/-- The managed fields that a value of some origin describes. -/
def read? (origin : Json.Origin) : Json → Option ManagedFields
  | .obj fields => fields.foldlM (put? origin) {}
  | _ => none

end ManagedFields

namespace ObjectMeta

/-- Metadata as JSON: what is unset is left out. -/
def toJson (m : ObjectMeta) : Json :=
  .obj (Json.field? "annotations" Json.ofTexts m.annotations
    ++ Json.field? "creationTimestamp" Json.ofMoment m.creationTimestamp
    ++ Json.field? "deletionGracePeriodSeconds" Json.int m.deletionGracePeriodSeconds
    ++ Json.field? "deletionTimestamp" Json.ofMoment m.deletionTimestamp
    ++ Json.field? "finalizers" Json.texts m.finalizers
    ++ Json.field? "generateName" Json.str m.generateName
    ++ Json.field? "generation" Json.int m.generation
    ++ Json.field? "labels" Json.ofTexts m.labels
    ++ Json.field? "managedFields" (fun l => .arr (l.map ManagedFields.toJson)) m.managedFields
    ++ Json.field? "name" Json.str m.name
    ++ Json.field? "namespace" Json.str m.space
    ++ Json.field? "ownerReferences" (fun l => .arr (l.map OwnerReference.toJson))
      m.ownerReferences
    ++ Json.field? "resourceVersion" Json.str m.resourceVersion
    ++ Json.field? "selfLink" Json.str m.selfLink
    ++ Json.field? "uid" Json.str m.uid)

/-- The metadata with one more field read. -/
def put? (origin : Json.Origin) (m : ObjectMeta) : String × Json → Option ObjectMeta
  | ("annotations", j) => (Json.orUnset? Json.textMap? j).map fun v => { m with annotations := v }
  | ("creationTimestamp", j) =>
    (Json.orUnset? Json.moment? j).map fun v => { m with creationTimestamp := v }
  | ("deletionGracePeriodSeconds", j) =>
    (Json.orUnset? Json.int64? j).map fun v => { m with deletionGracePeriodSeconds := v }
  | ("deletionTimestamp", j) =>
    (Json.orUnset? Json.moment? j).map fun v => { m with deletionTimestamp := v }
  | ("finalizers", j) =>
    (Json.orUnset? (Json.listOf? encoding.text?) j).map fun v => { m with finalizers := v }
  | ("generateName", j) =>
    (Json.orUnset? encoding.text? j).map fun v => { m with generateName := v }
  | ("generation", j) => (Json.orUnset? Json.int64? j).map fun v => { m with generation := v }
  | ("labels", j) => (Json.orUnset? Json.textMap? j).map fun v => { m with labels := v }
  | ("managedFields", j) =>
    (Json.orUnset? (Json.listOf? (ManagedFields.read? (origin.inside 2))) j).map fun v =>
      { m with managedFields := v }
  | ("name", j) => (Json.orUnset? encoding.text? j).map fun v => { m with name := v }
  | ("namespace", j) => (Json.orUnset? encoding.text? j).map fun v => { m with space := v }
  | ("ownerReferences", j) =>
    (Json.orUnset? (Json.listOf? OwnerReference.ofJson?) j).map fun v =>
      { m with ownerReferences := v }
  | ("resourceVersion", j) =>
    (Json.orUnset? encoding.text? j).map fun v => { m with resourceVersion := v }
  | ("selfLink", j) => (Json.orUnset? encoding.text? j).map fun v => { m with selfLink := v }
  | ("uid", j) => (Json.orUnset? encoding.text? j).map fun v => { m with uid := v }
  | _ => some m

/-- The metadata that a value of some origin describes. -/
def read? (origin : Json.Origin) : Json → Option ObjectMeta
  | .obj fields => fields.foldlM (put? origin) {}
  | _ => none

end ObjectMeta

/-! ## The object -/

namespace ServiceEntry

/-- The API group and version of service entries. -/
def apiVersion : String := "networking.istio.io/v1alpha3"

/-- The kind of service entries. -/
def kind : String := "ServiceEntry"

/-- The fields of an entry that are read. -/
def shape : List FieldName := FieldName.plain ["metadata", "spec"]

/-- An entry as JSON. -/
def toJson (e : ServiceEntry) : Json :=
  .obj [("apiVersion", .str apiVersion), ("kind", .str kind), ("metadata", e.metadata.toJson),
    ("spec", e.spec.toJson)]

/-- The entry that a value of some origin describes. -/
def read? (origin : Json.Origin) (j : Json) : Option ServiceEntry := do
  let r ← encoding.record? shape j
  let metadata ← r.required "metadata" (ObjectMeta.read? (origin.inside 1))
  let spec ← r.required "spec" (ServiceSpec.read? (origin.inside 1))
  return ⟨metadata, spec⟩

/-- The entry that a value describes. -/
def ofJson? (j : Json) : Option ServiceEntry := read? .whole j

end ServiceEntry

end MeshRegistry
