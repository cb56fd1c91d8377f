import MeshRegistry.Entry.Json
import MeshRegistry.Json.Access
import MeshRegistry.Mesh.Apply
import MeshRegistry.Mesh.Faults
import MeshRegistry.Mesh.Informer
import MeshRegistry.Mesh.Reconcile
/-!
# What happens to the mesh, as JSON

Snapshots, events, operations and scripted failures as they are written in a scenario, and the
words for what was done.

## Main definitions

- `Snapshot.toJson`, `ofJson`: the endpoints of hosts.
- `WatchEvent.ofJson`, `EntryOp.ofJson`, `Fault.ofJson`, `Reconciler.ofJson`: the parts of a
  scenario.
- `PassReport.toJson`, `ApplyOutcome.text`, `Owner.text`, `Change.text`: what was done.
-/

namespace MeshRegistry

/-- A field that holds an entry; one that does not reads as the entry without fields. -/
def Json.entryAt (j : Json) (key : String) : ServiceEntry :=
  ((j.given? key).bind ServiceEntry.ofJson?).getD ⟨{}, {}⟩

/-- The endpoints in a list. -/
def Json.endpointsAt (j : Json) (key : String) : List Endpoint :=
  (j.itemsAt key).filterMap Endpoint.ofJson?

/-- A field that holds a location. -/
def Json.locationAt (j : Json) (key : String) : Location :=
  ((j.given? key).bind (Location.ofJson? .whole)).getD .meshExternal

/-- A field that holds the kind of a registry. -/
def Json.kindAt (j : Json) (key : String) : RegistryKind :=
  (RegistryKind.ofText? (j.textAt key)).getD .consul

namespace Snapshot

/-- A snapshot as JSON. -/
def toJson (s : Snapshot) : Json := Json.ofMap (fun es => .arr (es.map Endpoint.toJson)) s

/-- The snapshot in a field. -/
def ofJson (j : Json) (key : String) : Snapshot :=
  j.mapAt (fun v => ((Json.encoding.items? v).getD []).filterMap Endpoint.ofJson?) key

end Snapshot

/-! ## Parts of a scenario -/

/-- The event that JSON describes. -/
def WatchEvent.ofJson (j : Json) : WatchEvent :=
  match j.textAt "type" with
  | "init" => .init
  | "init_apply" => .initApply (j.entryAt "entry")
  | "init_done" => .initDone
  | "apply" => .apply (j.entryAt "entry")
  | _ => .delete (j.entryAt "entry")

namespace EntryOp

/-- The operation that JSON describes. -/
def ofJson (j : Json) : EntryOp :=
  if j.textAt "op" == "upsert" then .upsert (j.entryAt "entry") else .delete (j.entryAt "entry")

/-- An operation as JSON. -/
def toJson : EntryOp → Json
  | .upsert e => .obj [("op", .str "upsert"), ("entry", e.toJson)]
  | .delete e => .obj [("op", .str "delete"), ("entry", e.toJson)]

end EntryOp

/-- The scripted failure that JSON describes. -/
def Fault.ofJson (j : Json) : Fault where
  call :=
    match j.textAt "call" with
    | "get" => .get
    | "create" => .create
    | "update" => .update
    | "delete" => .delete
    | _ => .ensureSpace
  kind :=
    match j.textAt "error" with
    | "not_found" => .notFound
    | "conflict" => .conflict
    | _ => .unavailable

namespace Reconciler

/-- The settings that JSON describes, stamping created entries with an owner where it says so. -/
def ofJson (owner : OwnerReference) (j : Json) : Reconciler where
  space := (j.textAt? "namespace").getD "default"
  registry := j.kindAt "registry"
  hostPrefix := j.textAt "prefix"
  location := j.locationAt "location"
  interval := (j.natAt? "interval_ms").getD 5000
  owner := if j.flagAt "stamp" then some owner else none

/-- The settings as fields of an object, but for the interval. -/
def toFields (r : Reconciler) : List (String × Json) :=
  [("namespace", .str r.space), ("prefix", .str r.hostPrefix), ("registry", .str r.registry.text),
    ("location", .str r.location.text), ("owner", Json.ofOption OwnerReference.toJson r.owner)]

end Reconciler

/-! ## What was done -/

/-- A report as JSON. -/
def PassReport.toJson (r : PassReport) : Json :=
  .obj [("created", Json.nat r.created), ("updated", Json.nat r.updated),
    ("unchanged", Json.nat r.unchanged), ("skipped", Json.nat r.skipped),
    ("deleted", Json.nat r.deleted), ("failed", Json.nat r.failed)]

/-- The word for an outcome. -/
def ApplyOutcome.text : ApplyOutcome → String
  | .created => "Created"
  | .updated => "Updated"
  | .unchanged => "Unchanged"
  | .deleted => "Deleted"
  | .absent => "Absent"

/-- The word for an owner. -/
def Owner.text : Owner → String
  | .us => "Us"
  | .them => "Them"
  | .none => "None"

/-- The key of an entry with its version. -/
def ServiceEntry.versionedKey (e : ServiceEntry) : String :=
  e.key.text ++ "#" ++ e.metadata.resourceVersion.getD "-"

/-- A change in words. -/
def Change.text : Change → String
  | .add e => "add " ++ e.versionedKey
  | .update old new => "update " ++ old.versionedKey ++ "->" ++ new.versionedKey
  | .delete e => "delete " ++ e.versionedKey

end MeshRegistry
