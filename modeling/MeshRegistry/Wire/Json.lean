import MeshRegistry.Discovery.Received
import MeshRegistry.Json.Access
/-!
# Messages as JSON

The messages of the discovery stream in a form that people can read and write. Every field is
written; a field that is left out reads as its default. Octets are in hexadecimal, and so are the
bits of a number among dynamic values.

## Main definitions

- `Wire.Value.toJson`, `ofJson`: dynamic values.
- `toJson` and `ofJson` of `Any`, `Node`, `StreamedEntry`, `McpResource`, `DiscoveryRequest` and
  `DiscoveryResponse`.
-/

namespace MeshRegistry

/-! ## Dynamic values -/

namespace Wire.Value

/-- Sixty-four bits in hexadecimal. -/
def bitsText (n : Nat) : String :=
  String.ofList ((List.range 16).reverse.map fun i => Text.hexDigit (n / Nat.pow 16 i % 16))

/-- The bits that hexadecimal digits write. -/
def bitsOf (s : String) : Nat :=
  s.toList.foldl (fun n c => 16 * n + (Text.hexDigit? c).getD 0) 0

mutual

/-- A dynamic value as JSON. -/
def toJson : Value → Json
  | unset => .obj [("unset", .bool true)]
  | null => .null
  | number bits => .obj [("bits", .str (bitsText bits))]
  | text s => .str s
  | flag b => .bool b
  | table entries => .obj [("struct", .obj (tableToJson entries))]
  | list items => .arr (listToJson items)

/-- The entries of a table as JSON. -/
def tableToJson : List (String × Value) → List (String × Json)
  | [] => []
  | (k, v) :: rest => (k, toJson v) :: tableToJson rest

/-- The values of a list as JSON. -/
def listToJson : List Value → List Json
  | [] => []
  | v :: rest => toJson v :: listToJson rest

end

mutual

/-- The dynamic value that JSON describes. -/
def ofJson : Json → Value
  | .null => null
  | .bool b => flag b
  | .str s => text s
  | .arr items => list (listOfJson items)
  | .obj [("bits", .str s)] => number (bitsOf s)
  | .obj [("struct", .obj entries)] => table (tableOfJson entries)
  | _ => unset

/-- The table that an object describes. -/
def tableOfJson : List (String × Json) → List (String × Value)
  | [] => []
  | (k, j) :: rest => SortedMap.insertEntry k (ofJson j) (tableOfJson rest)

/-- The values that a list describes. -/
def listOfJson : List Json → List Value
  | [] => []
  | j :: rest => ofJson j :: listOfJson rest

end

end Wire.Value

/-! ## Nodes -/

namespace Locality

/-- A locality as JSON. -/
def toJson (l : Locality) : Json :=
  .obj [("region", .str l.region), ("zone", .str l.zone), ("sub_zone", .str l.subZone)]

/-- The locality that JSON describes. -/
def ofJson (j : Json) : Locality := ⟨j.textAt "region", j.textAt "zone", j.textAt "sub_zone"⟩

end Locality

namespace Node

/-- A node as JSON. -/
def toJson (n : Node) : Json :=
  .obj [("id", .str n.id), ("cluster", .str n.cluster),
    ("metadata", Json.ofOption (Json.ofMap Wire.Value.toJson) n.metadata),
    ("locality", Json.ofOption Locality.toJson n.locality),
    ("user_agent_name", .str n.userAgentName)]

/-- The node that JSON describes. -/
def ofJson (j : Json) : Node where
  id := j.textAt "id"
  cluster := j.textAt "cluster"
  metadata := (j.given? "metadata").map fun _ => j.mapAt Wire.Value.ofJson "metadata"
  locality := (j.given? "locality").map Locality.ofJson
  userAgentName := j.textAt "user_agent_name"

end Node

/-! ## Entries -/

namespace StreamedPort

/-- A port as JSON. -/
def toJson (p : StreamedPort) : Json :=
  .obj [("number", Json.word32 p.number), ("protocol", .str p.protocol), ("name", .str p.name),
    ("target_port", Json.word32 p.targetPort)]

/-- The port that JSON describes. -/
def ofJson (j : Json) : StreamedPort :=
  ⟨j.wordAt "number", j.textAt "protocol", j.textAt "name", j.wordAt "target_port"⟩

end StreamedPort

namespace StreamedEndpoint

/-- An endpoint as JSON. -/
def toJson (e : StreamedEndpoint) : Json :=
  .obj [("address", .str e.address), ("ports", Json.ofMap Json.word32 e.ports),
    ("labels", Json.ofTexts e.labels), ("network", .str e.network), ("locality", .str e.locality),
    ("weight", Json.word32 e.weight), ("service_account", .str e.serviceAccount)]

/-- The endpoint that JSON describes. -/
def ofJson (j : Json) : StreamedEndpoint where
  address := j.textAt "address"
  ports := j.mapAt (fun v => UInt32.ofNat ((Json.encoding.nat? v).getD 0)) "ports"
  labels := j.textMapAt "labels"
  network := j.textAt "network"
  locality := j.textAt "locality"
  weight := j.wordAt "weight"
  serviceAccount := j.textAt "service_account"

end StreamedEndpoint

namespace StreamedEntry

/-- A streamed entry as JSON. -/
def toJson (e : StreamedEntry) : Json :=
  .obj [("hosts", Json.texts e.hosts), ("addresses", Json.texts e.addresses),
    ("ports", .arr (e.ports.map StreamedPort.toJson)), ("location", .int e.location.toInt),
    ("resolution", .int e.resolution.toInt),
    ("endpoints", .arr (e.endpoints.map StreamedEndpoint.toJson)),
    ("export_to", Json.texts e.exportTo), ("subject_alt_names", Json.texts e.subjectAltNames)]

/-- The streamed entry that JSON describes. -/
def ofJson (j : Json) : StreamedEntry where
  hosts := j.textsAt "hosts"
  addresses := j.textsAt "addresses"
  ports := (j.itemsAt "ports").map StreamedPort.ofJson
  location := Int32.ofInt (j.intAt "location")
  resolution := Int32.ofInt (j.intAt "resolution")
  endpoints := (j.itemsAt "endpoints").map StreamedEndpoint.ofJson
  exportTo := j.textsAt "export_to"
  subjectAltNames := j.textsAt "subject_alt_names"

end StreamedEntry

/-! ## Resources -/

namespace Any

/-- A packed message as JSON. -/
def toJson (a : Any) : Json := .obj [("type_url", .str a.typeUrl), ("hex", .str (Text.hex a.value))]

/-- The packed message that JSON describes by its octets. -/
def ofJson (j : Json) : Any := ⟨j.textAt "type_url", (Text.ofHex? (j.textAt "hex")).getD []⟩

end Any

namespace Timestamp

/-- A point in time as JSON. -/
def toJson (t : Timestamp) : Json :=
  .obj [("seconds", .int t.seconds.toInt), ("nanos", .int t.nanos.toInt)]

/-- The point in time that JSON describes. -/
def ofJson (j : Json) : Timestamp :=
  ⟨Int64.ofInt (j.intAt "seconds"), Int32.ofInt (j.intAt "nanos")⟩

end Timestamp

namespace McpMetadata

/-- Metadata as JSON. -/
def toJson (m : McpMetadata) : Json :=
  .obj [("name", .str m.name), ("create_time", Json.ofOption Timestamp.toJson m.createTime),
    ("version", .str m.version), ("labels", Json.ofTexts m.labels),
    ("annotations", Json.ofTexts m.annotations)]

/-- The metadata that JSON describes. -/
def ofJson (j : Json) : McpMetadata where
  name := j.textAt "name"
  createTime := (j.given? "create_time").map Timestamp.ofJson
  version := j.textAt "version"
  labels := j.textMapAt "labels"
  annotations := j.textMapAt "annotations"

end McpMetadata

namespace McpResource

/-- A wrapped resource as JSON. -/
def toJson (r : McpResource) : Json :=
  .obj [("metadata", Json.ofOption McpMetadata.toJson r.metadata),
    ("body", Json.ofOption Any.toJson r.body)]

/-- The wrapped resource that JSON describes, given how its body is described. -/
def ofJson (body : Json → Any) (j : Json) : McpResource :=
  ⟨(j.given? "metadata").map McpMetadata.ofJson, (j.given? "body").map body⟩

end McpResource

namespace ReceivedEntry

/-- A received entry as JSON. -/
def toJson (e : ReceivedEntry) : Json :=
  .obj [("namespace", .str e.key.space), ("name", .str e.key.name), ("version", .str e.version),
    ("create_time", Json.ofOption (fun t => .arr [.int t.1, Json.nat t.2]) e.createTime),
    ("labels", Json.ofTexts e.labels), ("annotations", Json.ofTexts e.annotations),
    ("spec", e.spec.toJson)]

end ReceivedEntry

/-! ## The stream -/

namespace Status

/-- A status as JSON. -/
def toJson (s : Status) : Json :=
  .obj [("code", .int s.code.toInt), ("message", .str s.message),
    ("details", .arr (s.details.map Any.toJson))]

/-- The status that JSON describes. -/
def ofJson (j : Json) : Status :=
  ⟨Int32.ofInt (j.intAt "code"), j.textAt "message", (j.itemsAt "details").map Any.ofJson⟩

end Status

namespace DiscoveryRequest

/-- A request as JSON. -/
def toJson (r : DiscoveryRequest) : Json :=
  .obj [("version_info", .str r.versionInfo), ("node", Json.ofOption Node.toJson r.node),
    ("resource_names", Json.texts r.resourceNames), ("type_url", .str r.typeUrl),
    ("response_nonce", .str r.responseNonce),
    ("error_detail", Json.ofOption Status.toJson r.errorDetail)]

/-- The request that JSON describes. -/
def ofJson (j : Json) : DiscoveryRequest where
  versionInfo := j.textAt "version_info"
  node := (j.given? "node").map Node.ofJson
  resourceNames := j.textsAt "resource_names"
  typeUrl := j.textAt "type_url"
  responseNonce := j.textAt "response_nonce"
  errorDetail := (j.given? "error_detail").map Status.ofJson

end DiscoveryRequest

namespace DiscoveryResponse

/-- An answer as JSON. -/
def toJson (r : DiscoveryResponse) : Json :=
  .obj [("version_info", .str r.versionInfo), ("resources", .arr (r.resources.map Any.toJson)),
    ("canary", .bool r.canary), ("type_url", .str r.typeUrl), ("nonce", .str r.nonce),
    ("control_plane", Json.ofOption (fun c => .obj [("identifier", .str c.identifier)])
      r.controlPlane)]

/-- The answer that JSON describes, given how its resources are described. -/
def ofJson (resource : Json → Any) (j : Json) : DiscoveryResponse where
  versionInfo := j.textAt "version_info"
  resources := (j.itemsAt "resources").map resource
  canary := j.flagAt "canary"
  typeUrl := j.textAt "type_url"
  nonce := j.textAt "nonce"
  controlPlane := (j.given? "control_plane").map fun c => ⟨c.textAt "identifier"⟩

end DiscoveryResponse

end MeshRegistry
