import MeshRegistry.Wire.Discovery
/-!
# Service entries on the stream

A streamed service entry is wrapped: a resource has metadata with a name of two parts, a version
and a time, and a packed body, the entry itself. Numbers and texts that are not set read as zero
and as empty.

## Main definitions

- `McpResource`, `McpMetadata`, `Timestamp`: the wrapped resource.
- `StreamedEntry`, `StreamedPort`, `StreamedEndpoint`: the entry.
-/

namespace MeshRegistry

open Wire

/-- A point in time. -/
structure Timestamp where
  /-- Seconds since the epoch. -/
  seconds : Int64 := 0
  /-- Nanoseconds within the second. -/
  nanos : Int32 := 0
deriving DecidableEq

/-- The metadata of a resource. -/
structure McpMetadata where
  /-- Namespace and name, with a slash between them. -/
  name : String := ""
  /-- When the resource was created. -/
  createTime : Option Timestamp := none
  /-- The version of the resource. -/
  version : String := ""
  /-- Labels. -/
  labels : SortedMap String String := .empty
  /-- Annotations. -/
  annotations : SortedMap String String := .empty
deriving DecidableEq

/-- A wrapped resource. -/
structure McpResource where
  /-- The metadata. -/
  metadata : Option McpMetadata := none
  /-- The packed body. -/
  body : Option Any := none
deriving DecidableEq, Inhabited

/-- A port of a streamed entry. -/
structure StreamedPort where
  /-- The port number. -/
  number : UInt32 := 0
  /-- The protocol. -/
  protocol : String := ""
  /-- The name. -/
  name : String := ""
  /-- The port of the endpoints, zero when it is the same. -/
  targetPort : UInt32 := 0
deriving DecidableEq

/-- An endpoint of a streamed entry. -/
structure StreamedEndpoint where
  /-- The address. -/
  address : String := ""
  /-- Port numbers by port name. -/
  ports : SortedMap String UInt32 := .empty
  /-- Labels. -/
  labels : SortedMap String String := .empty
  /-- The network. -/
  network : String := ""
  /-- The locality. -/
  locality : String := ""
  /-- The weight, zero when it is unset. -/
  weight : UInt32 := 0
  /-- The account of the workload. -/
  serviceAccount : String := ""
deriving DecidableEq

/-- A streamed entry. Location and resolution are numbers, which may be out of range. -/
structure StreamedEntry where
  /-- The hosts. -/
  hosts : List String := []
  /-- Virtual addresses. -/
  addresses : List String := []
  /-- The ports. -/
  ports : List StreamedPort := []
  /-- The number of the location. -/
  location : Int32 := 0
  /-- The number of the resolution. -/
  resolution : Int32 := 0
  /-- The endpoints. -/
  endpoints : List StreamedEndpoint := []
  /-- The namespaces that see the entry. -/
  exportTo : List String := []
  /-- The names in the certificates of the service. -/
  subjectAltNames : List String := []
deriving DecidableEq

namespace Timestamp

/-- A point in time as fields. -/
def fields (t : Timestamp) : List Field :=
  natField 1 (twosComplement t.seconds.toInt) ++ natField 2 (twosComplement t.nanos.toInt)

/-- How points in time are read. -/
def reader : Reader Timestamp where
  empty := {}
  take levels m f :=
    match f.tag with
    | 1 => f.int64?.map fun n => { m with seconds := n }
    | 2 => f.int32?.map fun n => { m with nanos := n }
    | _ => f.skip? levels m

end Timestamp

namespace McpMetadata

/-- Metadata as fields. -/
def fields (m : McpMetadata) : List Field :=
  textField 1 m.name ++ optionField 2 Timestamp.fields m.createTime ++ textField 3 m.version
    ++ textMapFields 4 m.labels ++ textMapFields 5 m.annotations

/-- How metadata is read. -/
def reader : Reader McpMetadata where
  empty := {}
  maps := [4, 5]
  take levels m f :=
    match f.tag with
    | 1 => f.text?.map fun s => { m with name := s }
    | 2 =>
      (f.nested? Timestamp.reader levels (m.createTime.getD {})).map fun t =>
        { m with createTime := some t }
    | 3 => f.text?.map fun s => { m with version := s }
    | 4 => (f.textEntry? levels).map fun e => { m with labels := m.labels.insert e.1 e.2 }
    | 5 => (f.textEntry? levels).map fun e => { m with annotations := m.annotations.insert e.1 e.2 }
    | _ => f.skip? levels m

end McpMetadata

namespace McpResource

/-- A wrapped resource as fields. -/
def fields (r : McpResource) : List Field :=
  optionField 1 McpMetadata.fields r.metadata ++ optionField 2 Any.fields r.body

/-- How wrapped resources are read. -/
def reader : Reader McpResource where
  empty := {}
  take levels m f :=
    match f.tag with
    | 1 =>
      (f.nested? McpMetadata.reader levels (m.metadata.getD {})).map fun x =>
        { m with metadata := some x }
    | 2 => (f.nested? Any.reader levels (m.body.getD {})).map fun x => { m with body := some x }
    | _ => f.skip? levels m

/-- A wrapped resource as octets. -/
def encode (r : McpResource) : List UInt8 := Wire.encode r.fields

/-- The wrapped resource that octets write. -/
def decode? (bs : List UInt8) : Option McpResource := reader.message? bs

end McpResource

namespace StreamedPort

/-- A port as fields. -/
def fields (p : StreamedPort) : List Field :=
  natField 1 p.number.toNat ++ textField 2 p.protocol ++ textField 3 p.name
    ++ natField 4 p.targetPort.toNat

/-- How ports are read. -/
def reader : Reader StreamedPort where
  empty := {}
  take levels m f :=
    match f.tag with
    | 1 => f.word?.map fun n => { m with number := n }
    | 2 => f.text?.map fun s => { m with protocol := s }
    | 3 => f.text?.map fun s => { m with name := s }
    | 4 => f.word?.map fun n => { m with targetPort := n }
    | _ => f.skip? levels m

end StreamedPort

namespace StreamedEndpoint

/-- An endpoint as fields. -/
def fields (e : StreamedEndpoint) : List Field :=
  textField 1 e.address ++ wordMapFields 2 e.ports ++ textMapFields 3 e.labels
    ++ textField 4 e.network ++ textField 5 e.locality ++ natField 6 e.weight.toNat
    ++ textField 7 e.serviceAccount

/-- How endpoints are read. -/
def reader : Reader StreamedEndpoint where
  empty := {}
  maps := [2, 3]
  take levels m f :=
    match f.tag with
    | 1 => f.text?.map fun s => { m with address := s }
    | 2 => (f.wordEntry? levels).map fun e => { m with ports := m.ports.insert e.1 e.2 }
    | 3 => (f.textEntry? levels).map fun e => { m with labels := m.labels.insert e.1 e.2 }
    | 4 => f.text?.map fun s => { m with network := s }
    | 5 => f.text?.map fun s => { m with locality := s }
    | 6 => f.word?.map fun n => { m with weight := n }
    | 7 => f.text?.map fun s => { m with serviceAccount := s }
    | _ => f.skip? levels m

end StreamedEndpoint

namespace StreamedEntry

/-- A streamed entry as fields. -/
def fields (e : StreamedEntry) : List Field :=
  textFields 1 e.hosts ++ textFields 2 e.addresses
    ++ (e.ports.map fun p => nestedField 3 p.fields)
    ++ natField 4 (twosComplement e.location.toInt)
    ++ natField 5 (twosComplement e.resolution.toInt)
    ++ (e.endpoints.map fun x => nestedField 6 x.fields) ++ textFields 7 e.exportTo
    ++ textFields 8 e.subjectAltNames

/-- How streamed entries are read. -/
def reader : Reader StreamedEntry where
  empty := {}
  take levels m f :=
    match f.tag with
    | 1 => f.text?.map fun s => { m with hosts := m.hosts ++ [s] }
    | 2 => f.text?.map fun s => { m with addresses := m.addresses ++ [s] }
    | 3 => (f.nested? StreamedPort.reader levels {}).map fun p => { m with ports := m.ports ++ [p] }
    | 4 => f.int32?.map fun n => { m with location := n }
    | 5 => f.int32?.map fun n => { m with resolution := n }
    | 6 =>
      (f.nested? StreamedEndpoint.reader levels {}).map fun e =>
        { m with endpoints := m.endpoints ++ [e] }
    | 7 => f.text?.map fun s => { m with exportTo := m.exportTo ++ [s] }
    | 8 => f.text?.map fun s => { m with subjectAltNames := m.subjectAltNames ++ [s] }
    | _ => f.skip? levels m

/-- A streamed entry as octets. -/
def encode (e : StreamedEntry) : List UInt8 := Wire.encode e.fields

/-- The streamed entry that octets write. -/
def decode? (bs : List UInt8) : Option StreamedEntry := reader.message? bs

end StreamedEntry

end MeshRegistry
