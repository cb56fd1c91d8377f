import MeshRegistry.Wire.Value
/-!
# The messages of the discovery stream

A client asks for resources of a type and acknowledges each answer; the server answers with
resources, each packed together with the address of its type. A request carries the identity of
the node that asks.

## Main definitions

- `Any`: a packed message.
- `Node`, `Locality`: the identity of a node.
- `DiscoveryRequest`, `DiscoveryResponse`: the two directions of the stream.
- `TypeUrl`: the types that a client knows.
-/

namespace MeshRegistry

open Wire

/-- A packed message: the address of its type and its octets. -/
structure Any where
  /-- The address of the type. -/
  typeUrl : String := ""
  /-- The encoded message. -/
  value : List UInt8 := []
deriving DecidableEq, Inhabited

/-- Where a node is. -/
structure Locality where
  /-- The region. -/
  region : String := ""
  /-- The zone within the region. -/
  zone : String := ""
  /-- The part of the zone. -/
  subZone : String := ""
deriving DecidableEq, Repr

/-- The identity of a node. -/
structure Node where
  /-- The identifier of the node. -/
  id : String := ""
  /-- The cluster of the node. -/
  cluster : String := ""
  /-- Further data about the node. -/
  metadata : Option (SortedMap String Value) := none
  /-- Where the node is. -/
  locality : Option Locality := none
  /-- The name of the program. -/
  userAgentName : String := ""

/-- Why a resource was refused. -/
structure Status where
  /-- The code of the failure. -/
  code : Int32 := 0
  /-- What went wrong. -/
  message : String := ""
  /-- Further data. -/
  details : List Any := []
deriving DecidableEq

/-- A request for resources, or the acknowledgment of an answer. -/
structure DiscoveryRequest where
  /-- The version that is acknowledged. -/
  versionInfo : String := ""
  /-- The node that asks. -/
  node : Option Node := none
  /-- The names of the wanted resources. -/
  resourceNames : List String := []
  /-- The type of the wanted resources. -/
  typeUrl : String := ""
  /-- The mark of the acknowledged answer. -/
  responseNonce : String := ""
  /-- Why an answer was refused. -/
  errorDetail : Option Status := none

/-- The server that answers. -/
structure ControlPlane where
  /-- The identifier of the server. -/
  identifier : String := ""
deriving DecidableEq, Repr

/-- An answer with resources. -/
structure DiscoveryResponse where
  /-- The version of the resources. -/
  versionInfo : String := ""
  /-- The resources. -/
  resources : List Any := []
  /-- Whether the answer is a trial. -/
  canary : Bool := false
  /-- The type of the resources. -/
  typeUrl : String := ""
  /-- The mark of this answer. -/
  nonce : String := ""
  /-- The server. -/
  controlPlane : Option ControlPlane := none
deriving DecidableEq

/-- A resource of which only the name is read. -/
structure NamedResource where
  /-- The name. -/
  name : String := ""
deriving DecidableEq, Repr

/-! ## Types of resources -/

namespace TypeUrl

/-- Service entries, wrapped with their metadata. -/
def serviceEntry : String := "networking.istio.io/v1alpha3/ServiceEntry"

/-- The configuration of the whole mesh. -/
def meshConfig : String := "mesh.istio.io/v1alpha1/MeshConfig"

/-- The endpoints of a cluster. -/
def endpoint : String := "type.googleapis.com/envoy.config.endpoint.v3.ClusterLoadAssignment"

/-- The routes of a listener. -/
def route : String := "type.googleapis.com/envoy.config.route.v3.RouteConfiguration"

/-- The service entry inside a wrapped resource. -/
def istioServiceEntry : String := "type.googleapis.com/istio.networking.v1alpha3.ServiceEntry"

/-- A wrapped resource. -/
def mcpResource : String := "type.googleapis.com/istio.mcp.v1alpha1.Resource"

end TypeUrl

/-! ## Reading and writing -/

namespace Any

/-- A packed message as fields. -/
def fields (a : Any) : List Field := textField 1 a.typeUrl ++ octetsField 2 a.value

/-- How packed messages are read. -/
def reader : Reader Any where
  empty := {}
  take levels m f :=
    match f.tag with
    | 1 => f.text?.map fun s => { m with typeUrl := s }
    | 2 => f.octets?.map fun bs => { m with value := bs }
    | _ => f.skip? levels m

/-- Pack a message, given its fields. -/
def pack (typeUrl : String) (fields : List Field) : Any := ⟨typeUrl, encode fields⟩

end Any

namespace Locality

/-- A locality as fields. -/
def fields (l : Locality) : List Field :=
  textField 1 l.region ++ textField 2 l.zone ++ textField 3 l.subZone

/-- How localities are read. -/
def reader : Reader Locality where
  empty := {}
  take levels m f :=
    match f.tag with
    | 1 => f.text?.map fun s => { m with region := s }
    | 2 => f.text?.map fun s => { m with zone := s }
    | 3 => f.text?.map fun s => { m with subZone := s }
    | _ => f.skip? levels m

end Locality

namespace Node

/-- A node as fields. -/
def fields (n : Node) : List Field :=
  textField 1 n.id ++ textField 2 n.cluster ++ optionField 3 tableFields n.metadata
    ++ optionField 4 Locality.fields n.locality ++ textField 6 n.userAgentName

/-- How nodes are read. -/
def reader : Reader Node where
  empty := {}
  take levels m f :=
    match f.tag with
    | 1 => f.text?.map fun s => { m with id := s }
    | 2 => f.text?.map fun s => { m with cluster := s }
    | 3 =>
      (f.nested? tableReader levels (m.metadata.getD .empty)).map fun t =>
        { m with metadata := some t }
    | 4 =>
      (f.nested? Locality.reader levels (m.locality.getD {})).map fun l =>
        { m with locality := some l }
    | 6 => f.text?.map fun s => { m with userAgentName := s }
    | _ => f.skip? levels m

end Node

namespace Status

/-- A status as fields. -/
def fields (s : Status) : List Field :=
  natField 1 (twosComplement s.code.toInt) ++ textField 2 s.message
    ++ s.details.map fun a => nestedField 3 a.fields

/-- How statuses are read. -/
def reader : Reader Status where
  empty := {}
  take levels m f :=
    match f.tag with
    | 1 => f.int32?.map fun n => { m with code := n }
    | 2 => f.text?.map fun s => { m with message := s }
    | 3 => (f.nested? Any.reader levels {}).map fun a => { m with details := m.details ++ [a] }
    | _ => f.skip? levels m

end Status

namespace DiscoveryRequest

/-- A request as fields. -/
def fields (r : DiscoveryRequest) : List Field :=
  textField 1 r.versionInfo ++ optionField 2 Node.fields r.node ++ textFields 3 r.resourceNames
    ++ textField 4 r.typeUrl ++ textField 5 r.responseNonce
    ++ optionField 6 Status.fields r.errorDetail

/-- How requests are read. -/
def reader : Reader DiscoveryRequest where
  empty := {}
  take levels m f :=
    match f.tag with
    | 1 => f.text?.map fun s => { m with versionInfo := s }
    | 2 => (f.nested? Node.reader levels (m.node.getD {})).map fun n => { m with node := some n }
    | 3 => f.text?.map fun s => { m with resourceNames := m.resourceNames ++ [s] }
    | 4 => f.text?.map fun s => { m with typeUrl := s }
    | 5 => f.text?.map fun s => { m with responseNonce := s }
    | 6 =>
      (f.nested? Status.reader levels (m.errorDetail.getD {})).map fun s =>
        { m with errorDetail := some s }
    | _ => f.skip? levels m

/-- A request as octets. -/
def encode (r : DiscoveryRequest) : List UInt8 := Wire.encode r.fields

/-- The request that octets write. -/
def decode? (bs : List UInt8) : Option DiscoveryRequest := reader.message? bs

end DiscoveryRequest

namespace ControlPlane

/-- A server as fields. -/
def fields (c : ControlPlane) : List Field := textField 1 c.identifier

/-- How servers are read. -/
def reader : Reader ControlPlane where
  empty := {}
  take levels m f :=
    match f.tag with
    | 1 => f.text?.map fun s => { m with identifier := s }
    | _ => f.skip? levels m

end ControlPlane

namespace DiscoveryResponse

/-- An answer as fields. -/
def fields (r : DiscoveryResponse) : List Field :=
  textField 1 r.versionInfo ++ (r.resources.map fun a => nestedField 2 a.fields)
    ++ flagField 3 r.canary ++ textField 4 r.typeUrl ++ textField 5 r.nonce
    ++ optionField 6 ControlPlane.fields r.controlPlane

/-- How answers are read. -/
def reader : Reader DiscoveryResponse where
  empty := {}
  take levels m f :=
    match f.tag with
    | 1 => f.text?.map fun s => { m with versionInfo := s }
    | 2 => (f.nested? Any.reader levels {}).map fun a => { m with resources := m.resources ++ [a] }
    | 3 => f.flag?.map fun b => { m with canary := b }
    | 4 => f.text?.map fun s => { m with typeUrl := s }
    | 5 => f.text?.map fun s => { m with nonce := s }
    | 6 =>
      (f.nested? ControlPlane.reader levels (m.controlPlane.getD {})).map fun c =>
        { m with controlPlane := some c }
    | _ => f.skip? levels m

/-- An answer as octets. -/
def encode (r : DiscoveryResponse) : List UInt8 := Wire.encode r.fields

/-- The answer that octets write. -/
def decode? (bs : List UInt8) : Option DiscoveryResponse := reader.message? bs

end DiscoveryResponse

namespace NamedResource

/-- A named resource as fields. -/
def fields (r : NamedResource) : List Field := textField 1 r.name

/-- How named resources are read. -/
def reader : Reader NamedResource where
  empty := {}
  take levels m f :=
    match f.tag with
    | 1 => f.text?.map fun s => { m with name := s }
    | _ => f.skip? levels m

/-- A named resource as octets. -/
def encode (r : NamedResource) : List UInt8 := Wire.encode r.fields

/-- The named resource that octets write. -/
def decode? (bs : List UInt8) : Option NamedResource := reader.message? bs

end NamedResource

end MeshRegistry
