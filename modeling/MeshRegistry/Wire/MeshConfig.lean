import MeshRegistry.Json.Encoding
import MeshRegistry.Json.Printer
import MeshRegistry.Wire.Reading
/-!
# The configuration of the mesh

The part of the mesh-wide configuration that this client keeps. It arrives packed on the discovery
stream, in which all other fields are passed over, and is stored as JSON.

## Main definitions

- `MeshConfig`: the kept part.
- `MeshConfig.encode`, `decode?`: its octets.
- `MeshConfig.toJson`, `ofJson?`, `stored`: its JSON, and the text that is stored.
-/

namespace MeshRegistry

open Wire

/-- The kept part of the mesh-wide configuration. -/
structure MeshConfig where
  /-- The port on which proxies listen. -/
  proxyListenPort : Int32 := 0
  /-- The port of the plain proxy. -/
  proxyHttpPort : Int32 := 0
  /-- The class of ingress that is served. -/
  ingressClass : String := ""
  /-- The service of the ingress. -/
  ingressService : String := ""
  /-- Whether requests are traced. -/
  enableTracing : Bool := false
  /-- The file of the access log. -/
  accessLogFile : String := ""
  /-- The domain of identities. -/
  trustDomain : String := ""
  /-- The namespace of mesh-wide resources. -/
  rootSpace : String := ""
deriving DecidableEq

namespace MeshConfig

/-- A configuration as fields. -/
def fields (c : MeshConfig) : List Field :=
  natField 4 (twosComplement c.proxyListenPort.toInt)
    ++ natField 5 (twosComplement c.proxyHttpPort.toInt) ++ textField 7 c.ingressClass
    ++ textField 8 c.ingressService ++ flagField 12 c.enableTracing
    ++ textField 18 c.accessLogFile ++ textField 26 c.trustDomain ++ textField 34 c.rootSpace

/-- How configurations are read. -/
def reader : Reader MeshConfig where
  empty := {}
  take levels m f :=
    match f.tag with
    | 4 => f.int32?.map fun n => { m with proxyListenPort := n }
    | 5 => f.int32?.map fun n => { m with proxyHttpPort := n }
    | 7 => f.text?.map fun s => { m with ingressClass := s }
    | 8 => f.text?.map fun s => { m with ingressService := s }
    | 12 => f.flag?.map fun b => { m with enableTracing := b }
    | 18 => f.text?.map fun s => { m with accessLogFile := s }
    | 26 => f.text?.map fun s => { m with trustDomain := s }
    | 34 => f.text?.map fun s => { m with rootSpace := s }
    | _ => f.skip? levels m

/-- A configuration as octets. -/
def encode (c : MeshConfig) : List UInt8 := Wire.encode c.fields

/-- The configuration that octets write. -/
def decode? (bs : List UInt8) : Option MeshConfig := reader.message? bs

/-- The fields of a configuration. -/
def shape : List FieldName :=
  FieldName.plain ["proxyListenPort", "proxyHttpPort", "ingressClass", "ingressService",
    "enableTracing", "accessLogFile", "trustDomain", "rootNamespace"]

/-- A configuration as JSON. -/
def toJson (c : MeshConfig) : Json :=
  .obj [("proxyListenPort", .int c.proxyListenPort.toInt),
    ("proxyHttpPort", .int c.proxyHttpPort.toInt), ("ingressClass", .str c.ingressClass),
    ("ingressService", .str c.ingressService), ("enableTracing", .bool c.enableTracing),
    ("accessLogFile", .str c.accessLogFile), ("trustDomain", .str c.trustDomain),
    ("rootNamespace", .str c.rootSpace)]

/-- The configuration that a value describes. -/
def ofJson? (j : Json) : Option MeshConfig := do
  let r ← Json.encoding.record? shape j
  let proxyListenPort ← r.orElse "proxyListenPort" 0 Json.int32?
  let proxyHttpPort ← r.orElse "proxyHttpPort" 0 Json.int32?
  let ingressClass ← r.text "ingressClass"
  let ingressService ← r.text "ingressService"
  let enableTracing ← r.orElse "enableTracing" false Json.encoding.flag?
  let accessLogFile ← r.text "accessLogFile"
  let trustDomain ← r.text "trustDomain"
  let rootSpace ← r.text "rootNamespace"
  return { proxyListenPort, proxyHttpPort, ingressClass, ingressService, enableTracing,
           accessLogFile, trustDomain, rootSpace }

/-- The text under which a configuration is stored. -/
def stored (c : MeshConfig) : String := c.toJson.indented

end MeshConfig

end MeshRegistry
