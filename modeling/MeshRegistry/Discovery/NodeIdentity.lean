import MeshRegistry.Config.Controller
import MeshRegistry.Text.Ranges
import MeshRegistry.Text.Pieces
import MeshRegistry.Wire.Discovery
/-!
# The identity of a node

A client presents itself to the server as a node. The identifier of the node is put together from
its type, address, workload and namespace; its locality is written with slashes; its metadata says
at least which version of the mesh it speaks.

## Main definitions

- `nodeId`: the identifier of a node.
- `Locality.ofText?`: a locality in up to three parts.
- `NodeIdentity`: the identity, from an identifier or from settings.
- `NodeIdentity.node`: the identity as it is sent.
-/

namespace MeshRegistry

/-- The identifier of a node. -/
def nodeId (nodeType ip workload space : String) : String :=
  nodeType ++ "~" ++ ip ++ "~" ++ workload ++ "." ++ space ++ "~" ++ space ++ ".svc.cluster.local"

/-- A locality in up to three parts: only the first two slashes separate, and what is missing stays
empty. A blank text is no locality. -/
def Locality.ofText? (s : String) : Option Locality :=
  let cs := (Text.trim s).toList
  if cs = [] then none
  else
    match Text.cutFirst? '/' cs with
    | none => some ⟨String.ofList cs, "", ""⟩
    | some (region, rest) =>
      -- Slashes behind the second one belong to the last part.
      match Text.cutFirst? '/' rest with
      | none => some ⟨String.ofList region, String.ofList rest, ""⟩
      | some (zone, subZone) =>
        some ⟨String.ofList region, String.ofList zone, String.ofList subZone⟩

/-- The identity under which a client presents itself. -/
structure NodeIdentity where
  /-- The identifier. -/
  id : String
  /-- Where the node is. -/
  locality : Option Locality
  /-- Metadata of the node. -/
  metadata : SortedMap String String
deriving DecidableEq

namespace NodeIdentity

/-- The key of the version of the mesh in the metadata. -/
def versionKey : String := "ISTIO_VERSION"

/-- The version of the mesh of a node that says nothing else. -/
def defaultVersion : String := "65536.65536.65536"

/-- The identity with a given identifier. -/
def ofId (id : String) : NodeIdentity where
  id
  locality := none
  metadata := SortedMap.empty.insert versionKey defaultVersion

/-- The address of a node: the configured one, or that of the host. -/
def addressOf (hostAddress : String) (s : DiscoverySettings) : String :=
  match s.ip with
  | some ip => if ip = "" then hostAddress else ip
  | none => hostAddress

/-- The identity that settings describe, on a host with a given address. The configured metadata
may replace the version. -/
def ofSettings (hostAddress : String) (s : DiscoverySettings) : NodeIdentity :=
  let base := ofId (nodeId s.nodeType (addressOf hostAddress s) s.workload s.space)
  { base with
    locality := s.locality.bind Locality.ofText?
    metadata := base.metadata.merge s.metadata }

/-- The identity as it is sent. -/
def node (n : NodeIdentity) : Node where
  id := n.id
  metadata := some (n.metadata.mapValues Wire.Value.text)
  locality := n.locality

end NodeIdentity

end MeshRegistry
