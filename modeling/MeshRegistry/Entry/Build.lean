import MeshRegistry.Address
import MeshRegistry.HostName
import MeshRegistry.Entry.Basic
import MeshRegistry.Config.Registry
/-!
# The entry wanted for a host

A host of a registry and its endpoints determine one service entry. Its name and its only host are
the formatted host name, its ports are the numbers that the endpoints use, and a label names the
kind of registry that it came from.

## Main definitions

- `protocolOf`: the protocol usually served on a port.
- `Endpoint.onPort`, `Endpoint.onWebPorts`: endpoints made from an address.
- `servicePorts`, `resolutionOf`: what endpoints say about their service.
- `EntryBuilder.build`: the entry wanted for a host.
-/

namespace MeshRegistry

/-- The protocol usually served on a port. -/
def protocolOf (port : UInt32) : String :=
  if port = 80 then "http"
  else if port = 443 then "https"
  else if port = 3306 then "mysql"
  else if port = 6379 then "redis"
  else if port = 27017 then "mongo"
  else "tcp"

namespace Endpoint

/-- The endpoint with a port added. -/
def withPort (e : Endpoint) (name : String) (number : UInt32) : Endpoint :=
  { e with ports := e.ports.insert name number }

/-- The endpoint with a label added. -/
def withLabel (e : Endpoint) (key value : String) : Endpoint :=
  { e with labels := e.labels.insert key value }

/-- The endpoint with a weight. -/
def withWeight (e : Endpoint) (weight : UInt32) : Endpoint := { e with weight := some weight }

/-- An endpoint with a single port, named after its protocol. -/
def onPort (address : String) (port : UInt32) : Endpoint :=
  withPort ⟨address, .empty, .empty, none, none, none, none⟩ (protocolOf port) port

/-- The endpoint of an instance that reports no port: it serves both web ports. -/
def onWebPorts (address : String) : Endpoint :=
  withPort (withPort ⟨address, .empty, .empty, none, none, none, none⟩ "http" 80) "https" 443

theorem get?_ports_onPort_eq_some_iff {address name : String} {port number : UInt32} :
    (onPort address port).ports.get? name = some number ↔
      name = protocolOf port ∧ number = port := by
  simp [onPort, withPort, eq_comm]

theorem get?_ports_onWebPorts_eq_some_iff {address name : String} {number : UInt32} :
    (onWebPorts address).ports.get? name = some number ↔
      (name = "http" ∧ number = 80) ∨ (name = "https" ∧ number = 443) := by
  by_cases hhttps : name = "https"
  · subst hhttps
    simp [onWebPorts, withPort, eq_comm]
  · simp [onWebPorts, withPort, hhttps, eq_comm]

end Endpoint

/-- Put a number into an ascending list without repetition. -/
def insertNumber (n : UInt32) : List UInt32 → List UInt32
  | [] => [n]
  | m :: rest =>
    if n < m then n :: m :: rest
    else if n = m then m :: rest
    else m :: insertNumber n rest

/-- The port numbers that endpoints use, ascending. -/
def portNumbers (endpoints : List Endpoint) : List UInt32 :=
  (endpoints.flatMap fun e => e.ports.values).foldl (fun acc n => insertNumber n acc) []

/-- The service port of a number: its name and protocol follow the number alone. -/
def servicePort (number : UInt32) : Port :=
  let name := protocolOf number
  { number, protocol := Text.asciiUppercase name, name }

/-- The service ports that cover every port of the endpoints, one for a number, ascending. -/
def servicePorts (endpoints : List Endpoint) : List Port := (portNumbers endpoints).map servicePort

/-- Static if there are endpoints and all of them have address literals, by name otherwise. -/
def resolutionOf (endpoints : List Endpoint) : Resolution :=
  if !endpoints.isEmpty && endpoints.all fun e => Address.isLiteral e.address then .static else .dns

/-- The label that marks an entry as written from a registry. Its value is the registry's kind. -/
def registryLabel : String := "ASM_Syncer"

/-- What is common to the entries of one registry. -/
structure EntryBuilder where
  /-- The namespace of the entries. -/
  space : String
  /-- The kind of the registry. -/
  registry : RegistryKind
  /-- Where the services live. -/
  location : Location := .meshExternal
  /-- The owner that entries are stamped with. -/
  owner : Option OwnerReference := none

namespace EntryBuilder

/-- The entry wanted for a host with the given endpoints. -/
def build (b : EntryBuilder) (host : String) (endpoints : List Endpoint) : ServiceEntry :=
  let name := HostName.formatted host
  { metadata :=
      { name := some name
        space := some b.space
        labels := some (.singleton registryLabel b.registry.text)
        ownerReferences := b.owner.map fun o => [o] }
    spec :=
      { hosts := [name]
        -- One address literal stands for the service; a name is resolved instead.
        addresses :=
          match endpoints with
          | [] => []
          | e :: _ => if Address.isLiteral e.address then [e.address] else []
        ports := servicePorts endpoints
        location := b.location
        resolution := resolutionOf endpoints
        endpoints := endpoints } }

end EntryBuilder

end MeshRegistry
