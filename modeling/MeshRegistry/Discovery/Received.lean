import MeshRegistry.Discovery.Names
import MeshRegistry.Text.Casing
import MeshRegistry.Wire.Resource
/-!
# Received entries

What a wrapped resource says, and the service entry it stands for. A resource is accepted when it
has metadata, its name has two parts, and its body is absent or an entry. In the service entry the
name and the hosts are in lower case, endpoints keep the labels that select a workload and no
others, and what reads as zero or empty is unset.

## Main definitions

- `ReceivedEntry`: an accepted resource.
- `ReceivedEntry.ofResource`: the entry in a resource, or why it is refused.
- `ReceivedEntry.toEntry`: the service entry that it stands for.
- `translate`: from the resource to the service entry.
- `Timestamp.instant?`: the instant of a time stamp.
-/

namespace MeshRegistry

/-! ## Times and numbers -/

/-- The instant of a time stamp: seconds of the calendar's range, and nanoseconds. A negative
number of nanoseconds counts as none; a second and more is only possible in the last second of a
minute. -/
def Timestamp.instant? (t : Timestamp) : Option (Int × Nat) :=
  let seconds := t.seconds.toInt
  let nanos := t.nanos.toInt.toNat
  if -8334601228800 ≤ seconds ∧ seconds ≤ 8210266876799 then
    if nanos < 1000000000 ∨ (nanos < 2000000000 ∧ seconds % 60 = 59) then some (seconds, nanos)
    else none
  else none

/-- The location with a given number; an unknown number is outside of the mesh. -/
def Location.ofNumber (n : Int32) : Location := if n = 1 then .meshInternal else .meshExternal

/-- The resolution with a given number; an unknown number is none. -/
def Resolution.ofNumber (n : Int32) : Resolution :=
  if n = 1 then .static else if n = 2 then .dns else if n = 3 then .dnsRoundRobin else .none

/-! ## Accepted resources -/

/-- An accepted resource. -/
structure ReceivedEntry where
  /-- The namespace and the name, as given. -/
  key : ObjectKey
  /-- The version of the resource. -/
  version : String
  /-- When the resource was created. -/
  createTime : Option (Int × Nat)
  /-- Labels. -/
  labels : SortedMap String String
  /-- Annotations. -/
  annotations : SortedMap String String
  /-- The entry. -/
  spec : StreamedEntry
deriving DecidableEq

/-- The last piece of an address of a type. -/
def lastPiece (url : String) : String :=
  String.ofList ((Text.pieces '/' url.toList).getLast?.getD [])

/-- Whether the body of a resource is a service entry, by the address of its type. -/
def isEntryBody (typeUrl : String) : Bool :=
  typeUrl == "" || typeUrl == TypeUrl.istioServiceEntry
    || lastPiece typeUrl == "istio.networking.v1alpha3.ServiceEntry"

/-- The entry in the body of a resource; an absent body is the entry without fields. -/
def bodyEntry : Option Any → Except DiscoveryError StreamedEntry
  | none => .ok {}
  | some body =>
    if isEntryBody body.typeUrl then
      match StreamedEntry.decode? body.value with
      | some spec => .ok spec
      | none => .error .undecodable
    else .error (.unsupportedType body.typeUrl)

namespace ReceivedEntry

/-- The entry in a resource, or why it is refused. -/
def ofResource (r : McpResource) : Except DiscoveryError ReceivedEntry :=
  match r.metadata with
  | none => .error .missingMetadata
  | some m => do
    -- The name is refused before the body is.
    let key ← resourceKey m.name
    let spec ← bodyEntry r.body
    return { key, version := m.version, createTime := m.createTime.bind Timestamp.instant?,
             labels := m.labels, annotations := m.annotations, spec }

/-! ## Service entries -/

/-- The labels of endpoints that are kept. -/
def keptLabels : List String := ["app", "version"]

/-- A text that is unset when it is empty. -/
def nonempty? (s : String) : Option String := if s = "" then none else some s

/-- A number that is unset when it is zero. -/
def nonzero? (n : UInt32) : Option UInt32 := if n = 0 then none else some n

/-- An endpoint of the service entry. -/
def endpoint (e : StreamedEndpoint) : Endpoint where
  address := e.address
  ports := e.ports
  labels := e.labels.filter fun k _ => keptLabels.contains k
  network := nonempty? e.network
  locality := nonempty? e.locality
  weight := nonzero? e.weight
  serviceAccount := nonempty? e.serviceAccount

/-- A port of the service entry. -/
def port (p : StreamedPort) : Port where
  number := p.number
  protocol := p.protocol
  name := p.name
  targetPort := nonzero? p.targetPort

/-- The specification of the service entry. -/
def serviceSpec (s : StreamedEntry) : ServiceSpec where
  hosts := s.hosts.map Text.lowercase
  addresses := s.addresses
  ports := s.ports.map port
  location := .ofNumber s.location
  resolution := .ofNumber s.resolution
  endpoints := s.endpoints.map endpoint
  exportTo := s.exportTo
  subjectAltNames := s.subjectAltNames

/-- A map that is unset when it is empty. -/
def nonemptyMap? (m : SortedMap String String) : Option (SortedMap String String) :=
  if m.isEmpty then none else some m

/-- The service entry that a received entry stands for. -/
def toEntry (e : ReceivedEntry) : ServiceEntry where
  metadata :=
    { name := some (Text.lowercase e.key.name)
      space := some e.key.space
      labels := nonemptyMap? e.labels
      annotations := nonemptyMap? e.annotations }
  spec := serviceSpec e.spec

end ReceivedEntry

/-- The service entry that a resource stands for, or why it is refused. -/
def translate (r : McpResource) : Except DiscoveryError ServiceEntry :=
  (ReceivedEntry.ofResource r).map ReceivedEntry.toEntry

end MeshRegistry
