import MeshRegistry.Entry.Build
import MeshRegistry.Json.Encoding
/-!
# Instances of a service in a catalog

A catalog lists the instances of each service, with the address of the instance or else of the
node it runs on. An instance without either cannot be reached and has no endpoint.

## Main definitions

- `ServiceInstance`: an instance.
- `ServiceInstance.ofJson?`, `toJson`: its JSON.
- `ServiceInstance.endpoint?`: the endpoint of an instance.
- `ServiceInstance.Gives`: what that endpoint consists of.

## Main results

- `ServiceInstance.endpoint?_eq_some_iff`: the endpoint of an instance is what it gives.
-/

namespace MeshRegistry

/-- An instance of a service. -/
structure ServiceInstance where
  /-- The identity of the node. -/
  id : String := ""
  /-- The name of the node. -/
  node : String := ""
  /-- The address of the node. -/
  nodeAddress : String := ""
  /-- The datacenter of the node. -/
  datacenter : String := ""
  /-- The identity of the instance. -/
  serviceId : String := ""
  /-- The name of the service. -/
  serviceName : String := ""
  /-- The address of the instance. -/
  serviceAddress : String := ""
  /-- The port of the instance, zero when it is not reported. -/
  servicePort : UInt32 := 0
  /-- Tags of the instance. -/
  serviceTags : Option (List String) := none
  /-- Metadata of the instance. -/
  serviceMeta : Option (SortedMap String String) := none
  /-- The namespace of the service in the catalog. -/
  space : String := ""
deriving DecidableEq

namespace ServiceInstance

/-- The fields of an instance. -/
def shape : List FieldName :=
  FieldName.plain ["ID", "Node", "Address", "Datacenter", "ServiceID", "ServiceName",
    "ServiceAddress", "ServicePort", "ServiceTags", "ServiceMeta", "Namespace"]

/-- The instance that a value describes. -/
def ofJson? (j : Json) : Option ServiceInstance := do
  let r ← Json.encoding.record? shape j
  let id ← r.text "ID"
  let node ← r.text "Node"
  let nodeAddress ← r.text "Address"
  let datacenter ← r.text "Datacenter"
  let serviceId ← r.text "ServiceID"
  let serviceName ← r.text "ServiceName"
  let serviceAddress ← r.text "ServiceAddress"
  let servicePort ← r.orElse "ServicePort" 0 Json.encoding.word32?
  let serviceTags ← r.optional "ServiceTags" (Json.encoding.list? Json.encoding.text?)
  let serviceMeta ← r.optional "ServiceMeta" (Json.encoding.map? Json.encoding.text?)
  let space ← r.text "Namespace"
  return { id, node, nodeAddress, datacenter, serviceId, serviceName, serviceAddress, servicePort,
           serviceTags, serviceMeta, space }

/-- An instance as JSON. -/
def toJson (i : ServiceInstance) : Json :=
  .obj ([("ID", .str i.id), ("Node", .str i.node), ("Address", .str i.nodeAddress),
      ("Datacenter", .str i.datacenter), ("ServiceID", .str i.serviceId),
      ("ServiceName", .str i.serviceName), ("ServiceAddress", .str i.serviceAddress),
      ("ServicePort", Json.word32 i.servicePort)]
    ++ Json.field? "ServiceTags" Json.texts i.serviceTags
    ++ Json.field? "ServiceMeta" Json.ofTexts i.serviceMeta
    ++ [("Namespace", .str i.space)])

/-- The instances that a value lists. -/
def listOfJson? (j : Json) : Option (List ServiceInstance) := Json.encoding.list? ofJson? j

/-- The address of an instance: its own, or else that of its node. -/
def address (i : ServiceInstance) : String :=
  if i.serviceAddress = "" then i.nodeAddress else i.serviceAddress

/-- The endpoint of an instance; there is none without an address. -/
def endpoint? (i : ServiceInstance) : Option Endpoint :=
  if i.address = "" then none
  else if i.servicePort = 0 then some (Endpoint.onWebPorts i.address)
  else some (Endpoint.onPort i.address i.servicePort)

/-! ## What the endpoint of an instance is -/

/-- What the catalog says about an endpoint when it lists an instance: where it is reached, at which
ports, and nothing else. -/
structure Gives (i : ServiceInstance) (e : Endpoint) : Prop where
  /-- The endpoint has an address. -/
  reached : e.address ≠ ""
  /-- The address of the instance goes before that of its node. -/
  own : i.serviceAddress ≠ "" → e.address = i.serviceAddress
  /-- An instance without an address is reached at its node. -/
  onNode : i.serviceAddress = "" → e.address = i.nodeAddress
  /-- A reported port is the only one, and named after the protocol usual on it. -/
  reported : i.servicePort ≠ 0 → ∀ name number, e.ports.get? name = some number ↔
    name = protocolOf i.servicePort ∧ number = i.servicePort
  /-- If no port is reported, both web ports stand for it. -/
  web : i.servicePort = 0 → ∀ name number, e.ports.get? name = some number ↔
    (name = "http" ∧ number = 80) ∨ (name = "https" ∧ number = 443)
  /-- Nothing else is known: no labels, network, locality, weight or account. -/
  bare : e = ⟨e.address, e.ports, .empty, none, none, none, none⟩

variable {i : ServiceInstance} {e e' : Endpoint}

theorem address_ne_empty_iff : i.address ≠ "" ↔ i.serviceAddress ≠ "" ∨ i.nodeAddress ≠ "" := by
  unfold address
  by_cases hown : i.serviceAddress = ""
  · simp [hown]
  · simp [hown]

theorem exists_endpoint?_iff : (∃ e, i.endpoint? = some e) ↔ i.address ≠ "" := by
  unfold endpoint?
  by_cases haddress : i.address = ""
  · simp [haddress]
  · by_cases hport : i.servicePort = 0
    · simp [haddress, hport]
    · simp [haddress, hport]

theorem gives_of_endpoint? (h : i.endpoint? = some e) : i.Gives e := by
  have haddress : i.address ≠ "" := exists_endpoint?_iff.mp ⟨e, h⟩
  have hown : i.serviceAddress ≠ "" → i.address = i.serviceAddress := fun hne => if_neg hne
  have hnode : i.serviceAddress = "" → i.address = i.nodeAddress := fun heq => if_pos heq
  unfold endpoint? at h
  rw [if_neg haddress] at h
  -- An endpoint on one port and one on the web ports differ in nothing but these.
  by_cases hport : i.servicePort = 0
  · rw [if_pos hport] at h
    obtain rfl := Option.some.inj h
    exact ⟨haddress, hown, hnode, fun hne => absurd hport hne,
      fun _ _ _ => Endpoint.get?_ports_onWebPorts_eq_some_iff, rfl⟩
  · rw [if_neg hport] at h
    obtain rfl := Option.some.inj h
    exact ⟨haddress, hown, hnode, fun _ _ _ => Endpoint.get?_ports_onPort_eq_some_iff,
      fun heq => absurd heq hport, rfl⟩

/-- An instance determines its endpoint. -/
theorem Gives.unique (h : i.Gives e) (h' : i.Gives e') : e = e' := by
  have haddress : e.address = e'.address := by
    by_cases hown : i.serviceAddress = ""
    · rw [h.onNode hown, h'.onNode hown]
    · rw [h.own hown, h'.own hown]
  have hports : e.ports = e'.ports := by
    -- Maps are equal that answer every name alike.
    refine SortedMap.ext_get? fun name => Option.ext fun number => ?_
    by_cases hport : i.servicePort = 0
    · rw [h.web hport, h'.web hport]
    · rw [h.reported hport, h'.reported hport]
  calc e = ⟨e.address, e.ports, .empty, none, none, none, none⟩ := h.bare
    _ = ⟨e'.address, e'.ports, .empty, none, none, none, none⟩ := by rw [haddress, hports]
    _ = e' := h'.bare.symm

/-- The endpoint of an instance, by what it consists of. -/
theorem endpoint?_eq_some_iff : i.endpoint? = some e ↔ i.Gives e := by
  constructor
  · exact gives_of_endpoint?
  · intro h
    have haddress : i.address ≠ "" := by
      unfold address
      split
      next hown => exact h.onNode hown ▸ h.reached
      next hown => exact hown
    -- So there is an endpoint, and the instance gives no other one than that.
    obtain ⟨found, hfound⟩ := exists_endpoint?_iff.mpr haddress
    rw [hfound, (gives_of_endpoint? hfound).unique h]

end ServiceInstance

end MeshRegistry
