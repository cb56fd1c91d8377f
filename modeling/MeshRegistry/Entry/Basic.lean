import MeshRegistry.Json.Basic
import MeshRegistry.Moment
import MeshRegistry.SortedMap
/-!
# Service entries

A service entry tells the mesh about a service outside of it: the hosts it answers to, its ports,
and the endpoints behind it. The entry is an object of the mesh API and carries metadata: name,
namespace, labels, annotations, the references to its owners, the version of the object, and who
has written which of its fields.

## Main definitions

- `Endpoint`, `Port`, `ServiceSpec`: what an entry says about a service.
- `OwnerReference`, `ManagedFields`, `ObjectMeta`, `ServiceEntry`: the entry as an object.
- `ObjectKey`: namespace and name, under which an object is stored.
-/

namespace MeshRegistry

/-! ## The service -/

/-- Where the service lives relative to the mesh. -/
inductive Location where
  /-- Outside of the mesh. -/
  | meshExternal
  /-- Part of the mesh. -/
  | meshInternal
deriving DecidableEq, Repr, Inhabited

/-- How proxies find the endpoints of a service. -/
inductive Resolution where
  /-- Connect to the address that the caller used. -/
  | none
  /-- Connect to the listed addresses. -/
  | static
  /-- Resolve the host name. -/
  | dns
  /-- Resolve the host name and take the addresses in turn. -/
  | dnsRoundRobin
deriving DecidableEq, Repr, Inhabited

/-- A port of a service. -/
structure Port where
  /-- The port number. -/
  number : UInt32
  /-- The protocol, in upper case. -/
  protocol : String := ""
  /-- The name of the port. -/
  name : String := ""
  /-- The port of the endpoints that receives the traffic, when it differs. -/
  targetPort : Option UInt32 := .none
deriving DecidableEq

/-- A concrete endpoint of a service. -/
structure Endpoint where
  /-- An address literal or a host name. -/
  address : String
  /-- Port numbers by port name. -/
  ports : SortedMap String UInt32 := .empty
  /-- Labels of the workload. -/
  labels : SortedMap String String := .empty
  /-- The network of the workload. -/
  network : Option String := .none
  /-- The locality of the workload. -/
  locality : Option String := .none
  /-- The share of traffic of the endpoint. -/
  weight : Option UInt32 := .none
  /-- The account that the workload runs under. -/
  serviceAccount : Option String := .none
deriving DecidableEq

/-- What a service entry says about a service. -/
structure ServiceSpec where
  /-- The hosts of the service. -/
  hosts : List String := []
  /-- Virtual addresses of the service. -/
  addresses : List String := []
  /-- The ports of the service. -/
  ports : List Port := []
  /-- Where the service lives. -/
  location : Location := .meshExternal
  /-- How its endpoints are found. -/
  resolution : Resolution := .none
  /-- The endpoints of the service. -/
  endpoints : List Endpoint := []
  /-- The namespaces that see the entry. -/
  exportTo : List String := []
  /-- The names expected in the certificates of the service. -/
  subjectAltNames : List String := []
deriving DecidableEq

/-! ## The object -/

/-- A reference to the owner of an object. -/
structure OwnerReference where
  /-- The group and version of the owner. -/
  apiVersion : String := ""
  /-- The kind of the owner. -/
  kind : String := ""
  /-- The name of the owner. -/
  name : String := ""
  /-- The identity of the owner. -/
  uid : String := ""
  /-- Whether the owner is the managing controller. -/
  controller : Option Bool := .none
  /-- Whether the owner waits for the object to go. -/
  blockOwnerDeletion : Option Bool := .none
deriving DecidableEq, Repr

/-- The fields of an object that somebody has written. -/
structure ManagedFields where
  /-- The name of the writer. -/
  manager : Option String := .none
  /-- The way of writing. -/
  operation : Option String := .none
  /-- The group and version in which the fields are named. -/
  apiVersion : Option String := .none
  /-- The notation of the fields. -/
  fieldsType : Option String := .none
  /-- The fields, in the notation that belongs to objects. -/
  fields : Option Json := .none
  /-- The part of the object that was written, unless it was the whole. -/
  subresource : Option String := .none
  /-- When the fields were written. -/
  time : Option Moment := .none
deriving DecidableEq

/-- The metadata of an object. -/
structure ObjectMeta where
  /-- The name of the object. -/
  name : Option String := .none
  /-- The namespace of the object. -/
  space : Option String := .none
  /-- Labels, by which objects are selected. -/
  labels : Option (SortedMap String String) := .none
  /-- Annotations, which carry any other data. -/
  annotations : Option (SortedMap String String) := .none
  /-- The version of the stored object. -/
  resourceVersion : Option String := .none
  /-- The owners of the object. -/
  ownerReferences : Option (List OwnerReference) := .none
  /-- The beginning of a name to be generated. -/
  generateName : Option String := .none
  /-- A number that counts changes of the specification. -/
  generation : Option Int := .none
  /-- The identity of the object. -/
  uid : Option String := .none
  /-- What has to happen before the object may go. -/
  finalizers : Option (List String) := .none
  /-- A link to the object itself. -/
  selfLink : Option String := .none
  /-- When the object was created. -/
  creationTimestamp : Option Moment := .none
  /-- When the object will be deleted. -/
  deletionTimestamp : Option Moment := .none
  /-- How long deletion may take. -/
  deletionGracePeriodSeconds : Option Int := .none
  /-- Who has written which fields of the object. -/
  managedFields : Option (List ManagedFields) := .none
deriving DecidableEq

/-- A service entry. -/
structure ServiceEntry where
  /-- The metadata of the object. -/
  metadata : ObjectMeta
  /-- The service. -/
  spec : ServiceSpec
deriving DecidableEq

/-- The key under which an object is stored: its namespace and its name. -/
structure ObjectKey where
  /-- The namespace. -/
  space : String
  /-- The name. -/
  name : String
deriving DecidableEq, Repr

namespace ObjectKey

/-- Keys are ordered by namespace and, within one, by name. -/
instance : Ord ObjectKey where
  compare a b := (compare a.space b.space).then (compare a.name b.name)

theorem compare_def (a b : ObjectKey) :
    compare a b = (compare a.space b.space).then (compare a.name b.name) := rfl

instance : Std.TransOrd ObjectKey where
  eq_swap := by
    intro a b
    simp only [compare_def, Ordering.swap_then]
    rw [@Std.OrientedCmp.eq_swap _ compare _ a.space b.space,
      @Std.OrientedCmp.eq_swap _ compare _ a.name b.name]
  isLE_trans := by
    intro a b c hab hbc
    simp only [compare_def, Ordering.isLE_then_iff_or] at *
    rcases hab with hab | ⟨hab, hab'⟩ <;> rcases hbc with hbc | ⟨hbc, hbc'⟩
    · exact .inl (Std.TransCmp.lt_trans hab hbc)
    · exact .inl (Std.TransCmp.lt_of_lt_of_eq hab hbc)
    · exact .inl (Std.TransCmp.lt_of_eq_of_lt hab hbc)
    · exact .inr ⟨Std.TransCmp.eq_trans hab hbc, Std.TransCmp.isLE_trans hab' hbc'⟩

instance : Std.LawfulEqOrd ObjectKey where
  compare_self := by
    intro a
    simp
  eq_of_compare := by
    intro a b h
    rw [compare_def, Ordering.then_eq_eq] at h
    cases a
    cases b
    simp_all

/-- The key as one text, with a slash between namespace and name. -/
def text (k : ObjectKey) : String := k.space ++ "/" ++ k.name

end ObjectKey

namespace ServiceEntry

/-- The name of an entry, empty when it is unset. -/
def name (e : ServiceEntry) : String := e.metadata.name.getD ""

/-- The namespace of an entry, empty when it is unset. -/
def space (e : ServiceEntry) : String := e.metadata.space.getD ""

/-- The key of an entry. -/
def key (e : ServiceEntry) : ObjectKey := ⟨e.space, e.name⟩

/-- The value of a label. -/
def label? (e : ServiceEntry) (k : String) : Option String := e.metadata.labels.bind (·.get? k)

/-- The value of an annotation. -/
def annotation? (e : ServiceEntry) (k : String) : Option String :=
  e.metadata.annotations.bind (·.get? k)

/-- The entry with a resource version. -/
def withVersion (e : ServiceEntry) (version : Option String) : ServiceEntry :=
  { e with metadata := { e.metadata with resourceVersion := version } }

/-- The entry with another specification. -/
def withSpec (e : ServiceEntry) (spec : ServiceSpec) : ServiceEntry := { e with spec := spec }

@[simp] theorem key_withVersion (e : ServiceEntry) (v : Option String) :
    (e.withVersion v).key = e.key := rfl

@[simp] theorem spec_withVersion (e : ServiceEntry) (v : Option String) :
    (e.withVersion v).spec = e.spec := rfl

end ServiceEntry

end MeshRegistry
