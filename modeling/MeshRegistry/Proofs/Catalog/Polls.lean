import MeshRegistry.Catalog.Watcher
import MeshRegistry.Proofs.Mesh.Pass
import Mathlib.Data.List.Flatten
import Mathlib.Data.List.Perm.Basic
import Mathlib.Tactic.Push
/-!
# What a poll leaves

A poll that fails leaves a watcher as it is, and so does one that finds no new index. Any other poll
replaces the snapshot by what the catalog shows at that moment: the hosts of the services that can
be described and have an instance with an address, each with the endpoints of all services that
share it. Nothing of the snapshot before goes into it.

The endpoints of a host stand in the order in which its services are visited, so they are given up
to that order. There is one for each instance with an address, and it is what the instance gives.

## Main definitions

- `ServiceInstance.HasAddress`: an instance, or the node it runs on, has an address.
- `CatalogWatcher.described`, `CatalogWatcher.reachable`: the endpoints that the description of a
  service gives, and the instances that they belong to.
- `CatalogWatcher.endpointsFor`, `CatalogWatcher.reachableFor`: the same for the services that share
  a host.

## Main results

- `CatalogWatcher.forall₂_endpointsFor`: each endpoint is what its instance gives.
- `CatalogWatcher.get?_snapshotOf`: a snapshot, host by host.
- `CatalogWatcher.refresh_all_or_nothing`: what a poll does to a watcher.
-/

namespace MeshRegistry

namespace ServiceInstance

/-- Whether an instance, or the node it runs on, has an address. -/
def HasAddress (i : ServiceInstance) : Prop := i.serviceAddress ≠ "" ∨ i.nodeAddress ≠ ""

instance : DecidablePred HasAddress := fun _ => inferInstanceAs (Decidable (_ ∨ _))

/-- The endpoints that instances have, one for each that has an address. -/
theorem forall₂_gives (instances : List ServiceInstance) :
    List.Forall₂ Gives (instances.filter HasAddress) (instances.filterMap (·.endpoint?)) := by
  induction instances with
  | nil => exact .nil
  | cons i rest ih =>
    by_cases haddress : i.HasAddress
    · obtain ⟨e, he⟩ := exists_endpoint?_iff.mpr (address_ne_empty_iff.mpr haddress)
      rw [List.filter_cons_of_pos (by simpa using haddress), List.filterMap_cons_some he]
      exact .cons (endpoint?_eq_some_iff.mp he) ih
    · have hnone : i.endpoint? = none := by
        rw [Option.eq_none_iff_forall_ne_some]
        intro e he
        exact haddress (address_ne_empty_iff.mp (exists_endpoint?_iff.mp ⟨e, he⟩))
      rwa [List.filter_cons_of_neg (by simpa using haddress), List.filterMap_cons_none hnone]

end ServiceInstance

namespace CatalogWatcher

/-! ## What one service adds to a snapshot -/

/-- The endpoints that the description of a service gives; there are none when it fails. -/
def described (c : Catalog) (service : String) : List Endpoint :=
  match c.instances service with
  | .error _ => []
  | .ok instances => instances.filterMap (·.endpoint?)

/-- The instances with an address that the description of a service shows; there are none when it
fails. -/
def reachable (c : Catalog) (service : String) : List ServiceInstance :=
  match c.instances service with
  | .error _ => []
  | .ok instances => instances.filter ServiceInstance.HasAddress

/-- What a description gives is one endpoint for each instance with an address. -/
theorem forall₂_described (c : Catalog) (service : String) :
    List.Forall₂ ServiceInstance.Gives (reachable c service) (described c service) := by
  unfold reachable described
  cases c.instances service with
  | error e => exact .nil
  | ok instances => exact ServiceInstance.forall₂_gives instances

/-- A service gives endpoints if it can be described and has an instance with an address. -/
theorem described_ne_nil_iff {c : Catalog} {service : String} :
    described c service ≠ [] ↔
      ∃ instances, c.instances service = .ok instances ∧ ∃ i ∈ instances, i.HasAddress := by
  have hlength := (forall₂_described c service).length_eq
  rw [← List.length_pos_iff, ← hlength, List.length_pos_iff]
  unfold reachable
  cases c.instances service with
  | error e => simp
  | ok instances => simp [List.filter_eq_nil_iff]

theorem addService_eq (hostPrefix : String) (c : Catalog) (s : Snapshot) (service : String) :
    addService hostPrefix c s service =
      addEndpoints s (HostName.key hostPrefix service) (described c service) := by
  unfold addService described
  cases c.instances service with
  | error e => simp [addEndpoints]
  | ok instances => rfl

theorem getD_addEndpoints (s : Snapshot) (key host : String) (es : List Endpoint) :
    ((addEndpoints s key es).get? host).getD [] =
      (s.get? host).getD [] ++ if key = host then es else [] := by
  unfold addEndpoints
  by_cases hes : es = []
  · simp [hes]
  · rw [if_neg hes, SortedMap.get?_insert]
    by_cases hkey : key = host
    · subst hkey
      simp
    · simp [hkey, Ne.symm hkey]

/-- No host gets into a snapshot without endpoints. -/
theorem get?_addEndpoints_ne {s : Snapshot} (h : ∀ host, s.get? host ≠ some []) (key : String)
    (es : List Endpoint) (host : String) : (addEndpoints s key es).get? host ≠ some [] := by
  unfold addEndpoints
  by_cases hes : es = []
  · rw [if_pos hes]
    exact h host
  · rw [if_neg hes, SortedMap.get?_insert]
    split
    · simp [hes]
    · exact h host

/-! ## Snapshots of a list of services -/

/-- The endpoints that services give to a host, in the order of the services. -/
def endpointsFor (hostPrefix : String) (c : Catalog) (services : List String) (host : String) :
    List Endpoint :=
  (services.filter (HostName.key hostPrefix · = host)).flatMap (described c)

/-- The instances with an address of the services that share a host, in the order of the
services. -/
def reachableFor (hostPrefix : String) (c : Catalog) (services : List String) (host : String) :
    List ServiceInstance :=
  (services.filter (HostName.key hostPrefix · = host)).flatMap (reachable c)

section Snapshots

variable (hostPrefix : String) (c : Catalog) (services : List String) (host : String)

/-- A host has one endpoint for each instance with an address of the services that share it. -/
theorem forall₂_endpointsFor :
    List.Forall₂ ServiceInstance.Gives (reachableFor hostPrefix c services host)
      (endpointsFor hostPrefix c services host) := by
  unfold reachableFor endpointsFor
  induction services.filter (HostName.key hostPrefix · = host) with
  | nil => exact .nil
  | cons service rest ih =>
    rw [List.flatMap_cons, List.flatMap_cons]
    exact List.rel_append (forall₂_described c service) ih

theorem endpointsFor_cons (service : String) :
    endpointsFor hostPrefix c (service :: services) host =
      (if HostName.key hostPrefix service = host then described c service else []) ++
        endpointsFor hostPrefix c services host := by
  unfold endpointsFor
  rw [List.filter_cons]
  split <;> simp_all

theorem getD_foldl_addService (s : Snapshot) :
    ((services.foldl (addService hostPrefix c) s).get? host).getD [] =
      (s.get? host).getD [] ++ endpointsFor hostPrefix c services host := by
  -- Each service adds to the end of what one host has, so what is there stays in front.
  induction services generalizing s with
  | nil => simp [endpointsFor]
  | cons service rest ih =>
    rw [List.foldl_cons, ih, addService_eq, getD_addEndpoints, endpointsFor_cons, List.append_assoc]

theorem get?_foldl_addService_ne {s : Snapshot} (h : ∀ host, s.get? host ≠ some []) :
    ∀ host, (services.foldl (addService hostPrefix c) s).get? host ≠ some [] := by
  induction services generalizing s with
  | nil => exact h
  | cons service rest ih =>
    refine ih fun host => ?_
    rw [addService_eq]
    exact get?_addEndpoints_ne h _ _ host

theorem getD_snapshotOf :
    ((snapshotOf hostPrefix c services).get? host).getD [] =
      endpointsFor hostPrefix c services host := by
  have hgiven := getD_foldl_addService hostPrefix c services host .empty
  rwa [SortedMap.get?_empty, Option.getD_none, List.nil_append] at hgiven

/-- A snapshot has the hosts that are given endpoints, with all of those. -/
theorem get?_snapshotOf :
    (snapshotOf hostPrefix c services).get? host =
      if endpointsFor hostPrefix c services host = [] then none
      else some (endpointsFor hostPrefix c services host) := by
  have hne : (snapshotOf hostPrefix c services).get? host ≠ some [] :=
    get?_foldl_addService_ne hostPrefix c services (by simp) host
  rw [← getD_snapshotOf]
  generalize (snapshotOf hostPrefix c services).get? host = found at hne
  cases found with
  | none => rfl
  | some endpoints =>
    have hendpoints : endpoints ≠ [] := fun hnil => hne (congrArg some hnil)
    simp [hendpoints]

theorem endpointsFor_ne_nil_iff :
    endpointsFor hostPrefix c services host ≠ [] ↔
      ∃ service ∈ services, host = HostName.key hostPrefix service ∧ described c service ≠ [] := by
  simp only [endpointsFor, ne_eq, List.flatMap_eq_nil_iff, List.mem_filter, decide_eq_true_eq]
  push Not
  simp only [and_assoc, eq_comm]

/-- In which order services are visited shows only in the order of the endpoints. -/
theorem endpointsFor_perm {hostPrefix : String} {c : Catalog} {services services' : List String}
    (h : services.Perm services') (host : String) :
    (endpointsFor hostPrefix c services host).Perm (endpointsFor hostPrefix c services' host) :=
  (h.filter _).flatMap_right _

theorem mem_keys_snapshotOf_iff :
    host ∈ (snapshotOf hostPrefix c services).keys ↔
      ∃ service ∈ services, host = HostName.key hostPrefix service ∧ described c service ≠ [] := by
  rw [← endpointsFor_ne_nil_iff, SortedMap.mem_keys_iff, get?_snapshotOf]
  split <;> simp_all

end Snapshots

/-! ## Polls -/

/-- A poll replaces the whole snapshot or nothing. If it fails the watcher is what it was, and so it
is if the catalog shows the index that is known. Otherwise the index is the one that the catalog
shows, and the hosts are those of the services that can be described and have an instance with an
address. A host then has, in some order, one endpoint for each instance with an address of the
services that share it, and the endpoint is what the instance gives. What was there before does not
matter. -/
theorem refresh_all_or_nothing (w : CatalogWatcher) (order : Arrangement) (c : Catalog) :
    match w.refresh order c with
    | (.error e, after) => after = w ∧ c.services w.lastIndex = .error e
    | (.ok .unchanged, after) =>
      after = w ∧ ∃ services, c.services w.lastIndex = .ok (services, w.lastIndex)
    | (.ok (.refreshed hosts), after) =>
      ∃ services index, c.services w.lastIndex = .ok (services, index) ∧ index ≠ w.lastIndex ∧
        after = { w with snapshot := after.snapshot, lastIndex := index } ∧
        hosts = after.snapshot.keys.length ∧
        (∀ host, host ∈ after.snapshot.keys ↔
          ∃ service ∈ services.keys, host = HostName.key w.hostPrefix service ∧
            ∃ instances, c.instances service = .ok instances ∧ ∃ i ∈ instances, i.HasAddress) ∧
        (∀ host endpoints, after.snapshot.get? host = some endpoints →
          endpoints.Perm (endpointsFor w.hostPrefix c services.keys host) ∧
          List.Forall₂ ServiceInstance.Gives (reachableFor w.hostPrefix c services.keys host)
            (endpointsFor w.hostPrefix c services.keys host)) ∧
        ∀ before, { w with snapshot := before }.refresh order c =
          (.ok (.refreshed hosts), after) := by
  unfold refresh
  cases hlisted : c.services w.lastIndex with
  | error e => exact ⟨rfl, rfl⟩
  | ok listed =>
    obtain ⟨services, index⟩ := listed
    by_cases hknown : index = w.lastIndex
    · dsimp only
      rw [if_pos hknown]
      exact ⟨rfl, services, by rw [hknown]⟩
    · -- The services are visited in some order, which the order of the endpoints alone tells.
      have hperm := order.perm services.keys
      dsimp only
      rw [if_neg hknown]
      refine ⟨services, index, rfl, hknown, rfl, by simp [SortedMap.size, SortedMap.keys],
        fun host => ?_, fun host endpoints hendpoints => ?_, fun before => ?_⟩
      · rw [mem_keys_snapshotOf_iff]
        simp only [described_ne_nil_iff, hperm.mem_iff]
      · rw [get?_snapshotOf] at hendpoints
        split at hendpoints
        · cases hendpoints
        · rw [← Option.some.inj hendpoints]
          exact ⟨endpointsFor_perm hperm host, forall₂_endpointsFor ..⟩
      · rw [hlisted]
        dsimp only
        rw [if_neg hknown]

end CatalogWatcher

end MeshRegistry
