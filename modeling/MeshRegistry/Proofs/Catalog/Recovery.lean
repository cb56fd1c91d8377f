import MeshRegistry.Proofs.Catalog.Polls
import Mathlib.Algebra.Order.BigOperators.Group.List
import Mathlib.Algebra.Order.Ring.Nat
/-!
# Polls after a failed description

A poll remembers the index of the catalog before it describes the services, and leaves out the
services that it cannot describe. A catalog that stays as it is shows the same index to the next
poll, which then changes nothing. So what a poll has left out stays out until the catalog itself
changes.

The snapshots are compared through the number of endpoints at a host: that number is a sum over
the services, so that neither the order of the visits nor services that share a host matter.

## Main results

- `CatalogWatcher.refresh_refresh`: a second poll of the same catalog changes nothing.
- `CatalogWatcher.refresh_recovers_iff`: exactly when a failure has left no trace after the next
  poll.
-/

namespace MeshRegistry

/-- A catalog whose services, instances and index stay the same. -/
structure FixedCatalog where
  /-- The services with their tags. -/
  services : ServiceNames
  /-- The index that every list of services shows. -/
  index : Nat
  /-- The instances of every service. -/
  instances : String → List ServiceInstance

namespace FixedCatalog

/-- What the catalog answers while some services cannot be described. -/
def answers (c : FixedCatalog) (failure : String → Option CatalogError) : Catalog where
  services _ := .ok (c.services, c.index)
  instances service :=
    match failure service with
    | some e => .error e
    | none => .ok (c.instances service)

/-- What the catalog answers when every call succeeds. -/
def healthy (c : FixedCatalog) : Catalog := c.answers fun _ => none

/-- The endpoints of a service. -/
def endpoints (c : FixedCatalog) (service : String) : List Endpoint :=
  (c.instances service).filterMap (·.endpoint?)

end FixedCatalog

/-- The number of endpoints that a snapshot has at a host. -/
def Snapshot.countAt (s : Snapshot) (host : String) : Nat := ((s.get? host).getD []).length

namespace CatalogWatcher

/-! ## Descriptions -/

theorem described_answers_of_fails {c : FixedCatalog} {failure : String → Option CatalogError}
    {service : String} (h : (failure service).isSome) :
    described (c.answers failure) service = [] := by
  obtain ⟨e, he⟩ := Option.isSome_iff_exists.mp h
  simp [described, FixedCatalog.answers, he]

theorem described_answers_of_succeeds {c : FixedCatalog}
    {failure : String → Option CatalogError} {service : String} (h : failure service = none) :
    described (c.answers failure) service = c.endpoints service := by
  simp [described, FixedCatalog.answers, h, FixedCatalog.endpoints]

theorem described_healthy (c : FixedCatalog) (service : String) :
    described c.healthy service = c.endpoints service :=
  described_answers_of_succeeds rfl

/-! ## Snapshots of a list of services -/

/-- The endpoints at a host are those of the services that share it. -/
theorem countAt_snapshotOf (hostPrefix : String) (c : Catalog) (services : List String)
    (host : String) :
    (snapshotOf hostPrefix c services).countAt host =
      (services.map fun service =>
        if host = HostName.key hostPrefix service then (described c service).length
        else 0).sum := by
  rw [Snapshot.countAt, getD_snapshotOf]
  induction services with
  | nil => rfl
  | cons service rest ih =>
    rw [endpointsFor_cons, List.length_append, ih, List.map_cons, List.sum_cons]
    simp only [eq_comm (a := host)]
    split <;> simp

/-- A host of a snapshot is that of one of the services. -/
theorem exists_service_of_snapshotOf {hostPrefix : String} {c : Catalog} {services : List String}
    {host : String} {endpoints : List Endpoint}
    (h : (snapshotOf hostPrefix c services).get? host = some endpoints) :
    ∃ service ∈ services, host = HostName.key hostPrefix service := by
  have hmem := SortedMap.mem_keys_iff.mpr ⟨endpoints, h⟩
  obtain ⟨service, hservice, hhost, -⟩ := (mem_keys_snapshotOf_iff ..).mp hmem
  exact ⟨service, hservice, hhost⟩

/-- Catalogs that describe the services of a list alike give one snapshot of them. -/
theorem snapshotOf_congr {hostPrefix : String} {c d : Catalog} {services : List String}
    (h : ∀ service ∈ services, described c service = described d service) :
    snapshotOf hostPrefix c services = snapshotOf hostPrefix d services := by
  unfold snapshotOf
  generalize (SortedMap.empty : Snapshot) = s
  induction services generalizing s with
  | nil => rfl
  | cons service rest ih =>
    rw [List.foldl_cons, List.foldl_cons, addService_eq, addService_eq,
      h service (List.mem_cons_self ..)]
    exact ih (fun service hmem => h service (List.mem_cons_of_mem _ hmem)) _

/-- A snapshot in which failures left no trace lacks no endpoint: the services that failed have
none. The two snapshots may have visited the services in different orders. -/
theorem endpoints_eq_nil_of_snapshotOf_eq {hostPrefix : String} {c : FixedCatalog}
    {failure : String → Option CatalogError} {services services' : List String}
    (hperm : services'.Perm services)
    (heq : snapshotOf hostPrefix (c.answers failure) services =
      snapshotOf hostPrefix c.healthy services')
    {service : String} (hmem : service ∈ services) (hfail : (failure service).isSome) :
    c.endpoints service = [] := by
  by_contra hne
  -- The counts at the host of a failed service with endpoints would differ.
  have hcount := congrArg (Snapshot.countAt · (HostName.key hostPrefix service)) heq
  simp only [countAt_snapshotOf, described_healthy] at hcount
  rw [(hperm.map _).sum_eq] at hcount
  refine (List.sum_lt_sum _ _ (fun other _ => ?_) ⟨service, hmem, ?_⟩).ne hcount
  · split
    · cases hother : failure other with
      | none => rw [described_answers_of_succeeds hother]
      | some e =>
        have hnone : described (c.answers failure) other = [] :=
          described_answers_of_fails (by simp [hother])
        simp [hnone]
    · exact le_rfl
  · simpa [described_answers_of_fails hfail] using List.length_pos_iff.mpr hne

/-! ## Polls of a catalog that stays the same -/

theorem refresh_answers (w : CatalogWatcher) (order : Arrangement) (c : FixedCatalog)
    (failure : String → Option CatalogError) :
    (w.refresh order (c.answers failure)).2 =
      if c.index = w.lastIndex then w
      else
        { w with
          snapshot := snapshotOf w.hostPrefix (c.answers failure) (order.arrange c.services.keys)
          lastIndex := c.index } := by
  simp only [refresh, FixedCatalog.answers]
  split <;> rfl

/-- After any poll the index of the catalog is known. -/
theorem lastIndex_refresh (w : CatalogWatcher) (order : Arrangement) (c : FixedCatalog)
    (failure : String → Option CatalogError) :
    (w.refresh order (c.answers failure)).2.lastIndex = c.index := by
  rw [refresh_answers]
  split
  next h => exact h.symm
  next => rfl

/-- A second poll of the same catalog changes nothing, whatever the first one has left out. -/
theorem refresh_refresh (w : CatalogWatcher) (order later : Arrangement) (c : FixedCatalog)
    (failure failure' : String → Option CatalogError) :
    ((w.refresh order (c.answers failure)).2.refresh later (c.answers failure')).2 =
      (w.refresh order (c.answers failure)).2 := by
  rw [refresh_answers _ later, if_pos (lastIndex_refresh w order c failure).symm]

/-- Two polls, of which the first cannot describe some services, leave the snapshot of a single
poll without failures exactly when the index was known before them, or when none of the services
that failed has an endpoint. This does not depend on the order in which the single poll would
have visited the services. -/
theorem refresh_recovers_iff (w : CatalogWatcher) (c : FixedCatalog)
    (failure : String → Option CatalogError) (order later : Arrangement) :
    let failed := (w.refresh order (c.answers failure)).2
    let next := (failed.refresh later c.healthy).2
    let noTrace := c.index = w.lastIndex ∨
      ∀ service ∈ c.services.keys, (failure service).isSome → c.endpoints service = []
    (next.snapshot = (w.refresh order c.healthy).2.snapshot ↔ noTrace) ∧
      ((∃ other : Arrangement, next.snapshot = (w.refresh other c.healthy).2.snapshot) ↔
        noTrace) := by
  intro failed next noTrace
  have hnext : next = failed := refresh_refresh w order later c failure _
  -- What the second poll leaves is what the first one has left, so only that is compared.
  have hsound : noTrace → next.snapshot = (w.refresh order c.healthy).2.snapshot := by
    intro h
    rw [hnext]
    by_cases hknown : c.index = w.lastIndex
    · simp only [failed, FixedCatalog.healthy, refresh_answers, if_pos hknown]
    · simp only [failed, FixedCatalog.healthy, refresh_answers, if_neg hknown]
      refine snapshotOf_congr fun service hmem => ?_
      cases hservice : failure service with
      | none => rw [described_answers_of_succeeds hservice, described_answers_of_succeeds rfl]
      | some e =>
        have hfail : (failure service).isSome := by simp [hservice]
        have hkey := (order.perm _).mem_iff.mp hmem
        rw [described_answers_of_fails hfail, described_answers_of_succeeds rfl,
          h.resolve_left hknown service hkey hfail]
  have hcomplete : ∀ other : Arrangement,
      next.snapshot = (w.refresh other c.healthy).2.snapshot → noTrace := by
    intro other h
    by_cases hknown : c.index = w.lastIndex
    · exact .inl hknown
    · refine .inr fun service hmem hfail => ?_
      rw [hnext] at h
      simp only [failed, FixedCatalog.healthy, refresh_answers, if_neg hknown] at h
      have hperm := (other.perm c.services.keys).trans (order.perm c.services.keys).symm
      exact endpoints_eq_nil_of_snapshotOf_eq hperm h ((order.perm _).mem_iff.mpr hmem) hfail
  exact ⟨⟨hcomplete order, hsound⟩,
    fun ⟨other, h⟩ => hcomplete other h, fun h => ⟨order, hsound h⟩⟩

/-- A service that cannot be described once is missing after the next poll as well. -/
theorem failed_service_stays_missing :
    let c : FixedCatalog :=
      ⟨.singleton "orders" [], 9, fun _ => [{ nodeAddress := "10.0.0.1", servicePort := 80 }]⟩
    let w : CatalogWatcher :=
      { client := ⟨{ scheme := "http", host := none, path := [] }, { endpoint := "consul" }⟩
        targetSpace := "default" }
    let failed := (w.refresh .given (c.answers fun _ => some .noAnswer)).2
    let next := (failed.refresh .given c.healthy).2
    next.snapshot.contains "orders" = false ∧
      next.snapshot ≠ (w.refresh .given c.healthy).2.snapshot := by
  decide +kernel

end CatalogWatcher

end MeshRegistry
