import MeshRegistry.Proofs.Catalog.Polls
import MeshRegistry.Proofs.Mesh.Versions
/-!
# The order in which services are visited

Services whose names are formatted alike share a host, and the endpoints of a host stand in the
order in which its services have been visited. A poll may visit the services in any order, so the
snapshot is determined by the catalog exactly when it makes no difference which of two services
with one host comes first.

A pass compares endpoints by their positions. Where the order does make a difference, a second
reading of a catalog that is as it was may have a pass write again.

## Main definitions

- `CatalogWatcher.Exchangeable`: services of one host can be visited in either order.
- `Catalog.showing`: a catalog that shows services under an index, and describes them as before.
- `CatalogWatcher.reread`: polls of a catalog of which nothing but the index changes.

## Main results

- `CatalogWatcher.snapshotOf_arranged_iff`: when the order of visits does not show in a snapshot.
- `CatalogWatcher.HasRead.reread`: what polls of the same services leave.
- `Snapshot.quietAfter_iff`: what a pass sees of another snapshot with the same hosts.
- `CatalogWatcher.order_of_visits_iff`: when polls do not depend on the order of visits, and passes
  find nothing to write after the same services have been read again.
-/

namespace MeshRegistry

/-- An order of visit in which one list takes the place of another. -/
def Arrangement.placing (hosts placed : List String) (h : placed.Perm hosts) : Arrangement where
  arrange others := if others = hosts then placed else others
  perm others := by
    split
    next hsame =>
      rw [hsame]
      exact h
    · exact .refl _

theorem Arrangement.arrange_placing {hosts placed : List String} (h : placed.Perm hosts) :
    (placing hosts placed h).arrange hosts = placed :=
  if_pos rfl

/-- The catalog with other services and another index, which describes services as before. -/
def Catalog.showing (c : Catalog) (services : ServiceNames) (index : Nat) : Catalog :=
  { c with services := fun _ => .ok (services, index) }

namespace CatalogWatcher

/-! ## Services that share a host -/

/-- Of two services with the same host it makes no difference which one is visited first. -/
def Exchangeable (hostPrefix : String) (c : Catalog) (services : List String) : Prop :=
  ∀ s ∈ services, ∀ t ∈ services, HostName.key hostPrefix s = HostName.key hostPrefix t →
    described c s ++ described c t = described c t ++ described c s

instance (hostPrefix : String) (c : Catalog) (services : List String) :
    Decidable (Exchangeable hostPrefix c services) :=
  inferInstanceAs (Decidable (∀ s ∈ services, ∀ t ∈ services, _ → _))

section Orders

variable {hostPrefix : String} {c : Catalog} {services services' : List String}

theorem endpointsFor_eq_of_perm (h : Exchangeable hostPrefix c services)
    (hperm : services.Perm services') (host : String) :
    endpointsFor hostPrefix c services host = endpointsFor hostPrefix c services' host := by
  unfold endpointsFor
  rw [List.flatMap_eq_foldl, List.flatMap_eq_foldl]
  refine (hperm.filter _).foldl_eq' (fun s hs t ht before => ?_) []
  obtain ⟨hs, hhost⟩ := List.mem_filter.mp hs
  obtain ⟨ht, hhost'⟩ := List.mem_filter.mp ht
  have hkey : HostName.key hostPrefix s = HostName.key hostPrefix t :=
    (of_decide_eq_true hhost).trans (of_decide_eq_true hhost').symm
  rw [List.append_assoc, List.append_assoc, h s hs t ht hkey]

theorem snapshotOf_eq_of_perm (h : Exchangeable hostPrefix c services)
    (hperm : services.Perm services') :
    snapshotOf hostPrefix c services = snapshotOf hostPrefix c services' := by
  refine SortedMap.ext_get? fun host => ?_
  rw [get?_snapshotOf, get?_snapshotOf, endpointsFor_eq_of_perm h hperm]

/-- Two services of one host can be put in front of all others, in either order, and what the
others add comes after both. -/
theorem exchangeable_of_snapshotOf_eq
    (h : ∀ first second : List String, first.Perm services → second.Perm services →
      snapshotOf hostPrefix c first = snapshotOf hostPrefix c second) :
    Exchangeable hostPrefix c services := by
  intro s hs t ht hkey
  by_cases hsame : s = t
  · rw [hsame]
  · have hrest : t ∈ services.erase s := (List.mem_erase_of_ne (Ne.symm hsame)).mpr ht
    have hfirst : (s :: t :: (services.erase s).erase t).Perm services :=
      ((List.perm_cons_erase hrest).symm.cons s).trans (List.perm_cons_erase hs).symm
    have hsecond := (List.Perm.swap s t ((services.erase s).erase t)).trans hfirst
    have hboth := congrArg (fun snapshot => (snapshot.get? (HostName.key hostPrefix s)).getD [])
      (h _ _ hfirst hsecond)
    simp only [getD_snapshotOf, endpointsFor_cons, hkey, if_true, ← List.append_assoc] at hboth
    exact List.append_cancel_right hboth

/-- The order of the visits does not show in the snapshot exactly when services of one host can be
exchanged. -/
theorem snapshotOf_arranged_iff :
    (∀ order order' : Arrangement,
        snapshotOf hostPrefix c (order.arrange services) =
          snapshotOf hostPrefix c (order'.arrange services)) ↔
      Exchangeable hostPrefix c services := by
  constructor
  · intro h
    refine exchangeable_of_snapshotOf_eq fun first second hfirst hsecond => ?_
    have hplaced := h (.placing services first hfirst) (.placing services second hsecond)
    rwa [Arrangement.arrange_placing, Arrangement.arrange_placing] at hplaced
  · intro h order order'
    rw [← snapshotOf_eq_of_perm h (order.perm services).symm,
      snapshotOf_eq_of_perm h (order'.perm services).symm]

end Orders

/-! ## Polls of the same services -/

/-- The watcher after polls of a catalog that shows the same services each time, under some index.
Each poll visits them in an order of its own. -/
def reread (w : CatalogWatcher) (c : Catalog) (services : ServiceNames)
    (polls : List (Nat × Arrangement)) : CatalogWatcher :=
  polls.foldl (fun w poll => (w.refresh poll.2 (c.showing services poll.1)).2) w

section Rereading

variable {w : CatalogWatcher} {c : Catalog} {services : ServiceNames}

theorem refresh_showing (w : CatalogWatcher) (order : Arrangement) (index : Nat) :
    (w.refresh order (c.showing services index)).2 =
      if index = w.lastIndex then w
      else
        { w with
          snapshot := snapshotOf w.hostPrefix c (order.arrange services.keys)
          lastIndex := index } := by
  simp only [refresh, Catalog.showing]
  split <;> rfl

/-- The watcher of a registry has read the services, as in the order in which they are listed. -/
structure HasRead (w : CatalogWatcher) (hostPrefix : String) (c : Catalog)
    (services : ServiceNames) : Prop where
  registry : w.hostPrefix = hostPrefix
  snapshot : w.snapshot = snapshotOf hostPrefix c services.keys

/-- A poll that finds a new index reads the services. -/
theorem hasRead_refresh {index : Nat} (hnew : index ≠ w.lastIndex)
    (hexchange : Exchangeable w.hostPrefix c services.keys) (order : Arrangement) :
    (w.refresh order (c.showing services index)).2.HasRead w.hostPrefix c services := by
  rw [refresh_showing, if_neg hnew]
  exact ⟨rfl, (snapshotOf_eq_of_perm hexchange (order.perm services.keys).symm).symm⟩

/-- A further poll reads the same once more, or leaves what has been read. -/
theorem HasRead.refresh {hostPrefix : String} (h : w.HasRead hostPrefix c services)
    (hexchange : Exchangeable hostPrefix c services.keys) (order : Arrangement) (index : Nat) :
    (w.refresh order (c.showing services index)).2.HasRead hostPrefix c services := by
  by_cases hknown : index = w.lastIndex
  · rw [refresh_showing, if_pos hknown]
    exact h
  · obtain rfl := h.registry
    exact hasRead_refresh hknown hexchange order

theorem HasRead.reread {hostPrefix : String} (h : w.HasRead hostPrefix c services)
    (hexchange : Exchangeable hostPrefix c services.keys) (polls : List (Nat × Arrangement)) :
    (w.reread c services polls).HasRead hostPrefix c services := by
  induction polls generalizing w with
  | nil => exact h
  | cons poll polls ih => exact ih (h.refresh hexchange poll.2 poll.1)

end Rereading

end CatalogWatcher

/-! ## What passes see of a snapshot -/

namespace Snapshot

/-- Wherever a pass over the first snapshot writes nothing, one over the second writes nothing. -/
def QuietAfter (s s' : Snapshot) : Prop :=
  ∀ (r : Reconciler) (visit collect : Arrangement) (m : Mesh), m.store.down = false →
    (∀ call ∈ (r.pass visit collect s).calls Mesh.api m, call.isWrite = false) →
      ∀ call ∈ (r.pass visit collect s').calls Mesh.api m, call.isWrite = false

/-- A mesh in which every host of a snapshot is ours and has the endpoints of the snapshot. -/
def mirror (s : Snapshot) : Mesh where
  store := {}
  ownership :=
    { reference := { name := "registry" }
      ours := s.mapValues fun endpoints => { metadata := {}, spec := { hosts := [], endpoints } } }

variable {s s' : Snapshot}

/-- On the mesh of a snapshot there is nothing to do for hosts with the endpoints that it shows, and
nothing stored that could be collected. -/
theorem settled_mirror_iff (r : Reconciler) (hkeys : ∀ host ∈ s'.keys, host ∈ s.keys) :
    r.Settled s' s.mirror ↔
      ∀ host endpoints, s'.get? host = some endpoints → s.get? host = some endpoints := by
  have hhost : ∀ host endpoints, s'.get? host = some endpoints →
      (¬ Reconciler.Rewrites s.mirror.ownership host endpoints
        (s.mirror.ownership.ours.get? host) ↔ s.get? host = some endpoints) := by
    intro host endpoints hhost
    obtain ⟨shown, hshown⟩ :=
      SortedMap.mem_keys_iff.mp (hkeys host (SortedMap.mem_keys_iff.mpr ⟨endpoints, hhost⟩))
    simp [mirror, Reconciler.Rewrites, hshown]
  constructor
  · intro h host endpoints hfound
    exact (hhost host endpoints hfound).mp (h.hosts host endpoints hfound)
  · intro h
    refine ⟨fun host endpoints hfound => (hhost host endpoints hfound).mpr (h host endpoints hfound),
      fun host e _ _ current hstored => ?_⟩
    simp [Mesh.stored?, mirror] at hstored

/-- A snapshot with the same hosts is quiet after another one only if it has the same endpoints, in
the same order. -/
theorem quietAfter_iff (hkeys : ∀ host, host ∈ s'.keys ↔ host ∈ s.keys) :
    QuietAfter s s' ↔ s' = s := by
  constructor
  · intro hquiet
    have hself : ({ space := "", registry := .consul } : Reconciler).Settled s s.mirror :=
      (settled_mirror_iff _ fun _ h => h).mpr fun _ _ h => h
    have hother := (Reconciler.pass_reads_iff_settled rfl .given .given).mp
      (hquiet _ .given .given s.mirror rfl
        ((Reconciler.pass_reads_iff_settled rfl .given .given).mpr hself))
    rw [settled_mirror_iff _ fun host h => (hkeys host).mp h] at hother
    refine SortedMap.ext_get? fun host => ?_
    cases hfound : s'.get? host with
    | some endpoints => exact (hother host endpoints hfound).symm
    | none =>
      -- A host that is missing here is missing there.
      refine (Option.eq_none_iff_forall_ne_some.mpr fun endpoints hshown => ?_).symm
      obtain ⟨found, hsome⟩ :=
        SortedMap.mem_keys_iff.mp ((hkeys host).mpr (SortedMap.mem_keys_iff.mpr ⟨_, hshown⟩))
      rw [hfound] at hsome
      cases hsome
  · rintro rfl r visit collect m - h
    exact h

end Snapshot

namespace CatalogWatcher

/-- Of a poll that reads services, the order of the visits does not show exactly when services of
one host can be exchanged. Any other poll visits none. -/
theorem snapshot_refresh_iff (w : CatalogWatcher) (c : Catalog) :
    (∀ order order' : Arrangement,
        (w.refresh order c).2.snapshot = (w.refresh order' c).2.snapshot) ↔
      ∀ services index, c.services w.lastIndex = .ok (services, index) → index ≠ w.lastIndex →
        Exchangeable w.hostPrefix c services.keys := by
  cases hlisted : c.services w.lastIndex with
  | error e => simp [refresh, hlisted]
  | ok listed =>
    obtain ⟨services, index⟩ := listed
    by_cases hknown : index = w.lastIndex
    · subst hknown
      simp [refresh, hlisted]
    · have hsnapshot : ∀ order : Arrangement, (w.refresh order c).2.snapshot =
          snapshotOf w.hostPrefix c (order.arrange services.keys) := by
        intro order
        simp [refresh, hlisted, hknown]
      simp only [hsnapshot, snapshotOf_arranged_iff]
      constructor
      · rintro h services' index' hanswer -
        cases hanswer
        exact h
      · exact fun h => h services index rfl hknown

/-- Passes are left alone by further polls of the same services exactly when services of one host
can be exchanged. -/
theorem quietAfter_reread_iff (w : CatalogWatcher) (c : Catalog) (services : ServiceNames)
    {index : Nat} (hnew : index ≠ w.lastIndex) :
    (∀ (order : Arrangement) (polls : List (Nat × Arrangement)),
        let first := (w.refresh order (c.showing services index)).2
        first.snapshot.QuietAfter (first.reread c services polls).snapshot) ↔
      Exchangeable w.hostPrefix c services.keys := by
  constructor
  · intro h
    refine snapshotOf_arranged_iff.mp fun order order' => ?_
    -- The second poll finds another new index and visits the services in the other order.
    have hquiet := h order [(index + 1, order')]
    simp only [reread, List.foldl_cons, List.foldl_nil, refresh_showing, if_neg hnew,
      if_neg (Nat.succ_ne_self index)] at hquiet
    refine ((Snapshot.quietAfter_iff fun host => ?_).mp hquiet).symm
    rw [mem_keys_snapshotOf_iff, mem_keys_snapshotOf_iff]
    simp only [(order.perm _).mem_iff, (order'.perm _).mem_iff]
  · intro hexchange order polls
    have hfirst := hasRead_refresh hnew hexchange order
    have hsame := (hfirst.reread hexchange polls).snapshot.trans hfirst.snapshot.symm
    exact (Snapshot.quietAfter_iff fun host => by rw [hsame]).mpr hsame

/-- Two polls that visit the listed services in two orders leave the same snapshot for all pairs of
orders exactly when the poll fails, or finds no new index, or the services of one host can be
exchanged. When the same services are read under a new index, and then again under any indices,
passes that had nothing to write after the first poll have nothing to write after the others, for
all orders and on all meshes, exactly when the services of one host can be exchanged. -/
theorem order_of_visits_iff (w : CatalogWatcher) (c : Catalog) :
    ((∀ order order' : Arrangement,
        (w.refresh order c).2.snapshot = (w.refresh order' c).2.snapshot) ↔
      ∀ services index, c.services w.lastIndex = .ok (services, index) → index ≠ w.lastIndex →
        Exchangeable w.hostPrefix c services.keys) ∧
    ∀ services index, index ≠ w.lastIndex →
      ((∀ (order : Arrangement) (polls : List (Nat × Arrangement)),
          let first := (w.refresh order (c.showing services index)).2
          first.snapshot.QuietAfter (first.reread c services polls).snapshot) ↔
        Exchangeable w.hostPrefix c services.keys) :=
  ⟨w.snapshot_refresh_iff c, fun services _ hnew => w.quietAfter_reread_iff c services hnew⟩

namespace Sample

/-- A new watcher. -/
def watcher : CatalogWatcher where
  client := ⟨{ scheme := "http", host := none, path := [] }, { endpoint := "consul" }⟩
  targetSpace := "default"

/-- Two services with one host. -/
def services : ServiceNames := .ofList [("order-service", []), ("order_service", [])]

/-- A catalog in which each of the services has one instance. -/
def catalog (node node' : String) : Catalog where
  services _ := .ok (services, 1)
  instances service :=
    .ok [{ nodeAddress := if service = "order-service" then node else node', servicePort := 80 }]

def backwards : Arrangement := ⟨List.reverse, List.reverse_perm⟩

end Sample

/-- Services of one host with the same endpoints can be visited in either order. -/
theorem shared_endpoints_reread :
    let c := Sample.catalog "10.0.0.1" "10.0.0.1"
    let first := (Sample.watcher.refresh .given (c.showing Sample.services 1)).2
    let later := first.reread c Sample.services [(2, Sample.backwards)]
    1 ≠ Sample.watcher.lastIndex ∧ Exchangeable "" c Sample.services.keys ∧
      first.snapshot = (Sample.watcher.refresh Sample.backwards c).2.snapshot ∧
      first.snapshot.size = 1 ∧ first.snapshot.QuietAfter later.snapshot := by
  intro c first later
  have hnew : 1 ≠ Sample.watcher.lastIndex := by decide
  have hexchange : Exchangeable "" c Sample.services.keys := by decide +kernel
  obtain ⟨horders, hrereads⟩ := order_of_visits_iff Sample.watcher c
  refine ⟨hnew, hexchange, ?_, by decide +kernel, ?_⟩
  · refine horders.mpr ?_ .given Sample.backwards
    rintro services index hanswer -
    cases hanswer
    exact hexchange
  · exact (hrereads Sample.services 1 hnew).mpr hexchange .given [(2, Sample.backwards)]

/-- Two services share a host and run on different nodes. The same services, read again under a new
index, come in the other order, and the entry that has just been created is written once more. -/
theorem entry_rewritten_after_rereading :
    let c := Sample.catalog "10.0.0.1" "10.0.0.2"
    let first := (Sample.watcher.refresh .given c).2
    let later := first.reread c Sample.services [(2, Sample.backwards)]
    let r : Reconciler := { space := "default", registry := .consul }
    let start := (Mesh.fresh { name := "registry" }).after [.call (.ensureSpace "default")]
    let m := ((r.pass .given .given first.snapshot).run Mesh.api start).2
    first.snapshot ≠ (Sample.watcher.refresh Sample.backwards c).2.snapshot ∧
      ((r.pass .given .given first.snapshot).run Mesh.api m).1 = { unchanged := 1 } ∧
      ((r.pass .given .given later.snapshot).run Mesh.api m).1 = { updated := 1 } := by
  decide +kernel

end CatalogWatcher

end MeshRegistry
