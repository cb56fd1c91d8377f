import MeshRegistry.Mesh.Reconcile
import MeshRegistry.Proofs.Mesh.Calls
import Mathlib.Logic.Basic
/-!
# What a pass does, host by host

A pass over the mesh in memory visits hosts one after the other, so its effect is that of its
steps: each host of the snapshot either has its entry written or is left alone, and each candidate
for collection is removed or left alone. A mesh on which every step leaves its host alone is
settled, and a pass over it makes no writing call.

## Main definitions

- `Reconciler.Rewrites`: whether reconciling a host writes its entry.
- `Reconciler.visited`, `Reconciler.swept`: the mesh after one step of each kind.
- `Reconciler.Settled`: the meshes on which a pass has nothing to do.

## Main results

- `Reconciler.run_pass_snd`: the mesh after a pass, as the steps lead to it.
- `Reconciler.pass_reads_iff_settled`: a pass makes no writing call exactly on a settled mesh.
- `Reconciler.run_pass_of_settled`: what a pass over a settled mesh reports.
-/

namespace MeshRegistry

/-- In any order, the keys of a map are those that have a value. -/
theorem Arrangement.mem_keys_iff {α : Type} (order : Arrangement) {s : SortedMap String α}
    {host : String} : host ∈ order.arrange s.keys ↔ ∃ v, s.get? host = some v := by
  rw [(order.perm _).mem_iff, SortedMap.mem_keys_iff]

namespace Reconciler

variable {r : Reconciler} {m : Mesh} {host : String} {endpoints : List Endpoint}

/-! ## Writing the entry of a host -/

section Writing

/-- The entry that is wanted for a host has a name and a namespace. -/
def Nameable (r : Reconciler) (host : String) : Prop :=
  r.space ≠ "" ∧ HostName.formatted host ≠ ""

theorem isNamed_build_iff (r : Reconciler) (host : String) (endpoints : List Endpoint) :
    MeshStore.isNamed (r.builder.build host endpoints) = true ↔ r.Nameable host := by
  simp [MeshStore.isNamed, Nameable, EntryBuilder.build, builder, ServiceEntry.space,
    ServiceEntry.name]

@[simp] theorem key_build : (r.builder.build host endpoints).key = r.keyOf host := rfl

/-- An object under the name of a host is replaced by the entry of the host, whoever owns it. -/
theorem writeHost_of_stored {current : ServiceEntry} (hup : m.store.down = false)
    (hname : r.Nameable host) (hstored : m.stored? (r.keyOf host) = some current) :
    (r.writeHost host endpoints).run Mesh.api m =
      (.ok .updated, m.replaced current (r.builder.build host endpoints)) := by
  have hupdate := Mesh.perform_update_of_current hup
    (e := (r.builder.build host endpoints).withVersion current.metadata.resourceVersion)
    ((isNamed_build_iff r host endpoints).mpr hname) hstored rfl
  -- The object is read first, and the update carries the version that was read.
  unfold writeHost
  rw [Session.run_bind, Session.run_call, Mesh.api_perform, Mesh.perform_get hup, hstored]
  dsimp only
  rw [Session.run_bind, Session.run_call, Mesh.api_perform, hupdate]
  rfl

theorem writeHost_of_absent (hup : m.store.down = false) (hname : r.Nameable host)
    (hspace : m.store.hasSpace r.space = true) (habsent : m.stored? (r.keyOf host) = none) :
    (r.writeHost host endpoints).run Mesh.api m =
      (.ok .created, m.created (r.builder.build host endpoints)) := by
  have hcreate := Mesh.perform_create_of_absent hup ((isNamed_build_iff r host endpoints).mpr hname)
    (e := r.builder.build host endpoints) hspace habsent
  unfold writeHost
  rw [Session.run_bind, Session.run_call, Mesh.api_perform, Mesh.perform_get hup, habsent]
  dsimp only
  rw [Session.run_bind, Session.run_call, Mesh.api_perform, hcreate]
  rfl

/-- An entry that cannot be placed is refused, and nothing changes. -/
theorem writeHost_of_unplaced (endpoints : List Endpoint) (hup : m.store.down = false)
    (h : r.Nameable host → m.store.hasSpace r.space = false ∧ m.stored? (r.keyOf host) = none) :
    ∃ err, (r.writeHost host endpoints).run Mesh.api m = (.error err, m) := by
  -- What refuses the entry depends on which call the read has led to.
  cases hkey : m.stored? (r.keyOf host) with
  | none =>
    obtain ⟨err, hcreate⟩ := Mesh.perform_create_of_unplaced hup
      (e := r.builder.build host endpoints)
      fun hnamed => (h ((isNamed_build_iff r host endpoints).mp hnamed)).1
    refine ⟨err, ?_⟩
    unfold writeHost
    rw [Session.run_bind, Session.run_call, Mesh.api_perform, Mesh.perform_get hup, hkey]
    dsimp only
    rw [Session.run_bind, Session.run_call, Mesh.api_perform, hcreate]
    rfl
  | some current =>
    obtain ⟨err, hupdate⟩ := Mesh.perform_update_of_refused hup
      (e := (r.builder.build host endpoints).withVersion current.metadata.resourceVersion)
      fun hnamed => absurd (h ((isNamed_build_iff r host endpoints).mp hnamed)).2 (by simp [hkey])
    refine ⟨err, ?_⟩
    unfold writeHost
    rw [Session.run_bind, Session.run_call, Mesh.api_perform, Mesh.perform_get hup, hkey]
    dsimp only
    rw [Session.run_bind, Session.run_call, Mesh.api_perform, hupdate]
    rfl

/-- What writing the entry of a host does to the mesh. -/
theorem writeHost_cases (hup : m.store.down = false) (r : Reconciler) (host : String)
    (endpoints : List Endpoint) :
    (∃ current, r.Nameable host ∧ m.stored? (r.keyOf host) = some current ∧
      ((r.writeHost host endpoints).run Mesh.api m).2 =
        m.replaced current (r.builder.build host endpoints)) ∨
    (r.Nameable host ∧ m.store.hasSpace r.space = true ∧ m.stored? (r.keyOf host) = none ∧
      ((r.writeHost host endpoints).run Mesh.api m).2 =
        m.created (r.builder.build host endpoints)) ∨
    ((r.Nameable host → m.store.hasSpace r.space = false ∧ m.stored? (r.keyOf host) = none) ∧
      ((r.writeHost host endpoints).run Mesh.api m).2 = m) := by
  by_cases hplaced : r.Nameable host →
      m.store.hasSpace r.space = false ∧ m.stored? (r.keyOf host) = none
  · obtain ⟨err, hrun⟩ := writeHost_of_unplaced endpoints hup hplaced
    exact .inr (.inr ⟨hplaced, by rw [hrun]⟩)
  · obtain ⟨hname, hfree⟩ := Classical.not_imp.mp hplaced
    cases hkey : m.stored? (r.keyOf host) with
    | some current =>
      refine .inl ⟨current, hname, rfl, ?_⟩
      rw [writeHost_of_stored hup hname hkey]
    | none =>
      have hspace : m.store.hasSpace r.space = true := by
        simpa [hkey] using hfree
      refine .inr (.inl ⟨hname, hspace, rfl, ?_⟩)
      rw [writeHost_of_absent hup hname hspace hkey]

/-- Writing the entry of a host concerns one key. -/
theorem stored?_writeHost_of_ne (hup : m.store.down = false) {key : ObjectKey}
    (hkey : key ≠ r.keyOf host) :
    ((r.writeHost host endpoints).run Mesh.api m).2.stored? key = m.stored? key := by
  rcases writeHost_cases hup r host endpoints with
    ⟨current, -, -, hrun⟩ | ⟨-, -, -, hrun⟩ | ⟨-, hrun⟩
  · rw [hrun, Mesh.stored?_replaced, key_build, if_neg hkey]
  · rw [hrun, Mesh.stored?_created, key_build, if_neg hkey]
  · rw [hrun]

/-- Writing the entry of a host makes a writing call, even when it is refused. -/
theorem exists_write_of_writeHost (r : Reconciler) (host : String) (endpoints : List Endpoint)
    (hup : m.store.down = false) :
    ∃ c ∈ (r.writeHost host endpoints).calls Mesh.api m, c.isWrite = true := by
  unfold writeHost
  rw [Session.calls_bind, Session.run_call, Mesh.api_perform, Mesh.perform_get hup]
  cases hkey : m.stored? (r.keyOf host) with
  | none =>
    refine ⟨.create (r.builder.build host endpoints), List.mem_append_right _ ?_, rfl⟩
    dsimp only
    rw [Session.calls_bind, Session.calls_call]
    exact List.mem_append_left _ (List.mem_singleton_self _)
  | some current =>
    refine ⟨.update ((r.builder.build host endpoints).withVersion
      current.metadata.resourceVersion), List.mem_append_right _ ?_, rfl⟩
    dsimp only
    rw [Session.calls_bind, Session.calls_call]
    exact List.mem_append_left _ (List.mem_singleton_self _)

end Writing

/-! ## Reconciling a host -/

section Reconciling

/-- Whether reconciling a host writes its entry: the entry among ours at the beginning has other
endpoints, or there is none and the host is not theirs. -/
def Rewrites (model : OwnershipModel) (host : String) (endpoints : List Endpoint) :
    Option ServiceEntry → Prop
  | some e => e.spec.endpoints ≠ endpoints
  | none => model.classify host ≠ .them

instance (model : OwnershipModel) (host : String) (endpoints : List Endpoint)
    (owned : Option ServiceEntry) : Decidable (Rewrites model host endpoints owned) := by
  cases owned <;> unfold Rewrites <;> infer_instance

theorem run_reconcileHost_of_rewrites {owned : Option ServiceEntry}
    (h : Rewrites m.ownership host endpoints owned) :
    (r.reconcileHost host endpoints owned).run Mesh.api m =
      (r.writeHost host endpoints).run Mesh.api m := by
  cases owned with
  | none =>
    have hthem : m.ownership.classify host ≠ .them := h
    simp [reconcileHost, hthem]
  | some e =>
    have hother : e.spec.endpoints ≠ endpoints := h
    simp [reconcileHost, hother]

theorem calls_reconcileHost_of_rewrites {owned : Option ServiceEntry}
    (h : Rewrites m.ownership host endpoints owned) :
    (r.reconcileHost host endpoints owned).calls Mesh.api m =
      (r.writeHost host endpoints).calls Mesh.api m := by
  cases owned with
  | none =>
    have hthem : m.ownership.classify host ≠ .them := h
    simp [reconcileHost, hthem]
  | some e =>
    have hother : e.spec.endpoints ≠ endpoints := h
    simp [reconcileHost, hother]

/-- What is reported about a host that is left alone. -/
def leftAlone : Option ServiceEntry → HostAction
  | some _ => .unchanged
  | none => .skipped

theorem run_reconcileHost_of_not_rewrites {owned : Option ServiceEntry}
    (h : ¬ Rewrites m.ownership host endpoints owned) :
    (r.reconcileHost host endpoints owned).run Mesh.api m = (.ok (leftAlone owned), m) := by
  cases owned with
  | none =>
    have hthem : m.ownership.classify host = .them := not_not.mp h
    simp [reconcileHost, hthem, leftAlone]
  | some e =>
    have hsame : e.spec.endpoints = endpoints := not_not.mp h
    simp [reconcileHost, hsame, leftAlone]

theorem calls_reconcileHost_of_not_rewrites {owned : Option ServiceEntry}
    (h : ¬ Rewrites m.ownership host endpoints owned) :
    (r.reconcileHost host endpoints owned).calls Mesh.api m = [] := by
  cases owned with
  | none =>
    have hthem : m.ownership.classify host = .them := not_not.mp h
    simp [reconcileHost, hthem]
  | some e =>
    have hsame : e.spec.endpoints = endpoints := not_not.mp h
    simp [reconcileHost, hsame]

end Reconciling

/-! ## Collecting an entry -/

section Collecting

variable {e current : ServiceEntry}

/-- An object carries the label of a registry. -/
def Marks (r : Reconciler) (e : ServiceEntry) : Prop :=
  e.label? registryLabel = some r.registry.text

/-- The stored object is removed for its label, whoever owns it. -/
theorem run_collectEntry_of_marked (hup : m.store.down = false)
    (hstored : m.stored? ⟨r.space, e.name⟩ = some current) (hmark : r.Marks current) :
    (r.collectEntry e).run Mesh.api m = (true, m.removed ⟨r.space, e.name⟩ current) := by
  have hlabel : current.label? registryLabel = some r.registry.text := hmark
  unfold collectEntry
  rw [Session.run_bind, Session.run_call, Mesh.api_perform, Mesh.perform_get hup, hstored]
  dsimp only
  rw [if_neg (not_not.mpr hlabel), Session.run_bind, Session.run_call, Mesh.api_perform,
    Mesh.perform_delete_of_present hup hstored]
  rfl

theorem exists_write_of_collectEntry (hup : m.store.down = false)
    (hstored : m.stored? ⟨r.space, e.name⟩ = some current) (hmark : r.Marks current) :
    ∃ c ∈ (r.collectEntry e).calls Mesh.api m, c.isWrite = true := by
  have hlabel : current.label? registryLabel = some r.registry.text := hmark
  refine ⟨.delete ⟨r.space, e.name⟩, ?_, rfl⟩
  unfold collectEntry
  rw [Session.calls_bind, Session.run_call, Mesh.api_perform, Mesh.perform_get hup, hstored]
  dsimp only
  rw [if_neg (not_not.mpr hlabel), Session.calls_bind]
  exact List.mem_append_right _ (List.mem_append_left _ (List.mem_singleton_self _))

theorem run_collectEntry_of_unmarked (hup : m.store.down = false)
    (h : ∀ current, m.stored? ⟨r.space, e.name⟩ = some current → ¬ r.Marks current) :
    (r.collectEntry e).run Mesh.api m = (false, m) := by
  unfold collectEntry
  rw [Session.run_bind, Session.run_call, Mesh.api_perform, Mesh.perform_get hup]
  cases hkey : m.stored? ⟨r.space, e.name⟩ with
  | none => rfl
  | some current =>
    have hlabel : current.label? registryLabel ≠ some r.registry.text := h current hkey
    dsimp only
    rw [if_pos hlabel]
    rfl

theorem calls_collectEntry_of_unmarked (hup : m.store.down = false)
    (h : ∀ current, m.stored? ⟨r.space, e.name⟩ = some current → ¬ r.Marks current) :
    (r.collectEntry e).calls Mesh.api m = [.get ⟨r.space, e.name⟩] := by
  unfold collectEntry
  rw [Session.calls_bind, Session.run_call, Mesh.api_perform, Mesh.perform_get hup]
  cases hkey : m.stored? ⟨r.space, e.name⟩ with
  | none => rfl
  | some current =>
    have hlabel : current.label? registryLabel ≠ some r.registry.text := h current hkey
    dsimp only
    rw [if_pos hlabel]
    rfl

end Collecting

/-! ## The steps of a pass -/

/-- The mesh after one host of the snapshot has been visited. -/
def visited (r : Reconciler) (snapshot : Snapshot) (ours : SortedMap String ServiceEntry)
    (m : Mesh) (host : String) : Mesh :=
  match snapshot.get? host with
  | none => m
  | some endpoints => ((r.reconcileHost host endpoints (ours.get? host)).run Mesh.api m).2

/-- The mesh after one host of ours has been looked at for collection. -/
def swept (r : Reconciler) (snapshot : Snapshot) (ours : SortedMap String ServiceEntry)
    (m : Mesh) (host : String) : Mesh :=
  match ours.get? host with
  | none => m
  | some e =>
    if r.isCandidate snapshot host e then ((r.collectEntry e).run Mesh.api m).2 else m

/-- The mesh after the hosts of a snapshot have been reconciled. -/
def reconciled (r : Reconciler) (visit : Arrangement) (snapshot : Snapshot) (m : Mesh) : Mesh :=
  (visit.arrange snapshot.keys).foldl (r.visited snapshot m.ownership.ours) m

/-- The mesh after the entries of ours have been looked at for collection. -/
def collected (r : Reconciler) (collect : Arrangement) (snapshot : Snapshot) (m : Mesh) : Mesh :=
  (collect.arrange m.ownership.ours.keys).foldl (r.swept snapshot m.ownership.ours) m

theorem run_reconcileHosts_snd (snapshot : Snapshot) (ours : SortedMap String ServiceEntry)
    (report : PassReport) (hosts : List String) (m : Mesh) :
    ((r.reconcileHosts snapshot ours report hosts).run Mesh.api m).2 =
      hosts.foldl (r.visited snapshot ours) m := by
  -- The report is carried along and does not matter to the mesh.
  induction hosts generalizing report m with
  | nil => rfl
  | cons host rest ih =>
    rw [List.foldl_cons, reconcileHosts, visited]
    cases hhost : snapshot.get? host with
    | none => exact ih report m
    | some endpoints =>
      dsimp only
      rw [Session.run_bind]
      exact ih _ _

theorem run_collectHosts_snd (snapshot : Snapshot) (ours : SortedMap String ServiceEntry)
    (deleted : Nat) (hosts : List String) (m : Mesh) :
    ((r.collectHosts snapshot ours deleted hosts).run Mesh.api m).2 =
      hosts.foldl (r.swept snapshot ours) m := by
  induction hosts generalizing deleted m with
  | nil => rfl
  | cons host rest ih =>
    rw [List.foldl_cons, collectHosts, swept]
    cases hhost : ours.get? host with
    | none => exact ih deleted m
    | some e =>
      dsimp only
      split
      · rw [Session.run_bind]
        exact ih _ _
      · exact ih deleted m

/-- A pass reconciles the hosts of the snapshot and then collects. -/
theorem run_pass_snd (visit collect : Arrangement) (snapshot : Snapshot) (m : Mesh) :
    ((r.pass visit collect snapshot).run Mesh.api m).2 =
      r.collected collect snapshot (r.reconciled visit snapshot m) := by
  simp only [pass, Session.run_bind, Session.run_ownership, Mesh.api_ownership, Session.run_pure,
    run_reconcileHosts_snd, run_collectHosts_snd]
  rfl

/-! ## Settled meshes -/

section Settled

variable {snapshot : Snapshot}

/-- A pass has nothing to do: it leaves every host of the snapshot alone, and removes nothing. -/
structure Settled (r : Reconciler) (snapshot : Snapshot) (m : Mesh) : Prop where
  /-- No entry of a host is written. -/
  hosts : ∀ host endpoints, snapshot.get? host = some endpoints →
    ¬ Rewrites m.ownership host endpoints (m.ownership.ours.get? host)
  /-- No entry is collected. -/
  entries : ∀ host e, m.ownership.ours.get? host = some e → r.isCandidate snapshot host e = true →
    ∀ current, m.stored? ⟨r.space, e.name⟩ = some current → ¬ r.Marks current

theorem reconcileHosts_reads_iff (hup : m.store.down = false)
    (ours : SortedMap String ServiceEntry) (report : PassReport) (hosts : List String) :
    (∀ c ∈ (r.reconcileHosts snapshot ours report hosts).calls Mesh.api m, c.isWrite = false) ↔
      ∀ host ∈ hosts, ∀ endpoints, snapshot.get? host = some endpoints →
        ¬ Rewrites m.ownership host endpoints (ours.get? host) := by
  induction hosts generalizing report with
  | nil => simp [reconcileHosts]
  | cons host rest ih =>
    rw [reconcileHosts, List.forall_mem_cons]
    cases hhost : snapshot.get? host with
    | none => simpa using ih report
    | some endpoints =>
      dsimp only
      rw [Session.calls_bind, List.forall_mem_append]
      by_cases hrewrites : Rewrites m.ownership host endpoints (ours.get? host)
      · -- One write refutes both sides, so nothing needs to be known of the hosts after it.
        obtain ⟨c, hc, hwrite⟩ := exists_write_of_writeHost r host endpoints hup
        rw [calls_reconcileHost_of_rewrites hrewrites]
        refine ⟨fun h => absurd (h.1 c hc) (by simp [hwrite]), fun h => ?_⟩
        exact absurd hrewrites (h.1 endpoints rfl)
      · -- A host that is left alone leaves the mesh to the others as it was.
        rw [calls_reconcileHost_of_not_rewrites hrewrites,
          run_reconcileHost_of_not_rewrites hrewrites]
        dsimp only
        rw [ih]
        simp [hrewrites]

theorem collectHosts_reads_iff (hup : m.store.down = false)
    (ours : SortedMap String ServiceEntry) (deleted : Nat) (hosts : List String) :
    (∀ c ∈ (r.collectHosts snapshot ours deleted hosts).calls Mesh.api m, c.isWrite = false) ↔
      ∀ host ∈ hosts, ∀ e, ours.get? host = some e → r.isCandidate snapshot host e = true →
        ∀ current, m.stored? ⟨r.space, e.name⟩ = some current → ¬ r.Marks current := by
  induction hosts generalizing deleted with
  | nil => simp [collectHosts]
  | cons host rest ih =>
    rw [collectHosts, List.forall_mem_cons]
    cases hhost : ours.get? host with
    | none => simpa using ih deleted
    | some e =>
      dsimp only
      by_cases hcandidate : r.isCandidate snapshot host e = true
      · rw [if_pos hcandidate, Session.calls_bind, List.forall_mem_append]
        by_cases hmarked : ∃ current, m.stored? ⟨r.space, e.name⟩ = some current ∧ r.Marks current
        · obtain ⟨current, hstored, hmark⟩ := hmarked
          obtain ⟨c, hc, hwrite⟩ := exists_write_of_collectEntry hup hstored hmark
          refine ⟨fun h => absurd (h.1 c hc) (by simp [hwrite]), fun h => ?_⟩
          exact absurd hmark (h.1 e rfl hcandidate current hstored)
        · have hunmarked : ∀ current, m.stored? ⟨r.space, e.name⟩ = some current →
              ¬ r.Marks current := fun current hstored hmark => hmarked ⟨current, hstored, hmark⟩
          rw [calls_collectEntry_of_unmarked hup hunmarked,
            run_collectEntry_of_unmarked hup hunmarked]
          dsimp only
          rw [ih]
          simp only [Option.some.injEq, List.mem_singleton, forall_eq, Call.isWrite, true_and]
          exact ⟨fun h => ⟨fun e' he' _ => he' ▸ hunmarked, h⟩, fun h => h.2⟩
      · rw [if_neg hcandidate, ih]
        simp only [Option.some.injEq]
        exact ⟨fun h => ⟨fun e' he' hc => absurd (he' ▸ hc) hcandidate, h⟩, fun h => h.2⟩

/-- A pass makes no writing call exactly on a settled mesh. -/
theorem pass_reads_iff_settled (hup : m.store.down = false) (visit collect : Arrangement) :
    (∀ c ∈ (r.pass visit collect snapshot).calls Mesh.api m, c.isWrite = false) ↔
      r.Settled snapshot m := by
  simp only [pass, Session.calls_bind, Session.run_ownership, Session.calls_ownership,
    Session.calls_pure, Mesh.api_ownership, List.nil_append, List.append_nil,
    List.forall_mem_append]
  constructor
  · intro h
    -- Nothing has changed when the collection begins.
    rw [Session.run_of_reads _ h.1, collectHosts_reads_iff hup] at h
    obtain ⟨hhosts, hentries⟩ := h
    rw [reconcileHosts_reads_iff hup] at hhosts
    constructor
    · intro host endpoints hhost
      exact hhosts host (visit.mem_keys_iff.mpr ⟨endpoints, hhost⟩) endpoints hhost
    · intro host e he
      exact hentries host (collect.mem_keys_iff.mpr ⟨e, he⟩) e he
  · intro h
    have hhosts := (reconcileHosts_reads_iff (r := r) hup m.ownership.ours {}
      (visit.arrange snapshot.keys)).mpr
      fun host _ endpoints hhost => h.hosts host endpoints hhost
    rw [Session.run_of_reads _ hhosts, collectHosts_reads_iff hup]
    exact ⟨hhosts, fun host _ e he => h.entries host e he⟩

/-- Hosts that have the right entry among ours are counted as unchanged. -/
theorem run_reconcileHosts_of_owned (r : Reconciler) (m : Mesh) (snapshot : Snapshot)
    (ours : SortedMap String ServiceEntry) (report : PassReport) (hosts : List String)
    (h : ∀ host ∈ hosts, ∃ endpoints e, snapshot.get? host = some endpoints ∧
      ours.get? host = some e ∧ e.spec.endpoints = endpoints) :
    (r.reconcileHosts snapshot ours report hosts).run Mesh.api m =
      ({ report with unchanged := report.unchanged + hosts.length }, m) := by
  induction hosts generalizing report with
  | nil => rfl
  | cons host rest ih =>
    obtain ⟨⟨endpoints, e, hhost, he, hsame⟩, hrest⟩ := List.forall_mem_cons.mp h
    have hkept : ¬ Rewrites m.ownership host endpoints (ours.get? host) := by
      rw [he]
      exact not_not.mpr hsame
    rw [reconcileHosts, hhost]
    dsimp only
    rw [Session.run_bind, run_reconcileHost_of_not_rewrites hkept, ih _ hrest, he]
    simp only [leftAlone, PassReport.count, List.length_cons, Prod.mk.injEq, PassReport.mk.injEq,
      and_true, true_and]
    omega

/-- Where nothing is to be removed, the collection counts nothing. -/
theorem run_collectHosts_of_unmarked (hup : m.store.down = false)
    (ours : SortedMap String ServiceEntry) (deleted : Nat) (hosts : List String)
    (h : ∀ host e, ours.get? host = some e → r.isCandidate snapshot host e = true →
      ∀ current, m.stored? ⟨r.space, e.name⟩ = some current → ¬ r.Marks current) :
    (r.collectHosts snapshot ours deleted hosts).run Mesh.api m = (deleted, m) := by
  induction hosts with
  | nil => rfl
  | cons host rest ih =>
    rw [collectHosts]
    cases hhost : ours.get? host with
    | none => exact ih
    | some e =>
      dsimp only
      by_cases hcandidate : r.isCandidate snapshot host e = true
      · rw [if_pos hcandidate, Session.run_bind,
          run_collectEntry_of_unmarked hup (h host e hhost hcandidate)]
        exact ih
      · rw [if_neg hcandidate]
        exact ih

/-- A pass over a settled mesh on which every host has an entry of ours reports every host as
unchanged. -/
theorem run_pass_of_settled (hup : m.store.down = false) (h : r.Settled snapshot m)
    (howned : ∀ host endpoints, snapshot.get? host = some endpoints →
      ∃ e, m.ownership.ours.get? host = some e)
    (visit collect : Arrangement) :
    (r.pass visit collect snapshot).run Mesh.api m = ({ unchanged := snapshot.size }, m) := by
  have hhosts := run_reconcileHosts_of_owned r m snapshot m.ownership.ours {}
    (visit.arrange snapshot.keys) fun host hmem => by
      obtain ⟨endpoints, hhost⟩ := visit.mem_keys_iff.mp hmem
      obtain ⟨e, he⟩ := howned host endpoints hhost
      have hkept := h.hosts host endpoints hhost
      rw [he] at hkept
      exact ⟨endpoints, e, hhost, he, not_not.mp hkept⟩
  have hcount : (visit.arrange snapshot.keys).length = snapshot.size := by
    rw [(visit.perm _).length_eq, SortedMap.keys, List.length_map, SortedMap.size]
  simp only [pass, Session.run_bind, Session.run_ownership, Mesh.api_ownership, Session.run_pure,
    hhosts, run_collectHosts_of_unmarked hup _ _ _ h.entries, hcount, Nat.zero_add]

end Settled

end Reconciler

end MeshRegistry
