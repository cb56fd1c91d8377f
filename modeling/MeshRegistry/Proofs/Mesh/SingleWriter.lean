import MeshRegistry.Proofs.Mesh.Slots
/-!
# One reconciler alone on a mesh

A reconciler that nobody interferes with keeps the mesh a mirror of its snapshots: whatever has
happened before, a pass while calls are accepted leaves exactly the entries of the current
snapshot, and another pass finds nothing to do.

Between the passes the snapshot may be replaced and calls may be refused. The invariant says of
each name that it is free, or that the entry built for some endpoints is stored under it and known
to the model.

## Main definitions

- `WriterStep`, `Writer`, `Reconciler.after`: the runs of a reconciler that is alone.
- `Reconciler.Suits`: the snapshots whose hosts can be written.
- `Reconciler.Mirrors`: the invariant of such runs.

## Main results

- `Reconciler.mirrors_after`: the invariant holds along every run.
- `Reconciler.pass_mirrors_snapshot`: what a pass leaves behind, and that the next one is idle.
-/

namespace MeshRegistry

/-- What happens to a reconciler that is alone. -/
inductive WriterStep where
  /-- The snapshot is replaced. -/
  | replace (snapshot : Snapshot)
  /-- Calls are refused from now on, or accepted again. -/
  | outage (down : Bool)
  /-- A pass is made. -/
  | pass (visit collect : Arrangement)

/-- A mesh and the current snapshot of the only reconciler that writes to it. -/
structure Writer where
  /-- The mesh. -/
  mesh : Mesh
  /-- The current snapshot. -/
  snapshot : Snapshot := .empty

namespace Reconciler

/-- The state after a step. -/
def step (r : Reconciler) (s : Writer) : WriterStep → Writer
  | .replace snapshot => { s with snapshot }
  | .outage down => { s with mesh := s.mesh.setDown down }
  | .pass visit collect =>
    { s with mesh := ((r.pass visit collect s.snapshot).run Mesh.api s.mesh).2 }

/-- The state after a run. -/
def after (r : Reconciler) (s : Writer) (steps : List WriterStep) : Writer := steps.foldl r.step s

/-- Every host of a snapshot has a name that objects can have, and begins as the hosts of the
registry do. -/
def Suits (r : Reconciler) (snapshot : Snapshot) : Prop :=
  ∀ host endpoints, snapshot.get? host = some endpoints →
    host ≠ "" ∧ '_' ∉ host.toList ∧ Text.startsWith host r.hostPrefix = true

/-- Nothing has the name, or the entry of a host of the registry alone. -/
def Holds (r : Reconciler) (name : String) (s : Slot) : Prop :=
  s = .empty ∨ ∃ endpoints, Text.startsWith name r.hostPrefix = true ∧
    s = .only (r.builder.build name endpoints)

/-- The mesh has nothing but entries that the reconciler has written. Calls may be refused. -/
structure Mirrors (r : Reconciler) (m : Mesh) : Prop where
  /-- The mesh is served once calls are accepted. -/
  serves : r.Serves (m.setDown false)
  /-- Each name is free or has the entry of its host. -/
  slots : ∀ name, r.Holds name (m.slot name)

section Steps

variable {r : Reconciler} {m : Mesh} {snapshot : Snapshot}

theorem setDown_of_up (h : m.store.down = false) : m.setDown false = m :=
  Mesh.setDown_eq_self h

/-- What a pass does to a name that is free or has the entry of its host. -/
theorem onSlot_of_holds {name : String} {s : Slot} (hspace : r.space ≠ "")
    (hsuits : r.Suits snapshot) (hs : r.Holds name s) :
    r.onSlot name (snapshot.get? name) s =
      match snapshot.get? name with
      | some endpoints => .only (r.builder.build name endpoints)
      | none => .empty := by
  cases hget : snapshot.get? name with
  | some endpoints =>
    have hnamed : r.space ≠ "" ∧ name ≠ "" := ⟨hspace, (hsuits name endpoints hget).1⟩
    -- The three cases in which a pass creates, keeps and replaces an entry.
    rcases hs with rfl | ⟨endpoints', -, rfl⟩
    · exact onSlot_cached_empty hnamed
    · by_cases hsame : endpoints' = endpoints
      · subst hsame
        exact onSlot_cached_only rfl
      · exact onSlot_cached_only_of_ne hnamed rfl hsame
  | none =>
    -- Whatever has the name begins as the hosts of the registry do, so it is collected.
    rcases hs with rfl | ⟨endpoints', hbegins, rfl⟩
    · exact onSlot_gone_empty
    · rw [onSlot_gone_only, if_pos ⟨hbegins, rfl⟩]

/-- After a pass each name has the entry of the current snapshot, or is free. -/
theorem slot_pass_of_mirrors (h : r.Mirrors m) (hup : m.store.down = false) (hspace : r.space ≠ "")
    (hsuits : r.Suits snapshot) (visit collect : Arrangement) (name : String) :
    ((r.pass visit collect snapshot).run Mesh.api m).2.slot name =
      match snapshot.get? name with
      | some endpoints => .only (r.builder.build name endpoints)
      | none => .empty := by
  have hserves : r.Serves m := setDown_of_up hup ▸ h.serves
  rw [slot_pass hserves visit collect fun host endpoints hget => (hsuits host endpoints hget).2.1]
  exact onSlot_of_holds hspace hsuits (h.slots name)

theorem Mirrors.pass (h : r.Mirrors m) (hspace : r.space ≠ "") (hsuits : r.Suits snapshot)
    (visit collect : Arrangement) :
    r.Mirrors ((r.pass visit collect snapshot).run Mesh.api m).2 := by
  cases hup : m.store.down with
  | true =>
    rw [Session.run_of_down _ hup]
    exact h
  | false =>
    have hserves : r.Serves m := setDown_of_up hup ▸ h.serves
    have hserves' := hserves.pass visit collect snapshot
    refine ⟨by rw [setDown_of_up hserves'.up]; exact hserves', fun name => ?_⟩
    rw [slot_pass_of_mirrors h hup hspace hsuits]
    cases hget : snapshot.get? name with
    | some endpoints => exact .inr ⟨endpoints, (hsuits name endpoints hget).2.2, rfl⟩
    | none => exact .inl rfl

/-- The invariant holds along every run, and so does what is assumed of the snapshots. -/
theorem mirrors_after {s : Writer} (hspace : r.space ≠ "") (hmesh : r.Mirrors s.mesh)
    (hsnapshot : r.Suits s.snapshot) (steps : List WriterStep)
    (hsuits : ∀ snapshot, .replace snapshot ∈ steps → r.Suits snapshot) :
    r.Mirrors (r.after s steps).mesh ∧ r.Suits (r.after s steps).snapshot := by
  -- An outage touches neither the entries nor the model, hence the invariant ignores it.
  induction steps generalizing s with
  | nil => exact ⟨hmesh, hsnapshot⟩
  | cons first rest ih =>
    have hrest : ∀ snapshot, .replace snapshot ∈ rest → r.Suits snapshot :=
      fun snapshot hmem => hsuits snapshot (List.mem_cons_of_mem _ hmem)
    cases first with
    | replace snapshot => exact ih hmesh (hsuits snapshot (List.mem_cons_self ..)) hrest
    | outage down => exact ih ⟨hmesh.serves, hmesh.slots⟩ hsnapshot hrest
    | pass visit collect => exact ih (hmesh.pass hspace hsnapshot visit collect) hsnapshot hrest

theorem mirrors_of_pristine (h : m.Pristine) (hexists : m.store.hasSpace r.space = true)
    (howner : r.owner = none ∨ r.owner = some m.ownership.reference) : r.Mirrors m where
  serves :=
    have hdown : (m.setDown false).Pristine := ⟨h.announced, h.stored, h.ours, h.theirs⟩
    ⟨hdown.plain, rfl, hexists, howner⟩
  slots name := .inl (h.slot name)

/-- After a pass another one is idle. -/
theorem settled_of_slot_eq
    (hslot : ∀ name, m.slot name =
      match snapshot.get? name with
      | some endpoints => .only (r.builder.build name endpoints)
      | none => .empty) :
    r.Settled snapshot m := by
  refine settled_of_slots (fun host endpoints hget => ?_) fun host e hget howned => ?_
  · refine ⟨r.builder.build host endpoints, ?_, rfl⟩
    rw [hslot, hget]
    rfl
  · rw [hslot, hget] at howned
    cases howned

end Steps

/-- A reconciler alone on a mesh, whose hosts can be written: after every run of replaced
snapshots, outages and passes, a pass while calls are accepted leaves exactly the entries that are
wanted for the current snapshot, and another pass makes no writing call and reports every host as
unchanged. -/
theorem pass_mirrors_snapshot (r : Reconciler) (start : Mesh) (steps : List WriterStep)
    (visit collect : Arrangement) (hspace : r.space ≠ "") (hstart : start.Pristine)
    (hexists : start.store.hasSpace r.space = true)
    (howner : r.owner = none ∨ r.owner = some start.ownership.reference)
    (hsuits : ∀ snapshot, .replace snapshot ∈ steps → r.Suits snapshot)
    (hup : (r.after { mesh := start } steps).mesh.store.down = false) :
    let s := r.after { mesh := start } steps
    let m := ((r.pass visit collect s.snapshot).run Mesh.api s.mesh).2
    (∀ key, (m.stored? key).map ServiceEntry.unversioned =
      if key.space = r.space then (s.snapshot.get? key.name).map (r.builder.build key.name)
      else none) ∧
    ∀ visit' collect',
      (∀ c ∈ (r.pass visit' collect' s.snapshot).calls Mesh.api m, c.isWrite = false) ∧
      (r.pass visit' collect' s.snapshot).run Mesh.api m =
        ({ unchanged := s.snapshot.size }, m) := by
  intro s m
  -- The run begins without hosts, and no later snapshot has one that cannot be written.
  have hempty : r.Suits .empty := fun host endpoints hget => by cases hget
  obtain ⟨hmirrors, hsnapshot⟩ := mirrors_after hspace (s := { mesh := start })
    (mirrors_of_pristine hstart hexists howner) hempty steps hsuits
  have hserves : r.Serves m := (setDown_of_up hup ▸ hmirrors.serves).pass visit collect _
  have hslot := slot_pass_of_mirrors hmirrors hup hspace hsnapshot visit collect
  refine ⟨fun key => ?_, fun visit' collect' => ?_⟩
  · have hstored : (m.stored? key).map ServiceEntry.unversioned =
        (m.slot key.name).stored key.space := rfl
    rw [hstored, hslot]
    cases hget : s.snapshot.get? key.name with
    | some endpoints => rfl
    | none => simp [Slot.empty]
  · have hsettled : r.Settled s.snapshot m := settled_of_slot_eq hslot
    refine ⟨(pass_reads_iff_settled hserves.up visit' collect').mpr hsettled, ?_⟩
    refine run_pass_of_settled hserves.up hsettled (fun host endpoints hget => ?_) visit' collect'
    have howned : (m.slot host).owned = some (r.builder.build host endpoints) := by
      rw [hslot, hget]
      rfl
    obtain ⟨e, he, -⟩ := Option.map_eq_some_iff.mp howned
    exact ⟨e, he⟩

/-- A run in which the first pass falls into an outage. -/
theorem mirrors_snapshot_after_outage :
    let reference : OwnerReference := { name := "registry" }
    let r : Reconciler :=
      { space := "mesh", registry := .consul, hostPrefix := "or", owner := some reference }
    let endpoints := [Endpoint.onPort "10.0.0.1" 80]
    let start : Mesh :=
      { store := { spaces := .singleton "mesh" () }, ownership := { reference } }
    let steps : List WriterStep :=
      [.outage true, .replace (.singleton "orders" endpoints), .pass .given .given, .outage false]
    let s := r.after { mesh := start } steps
    let m := ((r.pass .given .given s.snapshot).run Mesh.api s.mesh).2
    (m.stored? ⟨"mesh", "orders"⟩).map ServiceEntry.unversioned =
        some (r.builder.build "orders" endpoints) ∧
      (r.pass .given .given s.snapshot).run Mesh.api m = ({ unchanged := 1 }, m) := by
  intro reference r endpoints start steps s m
  have hsuits : ∀ snapshot, .replace snapshot ∈ steps → r.Suits snapshot := by
    intro snapshot hmem host endpoints' hget
    have hsnapshot : snapshot = .singleton "orders" endpoints := by
      simpa [steps] using hmem
    subst hsnapshot
    rw [SortedMap.singleton, SortedMap.get?_insert] at hget
    split at hget
    next hhost =>
      subst hhost
      decide +kernel
    next => cases hget
  obtain ⟨hstored, hidle⟩ := pass_mirrors_snapshot r start steps .given .given (by decide)
    ⟨rfl, fun _ => rfl, fun _ => rfl, fun _ => rfl⟩ (by decide +kernel) (.inr rfl) hsuits rfl
  exact ⟨hstored ⟨"mesh", "orders"⟩, (hidle .given .given).2⟩

end Reconciler

end MeshRegistry
