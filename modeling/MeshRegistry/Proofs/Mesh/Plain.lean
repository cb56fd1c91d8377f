import MeshRegistry.Proofs.Mesh.Pass
/-!
# Meshes that reconcilers alone have written

An entry that a reconciler writes has its own name as its only host, carries the label of the
registry, and is owned by this controller or by nobody. As long as no other entries come in, the
ownership model knows every entry under its name, on our side, with the stored specification. It
may know an older version: a change that leaves the specification as it is does not reach it.

## Main definitions

- `PlainEntry`: the entries that reconcilers of a kind of registry write.
- `Mesh.Plain`: the meshes with such entries only, known to the model.
- `Reconciler.Serves`: a reconciler whose writes to a plain mesh are accepted and are ours.

## Main results

- `Mesh.Plain.created`, `Mesh.Plain.replaced`, `Mesh.Plain.removed`: writes keep a mesh plain.
- `Reconciler.Serves.pass`: so does a pass.
-/

namespace MeshRegistry

/-- An entry as the reconcilers of a kind of registry write it. -/
structure PlainEntry (kind : RegistryKind) (reference : OwnerReference) (e : ServiceEntry) :
    Prop where
  /-- Its name is its only host. -/
  hosts : e.spec.hosts = [e.name]
  /-- It does not belong to somebody else. -/
  owner : ownerOf reference e ≠ .them
  /-- It carries the label of the registry. -/
  label : e.label? registryLabel = some kind.text
  /-- It has a namespace. -/
  space : e.space ≠ ""
  /-- It has a name. -/
  name : e.name ≠ ""

theorem PlainEntry.stamped {kind : RegistryKind} {reference : OwnerReference} {e : ServiceEntry}
    (h : PlainEntry kind reference e) (m : Mesh) : PlainEntry kind reference (m.stamped e) :=
  ⟨h.hosts, h.owner, h.label, h.space, h.name⟩

/-- Only entries as the reconcilers of a kind of registry write them, all known to the model. -/
structure Mesh.Plain (kind : RegistryKind) (m : Mesh) : Prop where
  /-- The model follows the store. -/
  announced : m.announced = true
  /-- Nothing belongs to somebody else. -/
  theirs : ∀ host, m.ownership.theirs.get? host = none
  /-- Every entry is stored under its own key. -/
  stored : ∀ key e, m.stored? key = some e →
    e.key = key ∧ PlainEntry kind m.ownership.reference e
  /-- The model knows entries by their name, and with the stored specification. -/
  ours : ∀ host e, m.ownership.ours.get? host = some e →
    e.name = host ∧ ∃ current, m.stored? e.key = some current ∧ current.spec = e.spec

namespace OwnershipModel

/-! ## Entries that do not belong to somebody else -/

section NotThem

variable {o : OwnershipModel} {owner : Owner} {e : ServiceEntry}

theorem ours_place (h : owner ≠ .them) :
    (o.place owner e).ours = occupy o.ours e.spec.hosts e := by
  cases owner with
  | us => rfl
  | them => exact absurd rfl h
  | none => rfl

theorem theirs_place (h : owner ≠ .them) : (o.place owner e).theirs = o.theirs := by
  cases owner with
  | us => rfl
  | them => exact absurd rfl h
  | none => rfl

theorem ours_clear (h : owner ≠ .them) :
    (o.clear owner e).ours = vacate o.ours e.spec.hosts := by
  cases owner with
  | us => rfl
  | them => exact absurd rfl h
  | none => rfl

theorem theirs_clear {host : String} (h : o.theirs.get? host = none) :
    (o.clear owner e).theirs.get? host = none := by
  cases owner with
  | us => exact h
  | them => simp [clear, get?_vacate, h]
  | none => simp [clear, get?_vacate, h]

end NotThem

end OwnershipModel

namespace Mesh

/-! ## What writes do to the model of a plain mesh -/

section Writes

variable {kind : RegistryKind} {m : Mesh} {e old : ServiceEntry} {key : ObjectKey}

theorem ours_created (h : m.Plain kind) (he : PlainEntry kind m.ownership.reference e)
    (host : String) :
    (m.created e).ownership.ours.get? host =
      if host = e.name then some (m.stamped e) else m.ownership.ours.get? host := by
  have howner : m.ownership.ownerOf (m.stamped e) ≠ .them := he.owner
  rw [created, ownership_advance m _ _ h.announced, OwnershipModel.receive, OwnershipModel.insert,
    OwnershipModel.ours_place howner, get?_occupy, spec_stamped, he.hosts]
  simp

theorem theirs_created (h : m.Plain kind) (he : PlainEntry kind m.ownership.reference e)
    (host : String) : (m.created e).ownership.theirs.get? host = none := by
  have howner : m.ownership.ownerOf (m.stamped e) ≠ .them := he.owner
  rw [created, ownership_advance m _ _ h.announced, OwnershipModel.receive, OwnershipModel.insert,
    OwnershipModel.theirs_place howner]
  exact h.theirs host

/-- A replacement reaches the model if it changes the specification. -/
theorem ours_replaced (h : m.Plain kind) (he : PlainEntry kind m.ownership.reference e)
    (hold : m.stored? e.key = some old) (host : String) :
    (m.replaced old e).ownership.ours.get? host =
      if host = e.name ∧ old.spec ≠ e.spec then some (m.stamped e)
      else m.ownership.ours.get? host := by
  -- The old entry has the same name, so the model clears and fills one and the same host.
  obtain ⟨hkey, hplain⟩ := h.stored _ _ hold
  have hname : old.name = e.name := congrArg ObjectKey.name hkey
  have howner : m.ownership.ownerOf old ≠ .them := hplain.owner
  have howner' : m.ownership.ownerOf (m.stamped e) ≠ .them := he.owner
  rw [replaced, ownership_advance m _ _ h.announced, OwnershipModel.receive, OwnershipModel.update,
    spec_stamped]
  by_cases hspec : old.spec = e.spec
  · simp [hspec]
  · rw [if_neg hspec, OwnershipModel.ours_place howner', get?_occupy,
      OwnershipModel.ours_clear howner, get?_vacate, spec_stamped, he.hosts, hplain.hosts, hname]
    by_cases hhost : host = e.name <;> simp [hhost, hspec]

theorem theirs_replaced (h : m.Plain kind) (he : PlainEntry kind m.ownership.reference e)
    (host : String) : (m.replaced old e).ownership.theirs.get? host = none := by
  have howner : m.ownership.ownerOf (m.stamped e) ≠ .them := he.owner
  rw [replaced, ownership_advance m _ _ h.announced, OwnershipModel.receive, OwnershipModel.update]
  split
  · exact h.theirs host
  · rw [OwnershipModel.theirs_place howner]
    exact OwnershipModel.theirs_clear (h.theirs host)

theorem ours_removed (h : m.Plain kind) (hold : m.stored? key = some old) (host : String) :
    (m.removed key old).ownership.ours.get? host =
      if host = key.name then none else m.ownership.ours.get? host := by
  obtain ⟨rfl, hplain⟩ := h.stored _ _ hold
  have howner : m.ownership.ownerOf old ≠ .them := hplain.owner
  rw [removed, ownership_advance m _ _ h.announced, OwnershipModel.receive, OwnershipModel.delete,
    OwnershipModel.ours_clear howner, get?_vacate, hplain.hosts]
  by_cases hhost : host = old.name <;> simp [hhost, ServiceEntry.key]

theorem theirs_removed (h : m.Plain kind) (host : String) :
    (m.removed key old).ownership.theirs.get? host = none := by
  rw [removed, ownership_advance m _ _ h.announced, OwnershipModel.receive, OwnershipModel.delete]
  exact OwnershipModel.theirs_clear (h.theirs host)

/-! ## Plain meshes stay plain -/

theorem Plain.created (h : m.Plain kind) (he : PlainEntry kind m.ownership.reference e)
    (habsent : m.stored? e.key = none) : (m.created e).Plain kind where
  announced := h.announced
  theirs := theirs_created h he
  stored key' e' he' := by
    rw [stored?_created] at he'
    rw [Mesh.created, reference_advance]
    split at he'
    next hkey =>
      obtain rfl := Option.some.inj he'
      exact ⟨hkey.symm, he.stamped m⟩
    next => exact h.stored key' e' he'
  ours host e' he' := by
    rw [ours_created h he] at he'
    split at he'
    next hhost =>
      obtain rfl := Option.some.inj he'
      exact ⟨hhost.symm, m.stamped e, by simp, rfl⟩
    next =>
      -- Another entry that the model has is still stored: the new one took a free key.
      obtain ⟨hname, current, hcurrent, hspec⟩ := h.ours host e' he'
      refine ⟨hname, current, ?_, hspec⟩
      rw [stored?_created, if_neg]
      · exact hcurrent
      · intro hkey
        rw [hkey, habsent] at hcurrent
        cases hcurrent

theorem Plain.replaced (h : m.Plain kind) (he : PlainEntry kind m.ownership.reference e)
    (hold : m.stored? e.key = some old) : (m.replaced old e).Plain kind where
  announced := h.announced
  theirs := theirs_replaced h he
  stored key' e' he' := by
    rw [stored?_replaced] at he'
    rw [Mesh.replaced, reference_advance]
    split at he'
    next hkey =>
      obtain rfl := Option.some.inj he'
      exact ⟨hkey.symm, he.stamped m⟩
    next => exact h.stored key' e' he'
  ours host e' he' := by
    rw [ours_replaced h he hold] at he'
    split at he'
    next hhost =>
      obtain rfl := Option.some.inj he'
      exact ⟨hhost.1.symm, m.stamped e, by simp, rfl⟩
    next hhost =>
      obtain ⟨hname, current, hcurrent, hspec⟩ := h.ours host e' he'
      refine ⟨hname, ?_⟩
      rw [stored?_replaced]
      split
      next hkey =>
        -- The model was not told, because the specification stays the same.
        rw [hkey] at hcurrent
        obtain rfl := Option.some.inj (hold.symm.trans hcurrent)
        have hhost' : host = e.name := hname.symm.trans (congrArg ObjectKey.name hkey)
        have hsame : old.spec = e.spec := not_not.mp fun hne => hhost ⟨hhost', hne⟩
        exact ⟨m.stamped e, rfl, hsame.symm.trans hspec⟩
      next => exact ⟨current, hcurrent, hspec⟩

theorem Plain.removed (h : m.Plain kind) (hold : m.stored? key = some old) :
    (m.removed key old).Plain kind where
  announced := h.announced
  theirs := theirs_removed h
  stored key' e' he' := by
    rw [stored?_removed] at he'
    rw [Mesh.removed, reference_advance]
    split at he'
    next => cases he'
    next => exact h.stored key' e' he'
  ours host e' he' := by
    rw [ours_removed h hold] at he'
    split at he'
    next => cases he'
    next hhost =>
      obtain ⟨hname, current, hcurrent, hspec⟩ := h.ours host e' he'
      refine ⟨hname, current, ?_, hspec⟩
      rw [stored?_removed, if_neg]
      · exact hcurrent
      · rintro rfl
        exact hhost hname.symm

end Writes

end Mesh

namespace Reconciler

/-! ## Passes over a plain mesh -/

section Passes

variable {r : Reconciler} {m : Mesh} {snapshot : Snapshot}
  {ours : SortedMap String ServiceEntry} {host : String} {endpoints : List Endpoint}

/-- A reconciler can write to a plain mesh, and what it writes is not theirs. -/
structure Serves (r : Reconciler) (m : Mesh) : Prop where
  /-- The mesh has entries of this kind of registry only. -/
  plain : m.Plain r.registry
  /-- Calls are accepted. -/
  up : m.store.down = false
  /-- The target namespace exists. -/
  space : m.store.hasSpace r.space = true
  /-- Entries are stamped with the reference of the model, or not at all. -/
  owner : r.owner = none ∨ r.owner = some m.ownership.reference

/-- A conversation that keeps the mesh plain keeps it served. -/
theorem Serves.run {α : Type} (h : r.Serves m) (p : Session α)
    (hplain : (p.run Mesh.api m).2.Plain r.registry) : r.Serves (p.run Mesh.api m).2 :=
  ⟨hplain, (p.down_run m).trans h.up, p.hasSpace_run h.space, by simpa using h.owner⟩

/-- The entry that is wanted for a host is plain. -/
theorem plainEntry_build (howner : r.owner = none ∨ r.owner = some m.ownership.reference)
    (hname : r.Nameable host) :
    PlainEntry r.registry m.ownership.reference (r.builder.build host endpoints) where
  hosts := rfl
  owner := by
    -- Without an owner the entry is nobody's, and with that of the model it is ours.
    rcases howner with h | h
    · simp [ownerOf, EntryBuilder.build, builder, h]
    · simp [ownerOf, EntryBuilder.build, builder, h]
  label := by
    simp [ServiceEntry.label?, EntryBuilder.build, builder, SortedMap.singleton]
  space := hname.1
  name := hname.2

theorem Serves.writeHost (h : r.Serves m) :
    r.Serves ((r.writeHost host endpoints).run Mesh.api m).2 := by
  refine h.run _ ?_
  rcases writeHost_cases h.up r host endpoints with
    ⟨current, hname, hcurrent, hrun⟩ | ⟨hname, -, habsent, hrun⟩ | ⟨-, hrun⟩
  · rw [hrun]
    exact h.plain.replaced (plainEntry_build h.owner hname) hcurrent
  · rw [hrun]
    exact h.plain.created (plainEntry_build h.owner hname) habsent
  · rw [hrun]
    exact h.plain

theorem Serves.visited (h : r.Serves m) : r.Serves (r.visited snapshot ours m host) := by
  unfold Reconciler.visited
  cases hhost : snapshot.get? host with
  | none => exact h
  | some endpoints =>
    dsimp only
    by_cases hrewrites : Rewrites m.ownership host endpoints (ours.get? host)
    · rw [run_reconcileHost_of_rewrites hrewrites]
      exact h.writeHost
    · rw [run_reconcileHost_of_not_rewrites hrewrites]
      exact h

theorem Serves.collectEntry (h : r.Serves m) (e : ServiceEntry) :
    r.Serves ((r.collectEntry e).run Mesh.api m).2 := by
  by_cases hmarked : ∃ current, m.stored? ⟨r.space, e.name⟩ = some current ∧ r.Marks current
  · obtain ⟨current, hcurrent, hmark⟩ := hmarked
    refine h.run _ ?_
    rw [run_collectEntry_of_marked h.up hcurrent hmark]
    exact h.plain.removed hcurrent
  · rw [run_collectEntry_of_unmarked h.up
      fun current hcurrent hmark => hmarked ⟨current, hcurrent, hmark⟩]
    exact h

theorem Serves.swept (h : r.Serves m) : r.Serves (r.swept snapshot ours m host) := by
  unfold Reconciler.swept
  split
  · exact h
  · split
    · exact h.collectEntry _
    · exact h

theorem Serves.foldl_visited (h : r.Serves m) (hosts : List String) :
    r.Serves (hosts.foldl (r.visited snapshot ours) m) := by
  induction hosts generalizing m with
  | nil => exact h
  | cons host rest ih => exact ih h.visited

theorem Serves.foldl_swept (h : r.Serves m) (hosts : List String) :
    r.Serves (hosts.foldl (r.swept snapshot ours) m) := by
  induction hosts generalizing m with
  | nil => exact h
  | cons host rest ih => exact ih h.swept

/-- A pass keeps a mesh served. -/
theorem Serves.pass (h : r.Serves m) (visit collect : Arrangement) (snapshot : Snapshot) :
    r.Serves ((r.pass visit collect snapshot).run Mesh.api m).2 := by
  rw [run_pass_snd]
  exact (h.foldl_visited _).foldl_swept _

end Passes

end Reconciler

end MeshRegistry
