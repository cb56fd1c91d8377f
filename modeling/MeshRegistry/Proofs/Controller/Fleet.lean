import MeshRegistry.Proofs.Catalog.Recovery
import MeshRegistry.Proofs.Controller.Assembled
import MeshRegistry.Proofs.Mesh.Slots
/-!
# Several reconcilers on one mesh

The followers of several catalogs share one mesh and one ownership model. A step of the fleet is a
poll of one follower or a pass of one follower, and a round lets each follower make one pass, in
any order.

As long as all followers that have a host agree on its endpoints, at most one entry has the name
of the host, in the target namespace of one of them.

## Main definitions

- `Follower`, `Fleet`, `Fleet.after`: the followers with their mesh, and their runs.
- `Assembly.fleet`: the fleet of the parts that a configuration asks for.
- `Fleet.Sound`: what is true of a fleet and its mesh along every run.
- `Fleet.Lone`: at most one entry has a name, and a follower has it so.

## Main results

- `Fleet.sound_after`: soundness holds along every run.
- `Fleet.lone_after`: where the followers agree, at most one entry has a name.
-/

namespace MeshRegistry

/-! ## Followers and their fleet -/

/-- A catalog that stays the same, its watcher, and the reconciler of the watcher's snapshot. -/
structure Follower where
  /-- The catalog. -/
  catalog : FixedCatalog
  /-- The watcher. -/
  watcher : CatalogWatcher
  /-- The reconciler. -/
  reconciler : Reconciler

namespace Follower

/-- The hosts that the follower has, with their endpoints. -/
def snapshot (f : Follower) : Snapshot := f.watcher.snapshot

/-- The follower after a poll in which every call succeeds. -/
def refreshed (f : Follower) (order : Arrangement) : Follower :=
  { f with watcher := (f.watcher.refresh order f.catalog.healthy).2 }

end Follower

/-- Followers that share a mesh. -/
structure Fleet where
  /-- The mesh. -/
  mesh : Mesh
  /-- The followers. -/
  followers : List Follower

/-- A pass of one follower, given by its place. -/
structure Turn where
  /-- The place of the follower. -/
  place : Nat
  /-- The order in which its hosts are visited. -/
  visit : Arrangement
  /-- The order in which hosts of ours are looked at for collection. -/
  collect : Arrangement

/-- What happens to a fleet. -/
inductive FleetStep where
  /-- A follower polls its catalog, whose services are visited in an order. -/
  | refresh (place : Nat) (order : Arrangement)
  /-- A follower makes a pass. -/
  | pass (turn : Turn)

namespace Fleet

/-- The conversation of a turn; there is none at a place without a follower. -/
def pass (s : Fleet) (t : Turn) : Session Unit :=
  match s.followers[t.place]? with
  | none => return ()
  | some f => do
    let _ ← f.reconciler.pass t.visit t.collect f.snapshot
    return ()

/-- The fleet after a turn. -/
def turn (s : Fleet) (t : Turn) : Fleet := { s with mesh := ((s.pass t).run Mesh.api s.mesh).2 }

/-- The fleet after a step. -/
def step (s : Fleet) : FleetStep → Fleet
  | .refresh place order =>
    { s with
      followers := s.followers.mapIdx fun i f => if i = place then f.refreshed order else f }
  | .pass t => s.turn t

/-- The fleet after a run. -/
def after (s : Fleet) (steps : List FleetStep) : Fleet := steps.foldl step s

/-- The fleet after turns alone. -/
def turns (s : Fleet) (ts : List Turn) : Fleet := ts.foldl turn s

/-- The calls that turns make. -/
def calls (s : Fleet) : List Turn → List Call
  | [] => []
  | t :: rest => (s.pass t).calls Mesh.api s.mesh ++ (s.turn t).calls rest

/-- Each follower has one turn, in any order. -/
def IsRound (s : Fleet) (ts : List Turn) : Prop :=
  (ts.map Turn.place).Perm (List.range s.followers.length)

end Fleet

/-- The fleet of the watchers of catalogs, each with its reconciler and the catalog behind it. -/
def Assembly.fleet (a : Assembly) (catalogs : Nat → FixedCatalog) (m : Mesh) : Fleet where
  mesh := m
  followers := (a.watchers.zip a.reconcilers).zipIdx.filterMap fun
    | ((.catalog w, r), i) => some ⟨catalogs i, w, r⟩
    | ((.stream _, _), _) => none

/-! ## Followers along a run -/

namespace Follower

/-- A follower as it is assembled for a catalog, at any time of a run. -/
structure Fits (owner : Option OwnerReference) (f : Follower) : Prop where
  /-- It follows a catalog. -/
  registry : f.reconciler.registry = .consul
  /-- Its services live outside of the mesh. -/
  location : f.reconciler.location = .meshExternal
  /-- Its entries are stamped with the owner. -/
  owner : f.reconciler.owner = owner
  /-- Its entries go to the target namespace of the watcher. -/
  space : f.reconciler.space = f.watcher.targetSpace
  /-- Its hosts begin as those of the watcher. -/
  begins : f.reconciler.hostPrefix = f.watcher.hostPrefix
  /-- What its hosts begin with has no underscore. -/
  hostPrefix : '_' ∉ f.watcher.hostPrefix.toList
  /-- Its hosts have no underscore. -/
  hosts : ∀ host endpoints, f.snapshot.get? host = some endpoints → '_' ∉ host.toList
  /-- It has no hosts before it knows the index of its catalog. -/
  index : f.snapshot = .empty ∨ f.watcher.lastIndex = f.catalog.index

variable {owner : Option OwnerReference} {f : Follower}

@[simp] theorem hostPrefix_refreshed (order : Arrangement) :
    (f.refreshed order).watcher.hostPrefix = f.watcher.hostPrefix := by
  rw [Follower.refreshed, FixedCatalog.healthy, CatalogWatcher.refresh_answers]
  split <;> rfl

@[simp] theorem targetSpace_refreshed (order : Arrangement) :
    (f.refreshed order).watcher.targetSpace = f.watcher.targetSpace := by
  rw [Follower.refreshed, FixedCatalog.healthy, CatalogWatcher.refresh_answers]
  split <;> rfl

theorem Fits.refreshed (h : f.Fits owner) (order : Arrangement) :
    (f.refreshed order).Fits owner where
  registry := h.registry
  location := h.location
  owner := h.owner
  space := h.space.trans (targetSpace_refreshed order).symm
  begins := h.begins.trans (hostPrefix_refreshed order).symm
  hostPrefix := by
    rw [hostPrefix_refreshed]
    exact h.hostPrefix
  hosts host endpoints hget := by
    rw [Follower.refreshed, snapshot, FixedCatalog.healthy, CatalogWatcher.refresh_answers] at hget
    split at hget
    · exact h.hosts host endpoints hget
    · obtain ⟨service, -, rfl⟩ := CatalogWatcher.exists_service_of_snapshotOf hget
      rw [HostName.key, String.toList_append, List.mem_append]
      rintro (hmem | hmem)
      · exact h.hostPrefix hmem
      · exact HostName.underscore_not_mem_formatted service hmem
  index := .inr (CatalogWatcher.lastIndex_refresh ..)

/-- Followers with one target namespace want the same entry for a host. -/
theorem Fits.build_eq {g : Follower} (h : f.Fits owner) (h' : g.Fits owner)
    (hspace : g.watcher.targetSpace = f.watcher.targetSpace) (host : String)
    (endpoints : List Endpoint) :
    g.reconciler.builder.build host endpoints = f.reconciler.builder.build host endpoints := by
  rw [Reconciler.builder, Reconciler.builder, h.registry, h'.registry, h.location, h'.location,
    h.owner, h'.owner, h.space, h'.space, hspace]

/-- A poll loses no host, as the catalog stays the same. -/
theorem Fits.get?_refreshed (h : f.Fits owner) (order : Arrangement) {host : String}
    {endpoints : List Endpoint} (hget : f.snapshot.get? host = some endpoints) :
    (f.refreshed order).snapshot.get? host = some endpoints := by
  -- Hosts come from a poll, and after it the index of the catalog is no longer news.
  rcases h.index with hempty | hknown
  · rw [hempty] at hget
    cases hget
  · have hsame : (f.refreshed order).snapshot = f.snapshot := by
      rw [Follower.refreshed, snapshot, FixedCatalog.healthy, CatalogWatcher.refresh_answers,
        if_pos hknown.symm]
      rfl
    rw [hsame]
    exact hget

end Follower

namespace Fleet

/-! ## Soundness -/

/-- The mesh has entries of catalogs only, accepts calls, and has the namespaces of all followers,
who stamp one owner that the model knows as ours. -/
structure Sound (owner : Option OwnerReference) (s : Fleet) : Prop where
  /-- The mesh has entries of catalogs only. -/
  plain : s.mesh.Plain .consul
  /-- Calls are accepted. -/
  up : s.mesh.store.down = false
  /-- The target namespaces exist. -/
  spaces : ∀ f ∈ s.followers, s.mesh.store.hasSpace f.reconciler.space = true
  /-- The owner that entries are stamped with is that of the model. -/
  stamp : owner = none ∨ owner = some s.mesh.ownership.reference
  /-- The followers are as they were assembled. -/
  followers : ∀ f ∈ s.followers, f.Fits owner

section Steps

variable {owner : Option OwnerReference} {s : Fleet} {f : Follower} {t : Turn} {name : String}
  {endpoints : List Endpoint}

theorem Sound.serves (h : s.Sound owner) (hf : f ∈ s.followers) :
    f.reconciler.Serves s.mesh where
  plain := (h.followers f hf).registry ▸ h.plain
  up := h.up
  space := h.spaces f hf
  owner := (h.followers f hf).owner ▸ h.stamp

theorem run_pass_of_some (hf : s.followers[t.place]? = some f) :
    ((s.pass t).run Mesh.api s.mesh).2 =
      ((f.reconciler.pass t.visit t.collect f.snapshot).run Mesh.api s.mesh).2 := by
  simp [pass, hf]

theorem calls_pass_of_some (hf : s.followers[t.place]? = some f) :
    (s.pass t).calls Mesh.api s.mesh =
      (f.reconciler.pass t.visit t.collect f.snapshot).calls Mesh.api s.mesh := by
  simp [pass, hf]

theorem turn_of_none (hf : s.followers[t.place]? = none) : s.turn t = s := by
  simp [turn, pass, hf]

theorem Sound.turn (h : s.Sound owner) (t : Turn) : (s.turn t).Sound owner := by
  cases hf : s.followers[t.place]? with
  | none =>
    rw [turn_of_none hf]
    exact h
  | some f =>
    have hmem := List.mem_of_getElem? hf
    have hserves := (h.serves hmem).pass t.visit t.collect f.snapshot
    rw [← run_pass_of_some hf] at hserves
    exact
      { plain := (h.followers f hmem).registry ▸ hserves.plain
        up := hserves.up
        spaces := fun g hg => (s.pass t).hasSpace_run (h.spaces g hg)
        stamp := (h.followers f hmem).owner ▸ hserves.owner
        followers := h.followers }

theorem Sound.step (h : s.Sound owner) (st : FleetStep) : (s.step st).Sound owner := by
  cases st with
  | pass t => exact h.turn t
  | refresh place order =>
    refine ⟨h.plain, h.up, ?_, h.stamp, ?_⟩
    · intro g hg
      obtain ⟨i, hi, rfl⟩ := List.mem_mapIdx.mp hg
      have hspace := h.spaces _ (List.getElem_mem hi)
      split
      · exact hspace
      · exact hspace
    · intro g hg
      obtain ⟨i, hi, rfl⟩ := List.mem_mapIdx.mp hg
      have hfits := h.followers _ (List.getElem_mem hi)
      split
      · exact hfits.refreshed order
      · exact hfits

/-- Soundness holds along every run. -/
theorem sound_after (h : s.Sound owner) (steps : List FleetStep) : (s.after steps).Sound owner := by
  induction steps generalizing s with
  | nil => exact h
  | cons st rest ih => exact ih (h.step st)

/-! ## Hosts along a run -/

/-- A step loses no host of a follower. -/
theorem Sound.get?_step (h : s.Sound owner) (st : FleetStep) (hf : f ∈ s.followers)
    (hget : f.snapshot.get? name = some endpoints) :
    ∃ f' ∈ (s.step st).followers, f'.reconciler = f.reconciler ∧
      f'.snapshot.get? name = some endpoints := by
  cases st with
  | pass t => exact ⟨f, hf, rfl, hget⟩
  | refresh place order =>
    obtain ⟨i, hi, rfl⟩ := List.getElem_of_mem hf
    refine ⟨_, List.mem_mapIdx.mpr ⟨i, hi, rfl⟩, ?_⟩
    split
    · exact ⟨rfl, (h.followers _ hf).get?_refreshed order hget⟩
    · exact ⟨rfl, hget⟩

/-- The followers that have a host agree on its endpoints. -/
def Agree (s : Fleet) (name : String) : Prop :=
  ∀ f ∈ s.followers, ∀ g ∈ s.followers, ∀ endpoints endpoints',
    f.snapshot.get? name = some endpoints → g.snapshot.get? name = some endpoints' →
      endpoints = endpoints'

/-- Followers that agree have always agreed. -/
theorem Sound.agree_of_step (h : s.Sound owner) (st : FleetStep) (hagree : (s.step st).Agree name) :
    s.Agree name := by
  intro f hf g hg endpoints endpoints' hget hget'
  obtain ⟨f', hf', -, hkept⟩ := h.get?_step st hf hget
  obtain ⟨g', hg', -, hkept'⟩ := h.get?_step st hg hget'
  exact hagree f' hf' g' hg' endpoints endpoints' hkept hkept'

theorem Sound.agree_of_after (h : s.Sound owner) (steps : List FleetStep)
    (hagree : (s.after steps).Agree name) : s.Agree name := by
  induction steps generalizing s with
  | nil => exact hagree
  | cons st rest ih => exact h.agree_of_step st (ih (h.step st) hagree)

/-! ## One entry for a name -/

/-- Nothing has the name, or only the entry of a follower that has the host. -/
def Lone (s : Fleet) (name : String) : Prop :=
  s.mesh.slot name = .empty ∨ ∃ f ∈ s.followers, ∃ endpoints,
    f.snapshot.get? name = some endpoints ∧
      s.mesh.slot name = .only (f.reconciler.builder.build name endpoints)

theorem Sound.slot_turn (h : s.Sound owner) (hf : s.followers[t.place]? = some f) (name : String) :
    (s.turn t).mesh.slot name =
      f.reconciler.onSlot name (f.snapshot.get? name) (s.mesh.slot name) := by
  have hmem := List.mem_of_getElem? hf
  show ((s.pass t).run Mesh.api s.mesh).2.slot name = _
  rw [run_pass_of_some hf]
  exact Reconciler.slot_pass (h.serves hmem) t.visit t.collect (h.followers f hmem).hosts

/-- While the followers agree on a host, a turn leaves at most one entry under its name. -/
theorem Lone.turn (hlone : s.Lone name) (h : s.Sound owner) (hagree : s.Agree name) (t : Turn) :
    (s.turn t).Lone name := by
  cases hf : s.followers[t.place]? with
  | none =>
    rw [turn_of_none hf]
    exact hlone
  | some g =>
    have hg := List.mem_of_getElem? hf
    unfold Lone
    rw [h.slot_turn hf]
    cases hget : g.snapshot.get? name with
    | none =>
      -- The turn may collect the entry of another follower, but it writes nothing here.
      rcases hlone with hempty | ⟨f, hmem, endpoints, hf', honly⟩
      · rw [hempty]
        exact .inl Reconciler.onSlot_gone_empty
      · rw [honly, Reconciler.onSlot_gone_only]
        split
        · exact .inl rfl
        · exact .inr ⟨f, hmem, endpoints, hf', rfl⟩
    | some endpoints =>
      rcases hlone with hempty | ⟨f, hmem, endpoints', hf', honly⟩
      · rw [hempty]
        by_cases hnamed : g.reconciler.space ≠ "" ∧ name ≠ ""
        · exact .inr ⟨g, hg, endpoints, hget, Reconciler.onSlot_cached_empty hnamed⟩
        · refine .inl ?_
          rw [Reconciler.onSlot_cached_free rfl, Reconciler.writeSlot, if_neg hnamed]
      · -- The entry has the endpoints that this follower wants, in whatever namespace it is.
        obtain rfl := hagree f hmem g hg endpoints' endpoints hf' hget
        refine .inr ⟨f, hmem, endpoints', hf', ?_⟩
        rw [honly]
        exact Reconciler.onSlot_cached_only rfl

theorem Lone.step (hlone : s.Lone name) (h : s.Sound owner) (st : FleetStep)
    (hagree : (s.step st).Agree name) : (s.step st).Lone name := by
  cases st with
  | pass t => exact hlone.turn h hagree t
  | refresh place order =>
    rcases hlone with hempty | ⟨f, hmem, endpoints, hget, honly⟩
    · exact .inl hempty
    · obtain ⟨f', hmem', hsame, hget'⟩ := h.get?_step (.refresh place order) hmem hget
      refine .inr ⟨f', hmem', endpoints, hget', ?_⟩
      rw [hsame]
      exact honly

/-- Where the followers agree in the end, there is at most one entry for a name. -/
theorem lone_after (h : s.Sound owner) (hlone : s.Lone name) (steps : List FleetStep)
    (hagree : (s.after steps).Agree name) : (s.after steps).Lone name := by
  induction steps generalizing s with
  | nil => exact hlone
  | cons st rest ih =>
    -- Agreement is known at the end of the run and needed at each step.
    have hnext := (h.step st).agree_of_after rest hagree
    exact ih (h.step st) (hlone.step h st hnext) hagree

end Steps

end Fleet

end MeshRegistry
