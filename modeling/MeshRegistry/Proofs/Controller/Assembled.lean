import MeshRegistry.Controller.Assembly
import Mathlib.Logic.Basic
/-!
# What acceptable configurations assemble to

All registries of an acceptable configuration are of one kind. If they are catalogs, each of them
gets a watcher and a reconciler that share their target namespace and what the hosts begin with,
and all reconcilers stamp the same owner.

## Main results

- `ControllerConfig.kind_eq_of_validate`: the registries of an acceptable configuration agree.
- `ControllerConfig.assemble_of_consul`: the watchers and reconcilers for catalogs.
-/

namespace MeshRegistry

/-- The results of a successful traversal, one for each element. -/
theorem exists_of_mapM {α β ε : Type} {f : α → Except ε β} {l : List α} {results : List β}
    (h : l.mapM f = .ok results) :
    results.length = l.length ∧ ∀ b ∈ results, ∃ a ∈ l, f a = .ok b := by
  induction l generalizing results with
  | nil =>
    obtain rfl : [] = results := Except.ok.inj h
    exact ⟨rfl, fun b hb => by cases hb⟩
  | cons a rest ih =>
    rw [List.mapM_cons] at h
    cases ha : f a with
    | error err =>
      rw [ha] at h
      cases h
    | ok b =>
      cases hrest : rest.mapM f with
      | error err =>
        rw [ha, hrest] at h
        cases h
      | ok later =>
        rw [ha, hrest] at h
        obtain rfl : b :: later = results := Except.ok.inj h
        obtain ⟨hlength, hmem⟩ := ih hrest
        refine ⟨by simp [hlength], ?_⟩
        rintro b' (_ | ⟨_, hb'⟩)
        · exact ⟨a, List.mem_cons_self .., ha⟩
        · obtain ⟨a', ha', heq⟩ := hmem b' hb'
          exact ⟨a', List.mem_cons_of_mem _ ha', heq⟩

namespace ControllerConfig

variable {c : ControllerConfig}

/-! ## Registries of one kind -/

/-- An acceptable configuration has registries of one kind. -/
theorem kind_eq_of_validate (h : c.validate = .ok ()) {r r' : RegistryConfig}
    (hr : r ∈ c.registries) (hr' : r' ∈ c.registries) : r.kind = r'.kind := by
  -- The last of the checks compares the kinds, and the others must have been passed.
  have hkinds : ∃ kind, c.registryKind = .ok kind := by
    unfold validate at h
    split at h
    · cases h
    · split at h
      · cases h
      · cases hkind : c.registryKind with
        | error err =>
          rw [hkind] at h
          cases h
        | ok kind => exact ⟨kind, rfl⟩
  obtain ⟨kind, hkind⟩ := hkinds
  unfold registryKind at hkind
  cases hregistries : c.registries with
  | nil =>
    rw [hregistries] at hr
    cases hr
  | cons first rest =>
    rw [hregistries] at hkind hr hr'
    dsimp only at hkind
    cases hfind : rest.find? fun r => r.kind ≠ first.kind with
    | some other =>
      rw [hfind] at hkind
      cases hkind
    | none =>
      have hall : ∀ r ∈ first :: rest, r.kind = first.kind := by
        rintro r (_ | ⟨_, hmem⟩)
        · rfl
        · simpa using List.find?_eq_none.mp hfind r hmem
      rw [hall r hr, hall r' hr']

/-- Catalogs are all followed. -/
theorem activeRegistries_of_consul (h : ∀ r ∈ c.registries, r.kind = .consul) :
    c.activeRegistries = c.registries := by
  have hkept : ∀ l : List RegistryConfig, (∀ r ∈ l, r.kind = .consul) →
      dropLaterStreams false l = l := by
    intro l
    induction l with
    | nil => exact fun _ => rfl
    | cons first rest ih =>
      intro hl
      obtain ⟨hfirst, hrest⟩ := List.forall_mem_cons.mp hl
      have hstream : first.kind ≠ .nacos := by simp [hfirst]
      rw [dropLaterStreams, if_neg hstream, ih hrest]
  exact hkept _ h

/-! ## Watchers and reconcilers of catalogs -/

/-- The reconciler of a watcher that keeps a snapshot. -/
def reconcilerFor (c : ControllerConfig) (w : CatalogWatcher) : Reconciler where
  space := w.targetSpace
  registry := .consul
  hostPrefix := w.hostPrefix
  interval := max 1 c.syncIntervalSecs.toNat * 1000
  owner := c.owner.map OwnerConfig.reference

/-- A watcher that was made for a registry and has not polled it. -/
structure Watches (c : ControllerConfig) (r : RegistryConfig) (w : CatalogWatcher) : Prop where
  /-- It gives hosts the beginning that is configured. -/
  hostPrefix : w.hostPrefix = r.hostPrefix
  /-- Its entries go to the namespace that is configured. -/
  space : w.targetSpace = r.targetSpaceOr c.space
  /-- It knows no hosts. -/
  snapshot : w.snapshot = .empty

theorem watcher_of_consul {hostAddress : String} {files : Files} {r : RegistryConfig}
    {watcher : Watcher} (hkind : r.kind = .consul)
    (h : c.watcher hostAddress files r = .ok watcher) :
    ∃ w, watcher = .catalog w ∧ c.Watches r w := by
  unfold ControllerConfig.watcher at h
  rw [hkind] at h
  dsimp only at h
  unfold CatalogWatcher.create at h
  cases hclient : CatalogClient.create
      { endpoint := r.endpoint, space := r.sourceSpace,
        token := c.pollSettings.token.filter (· != ""), wait := c.pollSettings.wait } with
  | error err =>
    rw [hclient] at h
    cases h
  | ok client =>
    rw [hclient] at h
    obtain rfl := Except.ok.inj h
    exact ⟨_, rfl, rfl, rfl, rfl⟩

/-- An acceptable configuration with catalogs gives each of them a watcher and a reconciler. -/
theorem assemble_of_consul {hostAddress : String} {files : Files} {a : Assembly}
    (hvalid : c.validate = .ok ()) (hconsul : ∃ r ∈ c.registries, r.kind = .consul)
    (h : c.assemble hostAddress files = .ok a) :
    ∃ watchers : List CatalogWatcher, a.watchers = watchers.map .catalog ∧
      a.reconcilers = watchers.map c.reconcilerFor ∧ watchers.length = c.registries.length ∧
      ∀ w ∈ watchers, ∃ r ∈ c.registries, c.Watches r w := by
  obtain ⟨first, hfirst, hkind⟩ := hconsul
  have hkinds : ∀ r ∈ c.registries, r.kind = .consul := fun r hr =>
    (kind_eq_of_validate hvalid hr hfirst).trans hkind
  unfold assemble at h
  rw [activeRegistries_of_consul hkinds] at h
  cases hwatchers : c.registries.mapM (c.watcher hostAddress files) with
  | error err =>
    rw [hwatchers] at h
    cases h
  | ok all =>
    rw [hwatchers] at h
    obtain rfl := Except.ok.inj h
    obtain ⟨hlength, hmem⟩ := exists_of_mapM hwatchers
    -- No watcher is one of a stream, so the list is one of watchers of catalogs.
    have hcatalogs : ∀ watcher ∈ all, ∃ w, watcher = .catalog w ∧
        ∃ r ∈ c.registries, c.Watches r w := fun watcher hwatcher => by
      obtain ⟨r, hr, hmade⟩ := hmem watcher hwatcher
      obtain ⟨w, hw, hwatches⟩ := watcher_of_consul (hkinds r hr) hmade
      exact ⟨w, hw, r, hr, hwatches⟩
    obtain ⟨watchers, rfl, hwatches⟩ : ∃ watchers : List CatalogWatcher,
        all = watchers.map .catalog ∧ ∀ w ∈ watchers, ∃ r ∈ c.registries, c.Watches r w := by
      clear hwatchers hlength hmem h
      induction all with
      | nil => exact ⟨[], rfl, fun w hw => by cases hw⟩
      | cons watcher rest ih =>
        obtain ⟨⟨w, rfl, hw⟩, hrest⟩ := List.forall_mem_cons.mp hcatalogs
        obtain ⟨watchers, rfl, hwatches⟩ := ih hrest
        exact ⟨w :: watchers, rfl, List.forall_mem_cons.mpr ⟨hw, hwatches⟩⟩
    refine ⟨watchers, rfl, ?_, by simpa using hlength, hwatches⟩
    show (watchers.map Watcher.catalog).filterMap c.reconciler? = _
    rw [List.filterMap_map, ← List.filterMap_eq_map]
    rfl

end ControllerConfig

end MeshRegistry
