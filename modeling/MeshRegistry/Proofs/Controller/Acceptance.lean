import Mathlib.Data.List.Forall2
import MeshRegistry.Proofs.Controller.Assembled
/-!
# Which configurations are acceptable, and what runs then

A configuration is acceptable when it names a mesh, every registry has an address and all registries
are of one kind. Otherwise the first fault is reported: the missing name of the mesh goes before
everything else, then comes the first registry without an address, then the first registry whose
kind differs from that of the first one of all. A text of nothing but blanks is no name and no
address.

The checks, the choice of the registries that are run and the assembly of their watchers go through
the list of registries one after the other. On an acceptable configuration they agree: all
registries are catalogs and each of them is watched and reconciled, or all of them are streams and
the first one is watched.

## Main definitions

- `ControllerConfig.Acceptable`, `ControllerConfig.FirstFault`: what is right, and what is reported.
- `ControllerConfig.BuildsClient`: the registry can be asked.
- `ControllerConfig.WatchedBy`, `ControllerConfig.ReconciledBy`: the parts of one registry.

## Main results

- `ControllerConfig.validate_eq_ok_iff`, `ControllerConfig.validate_eq_error_iff`: the checks.
- `ControllerConfig.assemble_of_catalogs`, `ControllerConfig.assemble_of_streams`: the assembly.
- `ControllerConfig.acceptable_assembles`: both together.
-/

namespace MeshRegistry

/-- A text has a character that is not blank. -/
def Text.HasContent (s : String) : Prop := ∃ ch ∈ s.toList, Text.isBlank ch = false

/-- A traversal succeeds with the results of all elements, in their order. -/
theorem mapM_eq_ok_iff {α β ε : Type} {f : α → Except ε β} {l : List α} {results : List β} :
    l.mapM f = .ok results ↔ List.Forall₂ (fun a b => f a = .ok b) l results := by
  induction l generalizing results with
  | nil => cases results <;> simp [pure, Except.pure]
  | cons a rest ih =>
    rw [List.mapM_cons]
    cases ha : f a with
    | error err => cases results <;> simp [bind, Except.bind, ha]
    | ok b =>
      cases hrest : rest.mapM f with
      | error err => cases results <;> simp [bind, Except.bind, ha, ← ih, hrest]
      | ok later => cases results <;> simp [bind, Except.bind, pure, Except.pure, ha, ← ih, hrest]

namespace ControllerConfig

variable {c : ControllerConfig}

/-! ## What is checked -/

/-- A configuration in which nothing is wrong. -/
structure Acceptable (c : ControllerConfig) : Prop where
  meshId : Text.HasContent c.meshId
  endpoints : ∀ r ∈ c.registries, Text.HasContent r.endpoint
  kinds : ∀ r ∈ c.registries, ∀ r' ∈ c.registries, r.kind = r'.kind

/-- The fault of a configuration that goes before its other faults. -/
inductive FirstFault (c : ControllerConfig) : ConfigError → Prop where
  /-- No mesh is named. -/
  | meshId (missing : ¬ Text.HasContent c.meshId) : FirstFault c .missingMeshId
  /-- A registry has no address, and all registries before it have one. -/
  | endpoint {before after : List RegistryConfig} {r : RegistryConfig}
      (meshId : Text.HasContent c.meshId) (split : c.registries = before ++ r :: after)
      (others : ∀ r ∈ before, Text.HasContent r.endpoint)
      (missing : ¬ Text.HasContent r.endpoint) :
      FirstFault c (.missingEndpoint before.length r.kind)
  /-- A registry is not of the kind of the first one, and all registries between them are. -/
  | kinds {first other : RegistryConfig} {between after : List RegistryConfig}
      (meshId : Text.HasContent c.meshId)
      (endpoints : ∀ r ∈ c.registries, Text.HasContent r.endpoint)
      (split : c.registries = first :: (between ++ other :: after))
      (alike : ∀ r ∈ between, r.kind = first.kind) (differs : other.kind ≠ first.kind) :
      FirstFault c (.mixedRegistries first.kind other.kind)

theorem isBlankText_iff (s : String) : isBlankText s = true ↔ ¬ Text.HasContent s := by
  simp [isBlankText, Text.HasContent]

/-! ### The addresses -/

theorem firstWithoutEndpoint_of_all {start : Nat} {l : List RegistryConfig}
    (h : ∀ r ∈ l, Text.HasContent r.endpoint) : firstWithoutEndpoint start l = none := by
  induction l generalizing start with
  | nil => rfl
  | cons r rest ih =>
    obtain ⟨hr, hrest⟩ := List.forall_mem_cons.mp h
    have hblank : ¬ isBlankText r.endpoint = true := fun hb => (isBlankText_iff _).mp hb hr
    rw [firstWithoutEndpoint, if_neg hblank]
    exact ih hrest

theorem firstWithoutEndpoint_append {start : Nat} {before after : List RegistryConfig}
    {r : RegistryConfig} (hbefore : ∀ r ∈ before, Text.HasContent r.endpoint)
    (hr : ¬ Text.HasContent r.endpoint) :
    firstWithoutEndpoint start (before ++ r :: after) = some (start + before.length, r) := by
  induction before generalizing start with
  | nil =>
    have hblank : isBlankText r.endpoint = true := (isBlankText_iff _).mpr hr
    simp [firstWithoutEndpoint, hblank]
  | cons first before ih =>
    obtain ⟨hfirst, hrest⟩ := List.forall_mem_cons.mp hbefore
    have hblank : ¬ isBlankText first.endpoint = true := fun hb => (isBlankText_iff _).mp hb hfirst
    rw [List.cons_append, firstWithoutEndpoint, if_neg hblank, ih hrest]
    simp [Nat.add_assoc, Nat.add_comm 1]

/-! ### The whole check -/

theorem validate_of_acceptable (h : c.Acceptable) : c.validate = .ok () := by
  have hmesh : ¬ isBlankText c.meshId = true := fun hb => (isBlankText_iff _).mp hb h.meshId
  have hkind : ∃ kind, c.registryKind = .ok kind := by
    unfold registryKind
    cases hregistries : c.registries with
    | nil => exact ⟨none, rfl⟩
    | cons first rest =>
      have hnone : (rest.find? fun r => r.kind ≠ first.kind) = none := by
        apply List.find?_eq_none.mpr
        intro r hr
        have hkinds := h.kinds r (by simp [hregistries, hr]) first (by simp [hregistries])
        simpa using hkinds
      exact ⟨some first.kind, by simp only [hnone]⟩
  obtain ⟨kind, hkind⟩ := hkind
  rw [validate, if_neg hmesh, firstWithoutEndpoint_of_all h.endpoints, hkind]
  rfl

theorem FirstFault.validate_eq {e : ConfigError} (h : c.FirstFault e) : c.validate = .error e := by
  cases h with
  | meshId missing => rw [validate, if_pos ((isBlankText_iff _).mpr missing)]
  | endpoint meshId split others missing =>
    have hmesh : ¬ isBlankText c.meshId = true := fun hb => (isBlankText_iff _).mp hb meshId
    rw [validate, if_neg hmesh, split, firstWithoutEndpoint_append others missing, Nat.zero_add]
  | @kinds first other between after meshId endpoints split alike differs =>
    have hmesh : ¬ isBlankText c.meshId = true := fun hb => (isBlankText_iff _).mp hb meshId
    have hfind : ((between ++ other :: after).find? fun r => r.kind ≠ first.kind) = some other := by
      apply List.find?_eq_some_iff_append.mpr
      exact ⟨by simpa using differs, between, after, rfl, by simpa using alike⟩
    rw [validate, if_neg hmesh, firstWithoutEndpoint_of_all endpoints]
    simp only [registryKind, split, hfind]
    rfl

/-- A configuration is acceptable or has a fault that goes before its others. -/
theorem acceptable_or_firstFault (c : ControllerConfig) :
    c.Acceptable ∨ ∃ e, c.FirstFault e := by
  classical
  by_cases hmesh : Text.HasContent c.meshId
  · cases hmissing : c.registries.find? fun r => decide (¬ Text.HasContent r.endpoint) with
    | some r =>
      obtain ⟨hr, before, after, hsplit, hbefore⟩ := List.find?_eq_some_iff_append.mp hmissing
      exact .inr ⟨_, .endpoint hmesh hsplit (by simpa using hbefore) (by simpa using hr)⟩
    | none =>
      have hendpoints : ∀ r ∈ c.registries, Text.HasContent r.endpoint := by
        simpa using List.find?_eq_none.mp hmissing
      cases hregistries : c.registries with
      | nil => exact .inl ⟨hmesh, hendpoints, by simp [hregistries]⟩
      | cons first rest =>
        cases hother : rest.find? fun r => decide (r.kind ≠ first.kind) with
        | some other =>
          obtain ⟨hdiffers, between, after, hsplit, halike⟩ :=
            List.find?_eq_some_iff_append.mp hother
          rw [hsplit] at hregistries
          exact .inr ⟨_, .kinds hmesh hendpoints hregistries (by simpa using halike)
            (by simpa using hdiffers)⟩
        | none =>
          -- All registries agree with the first one, so they agree with each other.
          have hall : ∀ r ∈ c.registries, r.kind = first.kind := by
            rw [hregistries]
            exact List.forall_mem_cons.mpr ⟨rfl, by simpa using List.find?_eq_none.mp hother⟩
          exact .inl ⟨hmesh, hendpoints, fun r hr r' hr' => (hall r hr).trans (hall r' hr').symm⟩
  · exact .inr ⟨_, .meshId hmesh⟩

theorem validate_eq_ok_iff : c.validate = .ok () ↔ c.Acceptable := by
  constructor
  · intro h
    rcases c.acceptable_or_firstFault with hacceptable | ⟨e, hfault⟩
    · exact hacceptable
    · rw [hfault.validate_eq] at h
      cases h
  · exact validate_of_acceptable

theorem validate_eq_error_iff {e : ConfigError} : c.validate = .error e ↔ c.FirstFault e := by
  constructor
  · intro h
    rcases c.acceptable_or_firstFault with hacceptable | ⟨e', hfault⟩
    · rw [validate_of_acceptable hacceptable] at h
      cases h
    · rw [hfault.validate_eq] at h
      cases h
      exact hfault
  · exact FirstFault.validate_eq

/-! ## What is run -/

/-- How the catalog of a registry is asked. -/
def catalogConfig (c : ControllerConfig) (r : RegistryConfig) : CatalogConfig where
  endpoint := r.endpoint
  space := r.sourceSpace
  token := c.consulToken.filter (· != "")
  wait := c.waitSecs.toNat * 1000

/-- There is a client for a registry. -/
def BuildsClient (c : ControllerConfig) (hostAddress : String) (files : Files)
    (r : RegistryConfig) : Prop :=
  match r.kind with
  | .consul => ∃ client, CatalogClient.create (c.catalogConfig r) = .ok client
  | .nacos => ∃ client,
      DiscoveryClient.create (.ofSettings hostAddress r.endpoint c.discovery) files = .ok client

/-- The namespace that the entries of a registry are written to. -/
def targetOf (c : ControllerConfig) (r : RegistryConfig) : String :=
  if r.targetSpace = "" then c.space else r.targetSpace

/-- A watcher asks the catalog of a registry, for the hosts and the namespace of that registry. -/
structure WatchedBy (c : ControllerConfig) (r : RegistryConfig) (w : CatalogWatcher) : Prop where
  client : CatalogClient.create (c.catalogConfig r) = .ok w.client
  hostPrefix : w.hostPrefix = r.hostPrefix
  targetSpace : w.targetSpace = c.targetOf r

/-- A reconciler writes the hosts of a registry to the namespace of that registry. -/
structure ReconciledBy (c : ControllerConfig) (r : RegistryConfig) (k : Reconciler) : Prop where
  registry : k.registry = r.kind
  hostPrefix : k.hostPrefix = r.hostPrefix
  space : k.space = c.targetOf r

theorem targetSpaceOr_eq (r : RegistryConfig) : r.targetSpaceOr c.space = c.targetOf r := by
  simp [RegistryConfig.targetSpaceOr, targetOf]

/-- The first of several streams is run. -/
theorem activeRegistries_of_nacos {first : RegistryConfig} {rest : List RegistryConfig}
    (h : c.registries = first :: rest) (hkinds : ∀ r ∈ c.registries, r.kind = .nacos) :
    c.activeRegistries = [first] := by
  have hdropped (l : List RegistryConfig) (hl : ∀ r ∈ l, r.kind = .nacos) :
      dropLaterStreams true l = [] := by
    induction l with
    | nil => rfl
    | cons r l ih =>
      obtain ⟨hr, hl⟩ := List.forall_mem_cons.mp hl
      rw [dropLaterStreams, if_pos hr, if_pos rfl, ih hl]
  rw [h] at hkinds
  obtain ⟨hfirst, hrest⟩ := List.forall_mem_cons.mp hkinds
  rw [activeRegistries, h, dropLaterStreams, if_pos hfirst, hdropped rest hrest]
  rfl

theorem exists_watcher_of_consul {hostAddress : String} {files : Files} {r : RegistryConfig}
    (hkind : r.kind = .consul) (h : c.BuildsClient hostAddress files r) :
    ∃ w, c.watcher hostAddress files r = .ok (.catalog w) ∧ c.WatchedBy r w := by
  unfold BuildsClient at h
  rw [hkind] at h
  obtain ⟨client, hclient⟩ := h
  refine ⟨⟨client, r.hostPrefix, r.targetSpaceOr c.space, c.pollSettings.tick, .empty, 0⟩, ?_,
    ⟨hclient, rfl, targetSpaceOr_eq r⟩⟩
  have hcreate : CatalogWatcher.create r (r.targetSpaceOr c.space) c.pollSettings =
      .ok ⟨client, r.hostPrefix, r.targetSpaceOr c.space, c.pollSettings.tick, .empty, 0⟩ := by
    show CatalogClient.create (c.catalogConfig r) >>= (fun client => pure _) = _
    rw [hclient]
    rfl
  simp [watcher, hkind, hcreate]

theorem exists_watcher_of_nacos {hostAddress : String} {files : Files} {r : RegistryConfig}
    (hkind : r.kind = .nacos) (h : c.BuildsClient hostAddress files r) :
    ∃ client, c.watcher hostAddress files r = .ok (.stream ⟨client, c.targetOf r⟩) ∧
      DiscoveryClient.create (.ofSettings hostAddress r.endpoint c.discovery) files =
        .ok client := by
  unfold BuildsClient at h
  rw [hkind] at h
  obtain ⟨client, hclient⟩ := h
  exact ⟨client, by simp [watcher, hkind, hclient, targetSpaceOr_eq], hclient⟩

/-- Catalogs are assembled to a watcher and a reconciler for each of them, in their order. -/
theorem assemble_of_catalogs {hostAddress : String} {files : Files}
    (hkinds : ∀ r ∈ c.registries, r.kind = .consul)
    (hclients : ∀ r ∈ c.registries, c.BuildsClient hostAddress files r) :
    ∃ watchers reconcilers,
      c.assemble hostAddress files = .ok ⟨watchers.map .catalog, reconcilers⟩ ∧
      List.Forall₂ c.WatchedBy c.registries watchers ∧
      List.Forall₂ c.ReconciledBy c.registries reconcilers := by
  have hwatchers (l : List RegistryConfig) (hl : ∀ r ∈ l, r ∈ c.registries) :
      ∃ watchers : List CatalogWatcher, List.Forall₂ c.WatchedBy l watchers ∧
        List.Forall₂ (fun r w => c.watcher hostAddress files r = .ok w) l
          (watchers.map .catalog) := by
    induction l with
    | nil => exact ⟨[], .nil, .nil⟩
    | cons r l ih =>
      obtain ⟨hr, hl⟩ := List.forall_mem_cons.mp hl
      obtain ⟨w, hmade, hw⟩ := exists_watcher_of_consul (hkinds r hr) (hclients r hr)
      obtain ⟨watchers, hwatched, hmadeAll⟩ := ih hl
      exact ⟨w :: watchers, .cons hw hwatched, .cons hmade hmadeAll⟩
  obtain ⟨watchers, hwatched, hmade⟩ := hwatchers c.registries fun _ hr => hr
  refine ⟨watchers, watchers.map c.reconcilerFor, ?_, hwatched, ?_⟩
  · have hreconcilers : (watchers.map Watcher.catalog).filterMap c.reconciler? =
        watchers.map c.reconcilerFor := by
      rw [List.filterMap_map, ← List.filterMap_eq_map]
      rfl
    rw [assemble, activeRegistries_of_consul hkinds, mapM_eq_ok_iff.mpr hmade, ← hreconcilers]
    rfl
  · apply List.forall₂_map_right_iff.mpr
    -- The reconciler of a watcher takes over what the watcher has from the registry.
    have hmem := (List.forall₂_and_left _ _).mpr ⟨hkinds, hwatched⟩
    exact hmem.imp fun r w h => ⟨h.1.symm, h.2.hostPrefix, h.2.targetSpace⟩

/-- Of streams the first one gets a watcher, and none gets a reconciler. -/
theorem assemble_of_streams {hostAddress : String} {files : Files} {first : RegistryConfig}
    {rest : List RegistryConfig} (h : c.registries = first :: rest)
    (hkinds : ∀ r ∈ c.registries, r.kind = .nacos)
    (hclient : c.BuildsClient hostAddress files first) :
    ∃ client, c.assemble hostAddress files = .ok ⟨[.stream ⟨client, c.targetOf first⟩], []⟩ ∧
      DiscoveryClient.create (.ofSettings hostAddress first.endpoint c.discovery) files =
        .ok client := by
  have hfirst : first.kind = .nacos := hkinds first (by simp [h])
  obtain ⟨client, hwatcher, hcreate⟩ := exists_watcher_of_nacos hfirst hclient
  refine ⟨client, ?_, hcreate⟩
  rw [assemble, activeRegistries_of_nacos h hkinds, List.mapM_cons, hwatcher]
  rfl

/-- Whether a configuration is acceptable, and of several faults which one is reported. If it is
acceptable and there are clients for the registries that are run, it is assembled: catalogs to a
watcher and a reconciler for each, in the order of the registries, and streams to one watcher for
the first of them, without a reconciler. -/
theorem acceptable_assembles (c : ControllerConfig) (hostAddress : String) (files : Files) :
    (c.validate = .ok () ↔ c.Acceptable) ∧ (∀ e, c.validate = .error e ↔ c.FirstFault e) ∧
    (c.validate = .ok () →
      (∀ r ∈ c.activeRegistries, c.BuildsClient hostAddress files r) →
      ∃ a, c.assemble hostAddress files = .ok a ∧
        ((∀ r ∈ c.registries, r.kind = .consul) →
          ∃ watchers, a.watchers = watchers.map .catalog ∧
            List.Forall₂ c.WatchedBy c.registries watchers ∧
            List.Forall₂ c.ReconciledBy c.registries a.reconcilers) ∧
        ∀ first rest, c.registries = first :: rest → first.kind = .nacos →
          a.reconcilers = [] ∧
            ∃ client, a.watchers = [.stream ⟨client, c.targetOf first⟩] ∧
              DiscoveryClient.create (.ofSettings hostAddress first.endpoint c.discovery) files =
                .ok client) := by
  refine ⟨validate_eq_ok_iff, fun e => validate_eq_error_iff, ?_⟩
  intro hvalid hclients
  have hacceptable := validate_eq_ok_iff.mp hvalid
  by_cases hconsul : ∀ r ∈ c.registries, r.kind = .consul
  · rw [activeRegistries_of_consul hconsul] at hclients
    obtain ⟨watchers, reconcilers, hassemble, hwatched, hreconciled⟩ :=
      assemble_of_catalogs hconsul hclients
    refine ⟨_, hassemble, fun _ => ⟨watchers, rfl, hwatched, hreconciled⟩, ?_⟩
    intro first rest h hkind
    have hfirst := hconsul first (by simp [h])
    rw [hfirst] at hkind
    cases hkind
  · -- One registry is a stream, so all of them are, and there is a first one.
    obtain ⟨stream, hstream, hkind⟩ : ∃ r ∈ c.registries, r.kind ≠ .consul := by
      simpa using hconsul
    have hkinds : ∀ r ∈ c.registries, r.kind = .nacos := by
      intro r hr
      rw [hacceptable.kinds r hr stream hstream]
      cases hk : stream.kind with
      | consul => exact absurd hk hkind
      | nacos => rfl
    cases hregistries : c.registries with
    | nil => simp [hregistries] at hstream
    | cons first rest =>
      rw [activeRegistries_of_nacos hregistries hkinds] at hclients
      obtain ⟨client, hassemble, hcreate⟩ :=
        assemble_of_streams hregistries hkinds (hclients first (by simp))
      refine ⟨_, hassemble, ?_, ?_⟩
      · intro hall
        rw [← hregistries] at hall
        exact absurd hall hconsul
      · rintro _ _ ⟨⟩ -
        exact ⟨rfl, client, rfl, hcreate⟩

/-- Two catalogs, one of which names a namespace of its own, and two streams, of which the second
has an address that no client can be made for. -/
theorem catalogs_and_streams_assemble :
    let catalogs : ControllerConfig :=
      { meshId := "mesh", space := "default"
        registries :=
          [{ kind := .consul, endpoint := "[::1]:8500", hostPrefix := "a." },
            { kind := .consul, endpoint := " [::1]:8501", targetSpace := "team" }] }
    let streams : ControllerConfig :=
      { meshId := "mesh", space := "default"
        registries :=
          [{ kind := .nacos, endpoint := "[::1]:18848" }, { kind := .nacos, endpoint := "a b" }] }
    (catalogs.validate = .ok () ∧
      (∀ r ∈ catalogs.activeRegistries, catalogs.BuildsClient "10.0.0.1" {} r) ∧
      ∃ a watchers, catalogs.assemble "10.0.0.1" {} = .ok a ∧ a.watchers = watchers.map .catalog ∧
        List.Forall₂ catalogs.WatchedBy catalogs.registries watchers ∧
        List.Forall₂ catalogs.ReconciledBy catalogs.registries a.reconcilers) ∧
    (streams.validate = .ok () ∧
      (∀ r ∈ streams.activeRegistries, streams.BuildsClient "10.0.0.1" {} r) ∧
      ∃ a client, streams.assemble "10.0.0.1" {} = .ok a ∧ a.reconcilers = [] ∧
        a.watchers = [.stream ⟨client, "default"⟩]) := by
  intro catalogs streams
  have hexists {ε α : Type} {x : Except ε α} (h : x.isOk = true) : ∃ a, x = .ok a := by
    cases x with
    | error err => cases h
    | ok a => exact ⟨a, rfl⟩
  constructor
  · obtain ⟨-, -, hassembles⟩ := acceptable_assembles catalogs "10.0.0.1" {}
    have hvalid : catalogs.validate = .ok () := by decide +kernel
    have hclients : ∀ r ∈ catalogs.activeRegistries, catalogs.BuildsClient "10.0.0.1" {} r := by
      have hactive : catalogs.activeRegistries = catalogs.registries := by decide +kernel
      rw [hactive]
      simp only [catalogs, List.forall_mem_cons, List.not_mem_nil, false_implies, implies_true,
        and_true]
      exact ⟨hexists (by decide +kernel), hexists (by decide +kernel)⟩
    obtain ⟨a, hassemble, hcatalogs, -⟩ := hassembles hvalid hclients
    obtain ⟨watchers, hwatchers, hwatched, hreconciled⟩ := hcatalogs (by decide)
    exact ⟨hvalid, hclients, a, watchers, hassemble, hwatchers, hwatched, hreconciled⟩
  · obtain ⟨-, -, hassembles⟩ := acceptable_assembles streams "10.0.0.1" {}
    have hvalid : streams.validate = .ok () := by decide +kernel
    have hclients : ∀ r ∈ streams.activeRegistries, streams.BuildsClient "10.0.0.1" {} r := by
      have hactive : streams.activeRegistries =
          [{ kind := .nacos, endpoint := "[::1]:18848" }] := by decide +kernel
      rw [hactive]
      simp only [List.forall_mem_cons, List.not_mem_nil, false_implies, implies_true, and_true]
      exact ⟨_, DiscoveryClient.create_eq_ok_iff.mpr ⟨by decide +kernel, by decide, rfl⟩⟩
    obtain ⟨a, hassemble, -, hstreams⟩ := hassembles hvalid hclients
    obtain ⟨hreconcilers, client, hwatchers, -⟩ := hstreams _ _ rfl rfl
    exact ⟨hvalid, hclients, a, client, hassemble, hreconcilers, hwatchers⟩

end ControllerConfig

end MeshRegistry
