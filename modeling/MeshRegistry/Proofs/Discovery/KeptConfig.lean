import MeshRegistry.Proofs.Discovery.Accounting
import Mathlib.Data.List.Induction
/-!
# The configuration of the mesh that a client keeps

A client keeps one configuration of the mesh and stores it in one file. Only an answer of that type
touches either, and only if it has a resource; its first resource then decides about both at once.
The configuration is thus that of the last answer which showed one, and the file follows it.

A resource that cannot be read counts as the configuration without fields, so it takes the place of
a configuration that could be read, in the client and in the file.

## Main definitions

- `DiscoveryClient.Event`, `happen`, `after`: what may happen to a client, in any order.
- `DiscoveryResponse.shown?`, `DiscoveryClient.shown`: the resources that configurations are read
  from.
- `Files.Writable`: a path at which a text can be stored.

## Main results

- `DiscoveryClient.meshConfig_after`, `read?_after`: what a client has kept and stored after a run.
- `DiscoveryClient.keeps_last_readable_iff`: when that is the last configuration that could be read.
-/

namespace MeshRegistry

/-! ## Files that can be written -/

namespace Files

variable {f f' : Files} {path content : String}

/-- A text can be stored at the path. -/
def Writable (f : Files) (path : String) : Prop :=
  f.directories.contains (directoryOf (settled path)) = true

instance : Decidable (f.Writable path) :=
  inferInstanceAs (Decidable (f.directories.contains (directoryOf (settled path)) = true))

theorem isSome_write?_iff : (f.write? path content).isSome ↔ f.Writable path := by
  unfold write? Writable
  split <;> simp_all

theorem exists_write?_of_writable (h : f.Writable path) (content : String) :
    ∃ f', f.write? path content = some f' :=
  Option.isSome_iff_exists.mp (isSome_write?_iff.mpr h)

theorem directories_of_write? (h : f.write? path content = some f') :
    f'.directories = f.directories := by
  unfold write? at h
  split at h
  · cases h
    rfl
  · cases h

theorem read?_of_write? (h : f.write? path content = some f') : f'.read? path = some content := by
  unfold write? at h
  split at h
  · cases h
    simp [read?]
  · cases h

end Files

/-- The resource that an answer shows a configuration of the mesh with: the first one of an answer
of that type. -/
def DiscoveryResponse.shown? (r : DiscoveryResponse) : Option Any :=
  if r.typeUrl = TypeUrl.meshConfig then r.resources.head? else none

namespace DiscoveryClient

/-! ## Runs -/

/-- Something that happens to a client. -/
inductive Event where
  /-- An answer is handled, as far as there is room for its operations. -/
  | handle (r : DiscoveryResponse)
  /-- The handling of an answer goes on with an operation that has waited. -/
  | resume (r : DiscoveryResponse) (op : EntryOp) (rest : List Any)
  /-- Whoever has the other ends of the queues leaves them in some state. -/
  | receive (operations : Queue EntryOp) (announcements : Queue String)
  /-- The client is closed. -/
  | close

/-- The client after an event. -/
def happen (c : DiscoveryClient) : Event → DiscoveryClient
  | .handle r => (c.handle r).1
  | .resume r op rest => (c.resume r op rest).1
  | .receive operations announcements => { c with operations, announcements }
  | .close => c.close

/-- The client after some events. -/
def after (c : DiscoveryClient) (events : List Event) : DiscoveryClient := events.foldl happen c

/-- The resource that an event shows a configuration of the mesh with. -/
def Event.shown? : Event → Option Any
  | .handle r => r.shown?
  | .resume _ _ _ => none
  | .receive _ _ => none
  | .close => none

/-- The resources that configurations are shown with, in their order. -/
def shown (events : List Event) : List Any := events.filterMap Event.shown?

/-- The configuration that was shown last among those that could be read. -/
def lastReadable (events : List Event) : Option MeshConfig :=
  ((shown events).filterMap fun a => MeshConfig.decode? a.value).getLast?

/-! ## What events do to the configuration -/

/-- Two clients have the same settings, and have kept and stored the same configuration. -/
structure SameKept (c c' : DiscoveryClient) : Prop where
  config : c'.config = c.config
  meshConfig : c'.meshConfig = c.meshConfig
  files : c'.files = c.files

theorem config_keepMeshConfig (c : DiscoveryClient) (a : Any) :
    (c.keepMeshConfig a).config = c.config := by
  simp only [keepMeshConfig, store]
  split <;> rfl

namespace SameKept

variable {c c' c'' : DiscoveryClient}

theorem refl (c : DiscoveryClient) : SameKept c c := ⟨rfl, rfl, rfl⟩

theorem trans (h : SameKept c c') (h' : SameKept c' c'') : SameKept c c'' :=
  ⟨h'.config.trans h.config, h'.meshConfig.trans h.meshConfig, h'.files.trans h.files⟩

theorem finish (h : SameKept c c') (r : DiscoveryResponse) : SameKept c (c'.finish r).1 := by
  refine h.trans ?_
  simp only [DiscoveryClient.finish, announce]
  split
  · exact ⟨rfl, rfl, rfl⟩
  · split <;> exact ⟨rfl, rfl, rfl⟩

theorem push (h : SameKept c c') (op : EntryOp) :
    SameKept c { c' with operations := c'.operations.push op } :=
  h.trans ⟨rfl, rfl, rfl⟩

/-- Service entries have nothing to do with the configuration, wherever the client has to stop. -/
theorem work (h : SameKept c c') (r : DiscoveryResponse) (rest : List Any) :
    SameKept c (c'.work r rest).1 := by
  induction rest generalizing c' with
  | nil => exact h.finish r
  | cons a rest ih =>
    rw [DiscoveryClient.work]
    obtain ⟨resourceVersions, hfirst⟩ := Pipeline.exists_consider c' a
    have hconsidered : SameKept c (c'.consider a).1 := by
      rw [hfirst]
      exact h.trans ⟨rfl, rfl, rfl⟩
    cases hconsider : c'.consider a with
    | mk considered op =>
      rw [hconsider] at hconsidered
      cases op with
      | none => exact ih hconsidered
      | some op =>
        cases hroom : considered.operations.room with
        | free => simpa only [hroom] using ih (hconsidered.push op)
        | full => simpa only [hroom] using hconsidered
        | gone => simpa only [hroom] using hconsidered

theorem resume (c : DiscoveryClient) (r : DiscoveryResponse) (op : EntryOp) (rest : List Any) :
    SameKept c (c.resume r op rest).1 := by
  unfold DiscoveryClient.resume
  split
  · exact ((refl c).push op).work r rest
  · exact refl c
  · exact refl c

theorem close (c : DiscoveryClient) : SameKept c c.close := by
  unfold DiscoveryClient.close
  split <;> exact ⟨rfl, rfl, rfl⟩

/-- What is kept and stored of a resource depends on the resource, the settings and the files. -/
theorem keepMeshConfig (h : SameKept c c') (a : Any) :
    SameKept (c.keepMeshConfig a) (c'.keepMeshConfig a) := by
  obtain ⟨hconfig, -, hfiles⟩ := h
  constructor
  case config => rw [config_keepMeshConfig, config_keepMeshConfig, hconfig]
  case meshConfig => rfl
  case files =>
    cases hdir : c.config.cacheDir <;>
      simp [DiscoveryClient.keepMeshConfig, store, hconfig, hdir, hfiles]

/-- An answer only keeps the configuration that it shows. -/
theorem handle (c : DiscoveryClient) (r : DiscoveryResponse) :
    SameKept (r.shown?.elim c c.keepMeshConfig) (c.handle r).1 := by
  have hreceived : SameKept c (c.noteReceived r.typeUrl) := ⟨rfl, rfl, rfl⟩
  unfold DiscoveryClient.handle DiscoveryResponse.shown?
  dsimp only
  split
  next hconfig =>
    cases r.resources with
    | nil => exact hreceived.finish r
    | cons a rest => exact (hreceived.keepMeshConfig a).finish r
  · have hnoted : SameKept c
        ((c.noteReceived r.typeUrl).noteVersion r.typeUrl r.versionInfo) := ⟨rfl, rfl, rfl⟩
    split
    · have hheld : SameKept c
          (((c.noteReceived r.typeUrl).noteVersion r.typeUrl r.versionInfo).holdNames r.typeUrl
            r.resources) := hnoted.trans ⟨rfl, rfl, rfl⟩
      exact hheld.finish r
    · split
      · exact hnoted.work r r.resources
      · exact hnoted.finish r

theorem happen (c : DiscoveryClient) (event : Event) :
    SameKept (event.shown?.elim c c.keepMeshConfig) (c.happen event) := by
  cases event with
  | handle r => exact handle c r
  | resume r op rest => exact resume c r op rest
  | receive operations announcements => exact ⟨rfl, rfl, rfl⟩
  | close => exact close c

/-- Along a run the resources that show a configuration are kept one after the other, and nothing
else is. -/
theorem after (h : SameKept c c') (events : List Event) :
    SameKept ((shown events).foldl DiscoveryClient.keepMeshConfig c) (c'.after events) := by
  induction events generalizing c c' with
  | nil => exact h
  | cons event events ih =>
    have hstep : c'.after (event :: events) = (c'.happen event).after events := rfl
    rw [hstep]
    have hhappen := happen c' event
    cases hshown : event.shown? with
    | none =>
      rw [hshown] at hhappen
      have hevents : shown (event :: events) = shown events := List.filterMap_cons_none hshown
      rw [hevents]
      exact ih (h.trans hhappen)
    | some a =>
      rw [hshown] at hhappen
      have hevents : shown (event :: events) = a :: shown events :=
        List.filterMap_cons_some hshown
      rw [hevents]
      exact ih ((h.keepMeshConfig a).trans hhappen)

end SameKept

/-! ## Resources that are kept one after the other -/

section Kept

variable {c : DiscoveryClient} {dir : String}

/-- The configuration of a resource is stored at a path that can be written, and that stays one. -/
theorem files_keepMeshConfig (a : Any) (hdir : c.config.cacheDir = some dir)
    (hwritable : c.files.Writable (meshCachePath dir)) :
    (c.keepMeshConfig a).files.Writable (meshCachePath dir) ∧
      (c.keepMeshConfig a).files.read? (meshCachePath dir) =
        some ((MeshConfig.decode? a.value).getD {}).stored := by
  obtain ⟨files, hwrite⟩ := Files.exists_write?_of_writable hwritable
    ((MeshConfig.decode? a.value).getD {}).stored
  have hfiles : (c.keepMeshConfig a).files = files := by
    simp [keepMeshConfig, store, hdir, hwrite]
  rw [hfiles, Files.Writable, Files.directories_of_write? hwrite]
  exact ⟨hwritable, Files.read?_of_write? hwrite⟩

/-- The configuration that is kept is that of the last resource. -/
theorem meshConfig_foldl_keep (resources : List Any) :
    (resources.foldl keepMeshConfig c).meshConfig =
      (resources.getLast?.map fun a => (MeshConfig.decode? a.value).getD {}).or c.meshConfig := by
  induction resources using List.reverseRecOn with
  | nil => rfl
  | append_singleton resources a _ => simp [keepMeshConfig]

/-- As long as nothing is kept the file stays as it is, and then it has what is kept. -/
theorem files_foldl_keep (resources : List Any) (hdir : c.config.cacheDir = some dir)
    (hwritable : c.files.Writable (meshCachePath dir)) :
    (resources.foldl keepMeshConfig c).config = c.config ∧
      (resources.foldl keepMeshConfig c).files.Writable (meshCachePath dir) ∧
      (resources.foldl keepMeshConfig c).files.read? (meshCachePath dir) =
        (resources.getLast?.map fun a => ((MeshConfig.decode? a.value).getD {}).stored).or
          (c.files.read? (meshCachePath dir)) := by
  induction resources using List.reverseRecOn with
  | nil => exact ⟨rfl, hwritable, rfl⟩
  | append_singleton resources a ih =>
    obtain ⟨hconfig, hwritable, -⟩ := ih
    rw [← hconfig] at hdir
    have hlast := files_keepMeshConfig a hdir hwritable
    rw [List.foldl_append, List.foldl_cons, List.foldl_nil, config_keepMeshConfig]
    refine ⟨hconfig, hlast.1, ?_⟩
    rw [hlast.2]
    simp

end Kept

/-! ## The last configuration that could be read -/

theorem lastKept_eq_lastReadable_iff (events : List Event) :
    ((shown events).getLast?.map fun a => (MeshConfig.decode? a.value).getD {}) =
        lastReadable events ↔
      ∀ a ∈ (shown events).getLast?, MeshConfig.decode? a.value = none →
        lastReadable events = some {} := by
  unfold lastReadable
  rcases List.eq_nil_or_concat (shown events) with hshown | ⟨earlier, last, hshown⟩
  · simp [hshown]
  · rw [hshown, List.concat_eq_append]
    -- Only a last resource that cannot be read makes a difference.
    cases hread : MeshConfig.decode? last.value with
    | some m => simp [hread]
    | none => simp [hread, eq_comm]

/-- The configuration that a new client has kept after a run is the last one that could be read,
and so is the one in its file, exactly when the last one that was shown could be read, or else the
last one that could be read is the one without fields. In any case the file has what is kept. -/
theorem keeps_last_readable_iff {config : ClientConfig} {files : Files}
    {client : DiscoveryClient} (hcreate : create config files = .ok client)
    (events : List Event) :
    let c := client.after events
    ((c.meshConfig = lastReadable events ∧
        ∀ dir, config.cacheDir = some dir → files.Writable (meshCachePath dir) →
          c.files.read? (meshCachePath dir) =
            ((lastReadable events).map (·.stored)).or (files.read? (meshCachePath dir))) ↔
      ∀ a ∈ (shown events).getLast?, MeshConfig.decode? a.value = none →
        lastReadable events = some {}) ∧
    ∀ dir, config.cacheDir = some dir → files.Writable (meshCachePath dir) →
      c.files.read? (meshCachePath dir) =
        (c.meshConfig.map (·.stored)).or (files.read? (meshCachePath dir)) := by
  intro c
  have hafter := SameKept.after (SameKept.refl client) events
  have hclient := Handover.eq_of_create hcreate
  have hkept : c.meshConfig =
      (shown events).getLast?.map fun a => (MeshConfig.decode? a.value).getD {} := by
    rw [hafter.meshConfig, meshConfig_foldl_keep, hclient]
    simp
  have hfile : ∀ dir, config.cacheDir = some dir → files.Writable (meshCachePath dir) →
      c.files.read? (meshCachePath dir) =
        (c.meshConfig.map (·.stored)).or (files.read? (meshCachePath dir)) := by
    intro dir hdir hwritable
    rw [hafter.files, hkept, hclient,
      (files_foldl_keep (shown events) hdir hwritable).2.2, Option.map_map]
    rfl
  refine ⟨?_, hfile⟩
  rw [← lastKept_eq_lastReadable_iff, ← hkept]
  constructor
  · exact fun h => h.1
  · intro h
    refine ⟨h, fun dir hdir hwritable => ?_⟩
    rw [← h]
    exact hfile dir hdir hwritable

/-! ### Runs with two configurations -/

namespace Sample

/-- A client that stores the configuration of the mesh. -/
def config : ClientConfig where
  address := "localhost:18848"
  identity := { id := "router~10.0.0.9~sync.mesh~mesh.svc", locality := none, metadata := .empty }
  cacheDir := some "cache"

def client : DiscoveryClient where
  config
  operations := ⟨50, [], true, true⟩

theorem create_client : create config {} = .ok client :=
  create_eq_ok_iff.mpr ⟨by decide +kernel, by decide, rfl⟩

def meshConfig : MeshConfig := { ingressClass := "istio", trustDomain := "cluster.local" }

/-- An answer whose first resource has the given octets. -/
def answer (value : List UInt8) : Event :=
  .handle { typeUrl := TypeUrl.meshConfig, resources := [{ value }] }

end Sample

/-- A configuration that can be read takes the place of one that cannot. -/
theorem readable_config_kept :
    let c := Sample.client.after [Sample.answer [255], Sample.answer Sample.meshConfig.encode]
    create Sample.config {} = .ok Sample.client ∧ c.meshConfig = some Sample.meshConfig ∧
      c.files.read? "cache_mesh.json" = some Sample.meshConfig.stored := by
  intro c
  have hread : MeshConfig.decode? Sample.meshConfig.encode = some Sample.meshConfig := by
    decide +kernel
  have hlast : lastReadable [Sample.answer [255], Sample.answer Sample.meshConfig.encode] =
      some Sample.meshConfig := by
    decide +kernel
  obtain ⟨hkept, -⟩ := keeps_last_readable_iff Sample.create_client
    [Sample.answer [255], Sample.answer Sample.meshConfig.encode]
  obtain ⟨hconfig, hfile⟩ := hkept.mpr fun a ha hunreadable => by
    obtain rfl := Option.some.inj ha
    exact absurd (hread.symm.trans hunreadable) (Option.some_ne_none _)
  rw [hlast] at hconfig hfile
  exact ⟨Sample.create_client, hconfig, hfile "cache" rfl (by decide +kernel)⟩

/-- A configuration that cannot be read takes the place of one that can, in the file as well. -/
theorem readable_config_lost :
    let events := [Sample.answer Sample.meshConfig.encode, Sample.answer [255]]
    let c := Sample.client.after events
    lastReadable events = some Sample.meshConfig ∧ c.meshConfig = some {} ∧
      c.files.read? "cache_mesh.json" = some ({} : MeshConfig).stored ∧
      ({} : MeshConfig) ≠ Sample.meshConfig := by
  decide +kernel

end DiscoveryClient

end MeshRegistry
