import MeshRegistry.Config.Load
import MeshRegistry.Proofs.Config.GuessedTexts
import MeshRegistry.Proofs.Config.Layers
import MeshRegistry.Proofs.Config.Registries
/-!
# Texts from the environment

A setting that holds a text can come from a variable of the environment. The type of a variable is
guessed before it is known which setting it stands for, so the setting gets the text of what is
guessed: an identity of `007` arrives as `7`. The options of the command line are not guessed.

A variable takes the place of what the file says of its setting, and changes nothing else. So the
sources without the variable describe the same configuration but for this one setting. Where they
can be read at all, none of them goes on below the setting, as a table stands for no text.

## Main definitions

- `TextSetting`: the settings at the top that hold a text and can come from the environment.
- `ControllerConfig.Gives`: the configuration that a record gives.

## Main results

- `ControllerConfig.ofSources_of_stated`, `ControllerConfig.load_of_stated`: the configuration with
  a variable and without it.
- `ControllerConfig.text_kept_iff_writtenPlainly`: which texts arrive as they were given.
-/

namespace MeshRegistry

/-! ## Reading the configuration -/

namespace Record

variable {ν α : Type} {names : List String} {fields : List (String × ν)}

theorem separate_plain (h : names.Nodup) : Separate (FieldName.plain names) := by
  refine List.pairwise_map.mpr (h.imp ?_)
  intro a b hab key hkey hkey'
  simp only [FieldName.spellings, List.mem_singleton] at hkey hkey'
  exact hab (hkey.symm.trans hkey')

/-- In a table without repeated keys no field is given twice, where a field has one spelling. -/
theorem givenOnce_plain (h : (fields.map (·.1)).Nodup) :
    GivenOnce ((FieldName.plain names).map FieldName.spellings) fields := by
  refine (List.pairwise_map.mp h).imp ?_
  intro x y hxy spellings hspellings hboth
  simp only [FieldName.plain, List.map_map, List.mem_map, Function.comp_apply,
    FieldName.spellings] at hspellings
  obtain ⟨name, -, rfl⟩ := hspellings
  exact hxy ((List.mem_singleton.mp hboth.1).trans (List.mem_singleton.mp hboth.2).symm)

end Record

namespace Datum

variable {fields : List (String × Datum)}

/-- A table gives a record with one spelling for each field what stands under its names. -/
theorem Distinct.exists_record (h : Distinct fields) {names : List String}
    (hnames : names.Nodup) :
    ∃ r, encoding.record? (FieldName.plain names) (.table fields) = some r ∧
      r.encoding = encoding ∧ ∀ name ∈ names, r.get? name = get? name fields := by
  have hseparate := Record.separate_plain hnames
  have honce : Record.GivenOnce ((FieldName.plain names).map FieldName.spellings) fields :=
    Record.givenOnce_plain h
  have hcollect := (Record.collect?_eq_some_iff hseparate).mpr ⟨honce, rfl⟩
  refine ⟨⟨encoding, Record.known (FieldName.plain names) fields⟩, ?_, rfl, fun name hname => ?_⟩
  · show (Record.collect? (FieldName.plain names) fields).map (Record.mk encoding) = _
    rw [hcollect]
    rfl
  · have hfield : (⟨name, []⟩ : FieldName) ∈ FieldName.plain names :=
      List.mem_map.mpr ⟨name, hname, rfl⟩
    ext v
    have hget := Record.get?_known hseparate encoding honce hfield (v := v)
    rw [hget, h.get?_eq_some_iff]
    simp [Record.GivenAs, FieldName.spellings]

end Datum

/-- The settings at the top that hold a text and can come from the environment. -/
inductive TextSetting where
  /-- The identity of the mesh. -/
  | meshId
  /-- The identity of the region. -/
  | regionId
  /-- The namespace for registries that name none. -/
  | space
  /-- The access token of catalogs. -/
  | consulToken
deriving DecidableEq, Repr

namespace TextSetting

/-- The name of a setting. -/
def key : TextSetting → String
  | meshId => "mesh_id"
  | regionId => "region_id"
  | space => "namespace"
  | consulToken => "consul_token"

/-- The variable of the environment for a setting. -/
def variableName : TextSetting → String
  | meshId => "MESHSYNC_MESH_ID"
  | regionId => "MESHSYNC_REGION_ID"
  | space => "MESHSYNC_NAMESPACE"
  | consulToken => "MESHSYNC_CONSUL_TOKEN"

/-- The value of a setting; only a token can be missing. -/
def get (s : TextSetting) (c : ControllerConfig) : Option String :=
  match s with
  | meshId => some c.meshId
  | regionId => some c.regionId
  | space => some c.space
  | consulToken => c.consulToken

/-- A configuration with a setting changed. -/
def set (s : TextSetting) (v : String) (c : ControllerConfig) : ControllerConfig :=
  match s with
  | meshId => { c with meshId := v }
  | regionId => { c with regionId := v }
  | space => { c with space := v }
  | consulToken => { c with consulToken := some v }

/-- What the command line says of a setting. There is no option for a token. -/
def option? (s : TextSetting) (c : CommandLine) : Option String :=
  match s with
  | meshId => c.meshId
  | regionId => c.regionId
  | space => c.space
  | consulToken => none

/-- Whether a text may stand for a setting: the identity of the mesh must not be blank. -/
def Admits (s : TextSetting) (v : String) : Prop :=
  s = meshId → ControllerConfig.isBlankText v = false

@[simp] theorem get_set (s : TextSetting) (v : String) (c : ControllerConfig) :
    s.get (s.set v c) = some v := by
  cases s <;> rfl

theorem get_set_of_ne {s s' : TextSetting} (h : s' ≠ s) (v : String) (c : ControllerConfig) :
    s'.get (s.set v c) = s'.get c := by
  cases s <;> cases s' <;> first | rfl | exact absurd rfl h

theorem key_injective {s s' : TextSetting} (h : s'.key = s.key) : s' = s := by
  cases s <;> cases s' <;> first | rfl | exact absurd h (by decide)

theorem settingName?_variableName (s : TextSetting) :
    Environment.settingName? s.variableName = some s.key := by
  cases s <;> decide +kernel

/-- The name of a setting is a path of its own. -/
theorem ofText_key (s : TextSetting) : SettingPath.ofText s.key = ⟨s.key, []⟩ := by
  cases s <;> decide +kernel

/-- The value of a setting that a record gives. -/
def read? {ν : Type} (s : TextSetting) (r : Record ν) : Option (Option String) :=
  match s with
  | consulToken => r.optional s.key r.encoding.text?
  | s => (r.text s.key).map some

theorem read?_congr {ν : Type} {s : TextSetting} {r r' : Record ν}
    (hencoding : r.encoding = r'.encoding) (h : r.get? s.key = r'.get? s.key) :
    s.read? r = s.read? r' := by
  cases s <;> simp [read?, Record.text, Record.optional, Record.orElse, hencoding, h]

/-- A setting is read as the text that its value stands for. -/
theorem read?_of_text? {s : TextSetting} {r : Record Datum} {d : Datum} {w : String}
    (hencoding : r.encoding = Datum.encoding) (h : r.get? s.key = some d)
    (hw : d.text? = some w) : s.read? r = some (some w) := by
  have hnull : Datum.encoding.isNull d = false := by
    cases d <;> first | rfl | cases hw
  have htext : Datum.encoding.text? d = some w := hw
  cases s <;>
    simp [read?, Record.text, Record.optional, Record.orElse, hencoding, h, hnull, htext]

/-- A setting whose value stands for no text cannot be read. -/
theorem read?_of_text?_eq_none {s : TextSetting} {r : Record Datum} {d : Datum}
    (hencoding : r.encoding = Datum.encoding) (h : r.get? s.key = some d)
    (hnull : Datum.encoding.isNull d = false) (hd : d.text? = none) : s.read? r = none := by
  have htext : Datum.encoding.text? d = none := hd
  cases s <;>
    simp [read?, Record.text, Record.optional, Record.orElse, hencoding, h, hnull, htext]

end TextSetting

namespace ControllerConfig

variable {ν : Type}

/-- A record gives the settings of a configuration that hold no text from the environment. -/
structure GivesOthers (r : Record ν) (c : ControllerConfig) : Prop where
  syncIntervalSecs : r.orElse "sync_interval_secs" 5 r.encoding.word64? = some c.syncIntervalSecs
  pollIntervalSecs :
    r.orElse "consul_poll_interval_secs" 10 r.encoding.word64? = some c.pollIntervalSecs
  waitSecs : r.orElse "consul_wait_secs" 5 r.encoding.word64? = some c.waitSecs
  debug : r.orElse "debug" false r.encoding.flag? = some c.debug
  dryRun : r.orElse "dry_run" false r.encoding.flag? = some c.dryRun
  kubeconfig : r.optional "kubeconfig" r.encoding.text? = some c.kubeconfig
  owner : r.optional "owner" (OwnerConfig.read? r.encoding) = some c.owner
  discovery : r.orElse "ads" {} (DiscoverySettings.read? r.encoding) = some c.discovery
  log : r.orElse "log" {} (LogSettings.read? r.encoding) = some c.log
  registries : r.list "registries" (RegistryConfig.read? r.encoding) = some c.registries

/-- A record gives a configuration. -/
structure Gives (r : Record ν) (c : ControllerConfig) : Prop where
  texts : ∀ s : TextSetting, s.read? r = some (s.get c)
  others : GivesOthers r c

/-- A value is read as the configuration that its record gives. -/
theorem read?_eq_some_iff {e : Encoding ν} {v : ν} {r : Record ν}
    (hr : e.record? shape v = some r) (he : r.encoding = e) {c : ControllerConfig} :
    read? e v = some c ↔ Gives r c := by
  subst he
  rw [read?, hr, Option.bind_eq_bind, Option.bind_some]
  constructor
  · intro h
    obtain ⟨meshId, hm, h⟩ := Option.bind_eq_some_iff.mp h
    obtain ⟨regionId, hr, h⟩ := Option.bind_eq_some_iff.mp h
    obtain ⟨space, hs, h⟩ := Option.bind_eq_some_iff.mp h
    obtain ⟨sync, hsync, h⟩ := Option.bind_eq_some_iff.mp h
    obtain ⟨poll, hpoll, h⟩ := Option.bind_eq_some_iff.mp h
    obtain ⟨wait, hwait, h⟩ := Option.bind_eq_some_iff.mp h
    obtain ⟨token, ht, h⟩ := Option.bind_eq_some_iff.mp h
    obtain ⟨debug, hdebug, h⟩ := Option.bind_eq_some_iff.mp h
    obtain ⟨dryRun, hdry, h⟩ := Option.bind_eq_some_iff.mp h
    obtain ⟨kubeconfig, hk, h⟩ := Option.bind_eq_some_iff.mp h
    obtain ⟨owner, ho, h⟩ := Option.bind_eq_some_iff.mp h
    obtain ⟨discovery, hd, h⟩ := Option.bind_eq_some_iff.mp h
    obtain ⟨log, hl, h⟩ := Option.bind_eq_some_iff.mp h
    obtain ⟨registries, hregistries, h⟩ := Option.bind_eq_some_iff.mp h
    obtain rfl := Option.some.inj h
    refine ⟨fun s => ?_, hsync, hpoll, hwait, hdebug, hdry, hk, ho, hd, hl, hregistries⟩
    cases s with
    | meshId => simp [TextSetting.read?, TextSetting.key, hm, TextSetting.get]
    | regionId => simp [TextSetting.read?, TextSetting.key, hr, TextSetting.get]
    | space => simp [TextSetting.read?, TextSetting.key, hs, TextSetting.get]
    | consulToken => simp [TextSetting.read?, TextSetting.key, ht, TextSetting.get]
  · rintro ⟨htexts, h⟩
    have hm := htexts .meshId
    have hr := htexts .regionId
    have hs := htexts .space
    have ht := htexts .consulToken
    simp only [TextSetting.read?, TextSetting.key, TextSetting.get, Option.map_eq_some_iff,
      Option.some.injEq, exists_eq_right] at hm hr hs ht
    rw [hm, hr, hs, h.syncIntervalSecs, h.pollIntervalSecs, h.waitSecs, ht, h.debug, h.dryRun,
      h.kubeconfig, h.owner, h.discovery, h.log, h.registries]
    rfl

/-- The names of the settings that hold no text from the environment. -/
def otherNames : List String :=
  ["sync_interval_secs", "consul_poll_interval_secs", "consul_wait_secs", "debug", "dry_run",
    "kubeconfig", "owner", "ads", "log", "registries"]

theorem GivesOthers.congr {r r' : Record ν} {c : ControllerConfig} (h : GivesOthers r' c)
    (hencoding : r.encoding = r'.encoding)
    (hget : ∀ name ∈ otherNames, r.get? name = r'.get? name) : GivesOthers r c := by
  obtain ⟨e, given⟩ := r
  obtain ⟨e', given'⟩ := r'
  obtain rfl : e = e' := hencoding
  have horElse {α : Type} {name : String} (hname : name ∈ otherNames) {absent : α}
      {read : ν → Option α} {v : α} (hv : Record.orElse ⟨e, given'⟩ name absent read = some v) :
      Record.orElse ⟨e, given⟩ name absent read = some v := by
    rwa [Record.orElse, hget name hname]
  exact {
    syncIntervalSecs := horElse (by decide) h.syncIntervalSecs
    pollIntervalSecs := horElse (by decide) h.pollIntervalSecs
    waitSecs := horElse (by decide) h.waitSecs
    debug := horElse (by decide) h.debug
    dryRun := horElse (by decide) h.dryRun
    kubeconfig := horElse (by decide) h.kubeconfig
    owner := horElse (by decide) h.owner
    discovery := horElse (by decide) h.discovery
    log := horElse (by decide) h.log
    registries := horElse (by decide) h.registries }

theorem GivesOthers.set {r : Record ν} {c : ControllerConfig} (h : GivesOthers r c)
    (s : TextSetting) (w : String) : GivesOthers r (s.set w c) := by
  obtain ⟨h₁, h₂, h₃, h₄, h₅, h₆, h₇, h₈, h₉, h₁₀⟩ := h
  cases s <;> exact ⟨h₁, h₂, h₃, h₄, h₅, h₆, h₇, h₈, h₉, h₁₀⟩

/-- The names of all settings at the top. -/
def settingNames : List String := shape.map (·.name)

theorem nodup_settingNames : settingNames.Nodup := by decide

theorem key_mem_settingNames (s : TextSetting) : s.key ∈ settingNames := by
  cases s <;> decide

theorem otherNames_subset : ∀ name ∈ otherNames, name ∈ settingNames := by decide

theorem key_notMem_otherNames (s : TextSetting) : s.key ∉ otherNames := by
  cases s <;> decide

/-- The settings of a configuration, as they stand in a table. -/
theorem exists_record_table {fields : Settings} (h : Datum.Distinct fields) :
    ∃ r : Record Datum, r.encoding = Datum.encoding ∧
      (∀ name ∈ settingNames, r.get? name = Datum.get? name fields) ∧
      ∀ c, read? Datum.encoding (.table fields) = some c ↔ Gives r c := by
  obtain ⟨r, hr, he, hget⟩ := h.exists_record nodup_settingNames
  exact ⟨r, he, hget, fun c => read?_eq_some_iff hr he⟩

/-- Fields that differ in the value of one setting are read as configurations that differ in this
setting. -/
theorem read?_table_of_text? {fields fields' : Settings} (hfields : Datum.Distinct fields)
    (hfields' : Datum.Distinct fields') {s : TextSetting}
    (hsame : ∀ name ≠ s.key, Datum.get? name fields = Datum.get? name fields') {d : Datum}
    {w : String} (hd : Datum.get? s.key fields = some d) (hw : d.text? = some w)
    {c : ControllerConfig} (hread : read? Datum.encoding (.table fields') = some c) :
    read? Datum.encoding (.table fields) = some (s.set w c) := by
  obtain ⟨r, he, hget, hiff⟩ := exists_record_table hfields
  obtain ⟨r', he', hget', hiff'⟩ := exists_record_table hfields'
  obtain ⟨htexts, hothers⟩ := (hiff' c).mp hread
  have hencoding : r.encoding = r'.encoding := he.trans he'.symm
  have hother (name : String) (hmem : name ∈ settingNames) (hne : name ≠ s.key) :
      r.get? name = r'.get? name := by
    rw [hget name hmem, hget' name hmem, hsame name hne]
  -- What is read of the setting itself is the text, and of any other one what was read before.
  refine (hiff _).mpr ⟨fun s' => ?_, ?_⟩
  · by_cases hs : s' = s
    · subst hs
      rw [TextSetting.read?_of_text? he ((hget _ (key_mem_settingNames s')).trans hd) hw,
        TextSetting.get_set]
    · have hkey : s'.key ≠ s.key := fun h => hs (TextSetting.key_injective h)
      rw [TextSetting.read?_congr hencoding (hother _ (key_mem_settingNames s') hkey), htexts,
        TextSetting.get_set_of_ne hs]
  · refine GivesOthers.set (hothers.congr hencoding fun name hname => ?_) s w
    exact hother name (otherNames_subset name hname) fun h => key_notMem_otherNames s (h ▸ hname)

/-- No configuration is read where a setting that holds a text has a table or a list. -/
theorem read?_table_of_text?_eq_none {fields : Settings} (h : Datum.Distinct fields)
    {s : TextSetting} {d : Datum} (hd : Datum.get? s.key fields = some d) (hw : d.text? = none)
    (hnull : Datum.encoding.isNull d = false) : read? Datum.encoding (.table fields) = none := by
  obtain ⟨r, he, hget, hiff⟩ := exists_record_table h
  rw [Option.eq_none_iff_forall_ne_some]
  intro c hc
  have htext := ((hiff c).mp hc).texts s
  rw [TextSetting.read?_of_text?_eq_none he ((hget _ (key_mem_settingNames s)).trans hd) hnull hw]
    at htext
  cases htext

/-! ## All sources -/

theorem distinct_fileSettings {files : Files} {path : String} {settings : Settings}
    (h : fileSettings files path = .ok settings) : Datum.Distinct settings := by
  unfold fileSettings at h
  split at h
  · cases h
    exact .nil
  · split at h
    · cases h
      exact Datum.Distinct.nil.layOver _
    · cases h

theorem ofSources_eq_ok_iff {c : CommandLine} {env : Environment} {files : Files}
    {config : ControllerConfig} :
    ofSources c env files = .ok config ↔
      ∃ settings, fileSettings files c.configPath = .ok settings ∧
        read? Datum.encoding (.table (layOver (layOver settings env.layer) c.layer)) =
          some config := by
  unfold ofSources
  cases hfile : fileSettings files c.configPath with
  | error e => simp [bind, Except.bind]
  | ok settings =>
    simp only [bind, Except.bind, Except.ok.injEq, exists_eq_left']
    cases read? Datum.encoding (.table (layOver (layOver settings env.layer) c.layer)) <;>
      simp [pure, Except.pure, throw, throwThe, MonadExceptOf.throw]

end ControllerConfig

namespace CommandLine

/-- The command line names settings at the top. -/
theorem root_of_mem_layer {c : CommandLine} {e : String × Datum} (h : e ∈ c.layer) :
    (SettingPath.ofText e.1).root = e.1 := by
  have hname : e.1 ∈ ["mesh_id", "region_id", "namespace", "kubeconfig", "debug", "dry_run"] := by
    simp only [layer, List.mem_append, Option.mem_toList, Option.map_eq_some_iff] at h
    grind
  have hall : ∀ name ∈ ["mesh_id", "region_id", "namespace", "kubeconfig", "debug", "dry_run"],
      (SettingPath.ofText name).root = name := by decide +kernel
  exact hall _ hname

/-- An option that is not given leaves its setting alone. -/
theorem root_ne_of_option? {c : CommandLine} {s : TextSetting} (h : s.option? c = none)
    {e : String × Datum} (he : e ∈ c.layer) : (SettingPath.ofText e.1).root ≠ s.key := by
  rw [root_of_mem_layer he]
  intro hkey
  simp only [layer, List.mem_append, Option.mem_toList, Option.map_eq_some_iff] at he
  cases s <;> simp only [TextSetting.option?, TextSetting.key] at h hkey <;> grind

end CommandLine

namespace ControllerConfig

variable {c : CommandLine} {env : Environment} {files : Files} {s : TextSetting}
  {config : ControllerConfig} {v w : String}

/-- Without the variables of a setting the other fields at the top are the same. -/
theorem get?_layers_without (settings : Settings) (c : CommandLine) (env : Environment)
    {name : String} (h : name ≠ s.key) :
    Datum.get? name (layOver (layOver settings env.layer) c.layer) =
      Datum.get? name (layOver (layOver settings (env.without s.key).layer) c.layer) := by
  have hentries : ((env.without s.key).layer.filter fun e => (SettingPath.ofText e.1).root = name) =
      env.layer.filter fun e => (SettingPath.ofText e.1).root = name := by
    rw [Environment.layer_without, List.filter_filter]
    refine List.filter_congr fun e _ => ?_
    -- An entry of the setting itself does not begin at another one.
    by_cases hkey : e.1 = s.key
    · have hroot : (SettingPath.ofText e.1).root ≠ name := by
        rw [hkey, s.ofText_key]
        exact h.symm
      simp [hroot]
    · simp [hkey]
  rw [get?_layOver, get?_layOver, get?_layOver _ c.layer, get?_layOver settings, hentries]

/-- Where the sources load without the variables of a setting, none of these sources goes on below
the setting. -/
theorem root_ne_of_ofSources (hoption : s.option? c = none)
    (hload : ofSources c (env.without s.key) files = .ok config) :
    ∀ e ∈ (env.without s.key).layer, (SettingPath.ofText e.1).root ≠ s.key := by
  intro e he hroot
  obtain ⟨settings, hfile, hread⟩ := ofSources_eq_ok_iff.mp hload
  have hnested : ∀ e ∈ (env.without s.key).layer, e.1 ≠ s.key := by
    intro e he
    rw [Environment.layer_without] at he
    simpa using (List.mem_filter.mp he).2
  obtain ⟨d, hget, htext, hnull⟩ := text?_layOver_of_nested settings he hroot hnested
  rw [← get?_layOver_of_root_ne fun e => CommandLine.root_ne_of_option? hoption] at hget
  have hbelow := (distinct_fileSettings hfile).layOver (env.without s.key).layer
  have hdistinct := hbelow.layOver c.layer
  rw [read?_table_of_text?_eq_none hdistinct hget htext hnull] at hread
  cases hread

/-- A variable that stands for a setting decides its value, where no option does. -/
theorem get?_layers_of_stated (hstated : env.stated? s.key = some v) (hoption : s.option? c = none)
    (hload : ofSources c (env.without s.key) files = .ok config) (settings : Settings) :
    Datum.get? s.key (layOver (layOver settings env.layer) c.layer) = some (.ofWord v) := by
  have hget : Datum.get? s.key env.layer = some (.ofWord v) := by
    rw [Environment.get?_layer, hstated, Option.map_some]
  have hmem := env.distinct_layer.get?_eq_some_iff.mp hget
  rw [get?_layOver_of_root_ne fun e => CommandLine.root_ne_of_option? hoption]
  refine get?_layOver_of_only hmem s.ofText_key (Datum.guessed_ofWord v).overlay ?_
  -- An entry that begins at the setting is that of the variable, or it is left without it.
  intro e he hroot
  by_cases hkey : e.1 = s.key
  · have hown : (s.key, e.2) ∈ env.layer := hkey ▸ he
    have hother := env.distinct_layer.get?_eq_some_iff.mpr hown
    exact Prod.ext hkey (Option.some.inj (hother.symm.trans hget))
  · have hleft : e ∈ (env.without s.key).layer := by
      rw [Environment.layer_without]
      exact List.mem_filter.mpr ⟨he, by simpa using hkey⟩
    exact absurd hroot (root_ne_of_ofSources hoption hload e hleft)

/-- A variable that stands for a setting changes this setting of what the other sources
describe. -/
theorem ofSources_of_stated (hstated : env.stated? s.key = some v) (hoption : s.option? c = none)
    (hw : Datum.text? (.ofWord v) = some w)
    (hload : ofSources c (env.without s.key) files = .ok config) :
    ofSources c env files = .ok (s.set w config) := by
  obtain ⟨settings, hfile, hread⟩ := ofSources_eq_ok_iff.mp hload
  have hdistinct := distinct_fileSettings hfile
  refine ofSources_eq_ok_iff.mpr ⟨settings, hfile, ?_⟩
  exact read?_table_of_text? ((hdistinct.layOver _).layOver _) ((hdistinct.layOver _).layOver _)
    (fun _ hne => get?_layers_without settings c env hne)
    (get?_layers_of_stated hstated hoption hload settings) hw hread

/-- The registries are read from their file in the same way, whatever a text is. -/
theorem withRegistries_set (s : TextSetting) (w : String) {config' : ControllerConfig}
    (h : withRegistries c files config = .ok config') :
    withRegistries c files (s.set w config) = .ok (s.set w config') := by
  -- Whether there are registries is all that is asked of the configuration.
  have hregistries : (s.set w config).registries = config.registries := by cases s <;> rfl
  have hset (registries : List RegistryConfig) :
      s.set w { config with registries } = { s.set w config with registries } := by
    cases s <;> rfl
  simp only [withRegistries, hregistries] at h ⊢
  split at h
  next hcondition =>
    rw [if_pos hcondition]
    split at h
    next registries _ =>
      obtain rfl := Except.ok.inj h
      exact congrArg Except.ok (hset registries).symm
    next => cases h
  next hcondition =>
    obtain rfl := Except.ok.inj h
    rw [if_neg hcondition]

/-- An acceptable configuration names the mesh. -/
theorem isBlankText_meshId_of_validate (h : config.validate = .ok ()) :
    isBlankText config.meshId = false := by
  cases hblank : isBlankText config.meshId with
  | false => rfl
  | true => simp [validate, hblank] at h

/-- Whether a configuration is acceptable depends on a text only as far as it is the identity of
the mesh and blank. -/
theorem validate_set {t : String} (hvalid : (s.set t config).validate = .ok ())
    (hw : s.Admits w) : (s.set w config).validate = .ok () := by
  cases s with
  | meshId =>
    have ht : isBlankText t = false := isBlankText_meshId_of_validate hvalid
    simp only [validate, TextSetting.set, ht, hw rfl, registryKind] at hvalid ⊢
    exact hvalid
  | regionId => exact hvalid
  | space => exact hvalid
  | consulToken => exact hvalid

/-- A text that is not empty is left alone in finding the namespace. -/
theorem get_resolved (s : TextSetting) (hw : w ≠ "") (config : ControllerConfig)
    (publish pod : Option String) :
    s.get { s.set w config with space := (s.set w config).resolveSpace publish pod } = some w := by
  cases s with
  | space =>
    have hnonempty : w.isEmpty = false := by simpa using hw
    simp [TextSetting.get, TextSetting.set, resolveSpace, hnonempty]
  | meshId => rfl
  | regionId => rfl
  | consulToken => rfl

/-- The configuration with a variable is that of the other sources with this setting changed to
the text of what is guessed. -/
theorem load_of_stated (hstated : env.stated? s.key = some v) (hoption : s.option? c = none)
    (hw : Datum.text? (.ofWord v) = some w)
    (hload : (ofSources c (env.without s.key) files).bind (withRegistries c files) = .ok config)
    (hvalid : (s.set w config).validate = .ok ()) :
    load c env files =
      .ok { s.set w config with
        space := (s.set w config).resolveSpace (env.get? "PUBLISH_NAMESPACE")
          (env.get? "POD_NAMESPACE") } := by
  cases hsources : ofSources c (env.without s.key) files with
  | error e =>
    rw [hsources] at hload
    cases hload
  | ok described =>
    have hregistries : withRegistries c files described = .ok config := by
      rw [hsources] at hload
      exact hload
    -- The namespace is no part of what is checked.
    have hresolved (space : String) : validate { s.set w config with space } = .ok () := hvalid
    simp only [load, ofSources_of_stated hstated hoption hw hsources,
      withRegistries_set s w hregistries, bind, Except.bind, hresolved]
    rfl

/-- A configuration is only loaded when it is acceptable. -/
theorem validate_of_load {loaded : ControllerConfig} (h : load c env files = .ok loaded) :
    loaded.validate = .ok () := by
  simp only [load, bind, Except.bind] at h
  split at h
  · cases h
  · split at h
    · cases h
    · split at h
      next hvalid =>
        obtain rfl := Except.ok.inj h
        exact hvalid
      next => cases h

/-- A text from the environment arrives as the text of what it is guessed to be. So it arrives as it
was given exactly if it is written plainly, where it may stand for its setting at all. The other
sources have to be acceptable with some text in the place of this one. -/
theorem text_kept_iff_writtenPlainly (s : TextSetting) (c : CommandLine) (env : Environment)
    (files : Files) (v t : String) (config : ControllerConfig) (hv : v ≠ "")
    (hstated : env.stated? s.key = some v) (hoption : s.option? c = none)
    (hload : (ofSources c (env.without s.key) files).bind (withRegistries c files) = .ok config)
    (hvalid : (s.set t config).validate = .ok ()) :
    (s.Admits v →
      ∃ loaded, load c env files = .ok loaded ∧ s.get loaded = Datum.text? (.ofWord v)) ∧
    ((∃ loaded, load c env files = .ok loaded ∧ s.get loaded = some v) ↔
      s.Admits v ∧ Datum.WrittenPlainly v) := by
  have hguessed := Datum.guessed_ofWord v
  obtain ⟨w, hw, hplain⟩ := hguessed.exists_text?
  have hcontent := hguessed.isBlankText_text? hw
  have hne : w ≠ "" := by
    rcases hcontent with rfl | hblank
    · exact hv
    · rintro rfl
      cases hblank
  have harrives (hadmits : s.Admits v) :
      ∃ loaded, load c env files = .ok loaded ∧ s.get loaded = some w := by
    have hguess : s.Admits w := fun hs => hcontent.elim (fun heq => heq ▸ hadmits hs) id
    have hloaded := load_of_stated hstated hoption hw hload (validate_set hvalid hguess)
    exact ⟨_, hloaded, get_resolved s hne config _ _⟩
  refine ⟨fun hadmits => hw ▸ harrives hadmits, ?_, ?_⟩
  · rintro ⟨loaded, hloaded, hget⟩
    -- A blank identity would not have been loaded.
    have hadmits : s.Admits v := by
      rintro rfl
      obtain rfl := Option.some.inj hget
      exact isBlankText_meshId_of_validate (validate_of_load hloaded)
    obtain ⟨loaded', hloaded', hget'⟩ := harrives hadmits
    obtain rfl := Except.ok.inj (hloaded.symm.trans hloaded')
    exact ⟨hadmits, hplain.mp (Option.some.inj (hget'.symm.trans hget))⟩
  · rintro ⟨hadmits, hwritten⟩
    obtain rfl := hplain.mpr hwritten
    exact harrives hadmits

/-- An identity that looks like nothing else arrives as it was given. -/
theorem plain_identity_kept :
    ∃ loaded, load {} [("MESHSYNC_MESH_ID", "mesh-7"), ("HOME", "/root")] {} = .ok loaded ∧
      loaded.meshId = "mesh-7" := by
  have hplain : Datum.WrittenPlainly "mesh-7" := by
    have hint : Text.int64? "mesh-7".toList = none := by decide +kernel
    have hreal : Double.ofText? "mesh-7" = none := by decide +kernel
    exact ⟨by decide +kernel, by decide +kernel, fun _ hn => (nomatch hint.symm.trans hn),
      fun _ _ hx => (nomatch hreal.symm.trans hx)⟩
  have hstated : Environment.stated? [("MESHSYNC_MESH_ID", "mesh-7"), ("HOME", "/root")]
      TextSetting.meshId.key = some "mesh-7" :=
    Environment.stated?_of_get? rfl TextSetting.meshId.settingName?_variableName (by decide +kernel)
  have hadmits : TextSetting.meshId.Admits "mesh-7" := fun _ => by decide +kernel
  obtain ⟨-, hkept⟩ := text_kept_iff_writtenPlainly .meshId {} _ {} "mesh-7" "mesh-7" {}
    (by decide) hstated rfl (by decide +kernel) (by decide +kernel)
  obtain ⟨loaded, hloaded, hget⟩ := hkept.mpr ⟨hadmits, hplain⟩
  exact ⟨loaded, hloaded, Option.some.inj hget⟩

/-- An identity of digits loses its leading zeros. -/
theorem leading_zeros_lost :
    Environment.stated? [("MESHSYNC_MESH_ID", "007")] TextSetting.meshId.key = some "007" ∧
      (ofSources {} (Environment.without [("MESHSYNC_MESH_ID", "007")] TextSetting.meshId.key)
        {}).bind (withRegistries {} {}) = .ok {} ∧
      (TextSetting.meshId.set "007" {}).validate = .ok () ∧
      load {} [("MESHSYNC_MESH_ID", "007")] {} = .ok { meshId := "7", space := "default" } := by
  refine ⟨?_, ?_, ?_, ?_⟩ <;> decide +kernel

end ControllerConfig

end MeshRegistry
