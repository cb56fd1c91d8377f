import Mathlib.Data.List.Pairwise
import Mathlib.Data.List.TakeWhile
import MeshRegistry.Config.Registry
import MeshRegistry.Proofs.Json.Compact
import MeshRegistry.Proofs.Json.Rewriting
import MeshRegistry.Proofs.Json.Spelling
/-!
# All spellings of a list of registries

A list of registries can be written in many ways. A field has its own name or an older spelling,
the keys come in any order and between keys that nobody knows, an empty text need not be given, and
the kind is named in any letter case and with blanks around it. All of that is read as the same
registries. A field that is given twice under whatever spellings, and a kind that is missing or does
not exist, spoil the whole list.

The reader brings the keys of an object to the names of their fields first. As no spelling belongs
to two fields, a field is then found by its name exactly if it is given under one of its spellings.

## Main definitions

- `RegistryKind.NamedBy`: a text names a kind.
- `Record.GivenAs`, `Record.GivenOnce`: a field under one of its spellings.
- `RegistryConfig.Renders`, `RegistryConfig.Faulty`: the objects that write a registry, and objects
  that write none.

## Main results

- `Record.collect?_eq_some_iff`, `Record.get?_known`: which fields an object gives.
- `RegistryConfig.read?_eq_some_iff`: an object is read as a registry exactly if it writes it.
- `RegistryConfig.spellings_read_alike`: whole lists, as texts.
-/

namespace MeshRegistry

/-! ## Names of kinds -/

namespace Text

theorem dropBlanks_append {before : List Char} (h : ∀ c ∈ before, isBlank c = true)
    (cs : List Char) : dropBlanks (before ++ cs) = dropBlanks cs :=
  List.dropWhile_append_of_pos h

theorem dropBlanks_of_head {c : Char} (h : isBlank c = false) (cs : List Char) :
    dropBlanks (c :: cs) = c :: cs := by
  simp [dropBlanks, h]

theorem exists_blanks_dropBlanks (cs : List Char) :
    ∃ before, (∀ c ∈ before, isBlank c = true) ∧ cs = before ++ dropBlanks cs := by
  refine ⟨cs.takeWhile isBlank, fun c hc => ?_, List.takeWhile_append_dropWhile.symm⟩
  exact List.mem_takeWhile_imp hc

/-- Trimming only takes blanks away. -/
theorem exists_blanks_trimChars (cs : List Char) :
    ∃ before after, (∀ c ∈ before, isBlank c = true) ∧ (∀ c ∈ after, isBlank c = true) ∧
      cs = before ++ (trimChars cs ++ after) := by
  obtain ⟨before, hbefore, hcs⟩ := exists_blanks_dropBlanks cs
  obtain ⟨after, hafter, hreverse⟩ := exists_blanks_dropBlanks (dropBlanks cs).reverse
  refine ⟨before, after.reverse, hbefore, by simpa using hafter, ?_⟩
  rw [trimChars, ← List.reverse_append, ← hreverse, List.reverse_reverse, ← hcs]

/-- Trimming takes all blanks away that stand around a word. -/
theorem trimChars_surrounded {before word after : List Char}
    (hbefore : ∀ c ∈ before, isBlank c = true) (hafter : ∀ c ∈ after, isBlank c = true)
    (hne : word ≠ []) (hword : ∀ c ∈ word, isBlank c = false) :
    trimChars (before ++ (word ++ after)) = word := by
  have hkeep {l : List Char} (hl : l ≠ []) (h : ∀ c ∈ l, isBlank c = false) (rest : List Char) :
      dropBlanks (l ++ rest) = l ++ rest := by
    obtain ⟨c, cs, rfl⟩ := List.exists_cons_of_ne_nil hl
    exact dropBlanks_of_head (h c List.mem_cons_self) _
  have hlast := hkeep (l := word.reverse) (by simpa using hne) (by simpa using hword) []
  rw [List.append_nil] at hlast
  rw [trimChars, dropBlanks_append hbefore, hkeep hne hword, List.reverse_append,
    dropBlanks_append (by simpa using hafter), hlast, List.reverse_reverse]

/-- Blanks have no letter case. -/
theorem toLower_of_isBlank {c : Char} (h : isBlank c = true) : c.toLower = c := by
  have hcode : c.toNat < 65 ∨ 90 < c.toNat := by
    simp only [isBlank, inRanges, blankRanges, List.any_cons, List.any_nil, Bool.or_eq_true,
      Bool.and_eq_true, decide_eq_true_eq, Bool.or_false] at h
    omega
  have hupper : ¬(c.val ≥ 'A'.val ∧ c.val ≤ 'Z'.val) := by
    rw [ge_iff_le, UInt32.le_iff_toNat_le, UInt32.le_iff_toNat_le, not_and_or]
    exact hcode.imp Nat.not_le.mpr Nat.not_le.mpr
  exact dif_neg hupper

end Text

namespace RegistryKind

/-- A text names a kind, in any letter case and with blanks around it. -/
def NamedBy (kind : RegistryKind) (s : String) : Prop :=
  ∃ before word after, s.toList = before ++ (word ++ after) ∧
    (∀ c ∈ before, Text.isBlank c = true) ∧ (∀ c ∈ after, Text.isBlank c = true) ∧
    word.map Char.toLower = kind.text.toList

theorem isBlank_letter (kind : RegistryKind) : ∀ c ∈ kind.text.toList, Text.isBlank c = false := by
  cases kind <;> simp [text, Text.isBlank, Text.inRanges, Text.blankRanges]

theorem namedBy_iff {kind : RegistryKind} {s : String} :
    kind.NamedBy s ↔ Text.asciiLowercase (Text.trim s) = kind.text := by
  have hlower : Text.asciiLowercase (Text.trim s) = kind.text ↔
      (Text.trimChars s.toList).map Char.toLower = kind.text.toList := by
    rw [Text.asciiLowercase, Text.trim, String.toList_ofList, ← String.toList_inj,
      String.toList_ofList]
  rw [hlower]
  constructor
  · rintro ⟨before, word, after, hs, hbefore, hafter, hword⟩
    -- What is a letter in lower case is no blank.
    have hletters : ∀ c ∈ word, Text.isBlank c = false := by
      intro c hc
      by_contra hblank
      have hletter := isBlank_letter kind c.toLower (hword ▸ List.mem_map_of_mem hc)
      rw [Text.toLower_of_isBlank (by simpa using hblank)] at hletter
      exact hblank hletter
    have hne : word ≠ [] := by
      rintro rfl
      cases kind <;> cases hword
    rw [hs, Text.trimChars_surrounded hbefore hafter hne hletters, hword]
  · intro hword
    obtain ⟨before, after, hbefore, hafter, hs⟩ := Text.exists_blanks_trimChars s.toList
    exact ⟨before, _, after, hs, hbefore, hafter, hword⟩

theorem ofText?_eq_some_iff {kind : RegistryKind} {s : String} :
    ofText? s = some kind ↔ kind.NamedBy s := by
  rw [namedBy_iff, ofText?, ofText]
  split
  next h => cases kind <;> simp [h, text, Except.toOption]
  next h =>
    split
    next h' => cases kind <;> simp [h', text, Except.toOption]
    next h' => cases kind <;> simp [h, h', text, Except.toOption]

end RegistryKind

/-! ## Fields under several spellings -/

/-- Everything under which a field may be given. -/
def FieldName.spellings (f : FieldName) : List String := f.name :: f.others

theorem FieldName.accepts_iff {f : FieldName} {key : String} :
    f.accepts key = true ↔ key ∈ f.spellings := by
  simp [accepts, spellings]

namespace Record

variable {ν : Type} {shape : List FieldName} {fields given : List (String × ν)}

/-- A field is given with a value, under one of its spellings. -/
def GivenAs (spellings : List String) (v : ν) (fields : List (String × ν)) : Prop :=
  ∃ key ∈ spellings, (key, v) ∈ fields

/-- No field is given twice, under whatever spellings. -/
def GivenOnce (groups : List (List String)) (fields : List (String × ν)) : Prop :=
  fields.Pairwise fun x y => ∀ spellings ∈ groups, ¬(x.1 ∈ spellings ∧ y.1 ∈ spellings)

/-- A field that is given once has one value. -/
theorem GivenOnce.unique {groups : List (List String)} (h : GivenOnce groups fields)
    {spellings : List String} (hgroup : spellings ∈ groups) {v v' : ν}
    (hv : GivenAs spellings v fields) (hv' : GivenAs spellings v' fields) : v = v' := by
  obtain ⟨key, hkey, hmem⟩ := hv
  obtain ⟨key', hkey', hmem'⟩ := hv'
  by_contra hne
  have hsymm : Std.Symm fun x y : String × ν =>
      ∀ spellings ∈ groups, ¬(x.1 ∈ spellings ∧ y.1 ∈ spellings) :=
    ⟨fun x y hxy spellings hs hboth => hxy spellings hs hboth.symm⟩
  have hdiffer : (key, v) ≠ (key', v') := fun heq => hne (Prod.mk.inj heq).2
  exact h.forall hmem hmem' hdiffer spellings hgroup ⟨hkey, hkey'⟩

/-- No spelling belongs to two fields. -/
def Separate (shape : List FieldName) : Prop :=
  shape.Pairwise fun f g => ∀ key ∈ f.spellings, key ∉ g.spellings

theorem Separate.eq_of_mem (h : Separate shape) {f g : FieldName} (hf : f ∈ shape)
    (hg : g ∈ shape) {key : String} (hkey : key ∈ f.spellings) (hkey' : key ∈ g.spellings) :
    f = g := by
  have hsymm : Std.Symm fun f g : FieldName => ∀ key ∈ f.spellings, key ∉ g.spellings :=
    ⟨fun f g hfg key hkey hkey' => hfg key hkey' hkey⟩
  by_contra hne
  exact h.forall hf hg hne key hkey hkey'

theorem Separate.eq_of_name (h : Separate shape) {f g : FieldName} (hf : f ∈ shape)
    (hg : g ∈ shape) (hname : f.name = g.name) : f = g :=
  h.eq_of_mem hf hg List.mem_cons_self (hname ▸ List.mem_cons_self)

/-- A key is a spelling of the field that it is looked up as. -/
theorem find?_accepts_eq_some_iff (h : Separate shape) {key : String} {f : FieldName} :
    (shape.find? fun f => f.accepts key) = some f ↔ f ∈ shape ∧ key ∈ f.spellings := by
  constructor
  · intro hfind
    have haccepts := List.find?_some hfind
    exact ⟨List.mem_of_find?_eq_some hfind, FieldName.accepts_iff.mp haccepts⟩
  · rintro ⟨hf, hkey⟩
    cases hfind : shape.find? fun f => f.accepts key with
    | none =>
      have hnone := List.find?_eq_none.mp hfind f hf
      exact absurd (FieldName.accepts_iff.mpr hkey) hnone
    | some g =>
      have haccepts := List.find?_some hfind
      rw [h.eq_of_mem hf (List.mem_of_find?_eq_some hfind) hkey (FieldName.accepts_iff.mp haccepts)]

theorem find?_accepts_eq_none_iff {key : String} :
    (shape.find? fun f => f.accepts key) = none ↔ ∀ f ∈ shape, key ∉ f.spellings := by
  simp [List.find?_eq_none, ← FieldName.accepts_iff]

/-- The known fields of a table, by their names. -/
def known (shape : List FieldName) (fields : List (String × ν)) : List (String × ν) :=
  fields.filterMap fun x => (shape.find? fun f => f.accepts x.1).map fun f => (f.name, x.2)

theorem mem_known_iff (h : Separate shape) {f : FieldName} (hf : f ∈ shape) {v : ν} :
    (f.name, v) ∈ known shape fields ↔ GivenAs f.spellings v fields := by
  simp only [known, List.mem_filterMap, Option.map_eq_some_iff, find?_accepts_eq_some_iff h,
    Prod.mk.injEq]
  constructor
  · rintro ⟨⟨key, v'⟩, hmem, g, ⟨hg, hkey⟩, hname, rfl⟩
    obtain rfl := h.eq_of_name hg hf hname
    exact ⟨key, hkey, hmem⟩
  · rintro ⟨key, hkey, hmem⟩
    exact ⟨(key, v), hmem, f, ⟨hf, hkey⟩, rfl, rfl⟩

/-- Only known fields can be given twice. -/
theorem givenOnce_cons_of_unknown {key : String} {v : ν}
    (hkey : ∀ f ∈ shape, key ∉ f.spellings) :
    GivenOnce (shape.map FieldName.spellings) ((key, v) :: fields) ↔
      GivenOnce (shape.map FieldName.spellings) fields := by
  rw [GivenOnce, List.pairwise_cons]
  refine and_iff_right fun y _ spellings hspellings hboth => ?_
  obtain ⟨f, hf, rfl⟩ := List.mem_map.mp hspellings
  exact hkey f hf hboth.1

theorem givenOnce_cons_of_known (h : Separate shape) {f : FieldName} (hf : f ∈ shape)
    {key : String} (hkey : key ∈ f.spellings) {v : ν} :
    GivenOnce (shape.map FieldName.spellings) ((key, v) :: fields) ↔
      (∀ v', ¬ GivenAs f.spellings v' fields) ∧
        GivenOnce (shape.map FieldName.spellings) fields := by
  rw [GivenOnce, List.pairwise_cons]
  refine and_congr_left fun _ => ?_
  constructor
  · rintro hother v' ⟨key', hkey', hmem⟩
    exact hother _ hmem _ (List.mem_map_of_mem hf) ⟨hkey, hkey'⟩
  · intro hother y hy spellings hspellings hboth
    obtain ⟨g, hg, rfl⟩ := List.mem_map.mp hspellings
    obtain rfl := h.eq_of_mem hf hg hkey hboth.1
    exact hother y.2 ⟨y.1, hboth.2, hy⟩

theorem any_known_iff (h : Separate shape) {f : FieldName} (hf : f ∈ shape) :
    ((known shape fields).any fun g => g.1 == f.name) = true ↔
      ∃ v, GivenAs f.spellings v fields := by
  simp only [List.any_eq_true, beq_iff_eq, Prod.exists]
  constructor
  · rintro ⟨_, v, hmem, rfl⟩
    exact ⟨v, (mem_known_iff h hf).mp hmem⟩
  · rintro ⟨v, hv⟩
    exact ⟨f.name, v, (mem_known_iff h hf).mpr hv, rfl⟩

/-- The fields of a table are collected exactly if none is given twice. -/
theorem collect?_eq_some_iff (h : Separate shape) :
    collect? shape fields = some given ↔
      GivenOnce (shape.map FieldName.spellings) fields ∧ given = known shape fields := by
  induction fields generalizing given with
  | nil => simp [collect?, GivenOnce, known, eq_comm]
  | cons field fields ih =>
    obtain ⟨key, v⟩ := field
    cases hfind : shape.find? fun f => f.accepts key with
    | none =>
      have hknown : known shape ((key, v) :: fields) = known shape fields := by
        simp [known, hfind]
      rw [givenOnce_cons_of_unknown (find?_accepts_eq_none_iff.mp hfind), hknown, ← ih]
      cases hrest : collect? shape fields <;> simp [collect?, hrest, hfind]
    | some f =>
      obtain ⟨hf, hkey⟩ := (find?_accepts_eq_some_iff h).mp hfind
      have hknown : known shape ((key, v) :: fields) = (f.name, v) :: known shape fields := by
        simp [known, hfind]
      rw [givenOnce_cons_of_known h hf hkey, hknown]
      cases hrest : collect? shape fields with
      | none =>
        -- What is given twice in the rest is given twice in the whole.
        have htwice : ¬ GivenOnce (shape.map FieldName.spellings) fields := by
          intro honce
          rw [ih.mpr ⟨honce, rfl⟩] at hrest
          cases hrest
        simp [collect?, hrest, htwice]
      | some rest =>
        obtain ⟨honce, rfl⟩ := ih.mp hrest
        by_cases hany : ((known shape fields).any fun g => g.1 == f.name) = true
        · obtain ⟨v', hv'⟩ := (any_known_iff h hf).mp hany
          have htwice : ¬ ∀ v', ¬ GivenAs f.spellings v' fields := fun hnone => hnone v' hv'
          simp only [collect?, hrest, hfind, hany, htwice, Option.bind_eq_bind, Option.bind_some,
            if_true, false_and, reduceCtorEq]
        · have hnone : ∀ v', ¬ GivenAs f.spellings v' fields :=
            fun v' hv' => hany ((any_known_iff h hf).mpr ⟨v', hv'⟩)
          have hcollect : collect? shape ((key, v) :: fields) =
              some ((f.name, v) :: known shape fields) := by
            simp [collect?, hrest, hfind, hany]
          rw [hcollect, Option.some.injEq, eq_comm]
          exact (and_iff_right ⟨hnone, honce⟩).symm

/-- Of the known fields one is found by its name. -/
theorem get?_known (h : Separate shape) (e : Encoding ν)
    (honce : GivenOnce (shape.map FieldName.spellings) fields) {f : FieldName} (hf : f ∈ shape)
    {v : ν} : get? ⟨e, known shape fields⟩ f.name = some v ↔ GivenAs f.spellings v fields := by
  have hfound {v : ν} (hget : get? ⟨e, known shape fields⟩ f.name = some v) :
      GivenAs f.spellings v fields := by
    obtain ⟨⟨name, v'⟩, hfind, rfl⟩ := Option.map_eq_some_iff.mp hget
    have hname : name = f.name := by simpa using List.find?_some hfind
    exact (mem_known_iff h hf).mp (hname ▸ List.mem_of_find?_eq_some hfind)
  refine ⟨hfound, fun hv => ?_⟩
  cases hget : get? ⟨e, known shape fields⟩ f.name with
  | none =>
    rw [get?, Option.map_eq_none_iff, List.find?_eq_none] at hget
    exact absurd (by simp) (hget _ ((mem_known_iff h hf).mpr hv))
  | some v' => rw [honce.unique (List.mem_map_of_mem hf) (hfound hget) hv]

end Record

/-! ## Registries -/

namespace RegistryConfig

/-- The spellings of the fields of a registry. -/
def spellings : List (List String) :=
  [["type"], ["endpoint"], ["source_namespace", "consulNamespace", "sourceNamespace"],
    ["prefix", "hostPrefix"], ["target_namespace", "toNamespace", "targetNamespace"]]

/-- A text is given under one of the spellings of its field; an empty one may be left out. -/
def GivesText (spellings : List String) (s : String) (fields : List (String × Json)) : Prop :=
  Record.GivenAs spellings (.str s) fields ∨ (s = "" ∧ ∀ v, ¬ Record.GivenAs spellings v fields)

/-- The fields of an object write a registry. Their order does not matter, nor do other keys. -/
structure Renders (r : RegistryConfig) (fields : List (String × Json)) : Prop where
  once : Record.GivenOnce spellings fields
  kind : ∃ s, ("type", .str s) ∈ fields ∧ r.kind.NamedBy s
  endpoint : GivesText ["endpoint"] r.endpoint fields
  sourceSpace :
    GivesText ["source_namespace", "consulNamespace", "sourceNamespace"] r.sourceSpace fields
  hostPrefix : GivesText ["prefix", "hostPrefix"] r.hostPrefix fields
  targetSpace :
    GivesText ["target_namespace", "toNamespace", "targetNamespace"] r.targetSpace fields

/-- What spoils an object that should write a registry. -/
inductive Faulty (fields : List (String × Json)) : Prop where
  /-- A field is given twice, under whatever spellings. -/
  | twice (h : ¬ Record.GivenOnce spellings fields)
  /-- No kind is given. -/
  | untyped (h : ∀ v, ("type", v) ∉ fields)
  /-- What is given as the kind names none. -/
  | unsupported {v : Json} (h : ("type", v) ∈ fields)
      (named : ∀ s, v = .str s → ∀ kind : RegistryKind, ¬ kind.NamedBy s)

theorem separate_shape : Record.Separate shape := by
  simp [Record.Separate, shape, FieldName.spellings]

variable {fields : List (String × Json)}

theorem text_known_iff (honce : Record.GivenOnce spellings fields) {f : FieldName}
    (hf : f ∈ shape) {s : String} :
    Record.text ⟨Json.encoding, Record.known shape fields⟩ f.name = some s ↔
      GivesText f.spellings s fields := by
  have hget {v : Json} := Record.get?_known separate_shape Json.encoding honce hf (v := v)
  rw [Record.text, Record.orElse]
  cases hgiven : Record.get? ⟨Json.encoding, Record.known shape fields⟩ f.name with
  | none =>
    have hnone : ∀ v, ¬ Record.GivenAs f.spellings v fields := by
      intro v hv
      rw [hget.mpr hv] at hgiven
      cases hgiven
    simp [GivesText, hnone, eq_comm]
  | some v =>
    have hv := hget.mp hgiven
    have hsome : ¬ ∀ v, ¬ Record.GivenAs f.spellings v fields := fun hnone => hnone v hv
    have hunique : Record.GivenAs f.spellings (.str s) fields ↔ v = .str s :=
      ⟨honce.unique (List.mem_map_of_mem hf) hv, fun heq => heq ▸ hv⟩
    simp only [GivesText, hsome, and_false, or_false, hunique]
    cases v <;> simp [Json.encoding]

theorem kind_known_iff (honce : Record.GivenOnce spellings fields) {kind : RegistryKind} :
    Record.required ⟨Json.encoding, Record.known shape fields⟩ "type"
        (fun v => (Json.encoding.text? v).bind RegistryKind.ofText?) = some kind ↔
      ∃ s, ("type", .str s) ∈ fields ∧ kind.NamedBy s := by
  have hget {v : Json} : _ ↔ Record.GivenAs ["type"] v fields :=
    Record.get?_known (f := ⟨"type", []⟩) separate_shape Json.encoding honce (by simp [shape])
  have hgiven {v : Json} : Record.GivenAs ["type"] v fields ↔ ("type", v) ∈ fields := by
    simp [Record.GivenAs]
  simp only [Record.required, Option.bind_eq_some_iff, hget, hgiven]
  constructor
  · rintro ⟨v, hv, s, htext, hs⟩
    cases v <;> cases htext
    exact ⟨s, hv, RegistryKind.ofText?_eq_some_iff.mp hs⟩
  · rintro ⟨s, hs, hkind⟩
    exact ⟨_, hs, s, rfl, RegistryKind.ofText?_eq_some_iff.mpr hkind⟩

theorem record?_eq_some_iff {record : Record Json} :
    Json.encoding.record? shape (.obj fields) = some record ↔
      Record.GivenOnce spellings fields ∧ record = ⟨Json.encoding, Record.known shape fields⟩ := by
  have hcollect {given : List (String × Json)} :
      Record.collect? shape fields = some given ↔
        Record.GivenOnce spellings fields ∧ given = Record.known shape fields :=
    Record.collect?_eq_some_iff separate_shape
  show (Record.collect? shape fields).map (Record.mk Json.encoding) = some record ↔ _
  rw [Option.map_eq_some_iff]
  constructor
  · rintro ⟨given, hgiven, rfl⟩
    obtain ⟨honce, rfl⟩ := hcollect.mp hgiven
    exact ⟨honce, rfl⟩
  · rintro ⟨honce, rfl⟩
    exact ⟨_, hcollect.mpr ⟨honce, rfl⟩, rfl⟩

/-- An object is read as a registry exactly if its fields write that registry. -/
theorem read?_eq_some_iff {r : RegistryConfig} :
    read? Json.encoding (.obj fields) = some r ↔ r.Renders fields := by
  have hendpoint (honce : Record.GivenOnce spellings fields) {s : String} :
      _ ↔ GivesText ["endpoint"] s fields :=
    text_known_iff (f := ⟨"endpoint", []⟩) honce (by simp [shape])
  have hsource (honce : Record.GivenOnce spellings fields) {s : String} :
      _ ↔ GivesText ["source_namespace", "consulNamespace", "sourceNamespace"] s fields :=
    text_known_iff (f := ⟨"source_namespace", ["consulNamespace", "sourceNamespace"]⟩) honce
      (by simp [shape])
  have hbeginning (honce : Record.GivenOnce spellings fields) {s : String} :
      _ ↔ GivesText ["prefix", "hostPrefix"] s fields :=
    text_known_iff (f := ⟨"prefix", ["hostPrefix"]⟩) honce (by simp [shape])
  have htarget (honce : Record.GivenOnce spellings fields) {s : String} :
      _ ↔ GivesText ["target_namespace", "toNamespace", "targetNamespace"] s fields :=
    text_known_iff (f := ⟨"target_namespace", ["toNamespace", "targetNamespace"]⟩) honce
      (by simp [shape])
  simp only [read?, Option.bind_eq_bind, Option.bind_eq_some_iff, record?_eq_some_iff,
    Option.pure_def, Option.some.injEq]
  constructor
  · rintro ⟨_, ⟨honce, rfl⟩, kind, hk, endpoint, he, source, hs, hostPrefix, hp, target, ht, rfl⟩
    exact ⟨honce, (kind_known_iff honce).mp hk, (hendpoint honce).mp he, (hsource honce).mp hs,
      (hbeginning honce).mp hp, (htarget honce).mp ht⟩
  · intro h
    exact ⟨_, ⟨h.once, rfl⟩, r.kind, (kind_known_iff h.once).mpr h.kind,
      r.endpoint, (hendpoint h.once).mpr h.endpoint,
      r.sourceSpace, (hsource h.once).mpr h.sourceSpace,
      r.hostPrefix, (hbeginning h.once).mpr h.hostPrefix,
      r.targetSpace, (htarget h.once).mpr h.targetSpace, rfl⟩

/-- A spoiled object writes no registry. -/
theorem Faulty.not_renders (h : Faulty fields) (r : RegistryConfig) : ¬ r.Renders fields := by
  intro hr
  obtain ⟨s, hs, hkind⟩ := hr.kind
  cases h with
  | twice htwice => exact htwice hr.once
  | untyped hnone => exact hnone _ hs
  | @unsupported v hv hnamed =>
    have hgroup : ["type"] ∈ spellings := by simp [spellings]
    have hsame : v = .str s :=
      hr.once.unique hgroup ⟨_, List.mem_singleton_self _, hv⟩ ⟨_, List.mem_singleton_self _, hs⟩
    exact hnamed s hsame r.kind hkind

/-! ### Lists -/

/-- A value is an object that writes a registry. -/
inductive WrittenAs (r : RegistryConfig) : Json → Prop where
  | obj {fields : List (String × Json)} (h : r.Renders fields) : WrittenAs r (.obj fields)

theorem listOfJson?_of_written {registries : List RegistryConfig} {items : List Json}
    (h : List.Forall₂ WrittenAs registries items) :
    listOfJson? (.arr items) = some registries := by
  refine Json.mapM_of_forall₂ (h.imp ?_)
  rintro r _ ⟨hr⟩
  exact read?_eq_some_iff.mpr hr

/-- One spoiled object spoils the list. -/
theorem listOfJson?_of_faulty {items : List Json} (hmem : .obj fields ∈ items)
    (h : Faulty fields) : listOfJson? (.arr items) = none := by
  have hnone : read? Json.encoding (.obj fields) = none := by
    rw [Option.eq_none_iff_forall_ne_some]
    intro r hr
    exact h.not_renders r (read?_eq_some_iff.mp hr)
  show items.mapM (read? Json.encoding) = none
  induction items with
  | nil => cases hmem
  | cons j items ih =>
    rw [List.mapM_cons]
    rcases List.mem_cons.mp hmem with rfl | hrest
    · rw [hnone]
      rfl
    · rw [ih hrest]
      cases read? Json.encoding j <;> rfl

/-- Every text of a list whose objects write registries is read as these registries. A text of a
list with a spoiled object is refused as a whole. -/
theorem spellings_read_alike :
    (∀ (registries : List RegistryConfig) (items : List Json) (text : String),
      List.Forall₂ WrittenAs registries items → Json.Spells (.arr items) text.toList →
        parseList text = .ok registries) ∧
    (∀ (items : List Json) (fields : List (String × Json)) (text : String),
      .obj fields ∈ items → Faulty fields → Json.Spells (.arr items) text.toList →
        parseList text = .error .malformed) := by
  constructor
  · intro registries items text hwritten htext
    rw [parseList, htext.parse?, Option.bind_some, listOfJson?_of_written hwritten]
  · intro items fields text hmem hfaulty htext
    rw [parseList, htext.parse?, Option.bind_some, listOfJson?_of_faulty hmem hfaulty]

/-- A field in its compact form with a space in front of it. -/
def spacedMember (f : String × Json) : Json.Member := { Json.compactMember f with before := [' '] }

theorem legal_spacedMember (f : String × Json) : (spacedMember f).Legal :=
  { Json.legal_compactMember f with before := by simp [spacedMember, Json.Gap, Json.isGap] }

/-- The text of an object with a space in front of each field. -/
def spacedChars (fields : List (String × Json)) : List Char :=
  '\x7b' :: ([','].intercalate ((fields.map spacedMember).map Json.Member.chars) ++ ['\x7d'])

theorem spells_spacedChars {fields : List (String × Json)} (hne : fields ≠ [])
    (hwhole : ∀ f ∈ fields, f.2.Whole) :
    Json.Spells (.arr [.obj fields]) ('[' :: (spacedChars fields ++ [']'])) := by
  have hfields : Json.Member.fields? (fields.map spacedMember) = some fields := by
    clear hne hwhole
    induction fields with
    | nil => rfl
    | cons f fields ih => simp [Json.Member.fields?, ih, spacedMember, Json.compactMember]
  have hobject := Json.Spells.obj (by simpa using hne)
    (List.forall_mem_map.mpr fun f _ => legal_spacedMember f)
    (List.forall_mem_map.mpr fun f hf => (hwhole f hf).spells)
  rw [hfields] at hobject
  have hitems : ∀ p ∈ [(Json.obj fields, spacedChars fields)], Json.Spells p.1 p.2 :=
    List.forall_mem_singleton.mpr hobject
  simpa using Json.Spells.arr (List.cons_ne_nil _ []) hitems

/-- A list of one registry with an older spelling, a key that nobody knows and a kind that is not
written as it is named, and a list with a field that is given twice. -/
theorem spellings_of_short_lists :
    parseList "[\x7b \"zone\":7, \"hostPrefix\":\"svc-\", \"type\":\" Consul\\t\"\x7d]" =
        .ok [{ kind := .consul, hostPrefix := "svc-" }] ∧
      parseList "[\x7b \"prefix\":\"a\", \"hostPrefix\":\"b\", \"type\":\"consul\"\x7d]" =
        .error .malformed := by
  constructor
  · have htext : Json.Spells
        (.arr [.obj [("zone", .int 7), ("hostPrefix", .str "svc-"), ("type", .str " Consul\t")]])
        "[\x7b \"zone\":7, \"hostPrefix\":\"svc-\", \"type\":\" Consul\\t\"\x7d]".toList :=
      spells_spacedChars (by simp) (by simpa using ⟨.int 7, .str _, .str _⟩)
    have hname : RegistryKind.consul.NamedBy " Consul\t" :=
      ⟨[' '], ['C', 'o', 'n', 's', 'u', 'l'], ['\t'], by simp,
        by simp [Text.isBlank, Text.inRanges, Text.blankRanges],
        by simp [Text.isBlank, Text.inRanges, Text.blankRanges], by simp [RegistryKind.text]⟩
    refine spellings_read_alike.1 _ _ _ (.cons (.obj ?_) .nil) htext
    exact {
      once := by simp [Record.GivenOnce, spellings]
      kind := ⟨_, by simp, hname⟩
      endpoint := .inr ⟨rfl, by simp [Record.GivenAs]⟩
      sourceSpace := .inr ⟨rfl, by simp [Record.GivenAs]⟩
      hostPrefix := .inl ⟨"hostPrefix", by simp, by simp⟩
      targetSpace := .inr ⟨rfl, by simp [Record.GivenAs]⟩ }
  · have htext : Json.Spells
        (.arr [.obj [("prefix", .str "a"), ("hostPrefix", .str "b"), ("type", .str "consul")]])
        "[\x7b \"prefix\":\"a\", \"hostPrefix\":\"b\", \"type\":\"consul\"\x7d]".toList :=
      spells_spacedChars (by simp) (by simpa using ⟨.str _, .str _, .str _⟩)
    have htwice :
        Faulty [("prefix", .str "a"), ("hostPrefix", .str "b"), ("type", .str "consul")] :=
      .twice (by simp [Record.GivenOnce, spellings])
    exact spellings_read_alike.2 _ _ _ (List.mem_singleton_self _) htwice htext

end RegistryConfig

end MeshRegistry
