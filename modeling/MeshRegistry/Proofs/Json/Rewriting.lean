import Mathlib.Data.List.Forall2
import MeshRegistry.Json.Encoding
/-!
# Objects that are written in another way

An object says the same to a reader of typed fields when keys that the reader does not know stand
between the known ones, when a field is missing that has the default of its key, and when the fields
come in another order. So it does when the values of its fields are written in another way, of which
the reader of the field takes no notice. No known key may be given twice.

## Main definitions

- `Json.Rewritten`, `Json.RewrittenObject`, `Json.RewrittenList`: the same written in another way.
- `Json.GivenOnce`: no known key is given twice.
- `Json.Found`: what a key has after a rewriting, by what it had.

## Main results

- `Json.RewrittenObject.record?`: an object is still read as a record, in which its keys are found.
- `Json.Found.required`, `orElse`, `text`, `optional`, `list`, `map`: how its fields are read.
-/

namespace MeshRegistry.Json

/-! ## Fields -/

/-- The fields of an object, and the same fields written in another way. -/
inductive Rewritten (known : List String) (default? : String → Option Json)
    (same : String → Json → Json → Prop) :
    List (String × Json) → List (String × Json) → Prop where
  | nil : Rewritten known default? same [] []
  /-- The value of a field may be written in another way. -/
  | keep {key : String} {j j' : Json} {fields fields' : List (String × Json)}
      (value : same key j j') (rest : Rewritten known default? same fields fields') :
      Rewritten known default? same ((key, j) :: fields) ((key, j') :: fields')
  /-- A field with the default of its key may be left out. -/
  | drop {key : String} {j : Json} {fields fields' : List (String × Json)}
      (default : default? key = some j) (rest : Rewritten known default? same fields fields') :
      Rewritten known default? same ((key, j) :: fields) fields'
  /-- A field whose key is not known may be put in, with any value. -/
  | add {key : String} {j : Json} {fields fields' : List (String × Json)}
      (unknown : key ∉ known) (rest : Rewritten known default? same fields fields') :
      Rewritten known default? same fields ((key, j) :: fields')
  /-- The fields may come in another order. -/
  | permute {fields fields' fields'' : List (String × Json)}
      (rest : Rewritten known default? same fields fields') (order : fields'.Perm fields'') :
      Rewritten known default? same fields fields''

variable {known : List String} {default? : String → Option Json}
  {same : String → Json → Json → Prop} {fields fields' : List (String × Json)}

namespace Rewritten

/-- A known key has a value that it had, perhaps in another way. -/
theorem exists_same (h : Rewritten known default? same fields fields') {key : String}
    (hkey : key ∈ known) {j' : Json} (hj' : (key, j') ∈ fields') :
    ∃ j, (key, j) ∈ fields ∧ same key j j' := by
  induction h with
  | nil => cases hj'
  | @keep key' j _ fields fields' value rest ih =>
    rcases List.mem_cons.mp hj' with heq | hmem
    · cases heq
      exact ⟨j, List.mem_cons_self, value⟩
    · obtain ⟨j, hj, hsame⟩ := ih hmem
      exact ⟨j, List.mem_cons_of_mem _ hj, hsame⟩
  | drop default rest ih =>
    obtain ⟨j, hj, hsame⟩ := ih hj'
    exact ⟨j, List.mem_cons_of_mem _ hj, hsame⟩
  | add unknown rest ih =>
    rcases List.mem_cons.mp hj' with heq | hmem
    · cases heq
      exact absurd hkey unknown
    · exact ih hmem
  | permute rest order ih => exact ih (order.mem_iff.mpr hj')

/-- A key that is not given any more had its default. -/
theorem given_or_default (h : Rewritten known default? same fields fields') {key : String}
    {j : Json} (hj : (key, j) ∈ fields) :
    (∃ j', (key, j') ∈ fields') ∨ default? key = some j := by
  induction h with
  | nil => cases hj
  | @keep _ _ j' _ _ value rest ih =>
    rcases List.mem_cons.mp hj with heq | hmem
    · cases heq
      exact .inl ⟨j', List.mem_cons_self⟩
    · exact (ih hmem).imp_left fun ⟨j', hj'⟩ => ⟨j', List.mem_cons_of_mem _ hj'⟩
  | drop default rest ih =>
    rcases List.mem_cons.mp hj with heq | hmem
    · cases heq
      exact .inr default
    · exact ih hmem
  | add unknown rest ih =>
    exact (ih hj).imp_left fun ⟨j', hj'⟩ => ⟨j', List.mem_cons_of_mem _ hj'⟩
  | permute rest order ih =>
    exact (ih hj).imp_left fun ⟨j', hj'⟩ => ⟨j', order.mem_iff.mp hj'⟩

theorem refl (h : ∀ f ∈ fields, same f.1 f.2 f.2) :
    Rewritten known default? same fields fields := by
  induction fields with
  | nil => exact .nil
  | cons f fields ih =>
    obtain ⟨hf, hfields⟩ := List.forall_mem_cons.mp h
    exact .keep hf (ih hfields)

end Rewritten

/-- No known key is given twice. -/
def GivenOnce (known : List String) (fields : List (String × Json)) : Prop :=
  fields.Pairwise fun f g => f.1 ∈ known → f.1 ≠ g.1

/-- No known key is given twice after the rewriting. -/
theorem Rewritten.givenOnce (h : Rewritten known default? same fields fields')
    (hfields : GivenOnce known fields) : GivenOnce known fields' := by
  induction h with
  | nil => exact .nil
  | @keep key j j' fields fields' value rest ih =>
    obtain ⟨hkey, hrest⟩ := List.pairwise_cons.mp hfields
    refine List.pairwise_cons.mpr ⟨fun g hg hknown heq => ?_, ih hrest⟩
    obtain ⟨key', j''⟩ := g
    obtain rfl : key = key' := heq
    -- What comes again in the rest was in the rest before as well.
    obtain ⟨j, hj, -⟩ := rest.exists_same hknown hg
    exact hkey _ hj hknown rfl
  | drop default rest ih => exact ih (List.pairwise_cons.mp hfields).2
  | add unknown rest ih =>
    exact List.pairwise_cons.mpr ⟨fun g hg hknown => absurd hknown unknown, ih hfields⟩
  | permute rest order ih =>
    refine (order.pairwise_iff ?_).mp (ih hfields)
    intro f g hfg hknown heq
    exact hfg (heq ▸ hknown) heq.symm

/-! ## Records -/

theorem find?_plain (key : String) :
    (FieldName.plain known).find? (fun f => f.accepts key) =
      if key ∈ known then some { name := key } else none := by
  induction known with
  | nil => rfl
  | cons name known ih =>
    by_cases h : key = name
    · subst h
      simp [FieldName.plain, FieldName.accepts]
    · have hother : FieldName.accepts { name } key = false := by
        simpa [FieldName.accepts] using h
      simp only [FieldName.plain, List.map_cons, List.find?_cons, hother, List.mem_cons, h,
        false_or]
      exact ih

/-- Of the fields of an object the known ones are collected, if none is given twice. -/
theorem collect?_eq_some (h : GivenOnce known fields) :
    Record.collect? (FieldName.plain known) fields =
      some (fields.filter fun f => decide (f.1 ∈ known)) := by
  induction fields with
  | nil => rfl
  | cons field fields ih =>
    obtain ⟨key, j⟩ := field
    obtain ⟨hkey, hrest⟩ := List.pairwise_cons.mp h
    rw [Record.collect?, ih hrest, find?_plain]
    by_cases hknown : key ∈ known
    · have honce :
          ((fields.filter fun f => decide (f.1 ∈ known)).any fun g => g.1 == key) = false := by
        rw [List.any_eq_false]
        intro g hg
        simpa using (hkey g (List.mem_filter.mp hg).1 hknown).symm
      simp [hknown, honce]
    · simp [hknown]

/-- What a known key has after a rewriting, by what it had before. -/
inductive Found (default? : Option Json) (same : Json → Json → Prop) :
    Option Json → Option Json → Prop where
  | absent : Found default? same none none
  | given {j j' : Json} (value : same j j') : Found default? same (some j) (some j')
  | dropped {j : Json} (default : default? = some j) : Found default? same (some j) none

theorem lookup_eq_some_iff (h : GivenOnce known fields) {key : String} (hkey : key ∈ known)
    {j : Json} : fields.lookup key = some j ↔ (key, j) ∈ fields := by
  rw [List.lookup_eq_some_iff]
  constructor
  · rintro ⟨before, after, rfl, -⟩
    simp
  · intro hj
    obtain ⟨before, after, rfl⟩ := List.append_of_mem hj
    refine ⟨before, after, rfl, fun f hf => ?_⟩
    -- An earlier field with this key would give it twice.
    have honce := (List.pairwise_append.mp h).2.2 f hf (key, j) List.mem_cons_self
    simp only [bne_iff_ne, ne_eq]
    rintro rfl
    exact honce hkey rfl

theorem get?_filter_eq_lookup {key : String} (hkey : key ∈ known) :
    Record.get? ⟨encoding, fields.filter fun f => decide (f.1 ∈ known)⟩ key =
      fields.lookup key := by
  induction fields with
  | nil => rfl
  | cons field fields ih =>
    obtain ⟨key', j⟩ := field
    by_cases h : key = key'
    · subst h
      simp [Record.get?, hkey]
    · have hother : (key == key') = false := by simpa using h
      have hother' : (key' == key) = false := by simpa using Ne.symm h
      rw [List.lookup_cons, hother, ← ih]
      by_cases hknown : key' ∈ known <;> simp [Record.get?, hknown, hother']

/-- After a rewriting an object is still read as a record. -/
theorem Rewritten.record? (h : Rewritten known default? same fields fields')
    (hfields : GivenOnce known fields) :
    ∃ given, encoding.record? (FieldName.plain known) (.obj fields') = some ⟨encoding, given⟩ ∧
      ∀ key ∈ known,
        Found (default? key) (same key) (fields.lookup key) (Record.get? ⟨encoding, given⟩ key) := by
  have honce := h.givenOnce hfields
  refine ⟨fields'.filter fun f => decide (f.1 ∈ known), ?_, fun key hkey => ?_⟩
  · show (Record.collect? (FieldName.plain known) fields').map _ = _
    rw [collect?_eq_some honce]
    rfl
  rw [get?_filter_eq_lookup hkey]
  -- `h` speaks of the fields themselves; with every known key given once that is their lookup.
  cases hbefore : fields.lookup key with
  | none =>
    cases hafter : fields'.lookup key with
    | none => exact .absent
    | some j' =>
      obtain ⟨j, hj, -⟩ := h.exists_same hkey ((lookup_eq_some_iff honce hkey).mp hafter)
      rw [(lookup_eq_some_iff hfields hkey).mpr hj] at hbefore
      cases hbefore
  | some j =>
    have hj := (lookup_eq_some_iff hfields hkey).mp hbefore
    cases hafter : fields'.lookup key with
    | none =>
      rcases h.given_or_default hj with ⟨j', hj'⟩ | hdefault
      · rw [(lookup_eq_some_iff honce hkey).mpr hj'] at hafter
        cases hafter
      · exact .dropped hdefault
    | some j' =>
      obtain ⟨j'', hj'', hsame⟩ := h.exists_same hkey ((lookup_eq_some_iff honce hkey).mp hafter)
      rw [(lookup_eq_some_iff hfields hkey).mpr hj''] at hbefore
      cases hbefore
      exact .given hsame

theorem givenOnce_of_keys {names : List String} (hkeys : (fields.map (·.1)).Sublist names)
    (hnames : names.Nodup) : GivenOnce known fields := by
  have hdistinct : fields.Pairwise fun f g => f.1 ≠ g.1 :=
    List.pairwise_map.mp (hnames.sublist hkeys)
  refine hdistinct.imp ?_
  intro f g hne _
  exact hne

/-- An object whose fields are written in another way. -/
inductive RewrittenObject (known : List String) (default? : String → Option Json)
    (same : String → Json → Json → Prop) : Json → Json → Prop where
  | obj {fields fields' : List (String × Json)} (h : Rewritten known default? same fields fields') :
      RewrittenObject known default? same (.obj fields) (.obj fields')

/-- An object without repeated keys is still read as a record when it is written in another way. -/
theorem RewrittenObject.record? {j : Json}
    (h : RewrittenObject known default? same (.obj fields) j) (names : List String)
    (hkeys : (fields.map (·.1)).Sublist names) (hnames : names.Nodup) :
    ∃ given, encoding.record? (FieldName.plain known) j = some ⟨encoding, given⟩ ∧
      ∀ key ∈ known,
        Found (default? key) (same key) (fields.lookup key) (Record.get? ⟨encoding, given⟩ key) := by
  cases h with
  | obj h => exact h.record? (givenOnce_of_keys hkeys hnames)

/-! ## Typed fields -/

namespace Found

variable {α : Type} {given : List (String × Json)} {key : String} {read : Json → Option α}
  {default? : Option Json} {same : Json → Json → Prop} {before : Option Json}

/-- A field with a value for its absence is read as before. -/
theorem orElse {absent a : α} (h : Found default? same before (Record.get? ⟨encoding, given⟩ key))
    (hgiven : ∀ j j', before = some j → same j j' → read j' = some a)
    (hdropped : before = none ∨ before = default? → a = absent) :
    Record.orElse ⟨encoding, given⟩ key absent read = some a := by
  unfold Record.orElse
  generalize Record.get? ⟨encoding, given⟩ key = after at h
  cases h with
  | absent => rw [hdropped (.inl rfl)]
  | given value => exact hgiven _ _ rfl value
  | dropped default => rw [hdropped (.inr default.symm)]

/-- A field that must be given is read as before, if it has no default. -/
theorem required {a : α} {j : Json}
    (h : Found none same (some j) (Record.get? ⟨encoding, given⟩ key))
    (hgiven : ∀ j', same j j' → read j' = some a) :
    Record.required ⟨encoding, given⟩ key read = some a := by
  unfold Record.required
  generalize Record.get? ⟨encoding, given⟩ key = after at h
  cases h with
  | given value => exact hgiven _ value
  | dropped default => cases default

theorem text {s : String}
    (h : Found (some (.str "")) Eq (some (.str s)) (Record.get? ⟨encoding, given⟩ key)) :
    Record.text ⟨encoding, given⟩ key = some s := by
  refine h.orElse ?_ ?_
  · rintro _ _ ⟨⟩ rfl
    rfl
  · simp

theorem optional {write : α → Json} {x : Option α}
    (h : Found (some .null) Eq (x.map write) (Record.get? ⟨encoding, given⟩ key))
    (hread : ∀ a, read (write a) = some a) (hnull : ∀ a, encoding.isNull (write a) = false) :
    Record.optional ⟨encoding, given⟩ key read = some x := by
  refine h.orElse ?_ ?_
  · rintro j _ hj rfl
    obtain ⟨a, rfl, rfl⟩ := Option.map_eq_some_iff.mp hj
    simp [hread, hnull]
  · rintro (hnone | hdefault)
    · simpa using hnone
    · obtain ⟨a, -, ha⟩ := Option.map_eq_some_iff.mp hdefault
      have := hnull a
      rw [ha] at this
      cases this

/-- A list is read as before, whether it was left out or written when it was empty. -/
theorem list {l : List α} {write : α → Json}
    (h : Found (some (.arr [])) same before (Record.get? ⟨encoding, given⟩ key))
    (hbefore : before = some (.arr (l.map write)) ∨ before = none ∧ l = [])
    (hread : ∀ j', same (.arr (l.map write)) j' → encoding.list? read j' = some l) :
    Record.list ⟨encoding, given⟩ key read = some l := by
  refine h.orElse ?_ ?_
  · rintro j j' hj hsame
    rcases hbefore with heq | ⟨hnone, -⟩
    · rw [heq] at hj
      cases hj
      exact hread j' hsame
    · rw [hnone] at hj
      cases hj
  · rcases hbefore with rfl | ⟨-, rfl⟩
    · simp
    · simp

/-- A list that is left out when it is empty is read as before. -/
theorem listField {l : List α} {write : α → Json}
    (h : Found (some (.arr [])) same (if l = [] then none else some (.arr (l.map write)))
      (Record.get? ⟨encoding, given⟩ key))
    (hread : ∀ j', same (.arr (l.map write)) j' → encoding.list? read j' = some l) :
    Record.list ⟨encoding, given⟩ key read = some l := by
  refine h.list ?_ hread
  split
  next hempty => exact .inr ⟨rfl, hempty⟩
  next => exact .inl rfl

/-- A map is read as before. -/
theorem map {m : SortedMap String α} {write : α → Json}
    (h : Found (some (.obj [])) Eq (if m.isEmpty then none else some (ofMap write m))
      (Record.get? ⟨encoding, given⟩ key))
    (hread : encoding.map? read (ofMap write m) = some m) :
    Record.map ⟨encoding, given⟩ key read = some m := by
  refine h.orElse ?_ ?_
  · rintro j _ hj rfl
    split at hj
    · cases hj
    · cases hj
      exact hread
  · -- What is written is never the default, so a field that is missing stands for an empty map.
    intro hdropped
    refine SortedMap.isEmpty_iff.mp ?_
    by_contra hempty
    rw [if_neg hempty] at hdropped
    simp [ofMap] at hdropped
    exact hempty (List.isEmpty_iff.mpr hdropped)

end Found

/-! ### Lists and maps -/

/-- A list whose items are the same one by one. -/
inductive RewrittenList (same : Json → Json → Prop) : Json → Json → Prop where
  | arr {items items' : List Json} (h : List.Forall₂ same items items') :
      RewrittenList same (.arr items) (.arr items')

theorem RewrittenList.refl {α : Type} {write : α → Json} {same : Json → Json → Prop}
    (h : ∀ a, same (write a) (write a)) (l : List α) :
    RewrittenList same (.arr (l.map write)) (.arr (l.map write)) := by
  refine .arr (List.forall₂_same.mpr ?_)
  simpa using fun a _ => h a

section Read

variable {α : Type} {read : Json → Option α} {write : α → Json}

theorem mapM_of_forall₂ {l : List α} {items : List Json}
    (h : List.Forall₂ (fun a j => read j = some a) l items) : items.mapM read = some l := by
  induction h with
  | nil => rfl
  | cons hread _ ih => simp [hread, ih]

theorem list?_of_eq (hread : ∀ a, read (write a) = some a) (l : List α) {j' : Json}
    (h : .arr (l.map write) = j') : encoding.list? read j' = some l := by
  subst h
  refine mapM_of_forall₂ (List.forall₂_map_right_iff.mpr (List.forall₂_same.mpr ?_))
  exact fun a _ => hread a

theorem list?_of_rewritten {same : Json → Json → Prop}
    (hread : ∀ a j', same (write a) j' → read j' = some a) (l : List α) {j' : Json}
    (h : RewrittenList same (.arr (l.map write)) j') : encoding.list? read j' = some l := by
  cases h with
  | arr h => exact mapM_of_forall₂ ((List.forall₂_map_left_iff.mp h).imp fun a j => hread a j)

theorem mapM_entries (hread : ∀ a, read (write a) = some a) (entries : List (String × α)) :
    (entries.map fun e => (e.1, write e.2)).mapM
      (fun f : String × Json => (read f.2).map (f.1, ·)) = some entries := by
  induction entries with
  | nil => rfl
  | cons e entries ih => simp_all

theorem map?_ofMap (hread : ∀ a, read (write a) = some a) (m : SortedMap String α) :
    encoding.map? read (ofMap write m) = some m := by
  show Option.map SortedMap.ofList (List.mapM _ (m.entries.map _)) = _
  rw [mapM_entries hread, Option.map_some, SortedMap.ofList_of_perm (.refl _)]

end Read

/-! ### Fields that may be left out -/

section Written

variable {α : Type} (name key : String) (write : α → Json)

theorem lookup_field (j : Json) (rest : List (String × Json)) :
    ((name, j) :: rest).lookup key = if key = name then some j else rest.lookup key := by
  by_cases h : key = name
  · simp [h]
  · rw [List.lookup_cons, beq_eq_false_iff_ne.mpr h, if_neg h]

theorem lookup_field? (x : Option α) :
    (field? name write x).lookup key = if key = name then x.map write else none := by
  cases x <;> simp [field?, lookup_field]

theorem lookup_unless (b : Bool) (j : Json) :
    (if b then [] else [(name, j)]).lookup key =
      if key = name then (if b then none else some j) else none := by
  cases b <;> simp [lookup_field]

theorem lookup_listField (items : List Json) :
    (listField name items).lookup key =
      if key = name then (if items = [] then none else some (.arr items)) else none := by
  cases items <;> simp [listField, lookup_field]

theorem keys_field? (x : Option α) : ((field? name write x).map (·.1)).Sublist [name] := by
  cases x <;> simp [field?]

theorem keys_unless (b : Bool) (j : Json) :
    ((if b then [] else [(name, j)]).map (·.1)).Sublist [name] := by
  cases b <;> simp

theorem keys_listField (items : List Json) : ((listField name items).map (·.1)).Sublist [name] := by
  cases items <;> simp [listField]

end Written

end MeshRegistry.Json
