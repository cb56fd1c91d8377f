import Mathlib.Data.List.Induction
import Mathlib.Data.List.Nodup
import MeshRegistry.Config.Layers
/-!
# What a layer changes

A layer over settings changes a field at the top by the entries whose paths begin there, one after
the other, and by nothing else. An entry whose path ends there and that is no table replaces what
was below; an entry whose path goes on leaves a table or a list.

The variables of the environment are the same layer with or without those that stand for one
setting, as far as other settings go.

## Main definitions

- `Datum.Distinct`: no key occurs twice.
- `laid`: a value with an entry over it.
- `Environment.stated?`, `Environment.without`: what the variables say of a setting, and the
  variables that say nothing of it.

## Main results

- `get?_layOver`: a field under a layer.
- `Environment.get?_layer`, `Environment.layer_without`: the layer of the environment.
-/

namespace MeshRegistry

/-! ## Tables -/

namespace Datum

variable {fields : List (String × Datum)} {key k : String} {v : Datum}

/-- No key occurs twice. -/
def Distinct (fields : List (String × Datum)) : Prop := (fields.map (·.1)).Nodup

theorem Distinct.nil : Distinct [] := List.nodup_nil

theorem mem_keys_put : k ∈ (put key v fields).map (·.1) ↔ k = key ∨ k ∈ fields.map (·.1) := by
  induction fields with
  | nil => simp [put]
  | cons f rest ih =>
    obtain ⟨k', w⟩ := f
    by_cases hk : k' = key
    · subst hk
      simp [put]
    · simp only [put, hk, if_false, List.map_cons, List.mem_cons, ih]
      tauto

theorem Distinct.put (h : Distinct fields) (key : String) (v : Datum) :
    Distinct (put key v fields) := by
  induction fields with
  | nil => simp [Datum.put, Distinct]
  | cons f rest ih =>
    obtain ⟨k', w⟩ := f
    obtain ⟨hnew, hrest⟩ := List.nodup_cons.mp h
    by_cases hk : k' = key
    · subst hk
      rw [Datum.put, if_pos rfl]
      exact List.nodup_cons.mpr ⟨hnew, hrest⟩
    · simp only [Datum.put, hk, if_false]
      refine List.nodup_cons.mpr ⟨fun hmem => ?_, ih hrest⟩
      exact (mem_keys_put.mp hmem).elim hk hnew

theorem Distinct.get?_eq_some_iff (h : Distinct fields) :
    get? k fields = some v ↔ (k, v) ∈ fields := by
  induction fields with
  | nil => simp [get?]
  | cons f rest ih =>
    obtain ⟨k', w⟩ := f
    obtain ⟨hnew, hrest⟩ := List.nodup_cons.mp h
    by_cases hk : k' = k
    · subst hk
      have hother : (k', v) ∉ rest := fun hmem => hnew (List.mem_map.mpr ⟨_, hmem, rfl⟩)
      simp [get?, hother, eq_comm]
    · simp [get?, hk, Ne.symm hk, ih hrest]

theorem filter_put_self :
    (put key v fields).filter (fun f => f.1 ≠ key) = fields.filter (fun f => f.1 ≠ key) := by
  induction fields with
  | nil => simp [put]
  | cons f rest ih =>
    obtain ⟨k', w⟩ := f
    by_cases hk : k' = key
    · simp [put, hk]
    · simpa [put, hk] using ih

theorem filter_put_of_ne (h : k ≠ key) :
    (put k v fields).filter (fun f => f.1 ≠ key) =
      put k v (fields.filter (fun f => f.1 ≠ key)) := by
  induction fields with
  | nil => simp [put, h]
  | cons f rest ih =>
    obtain ⟨k', w⟩ := f
    by_cases hk : k' = k
    · subst hk
      simp [put, h]
    · by_cases hkey : k' = key
      · subst hkey
        simpa [put, hk] using ih
      · simpa [put, hk, hkey] using ih

/-- A path that goes on below a value leaves a table or a list there, which stands for no text. -/
theorem text?_amend {f : Datum → Datum} {steps : List PathStep} (h : steps ≠ []) (d : Datum) :
    text? (amend f steps d) = none ∧ encoding.isNull (amend f steps d) = false := by
  match steps, h with
  | .field name :: rest, _ => simp [amend, text?, encoding]
  | .item place :: rest, _ => simp [amend, text?, encoding]

end Datum

/-! ## Layers -/

namespace SettingPath

theorem steps?_eq_some_nil {n : Nat} {cs : List Char} (h : steps? n cs = some []) : cs = [] := by
  match n, cs with
  | 0, _ => simp [steps?] at h
  | _ + 1, [] => rfl
  | n + 1, c :: cs =>
    -- Every step that is read is in front of those that follow.
    unfold steps? at h
    split at h
    · cases h
    · assumption
    · simp_all
    · split at h
      · simp_all [Option.bind_eq_some_iff]
      · cases h
    · cases h

/-- A path without steps is the text as a whole. -/
theorem root_of_steps_eq_nil {s : String} (h : (ofText s).steps = []) : (ofText s).root = s := by
  simp only [ofText] at h ⊢
  generalize hread : (if s.toList.takeWhile isNameChar = [] then none
    else steps? (s.toList.length + 1) (s.toList.dropWhile isNameChar)) = read at h ⊢
  cases read with
  | none => rfl
  | some steps =>
    obtain rfl : steps = [] := h
    split at hread
    · cases hread
    · have hrest := steps?_eq_some_nil hread
      have hwhole := List.takeWhile_append_dropWhile (p := isNameChar) (l := s.toList)
      rw [hrest, List.append_nil] at hwhole
      simp [hwhole]

end SettingPath

/-- A value with an entry over it. -/
def laid (old : Option Datum) (entry : String × Datum) : Datum :=
  (old.getD .null).amend (Datum.overlay · entry.2) (SettingPath.ofText entry.1).steps

/-- A field at the top changes by the entries whose paths begin there, one after the other. -/
theorem get?_layOver (below : Settings) (layer : List (String × Datum)) (k : String) :
    Datum.get? k (layOver below layer) =
      (layer.filter fun e => (SettingPath.ofText e.1).root = k).foldl
        (fun old e => some (laid old e)) (Datum.get? k below) := by
  induction layer generalizing below with
  | nil => rfl
  | cons e layer ih =>
    rw [layOver, List.foldl_cons, ← layOver, ih, get?_layValue]
    by_cases hroot : (SettingPath.ofText e.1).root = k
    · simp [hroot, laid]
    · simp [hroot, Ne.symm hroot]

theorem get?_layOver_of_root_ne {below : Settings} {layer : List (String × Datum)} {k : String}
    (h : ∀ e ∈ layer, (SettingPath.ofText e.1).root ≠ k) :
    Datum.get? k (layOver below layer) = Datum.get? k below := by
  have hnone : (layer.filter fun e => (SettingPath.ofText e.1).root = k) = [] := by
    simpa using h
  rw [get?_layOver, hnone, List.foldl_nil]

/-- Where all entries of a field are the same one, and nothing below shows through it, the field
has its value. -/
theorem get?_layOver_of_only {below : Settings} {layer : List (String × Datum)} {k : String}
    {v : Datum} (hmem : (k, v) ∈ layer) (hpath : SettingPath.ofText k = ⟨k, []⟩)
    (hv : ∀ d, Datum.overlay d v = v)
    (honly : ∀ e ∈ layer, (SettingPath.ofText e.1).root = k → e = (k, v)) :
    Datum.get? k (layOver below layer) = some v := by
  have hsame : ∀ e ∈ layer.filter (fun e => (SettingPath.ofText e.1).root = k), e = (k, v) := by
    intro e he
    obtain ⟨he, hroot⟩ := List.mem_filter.mp he
    exact honly e he (by simpa using hroot)
  have hentry : (k, v) ∈ layer.filter (fun e => (SettingPath.ofText e.1).root = k) :=
    List.mem_filter.mpr ⟨hmem, by simp [hpath]⟩
  obtain ⟨n, hlength⟩ := Nat.exists_eq_succ_of_ne_zero
    (Nat.ne_of_gt (List.length_pos_of_mem hentry))
  rw [get?_layOver, List.eq_replicate_of_mem hsame, hlength, List.replicate_succ',
    List.foldl_append, List.foldl_cons, List.foldl_nil, laid, hpath]
  simp [Datum.amend, hv]

/-- Where all entries of a field go on below it, and there are some, the field stands for no
text. -/
theorem text?_layOver_of_nested (below : Settings) {layer : List (String × Datum)} {k : String}
    {e : String × Datum} (hmem : e ∈ layer) (hroot : (SettingPath.ofText e.1).root = k)
    (hnested : ∀ e ∈ layer, e.1 ≠ k) :
    ∃ d, Datum.get? k (layOver below layer) = some d ∧ d.text? = none ∧
      Datum.encoding.isNull d = false := by
  have hentry : e ∈ layer.filter (fun e => (SettingPath.ofText e.1).root = k) :=
    List.mem_filter.mpr ⟨hmem, by simpa using hroot⟩
  obtain ⟨before, last, hlast⟩ :=
    (List.eq_nil_or_concat' _).resolve_left (List.ne_nil_of_mem hentry)
  have hin : last ∈ layer.filter (fun e => (SettingPath.ofText e.1).root = k) := by simp [hlast]
  obtain ⟨hlastMem, hlastRoot⟩ := List.mem_filter.mp hin
  have hsteps : (SettingPath.ofText last.1).steps ≠ [] := by
    intro hnil
    have hwhole := SettingPath.root_of_steps_eq_nil hnil
    exact hnested last hlastMem (hwhole.symm.trans (by simpa using hlastRoot))
  have hget : Datum.get? k (layOver below layer) =
      some (laid (before.foldl (fun old e => some (laid old e)) (Datum.get? k below)) last) := by
    rw [get?_layOver, hlast, List.foldl_append, List.foldl_cons, List.foldl_nil]
  exact ⟨_, hget, Datum.text?_amend hsteps _⟩

theorem Datum.Distinct.layOver {below : Settings} (h : Datum.Distinct below)
    (layer : List (String × Datum)) : Datum.Distinct (layOver below layer) := by
  induction layer generalizing below with
  | nil => exact h
  | cons e layer ih => exact ih (h.put _ _)

/-! ## The environment -/

namespace Environment

/-- What the variables say of a setting: the last one that stands for it, in whatever letter
case. -/
def stated? (env : Environment) (key : String) : Option String :=
  (env.reverse.find? fun x => settingName? x.1 == some key).map (·.2)

/-- The variables that do not stand for a setting. -/
def without (env : Environment) (key : String) : Environment :=
  env.filter fun x => settingName? x.1 ≠ some key

/-- A variable with a value, where no other one stands for its setting. -/
theorem stated?_of_get? {env : Environment} {name key v : String} (hget : env.get? name = some v)
    (hname : settingName? name = some key)
    (honly : ∀ x ∈ env, settingName? x.1 = some key → x.1 = name) : env.stated? key = some v := by
  have hsame : ∀ x ∈ env.reverse, (settingName? x.1 == some key) = (x.1 == name) := by
    intro x hx
    have hiff : settingName? x.1 = some key ↔ x.1 = name :=
      ⟨honly x (List.mem_reverse.mp hx), fun h => h ▸ hname⟩
    rw [Bool.eq_iff_iff, beq_iff_eq, beq_iff_eq, hiff]
  rw [stated?, ← List.head?_filter, List.filter_congr hsame, List.head?_filter]
  exact hget

/-- The layer of the environment with the variables in their order. -/
theorem layer_append_singleton (env : Environment) (x : String × String) :
    layer (env ++ [x]) =
      match settingName? x.1 with
      | some name => Datum.put name (.ofWord x.2) env.layer
      | none => env.layer := by
  rw [layer, List.foldl_append]
  rfl

theorem distinct_layer (env : Environment) : Datum.Distinct env.layer := by
  induction env using List.reverseRecOn with
  | nil => exact .nil
  | append_singleton env x ih =>
    rw [layer_append_singleton]
    split
    · exact ih.put _ _
    · exact ih

/-- The layer of the environment has what the variables say, with its type guessed. -/
theorem get?_layer (env : Environment) (key : String) :
    Datum.get? key env.layer = (env.stated? key).map Datum.ofWord := by
  induction env using List.reverseRecOn with
  | nil => rfl
  | append_singleton env x ih =>
    have hstated : stated? (env ++ [x]) key =
        if settingName? x.1 = some key then some x.2 else stated? env key := by
      by_cases h : settingName? x.1 = some key
      · simp [stated?, h]
      · simp [stated?, h]
    rw [layer_append_singleton, hstated]
    cases hname : settingName? x.1 with
    | none => simpa using ih
    | some name =>
      by_cases h : name = key
      · simp [h]
      · simp [h, Ne.symm h, ih]

/-- Without the variables of a setting the layer is the same, but for that setting. -/
theorem layer_without (env : Environment) (key : String) :
    (env.without key).layer = env.layer.filter fun e => e.1 ≠ key := by
  induction env using List.reverseRecOn with
  | nil => rfl
  | append_singleton env x ih =>
    rw [layer_append_singleton]
    cases hname : settingName? x.1 with
    | none =>
      have hkept : without (env ++ [x]) key = without env key ++ [x] := by simp [without, hname]
      rw [hkept, layer_append_singleton, hname]
      exact ih
    | some name =>
      by_cases h : name = key
      · have hdropped : without (env ++ [x]) key = without env key := by
          simp [without, hname, h]
        rw [hdropped, ih, h, Datum.filter_put_self]
      · have hkept : without (env ++ [x]) key = without env key ++ [x] := by
          simp [without, hname, h]
        rw [hkept, layer_append_singleton, hname, Datum.filter_put_of_ne h, ← ih]

end Environment

end MeshRegistry
