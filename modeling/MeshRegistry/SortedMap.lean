/-!
# Maps kept in key order

A `SortedMap` is a list of pairs whose keys ascend strictly. There is exactly one such list for
a given assignment of values to keys, so two maps with the same look-ups are equal
(`SortedMap.ext_get?`), and every operation is described by what it does to look-ups
(`get?_insert`, `get?_erase`).

## Main definitions

- `SortedMap`: the map, with its ordering as a field.
- `SortedMap.get?`, `insert`, `erase`, `ofList`: look-up, replacement, removal, construction.
- `SortedMap.mapValues`, `filter`: maps derived from a map.
-/

namespace MeshRegistry

set_option linter.unusedSectionVars false

/-- A finite map, kept as its pairs in strictly ascending key order. -/
structure SortedMap (κ α : Type) [Ord κ] where
  /-- The pairs of the map, in ascending key order. -/
  entries : List (κ × α)
  /-- Keys ascend strictly, so no key occurs twice. -/
  ascending : entries.Pairwise (fun a b => compare a.1 b.1 = .lt)
deriving DecidableEq

namespace SortedMap

variable {κ α β : Type} [Ord κ]

/-! ## Look-up -/

/-- The value that a list of pairs gives to a key: that of the first pair with the key. -/
def find? (k : κ) : List (κ × α) → Option α
  | [] => none
  | (k', v) :: rest => if compare k k' = .eq then some v else find? k rest

/-- The map without pairs. -/
def empty : SortedMap κ α := ⟨[], .nil⟩

instance : EmptyCollection (SortedMap κ α) := ⟨empty⟩
instance : Inhabited (SortedMap κ α) := ⟨empty⟩

/-- The value of a key, if the map has it. -/
def get? (m : SortedMap κ α) (k : κ) : Option α := find? k m.entries

/-- Whether a key has a value. -/
def contains (m : SortedMap κ α) (k : κ) : Bool := (m.get? k).isSome

/-- The keys, ascending. -/
def keys (m : SortedMap κ α) : List κ := m.entries.map (·.1)

/-- The values, in the order of their keys. -/
def values (m : SortedMap κ α) : List α := m.entries.map (·.2)

/-- The number of keys. -/
def size (m : SortedMap κ α) : Nat := m.entries.length

/-- Whether the map has no key. -/
def isEmpty (m : SortedMap κ α) : Bool := m.entries.isEmpty

/-! ## Insertion and removal on lists of pairs -/

/-- Put a pair into an ascending list, in place of a pair with the same key. -/
def insertEntry (k : κ) (v : α) : List (κ × α) → List (κ × α)
  | [] => [(k, v)]
  | (k', v') :: rest =>
    match compare k k' with
    | .lt => (k, v) :: (k', v') :: rest
    | .eq => (k, v) :: rest
    | .gt => (k', v') :: insertEntry k v rest

theorem mem_insertEntry {k : κ} {v : α} {l : List (κ × α)} {p : κ × α}
    (h : p ∈ insertEntry k v l) : p = (k, v) ∨ p ∈ l := by
  induction l with
  | nil => exact .inl (by simpa [insertEntry] using h)
  | cons hd tl ih =>
    rw [insertEntry] at h
    split at h
    · simpa using h
    · rcases List.mem_cons.mp h with rfl | h
      · exact .inl rfl
      · exact .inr (List.mem_cons_of_mem _ h)
    · rcases List.mem_cons.mp h with rfl | h
      · exact .inr (List.mem_cons_self ..)
      · exact (ih h).imp id (List.mem_cons_of_mem _)

section Ordered

variable [Std.TransOrd κ] [Std.LawfulEqOrd κ]

theorem insertEntry_ascending (k : κ) (v : α) {l : List (κ × α)}
    (h : l.Pairwise (fun a b => compare a.1 b.1 = .lt)) :
    (insertEntry k v l).Pairwise (fun a b => compare a.1 b.1 = .lt) := by
  induction l with
  | nil => simp [insertEntry]
  | cons hd tl ih =>
    obtain ⟨k', v'⟩ := hd
    obtain ⟨hhd, htl⟩ := List.pairwise_cons.mp h
    rw [insertEntry]
    split
    next hlt =>
      refine List.pairwise_cons.mpr ⟨fun p hp => ?_, h⟩
      rcases List.mem_cons.mp hp with rfl | hp
      · exact hlt
      · exact Std.TransCmp.lt_trans hlt (hhd p hp)
    next heq =>
      obtain rfl := Std.LawfulEqCmp.eq_of_compare heq
      exact List.pairwise_cons.mpr ⟨hhd, htl⟩
    next hgt =>
      refine List.pairwise_cons.mpr ⟨fun p hp => ?_, ih htl⟩
      rcases mem_insertEntry hp with rfl | hp
      · exact Std.OrientedCmp.lt_of_gt hgt
      · exact hhd p hp

/-- The map with a key set to a value. -/
def insert (m : SortedMap κ α) (k : κ) (v : α) : SortedMap κ α :=
  ⟨insertEntry k v m.entries, insertEntry_ascending k v m.ascending⟩

/-- The map of a list of pairs; of two pairs with one key the later counts. -/
def ofList (l : List (κ × α)) : SortedMap κ α := l.foldl (fun m p => m.insert p.1 p.2) empty

/-- The map that has one key. -/
def singleton (k : κ) (v : α) : SortedMap κ α := empty.insert k v

/-- The first map with the pairs of the second put over it. -/
def merge (m n : SortedMap κ α) : SortedMap κ α :=
  n.entries.foldl (fun acc p => acc.insert p.1 p.2) m

end Ordered

/-- The pairs whose key and value satisfy a test. -/
def filter (p : κ → α → Bool) (m : SortedMap κ α) : SortedMap κ α :=
  ⟨m.entries.filter (fun e => p e.1 e.2), m.ascending.sublist List.filter_sublist⟩

/-- The map without a key. -/
def erase (m : SortedMap κ α) (k : κ) : SortedMap κ α :=
  m.filter fun k' _ => compare k k' != .eq

/-- The map with every value replaced by its image. -/
def mapValues (f : α → β) (m : SortedMap κ α) : SortedMap κ β :=
  ⟨m.entries.map (fun e => (e.1, f e.2)), m.ascending.map _ fun _ _ h => h⟩

/-! ## What the operations do to look-ups -/

theorem find?_eq_none {k : κ} {l : List (κ × α)}
    (h : ∀ p ∈ l, compare k p.1 ≠ .eq) : find? k l = none := by
  induction l with
  | nil => rfl
  | cons hd tl ih =>
    rw [find?, if_neg (h hd (List.mem_cons_self ..))]
    exact ih fun p hp => h p (List.mem_cons_of_mem _ hp)

theorem mem_of_find? [Std.LawfulEqOrd κ] {k : κ} {v : α} {l : List (κ × α)}
    (h : find? k l = some v) : (k, v) ∈ l := by
  induction l with
  | nil => simp [find?] at h
  | cons hd tl ih =>
    rw [find?] at h
    split at h
    next heq =>
      obtain rfl := Std.LawfulEqCmp.eq_of_compare heq
      exact (Option.some.inj h) ▸ List.mem_cons_self ..
    next => exact List.mem_cons_of_mem _ (ih h)

theorem find?_ne_none_of_mem [Std.LawfulEqOrd κ] {k : κ} {v : α} {l : List (κ × α)}
    (h : (k, v) ∈ l) : find? k l ≠ none := by
  induction l with
  | nil => cases h
  | cons hd tl ih =>
    rw [find?]
    split
    · nofun
    next hne =>
      rcases List.mem_cons.mp h with rfl | h
      · simp at hne
      · exact ih h

@[simp] theorem get?_empty (k : κ) : (empty : SortedMap κ α).get? k = none := rfl

theorem isEmpty_iff {m : SortedMap κ α} : m.isEmpty = true ↔ m = empty := by
  obtain ⟨entries, ascending⟩ := m
  simp [isEmpty, empty]

section Lookup

variable [Std.TransOrd κ] [Std.LawfulEqOrd κ]

theorem find?_insertEntry [DecidableEq κ] (k k' : κ) (v : α) (l : List (κ × α)) :
    find? k' (insertEntry k v l) = if k' = k then some v else find? k' l := by
  induction l with
  | nil =>
    by_cases h : k' = k
    · subst h; simp [insertEntry, find?]
    · have : compare k' k ≠ .eq := fun hc => h (Std.LawfulEqCmp.eq_of_compare hc)
      simp [insertEntry, find?, h, this]
  | cons hd tl ih =>
    obtain ⟨k'', v''⟩ := hd
    rw [insertEntry]
    split
    next =>
      by_cases h : k' = k
      · subst h; simp [find?]
      · have : compare k' k ≠ .eq := fun hc => h (Std.LawfulEqCmp.eq_of_compare hc)
        simp [find?, h, this]
    next heq =>
      obtain rfl := Std.LawfulEqCmp.eq_of_compare heq
      by_cases h : k' = k
      · subst h; simp [find?]
      · have : compare k' k ≠ .eq := fun hc => h (Std.LawfulEqCmp.eq_of_compare hc)
        simp [find?, h, this]
    next hgt =>
      by_cases h' : compare k' k'' = .eq
      · obtain rfl := Std.LawfulEqCmp.eq_of_compare h'
        have : k' ≠ k := by
          rintro rfl
          simp at hgt
        simp [find?, this]
      · simp [find?, h', ih]

@[simp] theorem get?_insert [DecidableEq κ] (m : SortedMap κ α) (k k' : κ) (v : α) :
    (m.insert k v).get? k' = if k' = k then some v else m.get? k' :=
  find?_insertEntry k k' v m.entries

/-- A pair is in the map exactly when the key has that value. -/
theorem get?_eq_some_iff {m : SortedMap κ α} {k : κ} {v : α} :
    m.get? k = some v ↔ (k, v) ∈ m.entries := by
  refine ⟨mem_of_find?, fun h => ?_⟩
  have hasc := m.ascending
  rw [get?]
  revert h hasc
  induction m.entries with
  | nil => simp
  | cons hd tl ih =>
    intro h hasc
    obtain ⟨hhd, htl⟩ := List.pairwise_cons.mp hasc
    rcases List.mem_cons.mp h with rfl | h
    · simp [find?]
    · have hlt := hhd _ h
      have : compare k hd.1 ≠ .eq := by
        intro hc
        obtain rfl := Std.LawfulEqCmp.eq_of_compare hc
        simp at hlt
      rw [find?, if_neg this]
      exact ih h htl

theorem find?_filter {p : κ → α → Bool} {l : List (κ × α)} {k : κ}
    (hasc : l.Pairwise (fun a b => compare a.1 b.1 = .lt)) :
    find? k (l.filter (fun e => p e.1 e.2)) = (find? k l).filter (p k) := by
  induction l with
  | nil => rfl
  | cons hd tl ih =>
    obtain ⟨k', v⟩ := hd
    obtain ⟨hhd, htl⟩ := List.pairwise_cons.mp hasc
    by_cases hk : compare k k' = .eq
    · obtain rfl := Std.LawfulEqCmp.eq_of_compare hk
      have hnone : find? k (tl.filter (fun e => p e.1 e.2)) = none := by
        refine find?_eq_none fun q hq hc => ?_
        have hlt := hhd q (List.mem_filter.mp hq).1
        rw [← Std.LawfulEqCmp.eq_of_compare hc] at hlt
        simp at hlt
      by_cases hp : p k v
      · simp [List.filter, Option.filter, hp, find?]
      · simp [List.filter, Option.filter, hp, find?, hnone]
    · by_cases hp : p k' v
      · simp [List.filter, hp, find?, hk, ih htl]
      · simp [List.filter, hp, find?, hk, ih htl]

@[simp] theorem get?_filter (m : SortedMap κ α) (p : κ → α → Bool) (k : κ) :
    (m.filter p).get? k = (m.get? k).filter (p k) :=
  find?_filter m.ascending

@[simp] theorem get?_erase [DecidableEq κ] (m : SortedMap κ α) (k k' : κ) :
    (m.erase k).get? k' = if k' = k then none else m.get? k' := by
  rw [erase, get?_filter]
  by_cases h : k' = k
  · subst h
    cases m.get? k' <;> simp
  · have : compare k k' ≠ .eq := fun hc => h (Std.LawfulEqCmp.eq_of_compare hc).symm
    cases m.get? k' <;> simp [h, this]

@[simp] theorem get?_mapValues (m : SortedMap κ α) (f : α → β) (k : κ) :
    (m.mapValues f).get? k = (m.get? k).map f := by
  have key : ∀ l : List (κ × α), find? k (l.map fun e => (e.1, f e.2)) = (find? k l).map f := by
    intro l
    induction l with
    | nil => rfl
    | cons hd tl ih => by_cases h : compare k hd.1 = .eq <;> simp [find?, h, ih]
  exact key m.entries

/-! ## Equal look-ups, equal maps -/

/-- Maps that give every key the same value are equal. -/
theorem ext_get? {m n : SortedMap κ α} (h : ∀ k, m.get? k = n.get? k) : m = n := by
  -- Two ascending lists with the same members are the same list.
  have key : ∀ l₁ l₂ : List (κ × α),
      l₁.Pairwise (fun a b => compare a.1 b.1 = .lt) →
      l₂.Pairwise (fun a b => compare a.1 b.1 = .lt) →
      (∀ p, p ∈ l₁ ↔ p ∈ l₂) → l₁ = l₂ := by
    intro l₁
    induction l₁ with
    | nil =>
      intro l₂ _ _ hmem
      cases l₂ with
      | nil => rfl
      | cons b bs => exact absurd ((hmem b).mpr (List.mem_cons_self ..)) (by simp)
    | cons a as ih =>
      intro l₂ h₁ h₂ hmem
      cases l₂ with
      | nil => exact absurd ((hmem a).mp (List.mem_cons_self ..)) (by simp)
      | cons b bs =>
        obtain ⟨ha, has⟩ := List.pairwise_cons.mp h₁
        obtain ⟨hb, hbs⟩ := List.pairwise_cons.mp h₂
        -- Each head is in the other list, and nothing there is below its head.
        have hab : a = b := by
          rcases List.mem_cons.mp ((hmem a).mp (List.mem_cons_self ..)) with h | h
          · exact h
          rcases List.mem_cons.mp ((hmem b).mpr (List.mem_cons_self ..)) with h' | h'
          · exact h'.symm
          have := Std.TransCmp.lt_trans (hb a h) (ha b h')
          simp at this
        subst hab
        congr 1
        refine ih bs has hbs fun p => ⟨fun hp => ?_, fun hp => ?_⟩
        · rcases List.mem_cons.mp ((hmem p).mp (List.mem_cons_of_mem _ hp)) with rfl | h
          · have := ha p hp
            simp at this
          · exact h
        · rcases List.mem_cons.mp ((hmem p).mpr (List.mem_cons_of_mem _ hp)) with rfl | h
          · have := hb p hp
            simp at this
          · exact h
  have hentries : m.entries = n.entries :=
    key _ _ m.ascending n.ascending fun ⟨k, v⟩ => by
      rw [← get?_eq_some_iff, ← get?_eq_some_iff, h]
  cases m
  cases n
  cases hentries
  rfl

theorem get?_foldl_insert (l : List (κ × α)) (m : SortedMap κ α) (k : κ) :
    (l.foldl (fun m p => m.insert p.1 p.2) m).get? k = (find? k l.reverse).or (m.get? k) := by
  classical
  induction l generalizing m with
  | nil => simp [find?]
  | cons hd tl ih =>
    -- The last pair of a list counts only where no earlier one has the key.
    have happ : ∀ xs : List (κ × α),
        find? k (xs ++ [hd]) = (find? k xs).or (find? k [hd]) := by
      intro xs
      induction xs with
      | nil => simp [find?]
      | cons x xs ihx => by_cases hx : compare k x.1 = .eq <;> simp [find?, hx, ihx]
    rw [List.foldl_cons, ih, List.reverse_cons, happ, get?_insert]
    by_cases h : k = hd.1
    · subst h
      simp [find?]
    · have : compare k hd.1 ≠ .eq := fun hc => h (Std.LawfulEqCmp.eq_of_compare hc)
      simp [find?, h, this]

theorem ofList_concat (l : List (κ × α)) (p : κ × α) :
    ofList (l ++ [p]) = (ofList l).insert p.1 p.2 := by
  simp [ofList]

/-- The pairs of a map in any order, built up, give it back. -/
theorem ofList_of_perm {m : SortedMap κ α} {l : List (κ × α)} (h : l.Perm m.entries) :
    ofList l = m := by
  refine ext_get? fun k => ?_
  have hmem : ∀ v, (k, v) ∈ l.reverse ↔ m.get? k = some v := by
    intro v
    rw [List.mem_reverse, h.mem_iff, get?_eq_some_iff]
  rw [ofList, get?_foldl_insert, get?_empty, Option.or_none]
  cases hf : find? k l.reverse with
  | some v => exact ((hmem v).mp (mem_of_find? hf)).symm
  | none =>
    cases hm : m.get? k with
    | none => rfl
    | some v => exact absurd hf (find?_ne_none_of_mem ((hmem v).mpr hm))

/-- The keys of a map are those that have a value. -/
theorem mem_keys_iff {m : SortedMap κ α} {k : κ} : k ∈ m.keys ↔ ∃ v, m.get? k = some v := by
  simp [keys, get?_eq_some_iff]

/-- A map that is built from pairs has their keys. -/
theorem mem_keys_ofList_iff {l : List (κ × α)} {k : κ} :
    k ∈ (ofList l).keys ↔ ∃ v, (k, v) ∈ l := by
  rw [mem_keys_iff, ofList, get?_foldl_insert]
  simp only [get?_empty, Option.or_none]
  constructor
  · rintro ⟨v, hv⟩
    exact ⟨v, List.mem_reverse.mp (mem_of_find? hv)⟩
  · rintro ⟨v, hv⟩
    exact Option.ne_none_iff_exists'.mp (find?_ne_none_of_mem (List.mem_reverse.mpr hv))

end Lookup

end SortedMap

end MeshRegistry
