/-!
# Cutting a text at a character

Pieces of a text between separators, the cut at the first separator, and the test for a
beginning.

## Main definitions

- `Text.pieces`: the pieces between all separators; there is one more piece than separators.
- `Text.cutFirst?`: the two sides of the first separator.
- `Text.firstPieces`: the first pieces, with everything that is left in the last one.
- `Text.startsWith`, `Text.stripStart?`, `Text.replaceChar`.
-/

namespace MeshRegistry.Text

/-- The pieces between the separators of a list. -/
def pieces (sep : Char) : List Char → List (List Char)
  | [] => [[]]
  | c :: rest =>
    if c = sep then [] :: pieces sep rest
    else
      match pieces sep rest with
      | [] => [[c]]
      | p :: ps => (c :: p) :: ps

/-- The two sides of the first separator, if there is one. -/
def cutFirst? (sep : Char) : List Char → Option (List Char × List Char)
  | [] => none
  | c :: rest =>
    if c = sep then some ([], rest) else (cutFirst? sep rest).map fun p => (c :: p.1, p.2)

/-- At most so many pieces of a list, from its beginning. The last one is all that is left, with the
separators in it. -/
def firstPieces (sep : Char) : Nat → List Char → List (List Char)
  | 0, _ => []
  | 1, cs => [cs]
  | n + 2, cs =>
    match cutFirst? sep cs with
    | none => [cs]
    | some (piece, rest) => piece :: firstPieces sep (n + 1) rest

/-- The pieces of a text between the separators. -/
def split (sep : Char) (s : String) : List String := (pieces sep s.toList).map String.ofList

/-- Whether a text begins with another. -/
def startsWith (s start : String) : Bool := start.toList.isPrefixOf s.toList

/-- What follows a given beginning of a list. -/
def stripChars? : List Char → List Char → Option (List Char)
  | [], cs => some cs
  | a :: start, c :: cs => if a = c then stripChars? start cs else none
  | _ :: _, [] => none

/-- What follows a given beginning of a text. -/
def stripStart? (start s : String) : Option String :=
  (stripChars? start.toList s.toList).map String.ofList

/-- Whether a list occurs inside another without a gap. -/
def occursIn (part : List Char) : List Char → Bool
  | [] => part.isEmpty
  | c :: rest => part.isPrefixOf (c :: rest) || occursIn part rest

/-- A text with every occurrence of a character replaced. -/
def replaceChar (old new : Char) (s : String) : String :=
  String.ofList (s.toList.map fun c => if c = old then new else c)

/-- Texts put one after the other with a separator between them. -/
def join (sep : String) (parts : List String) : String := String.intercalate sep parts

theorem pieces_ne_nil (sep : Char) (cs : List Char) : pieces sep cs ≠ [] := by
  cases cs with
  | nil => simp [pieces]
  | cons c rest =>
    rw [pieces]
    split
    · simp
    · split <;> simp

/-- The pieces with the separator between them give back the list. -/
theorem intercalate_pieces (sep : Char) (cs : List Char) :
    [sep].intercalate (pieces sep cs) = cs := by
  induction cs with
  | nil => rfl
  | cons c rest ih =>
    have hsome := pieces_ne_nil sep rest
    rw [pieces]
    cases hrest : pieces sep rest with
    | nil => exact absurd hrest hsome
    | cons p ps =>
      rw [hrest] at ih
      split
      next h => simpa [List.intercalate, h] using ih
      · cases ps <;> simpa [List.intercalate] using ih

/-- The pieces of two lists with a separator between them are those of the one and of the other. -/
theorem pieces_append (sep : Char) (a b : List Char) :
    pieces sep (a ++ sep :: b) = pieces sep a ++ pieces sep b := by
  induction a with
  | nil => simp [pieces]
  | cons c a ih =>
    rw [List.cons_append, pieces, pieces, ih]
    split
    · rfl
    · -- The character joins the first piece, and there is one.
      cases hfirst : pieces sep a with
      | nil => exact absurd hfirst (pieces_ne_nil sep a)
      | cons p ps => rfl

theorem pieces_of_not_mem {sep : Char} {cs : List Char} (h : sep ∉ cs) : pieces sep cs = [cs] := by
  induction cs with
  | nil => rfl
  | cons c rest ih =>
    obtain ⟨hfirst, hrest⟩ : sep ≠ c ∧ sep ∉ rest := by simpa using h
    simp [pieces, Ne.symm hfirst, ih hrest]

/-- A separator only ever separates. -/
theorem not_mem_of_mem_pieces {sep : Char} {cs p : List Char} (h : p ∈ pieces sep cs) :
    sep ∉ p := by
  induction cs generalizing p with
  | nil => simp_all [pieces]
  | cons c rest ih =>
    rw [pieces] at h
    split at h
    · rcases List.mem_cons.mp h with rfl | hlater
      · simp
      · exact ih hlater
    next hother =>
      cases hrest : pieces sep rest with
      | nil => exact absurd hrest (pieces_ne_nil sep rest)
      | cons q qs =>
        rw [hrest] at h ih
        rcases List.mem_cons.mp h with rfl | hlater
        · simp [Ne.symm hother, ih (List.mem_cons_self ..)]
        · exact ih (List.mem_cons_of_mem _ hlater)

/-- Pieces without separators are found again between them. -/
theorem pieces_intercalate {sep : Char} {ps : List (List Char)} (hne : ps ≠ [])
    (h : ∀ p ∈ ps, sep ∉ p) : pieces sep ([sep].intercalate ps) = ps := by
  induction ps with
  | nil => exact absurd rfl hne
  | cons p ps ih =>
    obtain ⟨hp, hps⟩ := List.forall_mem_cons.mp h
    cases ps with
    | nil => simpa [List.intercalate] using pieces_of_not_mem hp
    | cons q ps =>
      have hjoined : [sep].intercalate (p :: q :: ps) = p ++ sep :: [sep].intercalate (q :: ps) := by
        simp [List.intercalate]
      rw [hjoined, pieces_append, pieces_of_not_mem hp, ih (by simp) hps]
      rfl

theorem pieces_eq_iff {sep : Char} {cs : List Char} {ps : List (List Char)} (hne : ps ≠ []) :
    pieces sep cs = ps ↔ cs = [sep].intercalate ps ∧ ∀ p ∈ ps, sep ∉ p := by
  constructor
  · rintro rfl
    exact ⟨(intercalate_pieces sep cs).symm, fun p => not_mem_of_mem_pieces⟩
  · rintro ⟨rfl, h⟩
    exact pieces_intercalate hne h

/-- The last piece is what follows the last separator, or everything. -/
theorem getLast?_pieces_eq_some_iff {sep : Char} {cs p : List Char} :
    (pieces sep cs).getLast? = some p ↔
      sep ∉ p ∧ (cs = p ∨ ∃ before, cs = before ++ sep :: p) := by
  constructor
  · intro h
    refine ⟨not_mem_of_mem_pieces (List.mem_of_getLast? h), ?_⟩
    by_cases hsep : sep ∈ cs
    · -- The last separator is the first one from behind.
      obtain ⟨after, before, hsplit, hafter⟩ :=
        List.eq_append_cons_of_mem (List.mem_reverse.mpr hsep)
      have hcs : cs = before.reverse ++ sep :: after.reverse := by
        rw [← List.reverse_reverse cs, hsplit]
        simp
      have hlast : pieces sep after.reverse = [after.reverse] :=
        pieces_of_not_mem (by simpa using hafter)
      rw [hcs, pieces_append, hlast] at h
      obtain rfl : after.reverse = p := by simpa using h
      exact .inr ⟨_, hcs⟩
    · rw [pieces_of_not_mem hsep] at h
      exact .inl (by simpa using h)
  · rintro ⟨hp, rfl | ⟨before, rfl⟩⟩
    · simp [pieces_of_not_mem hp]
    · simp [pieces_append, pieces_of_not_mem hp]

/-- The cut gives back the list with the separator between the sides, and the left side is free
of the separator. -/
theorem cutFirst?_eq_some_iff {sep : Char} {cs a b : List Char} :
    cutFirst? sep cs = some (a, b) ↔ cs = a ++ sep :: b ∧ sep ∉ a := by
  induction cs generalizing a with
  | nil => simp [cutFirst?]
  | cons c rest ih =>
    rw [cutFirst?]
    split
    next h =>
      subst h
      constructor
      · intro h
        cases h
        simp
      · rintro ⟨h, hn⟩
        cases a with
        | nil => simpa using h
        | cons x xs =>
          simp only [List.cons_append, List.cons.injEq] at h
          exact absurd (h.1 ▸ List.mem_cons_self ..) hn
    next h =>
      constructor
      · intro hm
        obtain ⟨⟨x, y⟩, hxy, he⟩ := Option.map_eq_some_iff.mp hm
        cases he
        obtain ⟨hr, hn⟩ := ih.mp hxy
        exact ⟨by simp [hr], by simp [hn, Ne.symm h]⟩
      · rintro ⟨he, hn⟩
        cases a with
        | nil => exact absurd (by simpa using (List.cons.inj he).1) h
        | cons x xs =>
          simp only [List.cons_append, List.cons.injEq] at he
          simp only [List.mem_cons, not_or] at hn
          obtain ⟨rfl, hr⟩ := he
          rw [ih.mpr ⟨hr, hn.2⟩]
          rfl

/-- When there is more than one piece, the first one stands before the first separator. -/
theorem firstPieces_eq_cons_iff {sep : Char} {n : Nat} {cs p : List Char} {ps : List (List Char)}
    (hne : ps ≠ []) :
    firstPieces sep (n + 2) cs = p :: ps ↔
      ∃ rest, cs = p ++ sep :: rest ∧ sep ∉ p ∧ firstPieces sep (n + 1) rest = ps := by
  rw [firstPieces]
  constructor
  · intro h
    split at h
    · exact absurd (List.cons.inj h).2.symm hne
    next piece rest hcut =>
      obtain ⟨rfl, hps⟩ := List.cons.inj h
      obtain ⟨hcs, hfree⟩ := cutFirst?_eq_some_iff.mp hcut
      exact ⟨rest, hcs, hfree, hps⟩
  · rintro ⟨rest, hcs, hfree, hps⟩
    rw [cutFirst?_eq_some_iff.mpr ⟨hcs, hfree⟩]
    exact congrArg (p :: ·) hps

/-- Of three pieces the last one may still have separators. -/
theorem firstPieces_eq_triple_iff {sep : Char} {cs a b c : List Char} :
    firstPieces sep 3 cs = [a, b, c] ↔ cs = a ++ sep :: (b ++ sep :: c) ∧ sep ∉ a ∧ sep ∉ b := by
  rw [firstPieces_eq_cons_iff (List.cons_ne_nil b [c])]
  constructor
  · rintro ⟨rest, hcs, ha, hrest⟩
    obtain ⟨last, rfl, hb, hlast⟩ := (firstPieces_eq_cons_iff (List.cons_ne_nil c [])).mp hrest
    obtain rfl : last = c := (List.cons.inj hlast).1
    exact ⟨hcs, ha, hb⟩
  · rintro ⟨hcs, ha, hb⟩
    exact ⟨_, hcs, ha, (firstPieces_eq_cons_iff (List.cons_ne_nil c [])).mpr ⟨c, rfl, hb, rfl⟩⟩

end MeshRegistry.Text
