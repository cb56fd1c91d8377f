import Mathlib.Data.List.Forall2
import MeshRegistry.Proofs.Wire.Fields
/-!
# Messages that are written are read back, part by part

A message is written as the fields of its members, one member after the other. Reading the fields of
one member takes a message in which the member is unset to the one in which it is set. What the
fields of two members do is done one after the other, and so a message is read back if each of its
members is.

## Main definitions

- `Wire.Reader.Reads`: what the fields of a part of a message do.

## Main results

- `Wire.Reader.Reads.append`: parts in a row.
- `Wire.Reader.reads_text` and so on: a part for each kind of member.
- `Wire.Reader.Reads.message?`: a whole message.
-/

namespace MeshRegistry.Wire

/-! ## Numbers -/

theorem twosComplement_lt (n : Int) : twosComplement n < 2 ^ 64 := by
  rw [twosComplement, show (UInt64.size : Int) = 2 ^ 64 from rfl]
  omega

/-- The last bits of a number in two's complement are those of the number. -/
theorem bmod_twosComplement {size : Nat} (hdvd : size ∣ UInt64.size) (n : Int) :
    (twosComplement n : Int).bmod size = n.bmod size := by
  have hpos : (0 : Int) < UInt64.size := by decide
  have hcast : (twosComplement n : Int) = n % UInt64.size :=
    Int.toNat_of_nonneg (Int.emod_nonneg n (Int.ne_of_gt hpos))
  rw [hcast, ← Int.emod_bmod, Int.emod_emod_of_dvd n (Int.ofNat_dvd.mpr hdvd), Int.emod_bmod]

@[simp] theorem int32_twosComplement (n : Int32) : Int32.ofNat (twosComplement n.toInt) = n := by
  apply Int32.toInt_inj.mp
  rw [Int32.toInt_ofNat', bmod_twosComplement (by decide), Int32.toInt_bmod_size]

@[simp] theorem int64_twosComplement (n : Int64) : Int64.ofNat (twosComplement n.toInt) = n := by
  apply Int64.toInt_inj.mp
  rw [Int64.toInt_ofNat', bmod_twosComplement (by decide), Int64.toInt_bmod_size]

/-! ## How members are written -/

section Writes

variable {β : Type}

def textEntryField (tag : Nat) (e : String × String) : Field :=
  nestedField tag (textField 1 e.1 ++ textField 2 e.2)

def wordEntryField (tag : Nat) (e : String × UInt32) : Field :=
  nestedField tag (textField 1 e.1 ++ natField 2 e.2.toNat)

/-- A nested message that may be unset, given how such a message may be written. -/
def WritesOption (tag : Nat) (writes : β → List Field → Prop) : Option β → List Field → Prop
  | none, fs => fs = []
  | some x, fs => ∃ inner, writes x inner ∧ fs = [nestedField tag inner]

/-- Nested messages, given how each may be written. -/
def WritesEach (tag : Nat) (writes : β → List Field → Prop) : List β → List Field → Prop :=
  List.Forall₂ fun x f => ∃ inner, writes x inner ∧ f = nestedField tag inner

/-- The entries of a map, in any order. -/
def WritesMap (write : String × β → Field) (entries : SortedMap String β) (fs : List Field) : Prop :=
  ∃ l, List.Perm l entries.entries ∧ fs = l.map write

theorem writesOption_optionField {writes : β → List Field → Prop} {write : β → List Field}
    (tag : Nat) (hwrite : ∀ x, writes x (write x)) (o : Option β) :
    WritesOption tag writes o (optionField tag write o) := by
  cases o with
  | none => rfl
  | some x => exact ⟨write x, hwrite x, rfl⟩

theorem writesEach_map {writes : β → List Field → Prop} {write : β → List Field}
    (tag : Nat) (hwrite : ∀ x, writes x (write x)) (l : List β) :
    WritesEach tag writes l (l.map fun x => nestedField tag (write x)) := by
  rw [WritesEach, List.forall₂_map_right_iff, List.forall₂_same]
  exact fun x _ => ⟨write x, hwrite x, rfl⟩

end Writes

namespace Reader

/-! ## Parts of a message -/

variable {α β : Type}

/-- Fields take one message to another, wherever there are as many levels of nesting. -/
structure Reads (r : Reader α) (depth : Nat) (m : α) (fs : List Field) (m' : α) : Prop where
  plain : ∀ f ∈ fs, f.Plain fun t => r.maps.contains t
  folds : (encode fs).length < 2 ^ 64 → ∀ levels, depth ≤ levels →
    fs.foldlM (r.take levels) m = some m'

section Reads

variable {r : Reader α} {depth tag : Nat} {m m' m'' : α} {fs gs : List Field}

theorem reads_nil : r.Reads depth m [] m := ⟨nofun, fun _ _ _ => rfl⟩

theorem Reads.append (h : r.Reads depth m fs m') (h' : r.Reads depth m' gs m'') :
    r.Reads depth m (fs ++ gs) m'' := by
  constructor
  case plain =>
    intro f hf
    exact (List.mem_append.mp hf).elim (h.plain f) (h'.plain f)
  case folds =>
    intro hsize levels hlevels
    rw [encode_append, List.length_append] at hsize
    rw [List.foldlM_append, h.folds (by omega) levels hlevels]
    exact h'.folds (by omega) levels hlevels

/-- Octets that write fields are merged as the fields are. -/
theorem Reads.merge? (h : r.Reads depth m fs m') (hsize : (encode fs).length < 2 ^ 64)
    {levels : Nat} (hlevels : depth ≤ levels) : r.merge? levels m (encode fs) = some m' := by
  rw [Reader.merge?, decode?_encode h.plain hsize]
  exact h.folds hsize levels hlevels

theorem Reads.message? (h : r.Reads depth r.empty fs m) (hdepth : depth ≤ levelLimit)
    (hsize : (encode fs).length < 2 ^ 64) : r.message? (encode fs) = some m :=
  h.merge? hsize hdepth

/-! ## Members -/

theorem reads_varint {n : Nat} (htag : IsTag tag) (hmap : r.maps.contains tag = false)
    (hn : n < 2 ^ 64) (htake : ∀ levels, r.take levels m (.varint tag n) = some m') :
    r.Reads depth m [.varint tag n] m' := by
  constructor
  case plain => simpa [Field.Plain] using ⟨htag, hn, by simpa using hmap⟩
  case folds =>
    intro _ levels _
    simp [htake]

theorem reads_bytes {bs : List UInt8} (htag : IsTag tag)
    (htake : ∀ levels, r.take levels m (.bytes tag bs) = some m') :
    r.Reads depth m [.bytes tag bs] m' := by
  constructor
  case plain => simpa [Field.Plain] using htag
  case folds =>
    intro _ levels _
    simp [htake]

/-- A text is left out when it is empty. -/
theorem reads_text {s : String} (set : String → α) (htag : IsTag tag)
    (htake : ∀ levels bs, r.take levels m (.bytes tag bs) = (Text.ofOctets? bs).map set)
    (hunset : set "" = m) (hset : set s = m') : r.Reads depth m (textField tag s) m' := by
  unfold textField
  split
  next hempty =>
    rw [← hset, hempty, hunset]
    exact reads_nil
  · exact reads_bytes htag fun levels => by simp [htake, hset]

theorem reads_octets {bs : List UInt8} (set : List UInt8 → α) (htag : IsTag tag)
    (htake : ∀ levels bs, r.take levels m (.bytes tag bs) = some (set bs))
    (hunset : set [] = m) (hset : set bs = m') : r.Reads depth m (octetsField tag bs) m' := by
  unfold octetsField
  split
  next hempty =>
    rw [← hset, hempty, hunset]
    exact reads_nil
  · exact reads_bytes htag fun levels => hset ▸ htake levels bs

/-- A number is left out when it is zero. -/
theorem reads_natural {n : Nat} (set : Nat → α) (htag : IsTag tag)
    (hmap : r.maps.contains tag = false) (hn : n < 2 ^ 64)
    (htake : ∀ levels n, r.take levels m (.varint tag n) = some (set n)) (hunset : set 0 = m)
    (hset : set n = m') : r.Reads depth m (natField tag n) m' := by
  unfold natField
  split
  next hzero =>
    rw [← hset, hzero, hunset]
    exact reads_nil
  · exact reads_varint htag hmap hn fun levels => hset ▸ htake levels n

theorem reads_word {n : UInt32} (set : UInt32 → α) (htag : IsTag tag)
    (hmap : r.maps.contains tag = false)
    (htake : ∀ levels n, r.take levels m (.varint tag n) = some (set (UInt32.ofNat n)))
    (hunset : set 0 = m) (hset : set n = m') : r.Reads depth m (natField tag n.toNat) m' := by
  have hn : n.toNat < 2 ^ 64 := Nat.lt_trans n.toNat_lt (by decide)
  exact reads_natural (fun n => set (UInt32.ofNat n)) htag hmap hn htake hunset (by simpa)

theorem reads_int32 {n : Int32} (set : Int32 → α) (htag : IsTag tag)
    (hmap : r.maps.contains tag = false)
    (htake : ∀ levels n, r.take levels m (.varint tag n) = some (set (Int32.ofNat n)))
    (hunset : set 0 = m) (hset : set n = m') :
    r.Reads depth m (natField tag (twosComplement n.toInt)) m' :=
  reads_natural (fun n => set (Int32.ofNat n)) htag hmap (twosComplement_lt n.toInt) htake hunset
    (by simpa)

theorem reads_int64 {n : Int64} (set : Int64 → α) (htag : IsTag tag)
    (hmap : r.maps.contains tag = false)
    (htake : ∀ levels n, r.take levels m (.varint tag n) = some (set (Int64.ofNat n)))
    (hunset : set 0 = m) (hset : set n = m') :
    r.Reads depth m (natField tag (twosComplement n.toInt)) m' :=
  reads_natural (fun n => set (Int64.ofNat n)) htag hmap (twosComplement_lt n.toInt) htake hunset
    (by simpa)

theorem reads_flag {b : Bool} (set : Bool → α) (htag : IsTag tag)
    (hmap : r.maps.contains tag = false)
    (htake : ∀ levels n, r.take levels m (.varint tag n) = some (set (n != 0)))
    (hunset : set false = m) (hset : set b = m') : r.Reads depth m (flagField tag b) m' := by
  cases b with
  | false =>
    rw [← hset, hunset]
    exact reads_nil
  | true => exact reads_varint htag hmap (by decide) fun levels => hset ▸ htake levels 1

/-- A nested message is read one level down. -/
theorem reads_nested {inner : Reader β} {start x : β} {below : Nat} {fs : List Field}
    (set : β → α) (hinner : inner.Reads below start fs x) (hdepth : below < depth)
    (htag : IsTag tag)
    (htake : ∀ levels bs, r.take levels m (.bytes tag bs) =
      ((Field.bytes tag bs).nested? inner levels start).map set)
    (hset : set x = m') : r.Reads depth m [nestedField tag fs] m' := by
  constructor
  case plain => simpa [nestedField, Field.Plain] using htag
  case folds =>
    intro hsize levels hlevels
    have hless : (encode fs).length < 2 ^ 64 := by
      simp only [nestedField, encode, encodeField, List.length_append] at hsize
      omega
    obtain ⟨levels, rfl⟩ := Nat.exists_eq_add_of_lt (Nat.lt_of_lt_of_le hdepth hlevels)
    have hmerge := hinner.merge? hless (Nat.le_add_right below levels)
    simp [nestedField, htake, Field.nested?, Field.octets?, hmerge, hset]

/-! ## Members with several values -/

/-- Values are read one after the other. -/
theorem reads_each {writes : β → Field → Prop} {l : List β} (extend : List β → α)
    (hone : ∀ done x f, x ∈ l → writes x f →
      r.Reads depth (extend done) [f] (extend (done ++ [x])))
    (hfs : List.Forall₂ writes l fs) : r.Reads depth (extend []) fs (extend l) := by
  -- What has been read before grows along the list.
  have hfrom : ∀ done, r.Reads depth (extend done) fs (extend (done ++ l)) := by
    induction hfs with
    | nil => simpa using fun done => reads_nil
    | @cons x f l fs hwrites _ ih =>
      intro done
      have hfirst := hone done x f (List.mem_cons_self ..) hwrites
      have hrest := ih (fun done y g hy => hone done y g (List.mem_cons_of_mem _ hy)) (done ++ [x])
      rw [List.append_assoc] at hrest
      exact hfirst.append hrest
  exact hfrom []

theorem reads_all {l : List β} (extend : List β → α) (write : β → Field)
    (hone : ∀ done, ∀ x ∈ l, r.Reads depth (extend done) [write x] (extend (done ++ [x]))) :
    r.Reads depth (extend []) (l.map write) (extend l) := by
  have hwrites : List.Forall₂ (fun x f => f = write x) l (l.map write) := by
    simp [List.forall₂_map_right_iff, List.forall₂_same]
  refine reads_each extend ?_ hwrites
  rintro done x _ hx rfl
  exact hone done x hx

theorem reads_texts {l : List String} (extend : List String → α) (htag : IsTag tag)
    (htake : ∀ levels done bs, r.take levels (extend done) (.bytes tag bs) =
      (Text.ofOctets? bs).map fun s => extend (done ++ [s]))
    (hunset : extend [] = m) (hset : extend l = m') : r.Reads depth m (textFields tag l) m' := by
  rw [← hunset, ← hset]
  exact reads_all extend _ fun done s _ => reads_bytes htag fun levels => by simp [htake]

/-- A map is read back whatever the order in which its entries are written. -/
theorem reads_map {entries : SortedMap String β} (set : SortedMap String β → α)
    {write : String × β → Field}
    (hone : ∀ done, ∀ e ∈ entries.entries,
      r.Reads depth (set done) [write e] (set (done.insert e.1 e.2)))
    (hunset : set .empty = m) (hset : set entries = m') (hfs : WritesMap write entries fs) :
    r.Reads depth m fs m' := by
  obtain ⟨l, horder, rfl⟩ := hfs
  have hall : r.Reads depth (set (.ofList [])) (l.map write) (set (.ofList l)) := by
    refine reads_all (fun done => set (.ofList done)) write fun done e he => ?_
    rw [SortedMap.ofList_concat]
    exact hone _ e (horder.mem_iff.mp he)
  rw [SortedMap.ofList_of_perm horder, hset] at hall
  exact hunset ▸ hall

theorem reads_optional {writes : β → List Field → Prop} {inner : Reader β} {o : Option β}
    {below : Nat} (set : Option β → α)
    (hinner : ∀ x inner', o = some x → writes x inner' → inner.Reads below inner.empty inner' x)
    (hdepth : below < depth) (htag : IsTag tag)
    (htake : ∀ levels bs, r.take levels m (.bytes tag bs) =
      ((Field.bytes tag bs).nested? inner levels inner.empty).map fun x => set (some x))
    (hunset : set none = m) (hset : set o = m') (hfs : WritesOption tag writes o fs) :
    r.Reads depth m fs m' := by
  rw [← hset]
  cases o with
  | none =>
    rw [show fs = [] from hfs, hunset]
    exact reads_nil
  | some x =>
    obtain ⟨inner', hwrites, rfl⟩ := hfs
    exact reads_nested (fun x => set (some x)) (hinner x inner' rfl hwrites) hdepth htag htake rfl

theorem reads_repeated {writes : β → List Field → Prop} {inner : Reader β} {l : List β}
    {below : Nat} (extend : List β → α)
    (hinner : ∀ x inner', writes x inner' → inner.Reads below inner.empty inner' x)
    (hdepth : below < depth) (htag : IsTag tag)
    (htake : ∀ levels done bs, r.take levels (extend done) (.bytes tag bs) =
      ((Field.bytes tag bs).nested? inner levels inner.empty).map fun x => extend (done ++ [x]))
    (hunset : extend [] = m) (hset : extend l = m') (hfs : WritesEach tag writes l fs) :
    r.Reads depth m fs m' := by
  rw [← hunset, ← hset]
  refine reads_each extend ?_ hfs
  rintro done x _ - ⟨inner', hwrites, rfl⟩
  exact reads_nested (fun x => extend (done ++ [x])) (hinner x inner' hwrites) hdepth htag
    (fun levels bs => htake levels done bs) rfl

/-- The key of an entry comes first. -/
theorem reads_entry {absent v : β} {value : Nat → β → Field → Option β} {k : String}
    (hvalue : (Field.entryReader absent value).Reads depth (k, absent) fs (k, v)) :
    (Field.entryReader absent value).Reads depth ("", absent) (textField 1 k ++ fs) (k, v) := by
  have hkey : (Field.entryReader absent value).Reads depth ("", absent) (textField 1 k)
      (k, absent) :=
    reads_text (fun k => (k, absent)) (by decide) (fun _ _ => rfl) rfl rfl
  exact hkey.append hvalue

theorem reads_textMap {entries : SortedMap String String} (set : SortedMap String String → α)
    (hdepth : 0 < depth) (htag : IsTag tag)
    (htake : ∀ levels done bs, r.take levels (set done) (.bytes tag bs) =
      (Field.textEntry? levels (.bytes tag bs)).map fun e => set (done.insert e.1 e.2))
    (hunset : set .empty = m) (hset : set entries = m')
    (hfs : WritesMap (textEntryField tag) entries fs) : r.Reads depth m fs m' := by
  refine reads_map set (fun done e _ => ?_) hunset hset hfs
  have hvalue : (Field.entryReader "" fun _ _ f => f.text?).Reads 0 (e.1, "") (textField 2 e.2) e :=
    reads_text (fun v => (e.1, v)) (by decide) (fun _ _ => rfl) rfl rfl
  exact reads_nested (fun e => set (done.insert e.1 e.2)) (reads_entry hvalue) hdepth htag
    (fun levels bs => htake levels done bs) rfl

theorem reads_wordMap {entries : SortedMap String UInt32} (set : SortedMap String UInt32 → α)
    (hdepth : 0 < depth) (htag : IsTag tag)
    (htake : ∀ levels done bs, r.take levels (set done) (.bytes tag bs) =
      (Field.wordEntry? levels (.bytes tag bs)).map fun e => set (done.insert e.1 e.2))
    (hunset : set .empty = m) (hset : set entries = m')
    (hfs : WritesMap (wordEntryField tag) entries fs) : r.Reads depth m fs m' := by
  refine reads_map set (fun done e _ => ?_) hunset hset hfs
  have hvalue : (Field.entryReader 0 fun _ _ f => f.word?).Reads 0 (e.1, 0)
      (natField 2 e.2.toNat) e :=
    reads_word (fun v => (e.1, v)) (by decide) rfl (fun _ _ => rfl) rfl rfl
  exact reads_nested (fun e => set (done.insert e.1 e.2)) (reads_entry hvalue) hdepth htag
    (fun levels bs => htake levels done bs) rfl

end Reads

end Reader

end MeshRegistry.Wire
