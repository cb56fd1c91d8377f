import Mathlib.Algebra.Group.Nat.Defs
import Mathlib.Data.List.Basic
import MeshRegistry.Wire.Reading
/-!
# Fields that are written are read back

Octets that write fields are read as the same fields. The octets need not be those that are written
here: a writer may put zeros above the bits of an integer, and other messages have fields of four
and of eight octets too. Groups of fields are left out.

What is written here is one case of it, as long as the number of octets fits 64 bits.

## Main definitions

- `Wire.WritesField`, `Wire.WritesFields`: the octets that write a field, and fields in a row.
- `Wire.Field.Plain`: the fields that messages are written with.

## Main results

- `Wire.decode?_of_writes`: fields are read from all octets that write them.
- `Wire.decode?_encode`: fields are read back.
-/

namespace MeshRegistry.Wire

/-! ## Integers -/

/-- Octets that write an integer, seven bits to an octet and the least significant first. -/
inductive SevenBits : Nat → List UInt8 → Prop where
  | last (b : UInt8) (low : b.toNat < 128) : SevenBits b.toNat [b]
  -- The integer in the octets that follow may be zero.
  | more (b : UInt8) (high : 128 ≤ b.toNat) {n : Nat} {bs : List UInt8} (rest : SevenBits n bs) :
      SevenBits (b.toNat - 128 + 128 * n) (b :: bs)

theorem SevenBits.ne_nil {n : Nat} {bs : List UInt8} (h : SevenBits n bs) : bs ≠ [] := by
  cases h <;> simp

theorem readIntegerIn?_of_sevenBits {n : Nat} {bs : List UInt8} (h : SevenBits n bs) {k : Nat}
    (hlength : bs.length ≤ k + 1) (hn : n < 2 * 128 ^ k) (rest : List UInt8) :
    readIntegerIn? (k + 1) (bs ++ rest) = some (n, rest) := by
  induction h generalizing k with
  | last b low =>
    have hroom : ¬(k = 0 ∧ 2 ≤ b.toNat) := by
      rintro ⟨rfl, hlarge⟩
      omega
    simp [readIntegerIn?, low, hroom]
  | @more b high n bs hbs ih =>
    have hsome := List.length_pos_iff.mpr hbs.ne_nil
    cases k with
    | zero =>
      simp only [List.length_cons] at hlength
      omega
    | succ k =>
      -- What follows has seven bits less to write, and one octet less to do it.
      have hfew : n < 2 * 128 ^ k := by
        rw [Nat.pow_succ] at hn
        omega
      have hshort : bs.length ≤ k + 1 := Nat.le_of_succ_le_succ hlength
      simp [readIntegerIn?, Nat.not_lt.mpr high, ih hshort hfew]

/-- Octets that write an integer of 64 bits. -/
structure WritesInteger (n : Nat) (bs : List UInt8) : Prop where
  bits : SevenBits n bs
  length : bs.length ≤ 10
  fits : n < 2 ^ 64

theorem readInteger?_of_writes {n : Nat} {bs : List UInt8} (h : WritesInteger n bs)
    (rest : List UInt8) : readInteger? (bs ++ rest) = some (n, rest) :=
  readIntegerIn?_of_sevenBits h.bits h.length h.fits rest

theorem SevenBits.of_lt {n : Nat} (h : n < 128) : SevenBits n [UInt8.ofNat n] := by
  have hoctet : (UInt8.ofNat n).toNat = n := by
    rw [UInt8.toNat_ofNat']
    omega
  have hlast := SevenBits.last (UInt8.ofNat n) (hoctet.symm ▸ h)
  rwa [hoctet] at hlast

theorem sevenBits_integerIn (k : Nat) {n : Nat} (hn : n < 2 * 128 ^ k) :
    SevenBits n (integerIn (k + 1) n) := by
  induction k generalizing n with
  | zero =>
    have hsmall : n < 128 := by omega
    simpa [integerIn, hsmall] using SevenBits.of_lt hsmall
  | succ k ih =>
    rw [integerIn]
    split
    next hsmall => exact .of_lt hsmall
    next hlarge =>
      -- Seven bits are in the first octet, and the others in those that follow.
      have hfew : n / 128 < 2 * 128 ^ k := by
        rw [Nat.div_lt_iff_lt_mul (by decide)]
        rw [Nat.pow_succ] at hn
        omega
      have hoctet : (UInt8.ofNat (n % 128 + 128)).toNat = n % 128 + 128 := by
        rw [UInt8.toNat_ofNat']
        omega
      have hmore := SevenBits.more (UInt8.ofNat (n % 128 + 128)) (by omega) (ih hfew)
      have hwhole : n % 128 + 128 - 128 + 128 * (n / 128) = n := by omega
      rwa [hoctet, hwhole] at hmore

theorem length_integerIn_le (k n : Nat) : (integerIn k n).length ≤ k := by
  induction k generalizing n with
  | zero => exact Nat.le_refl 0
  | succ k ih =>
    rw [integerIn]
    split
    · exact Nat.le_add_left 1 k
    · exact Nat.succ_le_succ (ih (n / 128))

theorem writesInteger_integer {n : Nat} (hn : n < 2 ^ 64) : WritesInteger n (integer n) :=
  ⟨sevenBits_integerIn 9 hn, length_integerIn_le 10 n, hn⟩

/-! ## Keys and counted runs -/

/-- A number that a field may have. -/
def IsTag (tag : Nat) : Prop := 0 < tag ∧ tag < 2 ^ 29

instance (tag : Nat) : Decidable (IsTag tag) := inferInstanceAs (Decidable (_ ∧ _))

theorem IsTag.key_lt {tag form : Nat} (htag : IsTag tag) (hform : form < 8) :
    tag * 8 + form < 2 ^ 32 := by
  have hlt := htag.2
  omega

theorem readKey?_of_writes {tag form : Nat} {key : List UInt8} (htag : IsTag tag) (hform : form < 8)
    (hkey : WritesInteger (tag * 8 + form) key) (rest : List UInt8) :
    readKey? (key ++ rest) = some (tag, form, rest) := by
  have hlt : tag * 8 + form < UInt32.size := htag.key_lt hform
  have hdiv : (tag * 8 + form) / 8 = tag := by omega
  have hmod : (tag * 8 + form) % 8 = form := by omega
  simp only [readKey?, readInteger?_of_writes hkey, Option.bind_eq_bind, Option.bind_some, hdiv,
    hmod]
  exact if_pos ⟨hlt, Nat.ne_of_gt htag.1⟩

theorem take?_append {n : Nat} {bs : List UInt8} (hlength : bs.length = n) (rest : List UInt8) :
    take? n (bs ++ rest) = some (bs, rest) := by
  simp [take?, ← hlength]

theorem readCounted?_of_writes {count bs : List UInt8} (hcount : WritesInteger bs.length count)
    (rest : List UInt8) : readCounted? (count ++ (bs ++ rest)) = some (bs, rest) := by
  simp [readCounted?, readInteger?_of_writes hcount, take?_append]

/-! ## Fields -/

/-- Octets that write a field that is no group. -/
inductive WritesField : Field → List UInt8 → Prop where
  | varint {tag n : Nat} {key value : List UInt8} (htag : IsTag tag)
      (hkey : WritesInteger (tag * 8 + 0) key) (hvalue : WritesInteger n value) :
      WritesField (.varint tag n) (key ++ value)
  | word64 {tag : Nat} {key octets : List UInt8} (htag : IsTag tag)
      (hkey : WritesInteger (tag * 8 + 1) key) (hlength : octets.length = 8) :
      WritesField (.word64 tag (ofLittleEndian octets)) (key ++ octets)
  | bytes {tag : Nat} {key count bs : List UInt8} (htag : IsTag tag)
      (hkey : WritesInteger (tag * 8 + 2) key) (hcount : WritesInteger bs.length count) :
      WritesField (.bytes tag bs) (key ++ (count ++ bs))
  | word32 {tag : Nat} {key octets : List UInt8} (htag : IsTag tag)
      (hkey : WritesInteger (tag * 8 + 5) key) (hlength : octets.length = 4) :
      WritesField (.word32 tag (ofLittleEndian octets)) (key ++ octets)

/-- Octets that write fields in a row. -/
inductive WritesFields : List Field → List UInt8 → Prop where
  | nil : WritesFields [] []
  | cons {f : Field} {fs : List Field} {bs rest : List UInt8} (first : WritesField f bs)
      (others : WritesFields fs rest) : WritesFields (f :: fs) (bs ++ rest)

theorem WritesField.ne_nil {f : Field} {bs : List UInt8} (h : WritesField f bs) : bs ≠ [] := by
  cases h with
  | varint _ hkey | word64 _ hkey | bytes _ hkey | word32 _ hkey => simp [hkey.bits.ne_nil]

theorem WritesField.height_eq {f : Field} {bs : List UInt8} (h : WritesField f bs) :
    f.height = 1 := by
  cases h <;> rfl

/-- A field is read before those that follow it. In a map only counted runs may stand. -/
theorem readFields?_of_writesField {counted : Nat → Bool} {f : Field} {bs : List UInt8}
    (h : WritesField f bs) (hcounted : counted f.tag = true → f.octets?.isSome) (fuel : Nat)
    (rest : List UInt8) :
    readFields? counted (fuel + 1) none (bs ++ rest) =
      (readFields? counted fuel none rest).map fun r => (f :: r.1, r.2) := by
  -- Fields are read as long as there is an octet, so the first one has to be seen.
  obtain ⟨b, tail, hfirst⟩ := List.exists_cons_of_ne_nil h.ne_nil
  have hcons : bs ++ rest = b :: (tail ++ rest) := by rw [hfirst, List.cons_append]
  cases h with
  | @varint tag n key value htag hkey hvalue =>
    have hread := readKey?_of_writes htag (by decide) hkey (value ++ rest)
    rw [← List.append_assoc, hcons] at hread
    have hplain : counted tag = false := by simpa [Field.tag, Field.octets?] using hcounted
    rw [hcons, readFields?, hread]
    · simp [hplain, readInteger?_of_writes hvalue]
    all_goals simp
  | @word64 tag key octets htag hkey hlength =>
    have hread := readKey?_of_writes htag (by decide) hkey (octets ++ rest)
    rw [← List.append_assoc, hcons] at hread
    have hplain : counted tag = false := by simpa [Field.tag, Field.octets?] using hcounted
    rw [hcons, readFields?, hread]
    · simp [hplain, take?_append hlength]
    all_goals simp
  | @bytes tag key count octets htag hkey hcount =>
    have hread := readKey?_of_writes htag (by decide) hkey (count ++ octets ++ rest)
    rw [← List.append_assoc, hcons] at hread
    rw [hcons, readFields?, hread]
    · simp [readCounted?_of_writes hcount]
    all_goals simp
  | @word32 tag key octets htag hkey hlength =>
    have hread := readKey?_of_writes htag (by decide) hkey (octets ++ rest)
    rw [← List.append_assoc, hcons] at hread
    have hplain : counted tag = false := by simpa [Field.tag, Field.octets?] using hcounted
    rw [hcons, readFields?, hread]
    · simp [hplain, take?_append hlength]
    all_goals simp

theorem readFields?_of_writesFields {counted : Nat → Bool} {fs : List Field} {bs : List UInt8}
    (h : WritesFields fs bs) (hcounted : ∀ f ∈ fs, counted f.tag = true → f.octets?.isSome)
    {fuel : Nat} (hfuel : fs.length < fuel) : readFields? counted fuel none bs = some (fs, []) := by
  induction h generalizing fuel with
  | nil =>
    cases fuel with
    | zero => cases hfuel
    | succ fuel => rfl
  | @cons f fs bs rest first others ih =>
    obtain ⟨hcounted, hothers⟩ := List.forall_mem_cons.mp hcounted
    cases fuel with
    | zero => cases hfuel
    | succ fuel =>
      rw [readFields?_of_writesField first hcounted, ih hothers (Nat.lt_of_succ_lt_succ hfuel)]
      rfl

theorem WritesFields.length_le {fs : List Field} {bs : List UInt8} (h : WritesFields fs bs) :
    fs.length ≤ bs.length := by
  induction h with
  | nil => exact Nat.le_refl 0
  | cons first others ih =>
    have hsome := List.length_pos_iff.mpr first.ne_nil
    simp only [List.length_cons, List.length_append]
    omega

/-- Fields are read from all octets that write them. -/
theorem decode?_of_writes {counted : Nat → Bool} {fs : List Field} {bs : List UInt8}
    (h : WritesFields fs bs) (hcounted : ∀ f ∈ fs, counted f.tag = true → f.octets?.isSome) :
    decode? counted bs = some fs := by
  rw [decode?, readFields?_of_writesFields h hcounted (Nat.lt_succ_of_le h.length_le)]
  rfl

/-! ## The fields of messages -/

/-- An integer of 64 bits, or a counted run of octets, as only fields may be that are `counted`. -/
def Field.Plain (counted : Nat → Bool) : Field → Prop
  | .varint tag n => IsTag tag ∧ n < 2 ^ 64 ∧ counted tag = false
  | .bytes tag _ => IsTag tag
  | _ => False

theorem encode_append (fs gs : List Field) : encode (fs ++ gs) = encode fs ++ encode gs := by
  induction fs with
  | nil => simp [encode]
  | cons f fs ih => simp [encode, ih]

theorem writesInteger_key {tag form : Nat} (htag : IsTag tag) (hform : form < 8) :
    WritesInteger (tag * 8 + form) (key tag form) :=
  writesInteger_integer (Nat.lt_trans (htag.key_lt hform) (by decide))

theorem writesField_encodeField {counted : Nat → Bool} {f : Field} (hplain : f.Plain counted)
    (hsize : (encodeField f).length < 2 ^ 64) : WritesField f (encodeField f) := by
  cases f with
  | varint tag n =>
    obtain ⟨htag, hn, -⟩ := hplain
    exact .varint htag (writesInteger_key htag (by decide)) (writesInteger_integer hn)
  | bytes tag octets =>
    have hlength : octets.length < 2 ^ 64 := by
      simp only [encodeField, List.length_append] at hsize
      omega
    rw [encodeField, List.append_assoc]
    exact .bytes hplain (writesInteger_key hplain (by decide)) (writesInteger_integer hlength)
  | word64 | group | word32 => exact hplain.elim

theorem writesFields_encode {counted : Nat → Bool} {fs : List Field}
    (hplain : ∀ f ∈ fs, f.Plain counted) (hsize : (encode fs).length < 2 ^ 64) :
    WritesFields fs (encode fs) := by
  induction fs with
  | nil => exact .nil
  | cons f fs ih =>
    obtain ⟨hfirst, hothers⟩ := List.forall_mem_cons.mp hplain
    simp only [encode, List.length_append] at hsize
    rw [encode]
    exact .cons (writesField_encodeField hfirst (by omega)) (ih hothers (by omega))

/-- Fields are read back. -/
theorem decode?_encode {counted : Nat → Bool} {fs : List Field}
    (hplain : ∀ f ∈ fs, f.Plain counted) (hsize : (encode fs).length < 2 ^ 64) :
    decode? counted (encode fs) = some fs := by
  refine decode?_of_writes (writesFields_encode hplain hsize) fun f hf hcounted => ?_
  have hplain := hplain f hf
  cases f with
  | varint tag n => simp [Field.tag, hplain.2.2] at hcounted
  | bytes tag octets => rfl
  | word64 | group | word32 => exact hplain.elim

end MeshRegistry.Wire
