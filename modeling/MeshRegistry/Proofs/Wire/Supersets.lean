import MeshRegistry.Proofs.Discovery.Acknowledgments
import MeshRegistry.Proofs.Wire.RoundTrip
/-!
# Messages of which only some fields are known

The endpoints of a cluster, the routes of a listener and the configuration of the mesh have many
fields, and a client knows a few of them. The known ones are read from all octets that write them,
in any order and with any other fields between them, and so the names that a client holds of
endpoints and of routes are the names in the full messages.

Known fields touch one member each, so what a member becomes depends only on whether its field is
there, and not on where it stands.

## Main definitions

- `Wire.Carries`: octets that write known fields in some order and any unknown ones.
- `NamedResource.known`, `MeshConfig.known`: the numbers of the known fields.

## Main results

- `Wire.Reader.message?_of_carries`: unknown fields do not count.
- `Wire.known_fields_suffice`: the known fields are read whatever is between them.
-/

namespace MeshRegistry

namespace Wire

/-- Octets that write the given fields in some order, and between them any fields of other
numbers. -/
def Carries (known : List Nat) (fs : List Field) (bs : List UInt8) : Prop :=
  ∃ all, WritesFields all bs ∧ (all.filter fun f => known.contains f.tag).Perm fs

/-- Octets that write known fields only carry them. -/
theorem carries_encode {known : List Nat} {fs : List Field} (hknown : ∀ f ∈ fs, f.tag ∈ known)
    (hplain : ∀ f ∈ fs, f.Plain fun _ => false) (hsize : (encode fs).length < 2 ^ 64) :
    Carries known fs (encode fs) := by
  have hall : fs.filter (fun f => known.contains f.tag) = fs := by
    simpa using hknown
  exact ⟨fs, writesFields_encode hplain hsize, by rw [hall]⟩

theorem Carries.cons_unknown {known : List Nat} {fs : List Field} {f : Field} {bs rest : List UInt8}
    (h : Carries known fs rest) (hwrites : WritesField f bs) (hunknown : f.tag ∉ known) :
    Carries known fs (bs ++ rest) := by
  obtain ⟨all, hrest, hperm⟩ := h
  exact ⟨f :: all, .cons hwrites hrest, by simpa [hunknown] using hperm⟩

theorem WritesFields.height_le {fs : List Field} {bs : List UInt8} (h : WritesFields fs bs) :
    ∀ f ∈ fs, f.height ≤ levelLimit := by
  induction h with
  | nil => simp
  | cons first others ih =>
    rw [List.forall_mem_cons, first.height_eq]
    exact ⟨by decide, ih⟩

namespace Reader

variable {α : Type} {r : Reader α} {known : List Nat}

theorem foldlM_take_filter {levels : Nat} {fs : List Field}
    (hskip : ∀ levels m f, f.tag ∉ known → r.take levels m f = f.skip? levels m)
    (hheight : ∀ f ∈ fs, f.height ≤ levels) (m : α) :
    fs.foldlM (r.take levels) m =
      (fs.filter fun f => known.contains f.tag).foldlM (r.take levels) m := by
  induction fs generalizing m with
  | nil => rfl
  | cons f fs ih =>
    obtain ⟨hfirst, hothers⟩ := List.forall_mem_cons.mp hheight
    by_cases hknown : f.tag ∈ known
    · simp [hknown, ih hothers]
    · -- An unknown field leaves the message as it is.
      simp [hknown, hskip levels m f hknown, Field.skip?, hfirst, ih hothers]

/-- Unknown fields do not count: it is enough to know what the known ones do in every order. -/
theorem message?_of_carries {fs : List Field} {bs : List UInt8} {x : α} (hmaps : r.maps = [])
    (hskip : ∀ levels m f, f.tag ∉ known → r.take levels m f = f.skip? levels m)
    (hread : ∀ gs : List Field, gs.Perm fs → gs.foldlM (r.take levelLimit) r.empty = some x)
    (h : Carries known fs bs) : r.message? bs = some x := by
  obtain ⟨all, hwrites, hperm⟩ := h
  have hdecode : decode? (fun t => r.maps.contains t) bs = some all :=
    decode?_of_writes hwrites (by simp [hmaps])
  rw [message?, merge?, hdecode, Option.bind_some, foldlM_take_filter hskip hwrites.height_le]
  exact hread _ hperm

end Reader

end Wire

open Wire

/-! ## Names -/

namespace NamedResource

/-- The number of the name. -/
def known : List Nat := [1]

variable (r : NamedResource)

theorem reads_fields : reader.Reads 0 {} r.fields r :=
  Reader.reads_text (fun name => { name }) (by decide) (fun _ _ => rfl) rfl rfl

theorem decode?_of_carries {bs : List UInt8} (h : Carries known r.fields bs) :
    decode? bs = some r := by
  refine Reader.message?_of_carries rfl ?_ ?_ h
  · intro levels m f hunknown
    simp only [known, List.mem_singleton] at hunknown
    simp [reader]
  · intro gs hperm
    -- There is one field at most, so there is only one order.
    unfold fields textField at hperm
    split at hperm
    next hempty =>
      rw [List.perm_nil.mp hperm]
      simp [reader, ← hempty]
    next hname =>
      rw [List.perm_singleton.mp hperm]
      simp [reader, Field.tag, Field.text?, Field.octets?]

theorem exists_named_iff {names : List String} {payloads : List Any} {name : String}
    (h : List.Forall₂ (fun n a => Carries known (fields ⟨n⟩) a.value) names payloads) :
    (∃ a ∈ payloads, ∃ m, decode? a.value = some m ∧ m.name = name) ↔ name ∈ names := by
  induction h with
  | nil => simp
  | cons hfirst _ ih =>
    rw [List.mem_cons, ← ih, eq_comm (a := name)]
    simp [decode?_of_carries _ hfirst]

end NamedResource

/-! ## The configuration of the mesh -/

namespace Wire

/-! The numbers of the fields of a member, whose field is left out when it is unset. -/

variable {tag t : Nat}

@[simp] theorem mem_tags_textField {s : String} :
    t ∈ (textField tag s).map Field.tag ↔ t = tag ∧ s ≠ "" := by
  unfold textField
  split <;> simp_all [Field.tag]

@[simp] theorem mem_tags_natField {n : Nat} :
    t ∈ (natField tag n).map Field.tag ↔ t = tag ∧ n ≠ 0 := by
  unfold natField
  split <;> simp_all [Field.tag]

@[simp] theorem mem_tags_flagField {b : Bool} :
    t ∈ (flagField tag b).map Field.tag ↔ t = tag ∧ b = true := by
  unfold flagField
  split <;> simp_all [Field.tag]

theorem twosComplement_eq_zero_iff {n : Int32} : twosComplement n.toInt = 0 ↔ n = 0 := by
  constructor
  · intro hzero
    have hback := int32_twosComplement n
    rw [hzero] at hback
    exact hback.symm
  · rintro rfl
    rfl

end Wire

namespace MeshConfig

/-- The numbers of the members. -/
def known : List Nat := [4, 5, 7, 8, 12, 18, 26, 34]

variable (c : MeshConfig)

/-- The message in which the member with a number is as in the configuration. -/
def settle (m : MeshConfig) (tag : Nat) : MeshConfig where
  proxyListenPort := if 4 = tag then c.proxyListenPort else m.proxyListenPort
  proxyHttpPort := if 5 = tag then c.proxyHttpPort else m.proxyHttpPort
  ingressClass := if 7 = tag then c.ingressClass else m.ingressClass
  ingressService := if 8 = tag then c.ingressService else m.ingressService
  enableTracing := if 12 = tag then c.enableTracing else m.enableTracing
  accessLogFile := if 18 = tag then c.accessLogFile else m.accessLogFile
  trustDomain := if 26 = tag then c.trustDomain else m.trustDomain
  rootSpace := if 34 = tag then c.rootSpace else m.rootSpace

theorem take_of_mem_fields {f : Field} (hf : f ∈ c.fields) (levels : Nat) (m : MeshConfig) :
    reader.take levels m f = some (c.settle m f.tag) := by
  simp only [fields, natField, textField, flagField, List.mem_append, List.mem_ite_nil_left,
    List.mem_ite_nil_right, List.mem_singleton, or_assoc] at hf
  rcases hf with ⟨-, rfl⟩ | ⟨-, rfl⟩ | ⟨-, rfl⟩ | ⟨-, rfl⟩ | ⟨htracing, rfl⟩ | ⟨-, rfl⟩ | ⟨-, rfl⟩ |
    ⟨-, rfl⟩
  case inr.inr.inr.inr.inl =>
    simp [reader, settle, Field.tag, Field.flag?, Field.natural?, htracing]
  all_goals
    simp [reader, settle, Field.tag, Field.int32?, Field.natural?, Field.text?, Field.octets?]

/-- Members do not get into each other's way. -/
theorem foldl_settle (tags : List Nat) (m : MeshConfig) :
    tags.foldl c.settle m =
      { proxyListenPort := if 4 ∈ tags then c.proxyListenPort else m.proxyListenPort
        proxyHttpPort := if 5 ∈ tags then c.proxyHttpPort else m.proxyHttpPort
        ingressClass := if 7 ∈ tags then c.ingressClass else m.ingressClass
        ingressService := if 8 ∈ tags then c.ingressService else m.ingressService
        enableTracing := if 12 ∈ tags then c.enableTracing else m.enableTracing
        accessLogFile := if 18 ∈ tags then c.accessLogFile else m.accessLogFile
        trustDomain := if 26 ∈ tags then c.trustDomain else m.trustDomain
        rootSpace := if 34 ∈ tags then c.rootSpace else m.rootSpace } := by
  induction tags generalizing m with
  | nil => simp
  | cons t rest ih =>
    rw [List.foldl_cons, ih]
    -- In each member the fields that follow are asked for first, and then this one.
    simp only [settle, List.mem_cons, or_comm (b := _ ∈ rest), ite_or]

/-- A member whose field is left out is unset. -/
theorem foldl_settle_fields {tags : List Nat} (htags : tags.Perm (c.fields.map Field.tag)) :
    tags.foldl c.settle {} = c := by
  simp only [foldl_settle, htags.mem_iff, fields, List.map_append, List.mem_append,
    mem_tags_natField, mem_tags_textField, mem_tags_flagField, ne_eq, twosComplement_eq_zero_iff]
  obtain ⟨listen, http, ingressClass, service, tracing, log, domain, space⟩ := c
  have hzero : ∀ n : Int32, n = 0 → 0 = n := fun _ => Eq.symm
  simpa using ⟨hzero listen, hzero http⟩

theorem foldlM_take_fields {fs : List Field} (hfs : ∀ f ∈ fs, f ∈ c.fields) (levels : Nat)
    (m : MeshConfig) :
    fs.foldlM (reader.take levels) m = some ((fs.map Field.tag).foldl c.settle m) := by
  induction fs generalizing m with
  | nil => simp
  | cons f fs ih =>
    obtain ⟨hfirst, hothers⟩ := List.forall_mem_cons.mp hfs
    simp [c.take_of_mem_fields hfirst, ih hothers]

theorem decode?_of_carries {bs : List UInt8} (h : Carries known c.fields bs) :
    decode? bs = some c := by
  refine Reader.message?_of_carries rfl ?_ ?_ h
  · intro levels m f hunknown
    simp only [known, List.mem_cons, List.not_mem_nil, or_false, not_or] at hunknown
    obtain ⟨h4, h5, h7, h8, h12, h18, h26, h34⟩ := hunknown
    simp [reader]
  · intro fs hperm
    rw [c.foldlM_take_fields (fun f hf => hperm.mem_iff.mp hf)]
    exact congrArg some (c.foldl_settle_fields (hperm.map Field.tag))

theorem known_of_mem_fields {f : Field} (hf : f ∈ c.fields) : f.tag ∈ known := by
  have htag : f.tag ∈ c.fields.map Field.tag := List.mem_map_of_mem hf
  simp only [fields, List.map_append, List.mem_append, mem_tags_natField, mem_tags_textField,
    mem_tags_flagField, or_assoc] at htag
  simp only [known, List.mem_cons, List.not_mem_nil, or_false]
  exact htag.imp And.left (.imp And.left (.imp And.left (.imp And.left (.imp And.left
    (.imp And.left (.imp And.left And.left))))))

end MeshConfig

namespace Wire

/-- Octets that write a named resource or a configuration of the mesh, in any order and with any
other fields between the known ones, are read as it; what is written here is one case of them. So
the names that a client holds are those of all the messages that carry a name. -/
theorem known_fields_suffice :
    (∀ (r : NamedResource) (bs : List UInt8),
      Carries NamedResource.known r.fields bs → NamedResource.decode? bs = some r) ∧
    (∀ (c : MeshConfig) (bs : List UInt8),
      Carries MeshConfig.known c.fields bs → MeshConfig.decode? bs = some c) ∧
    (∀ r : NamedResource,
      r.encode.length < 2 ^ 64 → Carries NamedResource.known r.fields r.encode) ∧
    (∀ c : MeshConfig, c.encode.length < 2 ^ 64 → Carries MeshConfig.known c.fields c.encode) ∧
    ∀ (client : DiscoveryClient) (typeUrl : String) (names : List String) (payloads : List Any),
      List.Forall₂ (fun name a => Carries NamedResource.known (NamedResource.fields ⟨name⟩) a.value)
        names payloads →
      ∃ held, (client.holdNames typeUrl payloads).held.get? typeUrl = some held ∧
        held.Pairwise (· < ·) ∧ ∀ name, name ∈ held ↔ name ∈ names ∧ name ≠ "" := by
  refine ⟨fun r _ h => r.decode?_of_carries h, fun c _ h => c.decode?_of_carries h, ?_, ?_, ?_⟩
  · intro r hsize
    refine carries_encode (fun f hf => ?_) r.reads_fields.plain hsize
    have htag := mem_tags_textField.mp (List.mem_map_of_mem hf)
    exact List.mem_singleton.mpr htag.1
  · intro c hsize
    exact carries_encode (fun f hf => c.known_of_mem_fields hf) c.reads_fields.plain hsize
  · intro client typeUrl names payloads hpayloads
    refine ⟨DiscoveryClient.namesOf payloads, by simp [DiscoveryClient.holdNames],
      (lists_namesOf payloads).ascending, fun name => ?_⟩
    rw [(lists_namesOf payloads).mem_iff, NamedResource.exists_named_iff hpayloads, and_comm]

/-- A configuration with its fields the other way round and fields of other forms around them, the
number of the first with zeros above; and names of routes, one of them twice and one empty. -/
theorem reversed_config_readBack :
    let c : MeshConfig := { proxyListenPort := -1, enableTracing := true }
    let before : List UInt8 := [0x98, 0x86, 0x00, 0x01]
    let tracing : List UInt8 := [0x60, 0x01]
    let word : List UInt8 := [0x15, 1, 2, 3, 4]
    let port : List UInt8 := [0x20, 255, 255, 255, 255, 255, 255, 255, 255, 255, 0x01]
    let behind : List UInt8 := [0x09, 1, 2, 3, 4, 5, 6, 7, 8]
    let route (name : String) : Any :=
      ⟨TypeUrl.route, [0x12, 0x02, 0xff, 0x00] ++ encode (textField 1 name)⟩
    MeshConfig.decode? (before ++ (tracing ++ (word ++ (port ++ (behind ++ []))))) = some c ∧
      ∀ client : DiscoveryClient, ∃ held,
        (client.holdNames TypeUrl.route [route "shop", route "", route "shop"]).held.get?
          TypeUrl.route = some held ∧
        held.Pairwise (· < ·) ∧ ∀ name, name ∈ held ↔ name ∈ ["shop", "", "shop"] ∧ name ≠ "" := by
  intro c before tracing word port behind route
  obtain ⟨-, hconfigs, hnamed, -, hheld⟩ := known_fields_suffice
  constructor
  · have hkey : WritesInteger (99 * 8 + 0) [0x98, 0x86, 0x00] :=
      ⟨.more 0x98 (by decide) (.more 0x86 (by decide) (.last 0x00 (by decide))), by decide,
        by decide⟩
    have hbefore : WritesField (.varint 99 1) before :=
      .varint (by decide) hkey (writesInteger_integer (by decide))
    have htracing : WritesField (.varint 12 1) tracing :=
      .varint (by decide) (writesInteger_integer (by decide)) (writesInteger_integer (by decide))
    have hword : WritesField (.word32 2 (ofLittleEndian [1, 2, 3, 4])) word :=
      .word32 (by decide) (writesInteger_integer (by decide)) rfl
    have hport : WritesField (.varint 4 (2 ^ 64 - 1)) port :=
      .varint (by decide) (writesInteger_integer (by decide)) (writesInteger_integer (by decide))
    have hbehind : WritesField (.word64 1 (ofLittleEndian [1, 2, 3, 4, 5, 6, 7, 8])) behind :=
      .word64 (by decide) (writesInteger_integer (by decide)) rfl
    refine hconfigs c _ ⟨_, .cons hbefore (.cons htracing (.cons hword (.cons hport
      (.cons hbehind .nil)))), ?_⟩
    exact .swap ..
  · intro client
    have hroute : ∀ name, (encode (textField 1 name)).length < 2 ^ 64 →
        Carries NamedResource.known (NamedResource.fields ⟨name⟩) (route name).value := by
      intro name hsize
      have hother : WritesField (.bytes 2 [0xff, 0x00]) [0x12, 0x02, 0xff, 0x00] :=
        .bytes (by decide) (writesInteger_integer (by decide)) (writesInteger_integer (by decide))
      exact (hnamed ⟨name⟩ hsize).cons_unknown hother (by decide)
    refine hheld client TypeUrl.route ["shop", "", "shop"] _ ?_
    have hshop := hroute "shop" (by decide +kernel)
    exact .cons hshop (.cons (hroute "" (by decide +kernel)) (.cons hshop .nil))

end Wire

end MeshRegistry
