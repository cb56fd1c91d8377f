import MeshRegistry.Entry.Json
import MeshRegistry.Proofs.Json.Compact
import MeshRegistry.Proofs.Json.Rewriting
/-!
# Entries are read back

An entry is read back from the JSON in which it is written. What is left out when it is empty or
unset is what a missing field stands for, so nothing is lost; the metadata are put together field by
field. A specification, its ports and its endpoints may also be written in another way: with more
keys, without fields that have their defaults, and in another order.

Metadata with times or with a record of who has written which field are left out: these have
notations of their own.

## Main definitions

- `Port.Rewritten`, `Endpoint.Rewritten`, `ServiceSpec.Rewritten`, `ServiceEntry.Rewritten`: the
  other ways of writing.
- `ObjectMeta.Untimed`: metadata without times and without a record of writers.

## Main results

- `Port.ofJson?_rewritten`, `Endpoint.ofJson?_rewritten`, `ServiceSpec.read?_rewritten`: the parts.
- `ObjectMeta.read?_toJson`: the metadata.
- `ServiceEntry.rewritings_readBack`: the whole entry, as a value and as a text.
-/

namespace MeshRegistry

open Json (encoding)

/-! ## Values -/

namespace Json

theorem text?_str (s : String) : encoding.text? (.str s) = some s := rfl

theorem word32?_word32 (n : UInt32) : encoding.word32? (word32 n) = some n := by
  have hnat : encoding.nat? (word32 n) = some n.toNat := rfl
  rw [Encoding.word32?, hnat, Option.bind_some, if_pos n.toNat_lt_size, UInt32.ofNat_toNat]

theorem int64?_int {n : Int} (h : -9223372036854775808 ≤ n ∧ n ≤ 9223372036854775807) :
    int64? (.int n) = some n := if_pos h

theorem textMap?_ofTexts (l : SortedMap String String) : textMap? (ofTexts l) = some l :=
  map?_ofMap text?_str l

theorem listOf?_map {α : Type} {read : Json → Option α} {write : α → Json}
    (hread : ∀ a, read (write a) = some a) (l : List α) :
    listOf? read (.arr (l.map write)) = some l :=
  list?_of_eq hread l rfl

/-! ### Whole values -/

section Whole

variable {α : Type} {name : String} {write : α → Json}

theorem Whole.field {j : Json} (h : j.Whole) : ∀ f ∈ [(name, j)], f.2.Whole := by
  simpa using h

theorem Whole.unless {b : Bool} {j : Json} (h : j.Whole) :
    ∀ f ∈ if b then [] else [(name, j)], f.2.Whole := by
  cases b with
  | true => simp
  | false => simpa using h

theorem Whole.field? {x : Option α} (h : ∀ a, (write a).Whole) :
    ∀ f ∈ field? name write x, f.2.Whole := by
  cases x with
  | none => simp [Json.field?]
  | some a => simp [Json.field?, h]

theorem Whole.list (h : ∀ a, (write a).Whole) (l : List α) :
    (Json.arr (l.map write)).Whole :=
  .arr (by simpa using fun a _ => h a)

theorem Whole.listField {l : List α} (h : ∀ a, (write a).Whole) :
    ∀ f ∈ listField name (l.map write), f.2.Whole := by
  cases l with
  | nil => simp [Json.listField]
  | cons a l => simpa [Json.listField] using Whole.list h (a :: l)

theorem Whole.ofMap (h : ∀ a, (write a).Whole) (m : SortedMap String α) :
    (ofMap write m).Whole :=
  .obj fun f hf => by
    obtain ⟨e, -, rfl⟩ := List.mem_map.mp hf
    exact h e.2

end Whole

end Json

theorem Location.ofText?_text (l : Location) : ofText? l.text = some l := by
  cases l <;> decide

theorem Resolution.ofText?_text (r : Resolution) : ofText? r.text = some r := by
  cases r <;> decide

/-! ## Ports -/

namespace Port

/-- The keys of a port. -/
def keys : List String := ["number", "protocol", "name", "targetPort"]

/-- What a missing key of a port stands for. -/
def default? : String → Option Json
  | "protocol" => some (.str "")
  | "name" => some (.str "")
  | "targetPort" => some .null
  | _ => none

/-- A port is written in another way. -/
def Rewritten : Json → Json → Prop := Json.RewrittenObject keys default? fun _ => Eq

theorem ofJson?_rewritten (p : Port) {j : Json} (h : Rewritten p.toJson j) :
    ofJson? j = some p := by
  obtain ⟨given, hrecord, hfound⟩ := Json.RewrittenObject.record? h keys
    (by
      rw [List.map_append]
      exact (List.Sublist.refl _).append (Json.keys_field? ..))
    (by decide)
  simp only [List.lookup_append, Json.lookup_field, Json.lookup_field?] at hfound
  have hnumber : Record.required ⟨encoding, given⟩ "number" encoding.word32? =
      some p.number := by
    refine Json.Found.required (j := Json.word32 p.number)
      (by simpa [default?] using hfound "number" (by decide)) ?_
    rintro _ rfl
    exact Json.word32?_word32 p.number
  have hprotocol : Record.text ⟨encoding, given⟩ "protocol" = some p.protocol :=
    Json.Found.text (by simpa [default?] using hfound "protocol" (by decide))
  have hname : Record.text ⟨encoding, given⟩ "name" = some p.name :=
    Json.Found.text (by simpa [default?] using hfound "name" (by decide))
  have htarget : Record.optional ⟨encoding, given⟩ "targetPort" encoding.word32? =
      some p.targetPort :=
    Json.Found.optional (by simpa [default?] using hfound "targetPort" (by decide))
      Json.word32?_word32 fun _ => rfl
  have hshape : encoding.record? shape j = some ⟨encoding, given⟩ := hrecord
  simp [ofJson?, hshape, hnumber, hprotocol, hname, htarget]

theorem whole_toJson (p : Port) : p.toJson.Whole := by
  refine .obj (List.forall_mem_append.mpr ⟨?_, Json.Whole.field? fun _ => .int _⟩)
  simp only [List.forall_mem_cons]
  exact ⟨.int _, .str _, .str _, List.forall_mem_nil _⟩

theorem rewritten_self (p : Port) : Rewritten p.toJson p.toJson :=
  .obj (.refl fun _ _ => rfl)

end Port

/-! ## Endpoints -/

namespace Endpoint

/-- The keys of an endpoint. -/
def keys : List String :=
  ["address", "ports", "labels", "network", "locality", "weight", "serviceAccount"]

/-- What a missing key of an endpoint stands for. -/
def default? : String → Option Json
  | "address" => some (.str "")
  | "ports" => some (.obj [])
  | "labels" => some (.obj [])
  | "network" => some .null
  | "locality" => some .null
  | "weight" => some .null
  | "serviceAccount" => some .null
  | _ => none

/-- An endpoint is written in another way. -/
def Rewritten : Json → Json → Prop := Json.RewrittenObject keys default? fun _ => Eq

theorem ofJson?_rewritten (e : Endpoint) {j : Json} (h : Rewritten e.toJson j) :
    ofJson? j = some e := by
  obtain ⟨given, hrecord, hfound⟩ := Json.RewrittenObject.record? h keys
    (by
      simp only [List.map_append]
      exact ((((((List.Sublist.refl _).append (Json.keys_unless ..)).append
        (Json.keys_unless ..)).append (Json.keys_field? ..)).append (Json.keys_field? ..)).append
        (Json.keys_field? ..)).append (Json.keys_field? ..))
    (by decide)
  simp only [List.lookup_append, Json.lookup_field, Json.lookup_unless, Json.lookup_field?]
    at hfound
  have haddress : Record.text ⟨encoding, given⟩ "address" = some e.address :=
    Json.Found.text (by simpa [default?] using hfound "address" (by decide))
  have hports : Record.map ⟨encoding, given⟩ "ports" encoding.word32? = some e.ports :=
    Json.Found.map (by simpa [default?] using hfound "ports" (by decide))
      (Json.map?_ofMap Json.word32?_word32 e.ports)
  have hlabels : Record.map ⟨encoding, given⟩ "labels" encoding.text? = some e.labels :=
    Json.Found.map (by simpa [default?, Json.ofTexts] using hfound "labels" (by decide))
      (Json.map?_ofMap Json.text?_str e.labels)
  have hnetwork : Record.optional ⟨encoding, given⟩ "network" encoding.text? = some e.network :=
    Json.Found.optional (by simpa [default?] using hfound "network" (by decide))
      Json.text?_str fun _ => rfl
  have hlocality : Record.optional ⟨encoding, given⟩ "locality" encoding.text? = some e.locality :=
    Json.Found.optional (by simpa [default?] using hfound "locality" (by decide))
      Json.text?_str fun _ => rfl
  have hweight : Record.optional ⟨encoding, given⟩ "weight" encoding.word32? = some e.weight :=
    Json.Found.optional (by simpa [default?] using hfound "weight" (by decide))
      Json.word32?_word32 fun _ => rfl
  have haccount : Record.optional ⟨encoding, given⟩ "serviceAccount" encoding.text? =
      some e.serviceAccount :=
    Json.Found.optional (by simpa [default?] using hfound "serviceAccount" (by decide))
      Json.text?_str fun _ => rfl
  have hshape : encoding.record? shape j = some ⟨encoding, given⟩ := hrecord
  simp [ofJson?, hshape, haddress, hports, hlabels, hnetwork, hlocality, hweight, haccount]

theorem whole_toJson (e : Endpoint) : e.toJson.Whole := by
  refine .obj ?_
  simp only [List.forall_mem_append]
  refine ⟨⟨⟨⟨⟨⟨?_, ?_⟩, ?_⟩, ?_⟩, ?_⟩, ?_⟩, ?_⟩
  · exact .field (.str _)
  · exact .unless (.ofMap (fun _ => .int _) _)
  · exact .unless (.ofMap (fun _ => .str _) _)
  · exact .field? fun _ => .str _
  · exact .field? fun _ => .str _
  · exact .field? fun _ => .int _
  · exact .field? fun _ => .str _

theorem rewritten_self (e : Endpoint) : Rewritten e.toJson e.toJson :=
  .obj (.refl fun _ _ => rfl)

end Endpoint

/-! ## Specifications -/

namespace ServiceSpec

/-- The keys of a specification. -/
def keys : List String :=
  ["hosts", "addresses", "ports", "location", "resolution", "endpoints", "exportTo",
    "subjectAltNames"]

/-- What a missing key of a specification stands for. -/
def default? : String → Option Json
  | "hosts" => some (.arr [])
  | "addresses" => some (.arr [])
  | "ports" => some (.arr [])
  | "location" => some (.str "MESH_EXTERNAL")
  | "resolution" => some (.str "NONE")
  | "endpoints" => some (.arr [])
  | "exportTo" => some (.arr [])
  | "subjectAltNames" => some (.arr [])
  | _ => none

/-- How the values of the keys of a specification may be written. -/
def Same : String → Json → Json → Prop
  | "ports" => Json.RewrittenList Port.Rewritten
  | "endpoints" => Json.RewrittenList Endpoint.Rewritten
  | _ => Eq

/-- A specification is written in another way. -/
def Rewritten : Json → Json → Prop := Json.RewrittenObject keys default? Same

theorem read?_rewritten (origin : Json.Origin) (s : ServiceSpec) {j : Json}
    (h : Rewritten s.toJson j) : read? origin j = some s := by
  obtain ⟨given, hrecord, hfound⟩ := Json.RewrittenObject.record? h keys
    (by
      simp only [List.map_append]
      exact (((((List.Sublist.refl _).append (Json.keys_listField ..)).append
        (List.Sublist.refl _)).append (Json.keys_listField ..)).append
        (Json.keys_listField ..)).append (Json.keys_listField ..))
    (by decide)
  simp only [List.lookup_append, Json.lookup_field, Json.lookup_listField, Json.texts] at hfound
  have hhosts : Record.list ⟨encoding, given⟩ "hosts" encoding.text? = some s.hosts :=
    Json.Found.list (by simpa [default?, Same] using hfound "hosts" (by decide)) (.inl rfl)
      fun _ => Json.list?_of_eq Json.text?_str s.hosts
  have haddresses : Record.list ⟨encoding, given⟩ "addresses" encoding.text? = some s.addresses :=
    Json.Found.listField (by simpa [default?, Same] using hfound "addresses" (by decide))
      fun _ => Json.list?_of_eq Json.text?_str s.addresses
  have hports : Record.list ⟨encoding, given⟩ "ports" Port.ofJson? = some s.ports :=
    Json.Found.list (by simpa [default?, Same] using hfound "ports" (by decide)) (.inl rfl)
      fun _ => Json.list?_of_rewritten (fun p _ => p.ofJson?_rewritten) s.ports
  have hlocation : Record.orElse ⟨encoding, given⟩ "location" .meshExternal
      (Location.ofJson? origin) = some s.location := by
    refine Json.Found.orElse (by simpa [default?, Same] using hfound "location" (by decide)) ?_ ?_
    · rintro _ _ ⟨⟩ rfl
      exact Location.ofText?_text s.location
    · -- Only the location that is the default may have been left out.
      cases s.location <;> simp [Location.text]
  have hresolution : Record.orElse ⟨encoding, given⟩ "resolution" .none
      (Resolution.ofJson? origin) = some s.resolution := by
    refine Json.Found.orElse (by simpa [default?, Same] using hfound "resolution" (by decide)) ?_ ?_
    · rintro _ _ ⟨⟩ rfl
      exact Resolution.ofText?_text s.resolution
    · cases s.resolution <;> simp [Resolution.text]
  have hendpoints : Record.list ⟨encoding, given⟩ "endpoints" Endpoint.ofJson? = some s.endpoints :=
    Json.Found.listField (by simpa [default?, Same] using hfound "endpoints" (by decide))
      fun _ => Json.list?_of_rewritten (fun e _ => e.ofJson?_rewritten) s.endpoints
  have hexport : Record.list ⟨encoding, given⟩ "exportTo" encoding.text? = some s.exportTo :=
    Json.Found.listField (by simpa [default?, Same] using hfound "exportTo" (by decide))
      fun _ => Json.list?_of_eq Json.text?_str s.exportTo
  have hnames : Record.list ⟨encoding, given⟩ "subjectAltNames" encoding.text? =
      some s.subjectAltNames :=
    Json.Found.listField (by simpa [default?, Same] using hfound "subjectAltNames" (by decide))
      fun _ => Json.list?_of_eq Json.text?_str s.subjectAltNames
  have hshape : encoding.record? shape j = some ⟨encoding, given⟩ := hrecord
  simp [read?, hshape, hhosts, haddresses, hports, hlocation, hresolution, hendpoints, hexport,
    hnames]

theorem whole_toJson (s : ServiceSpec) : s.toJson.Whole := by
  refine .obj ?_
  simp only [List.forall_mem_append]
  refine ⟨⟨⟨⟨⟨?_, ?_⟩, ?_⟩, ?_⟩, ?_⟩, ?_⟩
  · exact .field (.list (fun _ => .str _) _)
  · exact .listField fun _ => .str _
  · simp only [List.forall_mem_cons]
    exact ⟨.list Port.whole_toJson _, .str _, .str _, List.forall_mem_nil _⟩
  · exact .listField Endpoint.whole_toJson
  · exact .listField fun _ => .str _
  · exact .listField fun _ => .str _

theorem rewritten_self (s : ServiceSpec) : Rewritten s.toJson s.toJson := by
  -- A list that is left out when it is empty has no value to compare then.
  have hlist {name : String} {items : List Json} (h : Same name (.arr items) (.arr items)) :
      ∀ f ∈ Json.listField name items, Same f.1 f.2 f.2 := by
    cases items with
    | nil => simp [Json.listField]
    | cons j items => simpa [Json.listField] using h
  refine .obj (.refl ?_)
  simp only [List.forall_mem_append]
  refine ⟨⟨⟨⟨⟨?_, ?_⟩, ?_⟩, ?_⟩, ?_⟩, ?_⟩
  · simp only [List.forall_mem_singleton]
    rfl
  · exact hlist rfl
  · simp only [List.forall_mem_cons]
    exact ⟨.refl Port.rewritten_self s.ports, rfl, rfl, List.forall_mem_nil _⟩
  · exact hlist (.refl Endpoint.rewritten_self s.endpoints)
  · exact hlist rfl
  · exact hlist rfl

end ServiceSpec

/-! ## Metadata -/

namespace Json

/-- Fields are put into a value one after the other, which becomes another one. -/
def Puts {M : Type} (put : M → String × Json → Option M) (fields : List (String × Json))
    (m m' : M) : Prop :=
  fields.foldlM put m = some m'

section Puts

variable {M α : Type} {put : M → String × Json → Option M} {m m' m'' : M}

theorem Puts.append {fields fields' : List (String × Json)} (h : Puts put fields m m')
    (h' : Puts put fields' m' m'') : Puts put (fields ++ fields') m m'' := by
  rw [Puts, List.foldlM_append, show fields.foldlM put m = some m' from h]
  exact h'

theorem Puts.congr {fields : List (String × Json)} (h : Puts put fields m m') (heq : m' = m'') :
    Puts put fields m m'' :=
  heq ▸ h

theorem puts_unset {name : String} {write : α → Json} : Puts put (field? name write none) m m :=
  rfl

/-- A field that is left out when it is unset is put as it is. -/
theorem puts_field? {name : String} {write : α → Json} {read : Json → Option α}
    (set : M → Option α → M) {x : Option α}
    (hread : ∀ a ∈ x, orUnset? read (write a) = some (some a))
    (hput : ∀ j, put m (name, j) = (orUnset? read j).map (set m)) (hunset : set m none = m) :
    Puts put (field? name write x) m (set m x) := by
  cases x with
  | none => simp [Puts, field?, hunset]
  | some a => simp [Puts, field?, hput, hread]

end Puts

end Json

namespace OwnerReference

theorem ofJson?_toJson (r : OwnerReference) : ofJson? r.toJson = some r := by
  obtain ⟨apiVersion, kind, name, uid, controller, blockOwnerDeletion⟩ := r
  cases controller <;> cases blockOwnerDeletion <;> rfl

theorem whole_toJson (r : OwnerReference) : r.toJson.Whole := by
  refine .obj ?_
  simp only [List.forall_mem_append]
  refine ⟨⟨⟨?_, ?_⟩, ?_⟩, ?_⟩
  · exact .field (.str _)
  · exact .field? fun _ => .bool _
  · exact .field? fun _ => .bool _
  · simp only [List.forall_mem_cons]
    exact ⟨.str _, .str _, .str _, List.forall_mem_nil _⟩

end OwnerReference

namespace ObjectMeta

/-- Metadata without times and without a record of who has written which field; numbers have 64
bits. -/
structure Untimed (m : ObjectMeta) : Prop where
  creationTimestamp : m.creationTimestamp = none
  deletionTimestamp : m.deletionTimestamp = none
  managedFields : m.managedFields = none
  generation : ∀ n ∈ m.generation, -9223372036854775808 ≤ n ∧ n ≤ 9223372036854775807
  gracePeriod : ∀ n ∈ m.deletionGracePeriodSeconds,
    -9223372036854775808 ≤ n ∧ n ≤ 9223372036854775807

theorem read?_toJson {m : ObjectMeta} (h : m.Untimed) (origin : Json.Origin) :
    read? origin m.toJson = some m := by
  obtain ⟨name, space, labels, annotations, version, owners, generateName, generation, uid,
    finalizers, selfLink, _, _, grace, _⟩ := m
  obtain ⟨rfl, rfl, rfl, hgeneration, hgrace⟩ := h
  have htext {x : Option String} : ∀ s ∈ x, Json.orUnset? encoding.text? (.str s) = some (some s) :=
    fun _ _ => rfl
  have hmap {x : Option (SortedMap String String)} :
      ∀ l ∈ x, Json.orUnset? Json.textMap? (Json.ofTexts l) = some (some l) :=
    fun l _ => congrArg (Option.map some) (Json.textMap?_ofTexts l)
  have hint {x : Option Int} (hx : ∀ n ∈ x, -9223372036854775808 ≤ n ∧ n ≤ 9223372036854775807) :
      ∀ n ∈ x, Json.orUnset? Json.int64? (.int n) = some (some n) :=
    fun n hn => congrArg (Option.map some) (Json.int64?_int (hx n hn))
  have htexts {x : Option (List String)} : ∀ l ∈ x,
      Json.orUnset? (Json.listOf? encoding.text?) (Json.texts l) = some (some l) :=
    fun l _ => congrArg (Option.map some) (Json.listOf?_map Json.text?_str l)
  have howners : ∀ l ∈ owners, Json.orUnset? (Json.listOf? OwnerReference.ofJson?)
      (.arr (l.map OwnerReference.toJson)) = some (some l) :=
    fun l _ => congrArg (Option.map some) (Json.listOf?_map OwnerReference.ofJson?_toJson l)
  -- Every field is put into what the fields before it have made.
  refine Json.Puts.congr
    ((Json.puts_field? (fun m v => { m with annotations := v }) hmap (fun _ => rfl) rfl)
    |>.append Json.puts_unset
    |>.append (Json.puts_field? (fun m v => { m with deletionGracePeriodSeconds := v }) (hint hgrace)
        (fun _ => rfl) rfl)
    |>.append Json.puts_unset
    |>.append (Json.puts_field? (fun m v => { m with finalizers := v }) htexts (fun _ => rfl) rfl)
    |>.append (Json.puts_field? (fun m v => { m with generateName := v }) htext (fun _ => rfl) rfl)
    |>.append (Json.puts_field? (fun m v => { m with generation := v }) (hint hgeneration)
        (fun _ => rfl) rfl)
    |>.append (Json.puts_field? (fun m v => { m with labels := v }) hmap (fun _ => rfl) rfl)
    |>.append Json.puts_unset
    |>.append (Json.puts_field? (fun m v => { m with name := v }) htext (fun _ => rfl) rfl)
    |>.append (Json.puts_field? (fun m v => { m with space := v }) htext (fun _ => rfl) rfl)
    |>.append (Json.puts_field? (fun m v => { m with ownerReferences := v }) howners
        (fun _ => rfl) rfl)
    |>.append (Json.puts_field? (fun m v => { m with resourceVersion := v }) htext
        (fun _ => rfl) rfl)
    |>.append (Json.puts_field? (fun m v => { m with selfLink := v }) htext (fun _ => rfl) rfl)
    |>.append (Json.puts_field? (fun m v => { m with uid := v }) htext (fun _ => rfl) rfl)) rfl

theorem whole_toJson {m : ObjectMeta} (h : m.managedFields = none) : m.toJson.Whole := by
  refine .obj ?_
  simp only [List.forall_mem_append, h]
  refine ⟨⟨⟨⟨⟨⟨⟨⟨⟨⟨⟨⟨⟨⟨?_, ?_⟩, ?_⟩, ?_⟩, ?_⟩, ?_⟩, ?_⟩, ?_⟩, ?_⟩, ?_⟩, ?_⟩, ?_⟩, ?_⟩, ?_⟩, ?_⟩
  · exact .field? fun l => .ofMap (fun _ => .str _) l
  · exact .field? fun _ => .str _
  · exact .field? fun _ => .int _
  · exact .field? fun _ => .str _
  · exact .field? fun l => .list (fun _ => .str _) l
  · exact .field? fun _ => .str _
  · exact .field? fun _ => .int _
  · exact .field? fun l => .ofMap (fun _ => .str _) l
  · exact List.forall_mem_nil _
  · exact .field? fun _ => .str _
  · exact .field? fun _ => .str _
  · exact .field? fun l => .list OwnerReference.whole_toJson l
  · exact .field? fun _ => .str _
  · exact .field? fun _ => .str _
  · exact .field? fun _ => .str _

end ObjectMeta

/-! ## Entries -/

namespace ServiceEntry

/-- The keys of an entry that are read. -/
def keys : List String := ["metadata", "spec"]

/-- How the values of the keys of an entry may be written. -/
def Same : String → Json → Json → Prop
  | "spec" => ServiceSpec.Rewritten
  | _ => Eq

/-- An entry is written in another way. -/
def Rewritten : Json → Json → Prop := Json.RewrittenObject keys (fun _ => none) Same

theorem whole_toJson {e : ServiceEntry} (h : e.metadata.managedFields = none) : e.toJson.Whole := by
  refine .obj ?_
  simp only [List.forall_mem_cons]
  exact ⟨.str _, .str _, ObjectMeta.whole_toJson h, e.spec.whole_toJson, List.forall_mem_nil _⟩

theorem read?_rewritten {e : ServiceEntry} (he : e.metadata.Untimed) (origin : Json.Origin)
    {j : Json} (h : Rewritten e.toJson j) : read? origin j = some e := by
  obtain ⟨given, hrecord, hfound⟩ := Json.RewrittenObject.record? h
    ["apiVersion", "kind", "metadata", "spec"] (.refl _) (by decide)
  simp only [Json.lookup_field] at hfound
  have hmetadata : Record.required ⟨encoding, given⟩ "metadata"
      (ObjectMeta.read? (origin.inside 1)) = some e.metadata := by
    refine Json.Found.required (j := e.metadata.toJson)
      (by simpa [Same] using hfound "metadata" (by decide)) ?_
    rintro _ rfl
    exact ObjectMeta.read?_toJson he _
  have hspec : Record.required ⟨encoding, given⟩ "spec" (ServiceSpec.read? (origin.inside 1)) =
      some e.spec :=
    Json.Found.required (j := e.spec.toJson)
      (by simpa [Same] using hfound "spec" (by decide)) fun _ => e.spec.read?_rewritten _
  have hshape : encoding.record? shape j = some ⟨encoding, given⟩ := hrecord
  simp [read?, hshape, hmetadata, hspec]

theorem rewritten_self (e : ServiceEntry) : Rewritten e.toJson e.toJson := by
  refine .obj (.refl ?_)
  simp only [List.forall_mem_cons]
  exact ⟨rfl, rfl, rfl, e.spec.rewritten_self, List.forall_mem_nil _⟩

/-- An entry is read back from the JSON in which it is written, as a value and as a text. The same
is true of every other way of writing it. -/
theorem rewritings_readBack {e : ServiceEntry} (he : e.metadata.Untimed) :
    (Json.parse? e.toJson.compact).bind ofJson? = some e ∧
      ∀ j, Rewritten e.toJson j → (∀ origin, read? origin j = some e) ∧
        (j.Whole → (Json.parse? j.compact).bind ofJson? = some e) := by
  have hread (j : Json) (hwhole : j.Whole) (h : Rewritten e.toJson j) :
      (Json.parse? j.compact).bind ofJson? = some e := by
    rw [Json.parse?_compact hwhole]
    exact read?_rewritten he .whole h
  refine ⟨hread _ (whole_toJson he.managedFields) e.rewritten_self, fun j h => ?_⟩
  exact ⟨fun origin => read?_rewritten he origin h, fun hwhole => hread j hwhole h⟩

/-- An entry with a port without a protocol, and what is left of it without defaults. Its port has
gained a key, and so has its specification. -/
theorem pruned_entry_readBack :
    let e : ServiceEntry :=
      { metadata := { name := some "shop", labels := some .empty, ownerReferences := some [] }
        spec := { ports := [{ number := 80, name := "http" }], resolution := .dns } }
    let port : Json := .obj [("name", .str "http"), ("nodePort", .null), ("number", .int 80)]
    let spec : Json :=
      .obj [("resolution", .str "DNS"), ("ports", .arr [port]), ("comment", .str "\t")]
    let pruned : Json :=
      .obj [("apiVersion", .str apiVersion), ("kind", .str kind),
        ("metadata", e.metadata.toJson), ("spec", spec)]
    (Json.parse? e.toJson.compact).bind ofJson? = some e ∧
      (Json.parse? pruned.compact).bind ofJson? = some e := by
  intro e port spec pruned
  have hwhole : pruned.Whole := by
    have hport : port.Whole := .obj (by simpa [port] using ⟨.str _, .null, .int _⟩)
    have hports : (Json.arr [port]).Whole := .arr (by simpa using hport)
    have hspec : spec.Whole := .obj (by simpa [spec] using ⟨.str _, hports, .str _⟩)
    have hmetadata : e.metadata.toJson.Whole := ObjectMeta.whole_toJson rfl
    exact .obj (by simpa using ⟨.str _, .str _, hmetadata, hspec⟩)
  have hport : Port.Rewritten (Port.toJson { number := 80, name := "http" }) port :=
    .obj (.permute (.keep rfl (.drop rfl (.keep rfl (.add (by decide) .nil))))
      (.trans (.swap ..) (.cons _ (.swap ..))))
  have hspec : ServiceSpec.Rewritten e.spec.toJson spec :=
    .obj (.permute
      (.drop rfl (.keep (.arr (.cons hport .nil)) (.drop rfl (.keep rfl (.add (by decide) .nil)))))
      (.swap ..))
  have huntimed : e.metadata.Untimed := ⟨rfl, rfl, rfl, by simp, by simp⟩
  obtain ⟨hsame, hpruned⟩ := rewritings_readBack huntimed
  refine ⟨hsame, (hpruned pruned ?_).2 hwhole⟩
  exact .obj (.keep rfl (.keep rfl (.keep rfl (.keep hspec .nil))))

end ServiceEntry

end MeshRegistry
