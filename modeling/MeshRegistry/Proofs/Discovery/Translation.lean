import Mathlib.Data.List.Forall2
import MeshRegistry.Discovery.Received
/-!
# Which resources are translated, and what stays of them

A resource is translated if it has metadata, its name has two parts, and its body is absent or can
be read as an entry; otherwise the first of these that fails is reported. The service entry has the
hosts, the ports and the endpoints of the body one for one. What reads as zero or as empty is unset
in it, a number that stands for nothing becomes a default, and of the labels of an endpoint only two
are kept. What is not kept makes no difference.

The name of a resource and the address of a type are cut in two different ways. The name of a
resource is cut at its first slash, and the rest must not have another one. The address of a type
is cut at its first two slashes, and the last of the three parts must not have another one. Both
accept exactly the texts that are put together from parts without slashes, and give back the parts.
The parts of an address may be empty, those of a name may not.

## Main definitions

- `McpResource.Names`, `McpResource.Says`, `McpResource.Refused`: what is accepted, and what is not.
- `StandsFor`: a service entry has what is kept of a resource.
- `McpResource.Alike`: resources that differ only in what is not kept.

## Main results

- `translate_eq_ok_iff`, `translate_eq_error_iff`: which resources are translated.
- `translate_congr`: resources that are alike are translated alike.
- `McpResource.translated_exactly`: all of this together.
- `slashed_names_readBack`: which names and addresses are accepted, and what reading and writing
  make of each other.
-/

namespace MeshRegistry

/-! ## Accepted resources -/

namespace McpResource

/-- A name that consists of a namespace and a name with a slash between them. -/
structure Names (name : String) (key : ObjectKey) : Prop where
  joined : name = key.space ++ "/" ++ key.name
  space : key.space ≠ ""
  name : key.name ≠ ""
  space_free : '/' ∉ key.space.toList
  name_free : '/' ∉ key.name.toList

/-- An address of the type of service entries: none, or one that ends in their full name. -/
def IsEntryType (url : String) : Prop :=
  url = "" ∨ url = "istio.networking.v1alpha3.ServiceEntry" ∨
    ∃ path, url = path ++ "/" ++ "istio.networking.v1alpha3.ServiceEntry"

/-- A body says an entry; an absent one says the entry without fields. -/
inductive Says : Option Any → StreamedEntry → Prop where
  | absent : Says none {}
  | packed {body : Any} {s : StreamedEntry} (type : IsEntryType body.typeUrl)
      (read : StreamedEntry.decode? body.value = some s) : Says (some body) s

/-- Why a resource is refused: the first thing that is wrong with it. -/
inductive Refused : McpResource → DiscoveryError → Prop where
  | bare {body : Option Any} : Refused ⟨none, body⟩ .missingMetadata
  | unnamed {m : McpMetadata} {body : Option Any} (name : ∀ key, ¬Names m.name key) :
      Refused ⟨some m, body⟩ (.invalidResourceName m.name)
  | foreign {m : McpMetadata} {body : Any} {key : ObjectKey} (name : Names m.name key)
      (type : ¬IsEntryType body.typeUrl) :
      Refused ⟨some m, some body⟩ (.unsupportedType body.typeUrl)
  | garbled {m : McpMetadata} {body : Any} {key : ObjectKey} (name : Names m.name key)
      (type : IsEntryType body.typeUrl) (read : StreamedEntry.decode? body.value = none) :
      Refused ⟨some m, some body⟩ .undecodable

end McpResource

open McpResource

theorem resourceKey_eq_ok_iff_names {name : String} {key : ObjectKey} :
    resourceKey name = .ok key ↔ Names name key := by
  rw [resourceKey_eq_ok_iff]
  exact ⟨fun ⟨h, hs, hn, hsf, hnf⟩ => ⟨h, hs, hn, hsf, hnf⟩,
    fun ⟨h, hs, hn, hsf, hnf⟩ => ⟨h, hs, hn, hsf, hnf⟩⟩

theorem lastPiece_eq_iff {url piece : String} (hfree : '/' ∉ piece.toList) :
    lastPiece url = piece ↔ url = piece ∨ ∃ path, url = path ++ "/" ++ piece := by
  have hlast : lastPiece url = piece ↔
      (Text.pieces '/' url.toList).getLast? = some piece.toList := by
    -- There is a last piece, so the default is never used.
    have hsome := List.getLast?_eq_some_getLast (Text.pieces_ne_nil '/' url.toList)
    simp [lastPiece, hsome, ← String.toList_inj]
  rw [hlast, Text.getLast?_pieces_eq_some_iff]
  constructor
  · rintro ⟨-, hwhole | ⟨path, hpath⟩⟩
    · exact .inl (String.toList_inj.mp hwhole)
    · refine .inr ⟨String.ofList path, String.toList_inj.mp ?_⟩
      simpa using hpath
  · rintro (rfl | ⟨path, rfl⟩)
    · exact ⟨hfree, .inl rfl⟩
    · exact ⟨hfree, .inr ⟨path.toList, by simp⟩⟩

theorem isEntryBody_iff {url : String} : isEntryBody url = true ↔ IsEntryType url := by
  have hfull : '/' ∉ "istio.networking.v1alpha3.ServiceEntry".toList := by decide +kernel
  simp only [isEntryBody, Bool.or_eq_true, beq_iff_eq, lastPiece_eq_iff hfull, IsEntryType, or_assoc]
  -- The address under which entries are packed here is one of those with a path.
  have hpacked : TypeUrl.istioServiceEntry =
      "type.googleapis.com" ++ "/" ++ "istio.networking.v1alpha3.ServiceEntry" := by
    decide +kernel
  constructor
  · rintro (h | rfl | h)
    · exact .inl h
    · exact .inr (.inr ⟨_, hpacked⟩)
    · exact .inr h
  · exact Or.imp_right .inr

theorem McpResource.says_some_iff {packed : Any} {s : StreamedEntry} :
    Says (some packed) s ↔
      IsEntryType packed.typeUrl ∧ StreamedEntry.decode? packed.value = some s := by
  constructor
  · rintro (_ | ⟨htype, hread⟩)
    exact ⟨htype, hread⟩
  · rintro ⟨htype, hread⟩
    exact .packed htype hread

theorem bodyEntry_eq_ok_iff {body : Option Any} {s : StreamedEntry} :
    bodyEntry body = .ok s ↔ Says body s := by
  cases body with
  | none =>
    constructor
    · rintro ⟨⟩
      exact .absent
    · rintro ⟨⟩
      rfl
  | some packed =>
    rw [says_some_iff]
    by_cases htype : IsEntryType packed.typeUrl
    · cases hread : StreamedEntry.decode? packed.value <;>
        simp [bodyEntry, isEntryBody_iff.mpr htype, htype, hread]
    · have hother : isEntryBody packed.typeUrl = false := by
        simpa using mt isEntryBody_iff.mp htype
      simp [bodyEntry, hother, htype]

theorem bodyEntry_eq_error_iff {body : Option Any} {err : DiscoveryError} :
    bodyEntry body = .error err ↔ ∃ packed, body = some packed ∧
      (¬IsEntryType packed.typeUrl ∧ err = .unsupportedType packed.typeUrl ∨
        IsEntryType packed.typeUrl ∧ StreamedEntry.decode? packed.value = none ∧
          err = .undecodable) := by
  cases body with
  | none => simp [bodyEntry]
  | some packed =>
    by_cases htype : IsEntryType packed.typeUrl
    · cases hread : StreamedEntry.decode? packed.value <;>
        simp [bodyEntry, isEntryBody_iff.mpr htype, htype, hread, eq_comm]
    · have hother : isEntryBody packed.typeUrl = false := by
        simpa using mt isEntryBody_iff.mp htype
      simp [bodyEntry, hother, htype, eq_comm]

section Translate

variable {m : McpMetadata} {body : Option Any} {key : ObjectKey}

theorem translate_of_name_error {err : DiscoveryError} (hname : resourceKey m.name = .error err) :
    translate ⟨some m, body⟩ = .error err := by
  simp only [translate, ReceivedEntry.ofResource, hname]
  rfl

theorem translate_of_body_error {err : DiscoveryError} (hname : resourceKey m.name = .ok key)
    (hbody : bodyEntry body = .error err) : translate ⟨some m, body⟩ = .error err := by
  simp only [translate, ReceivedEntry.ofResource, hname, hbody]
  rfl

/-- The entry that has metadata, a key, and what a body says. -/
def entryOf (m : McpMetadata) (key : ObjectKey) (s : StreamedEntry) : ServiceEntry :=
  ReceivedEntry.toEntry
    { key, version := m.version, createTime := m.createTime.bind Timestamp.instant?
      labels := m.labels, annotations := m.annotations, spec := s }

theorem translate_of_accepted {s : StreamedEntry} (hname : Names m.name key) (hbody : Says body s) :
    translate ⟨some m, body⟩ = .ok (entryOf m key s) := by
  rw [← resourceKey_eq_ok_iff_names] at hname
  rw [← bodyEntry_eq_ok_iff] at hbody
  simp only [translate, ReceivedEntry.ofResource, hname, hbody]
  rfl

theorem translate_of_refused {r : McpResource} {err : DiscoveryError} (h : Refused r err) :
    translate r = .error err := by
  cases h with
  | bare => rfl
  | unnamed hname =>
    refine translate_of_name_error (resourceKey_eq_error_iff.mpr ⟨rfl, fun key hkey => ?_⟩)
    exact hname key (resourceKey_eq_ok_iff_names.mp hkey)
  | foreign hname htype =>
    refine translate_of_body_error (resourceKey_eq_ok_iff_names.mpr hname) ?_
    exact bodyEntry_eq_error_iff.mpr ⟨_, rfl, .inl ⟨htype, rfl⟩⟩
  | garbled hname htype hread =>
    refine translate_of_body_error (resourceKey_eq_ok_iff_names.mpr hname) ?_
    exact bodyEntry_eq_error_iff.mpr ⟨_, rfl, .inr ⟨htype, hread, rfl⟩⟩

/-- A resource is refused for a reason, or it is accepted. -/
theorem McpResource.refused_or_accepted (r : McpResource) :
    (∃ err, Refused r err) ∨ ∃ m key s, r.metadata = some m ∧ Names m.name key ∧ Says r.body s := by
  -- The checks come in this order: the metadata, the name, the type of the body, what is in it.
  obtain ⟨_ | m, body⟩ := r
  · exact .inl ⟨_, .bare⟩
  by_cases hname : ∃ key, Names m.name key
  · obtain ⟨key, hname⟩ := hname
    cases body with
    | none => exact .inr ⟨m, key, {}, rfl, hname, .absent⟩
    | some packed =>
      by_cases htype : IsEntryType packed.typeUrl
      · cases hread : StreamedEntry.decode? packed.value with
        | none => exact .inl ⟨_, .garbled hname htype hread⟩
        | some s => exact .inr ⟨m, key, s, rfl, hname, .packed htype hread⟩
      · exact .inl ⟨_, .foreign hname htype⟩
  · exact .inl ⟨_, .unnamed (not_exists.mp hname)⟩

theorem translate_eq_ok_iff {r : McpResource} {e : ServiceEntry} :
    translate r = .ok e ↔ ∃ m key s, r.metadata = some m ∧ Names m.name key ∧ Says r.body s ∧
      e = entryOf m key s := by
  constructor
  · intro h
    rcases r.refused_or_accepted with ⟨err, hrefused⟩ | ⟨m, key, s, hmetadata, hname, hbody⟩
    · rw [translate_of_refused hrefused] at h
      cases h
    · obtain ⟨_, body⟩ := r
      subst hmetadata
      rw [translate_of_accepted hname hbody] at h
      cases h
      exact ⟨m, key, s, rfl, hname, hbody, rfl⟩
  · obtain ⟨_, body⟩ := r
    rintro ⟨m, key, s, rfl, hname, hbody, rfl⟩
    exact translate_of_accepted hname hbody

theorem translate_eq_error_iff {r : McpResource} {err : DiscoveryError} :
    translate r = .error err ↔ Refused r err := by
  refine ⟨fun h => ?_, translate_of_refused⟩
  rcases r.refused_or_accepted with ⟨err', hrefused⟩ | ⟨m, key, s, hmetadata, hname, hbody⟩
  · rw [translate_of_refused hrefused] at h
    cases h
    exact hrefused
  · rw [translate_eq_ok_iff.mpr ⟨m, key, s, hmetadata, hname, hbody, rfl⟩] at h
    cases h

end Translate

/-! ## What is kept -/

/-- A member that is unset where a value reads as nothing. -/
def SetUnless {α : Type} (nothing given : α) (member : Option α) : Prop :=
  ∀ x, member = some x ↔ given = x ∧ x ≠ nothing

/-- The number that stands for a location. -/
def Location.number : Location → Int32
  | meshExternal => 0
  | meshInternal => 1

/-- The number that stands for a way of finding endpoints. -/
def Resolution.number : Resolution → Int32
  | none => 0
  | static => 1
  | dns => 2
  | dnsRoundRobin => 3

/-- A choice has the number that is given, or is the fallback if no choice has it. -/
def Chosen {α : Type} (number : α → Int32) (fallback : α) (given : Int32) (choice : α) : Prop :=
  number choice = given ∨ (∀ other, number other ≠ given) ∧ choice = fallback

structure PortStandsFor (s : StreamedPort) (p : Port) : Prop where
  number : p.number = s.number
  protocol : p.protocol = s.protocol
  name : p.name = s.name
  target : SetUnless 0 s.targetPort p.targetPort

/-- The labels of an endpoint that are kept. -/
def Kept (label : String) : Prop := label = "app" ∨ label = "version"

structure EndpointStandsFor (s : StreamedEndpoint) (e : Endpoint) : Prop where
  address : e.address = s.address
  ports : e.ports = s.ports
  kept : ∀ label, Kept label → e.labels.get? label = s.labels.get? label
  dropped : ∀ label, ¬Kept label → e.labels.get? label = none
  network : SetUnless "" s.network e.network
  locality : SetUnless "" s.locality e.locality
  weight : SetUnless 0 s.weight e.weight
  account : SetUnless "" s.serviceAccount e.serviceAccount

structure SpecStandsFor (s : StreamedEntry) (spec : ServiceSpec) : Prop where
  hosts : spec.hosts = s.hosts.map Text.lowercase
  addresses : spec.addresses = s.addresses
  ports : List.Forall₂ PortStandsFor s.ports spec.ports
  location : Chosen Location.number .meshExternal s.location spec.location
  resolution : Chosen Resolution.number .none s.resolution spec.resolution
  endpoints : List.Forall₂ EndpointStandsFor s.endpoints spec.endpoints
  exportTo : spec.exportTo = s.exportTo
  subjectAltNames : spec.subjectAltNames = s.subjectAltNames

/-- An entry under a key has what is kept of metadata and of a body, and nothing else. -/
structure StandsFor (m : McpMetadata) (key : ObjectKey) (s : StreamedEntry) (e : ServiceEntry) :
    Prop where
  labels : SetUnless .empty m.labels e.metadata.labels
  annotations : SetUnless .empty m.annotations e.metadata.annotations
  metadata : e.metadata =
    { name := some (Text.lowercase key.name), space := some key.space
      labels := e.metadata.labels, annotations := e.metadata.annotations }
  spec : SpecStandsFor s e.spec

/-! ### The entry stands for the resource -/

theorem setUnless_of {α : Type} {nothing given : α} {member : Option α}
    (hunset : given = nothing → member = none) (hset : given ≠ nothing → member = some given) :
    SetUnless nothing given member := by
  intro x
  by_cases h : given = nothing
  · rw [hunset h, h]
    simp [eq_comm]
  · rw [hset h, Option.some.injEq]
    constructor
    · rintro rfl
      exact ⟨rfl, h⟩
    · exact And.left

theorem setUnless_nonempty? (s : String) : SetUnless "" s (ReceivedEntry.nonempty? s) :=
  setUnless_of (fun h => if_pos h) fun h => if_neg h

theorem setUnless_nonzero? (n : UInt32) : SetUnless 0 n (ReceivedEntry.nonzero? n) :=
  setUnless_of (fun h => if_pos h) fun h => if_neg h

theorem setUnless_nonemptyMap? (l : SortedMap String String) :
    SetUnless .empty l (ReceivedEntry.nonemptyMap? l) :=
  setUnless_of (fun h => if_pos (SortedMap.isEmpty_iff.mpr h))
    fun h => if_neg (mt SortedMap.isEmpty_iff.mp h)

theorem chosen_location (n : Int32) :
    Chosen Location.number .meshExternal n (Location.ofNumber n) := by
  unfold Location.ofNumber
  split
  next h => exact .inl h.symm
  next h =>
    refine or_iff_not_imp_left.mpr fun hother => ⟨?_, rfl⟩
    rintro (_ | _)
    · exact hother
    · exact Ne.symm h

theorem chosen_resolution (n : Int32) :
    Chosen Resolution.number .none n (Resolution.ofNumber n) := by
  unfold Resolution.ofNumber
  split
  next h => exact .inl h.symm
  split
  next h => exact .inl h.symm
  split
  next h => exact .inl h.symm
  next hstatic hdns hround =>
    refine or_iff_not_imp_left.mpr fun hother => ⟨?_, rfl⟩
    rintro (_ | _ | _ | _)
    · exact hother
    · exact Ne.symm hstatic
    · exact Ne.symm hdns
    · exact Ne.symm hround

theorem port_standsFor (s : StreamedPort) : PortStandsFor s (ReceivedEntry.port s) :=
  ⟨rfl, rfl, rfl, setUnless_nonzero? s.targetPort⟩

theorem mem_keptLabels_iff {label : String} : label ∈ ReceivedEntry.keptLabels ↔ Kept label := by
  simp [ReceivedEntry.keptLabels, Kept]

theorem endpoint_standsFor (s : StreamedEndpoint) :
    EndpointStandsFor s (ReceivedEntry.endpoint s) where
  address := rfl
  ports := rfl
  kept label h := by
    rw [← mem_keptLabels_iff] at h
    cases hlabel : s.labels.get? label <;> simp [ReceivedEntry.endpoint, hlabel, h]
  dropped label h := by
    rw [← mem_keptLabels_iff] at h
    cases hlabel : s.labels.get? label <;> simp [ReceivedEntry.endpoint, hlabel, h]
  network := setUnless_nonempty? s.network
  locality := setUnless_nonempty? s.locality
  weight := setUnless_nonzero? s.weight
  account := setUnless_nonempty? s.serviceAccount

theorem standsFor_entryOf (m : McpMetadata) (key : ObjectKey) (s : StreamedEntry) :
    StandsFor m key s (entryOf m key s) where
  labels := setUnless_nonemptyMap? m.labels
  annotations := setUnless_nonemptyMap? m.annotations
  metadata := rfl
  spec :=
    { hosts := rfl
      addresses := rfl
      ports := List.forall₂_map_right_iff.mpr
        (List.forall₂_same.mpr fun p _ => port_standsFor p)
      location := chosen_location s.location
      resolution := chosen_resolution s.resolution
      endpoints := List.forall₂_map_right_iff.mpr
        (List.forall₂_same.mpr fun x _ => endpoint_standsFor x)
      exportTo := rfl
      subjectAltNames := rfl }

/-! ## What is not kept -/

/-- Endpoints that differ in labels that are not kept. -/
structure AlikeEndpoints (s s' : StreamedEndpoint) : Prop where
  same : { s with labels := s'.labels } = s'
  kept : ∀ label, Kept label → s.labels.get? label = s'.labels.get? label

/-- Entries that differ in such labels. -/
structure AlikeEntries (s s' : StreamedEntry) : Prop where
  same : { s with endpoints := s'.endpoints } = s'
  endpoints : List.Forall₂ AlikeEndpoints s.endpoints s'.endpoints

/-- Bodies that differ, if at all, in how they write entries that differ in such labels. -/
inductive AlikeBodies : Option Any → Option Any → Prop where
  | same (body : Option Any) : AlikeBodies body body
  | packed {url : String} {value value' : List UInt8} {s s' : StreamedEntry}
      (read : StreamedEntry.decode? value = some s)
      (read' : StreamedEntry.decode? value' = some s') (alike : AlikeEntries s s') :
      AlikeBodies (some ⟨url, value⟩) (some ⟨url, value'⟩)

/-- Metadata that differ in the version and in the time. -/
def AlikeMetadata (m m' : McpMetadata) : Prop :=
  { m with version := m'.version, createTime := m'.createTime } = m'

/-- Resources that differ only in the version, in the time and in such labels. -/
structure McpResource.Alike (r r' : McpResource) : Prop where
  metadata : Option.Rel AlikeMetadata r.metadata r'.metadata
  body : AlikeBodies r.body r'.body

theorem endpoint_congr {s s' : StreamedEndpoint} (h : AlikeEndpoints s s') :
    ReceivedEntry.endpoint s = ReceivedEntry.endpoint s' := by
  have hlabels : s.labels.filter (fun k _ => ReceivedEntry.keptLabels.contains k) =
      s'.labels.filter fun k _ => ReceivedEntry.keptLabels.contains k := by
    -- Maps with the same look-ups are equal, and a label is either kept or dropped in both.
    refine SortedMap.ext_get? fun label => ?_
    have hs := endpoint_standsFor s
    have hs' := endpoint_standsFor s'
    by_cases hkept : Kept label
    · exact (hs.kept label hkept).trans ((h.kept label hkept).trans (hs'.kept label hkept).symm)
    · exact (hs.dropped label hkept).trans (hs'.dropped label hkept).symm
  rw [← h.same] at hlabels ⊢
  simp only [ReceivedEntry.endpoint, Endpoint.mk.injEq, true_and, and_true]
  exact hlabels

theorem serviceSpec_congr {s s' : StreamedEntry} (h : AlikeEntries s s') :
    ReceivedEntry.serviceSpec s = ReceivedEntry.serviceSpec s' := by
  have hendpoints : s.endpoints.map ReceivedEntry.endpoint =
      s'.endpoints.map ReceivedEntry.endpoint := by
    rw [← List.forall₂_eq_eq_eq, List.forall₂_map_left_iff, List.forall₂_map_right_iff]
    exact h.endpoints.imp fun _ _ => endpoint_congr
  rw [← h.same]
  simp [ReceivedEntry.serviceSpec, hendpoints]

theorem bodyEntry_congr {body body' : Option Any} (h : AlikeBodies body body') :
    (∃ err, bodyEntry body = .error err ∧ bodyEntry body' = .error err) ∨
      ∃ s s', Says body s ∧ Says body' s' ∧
        ReceivedEntry.serviceSpec s = ReceivedEntry.serviceSpec s' := by
  simp only [← bodyEntry_eq_ok_iff]
  cases h with
  | same =>
    cases hbody : bodyEntry body with
    | error err => exact .inl ⟨err, rfl, rfl⟩
    | ok s => exact .inr ⟨s, s, rfl, rfl, rfl⟩
  | @packed url value value' s s' hread hread' halike =>
    by_cases htype : IsEntryType url
    · refine .inr ⟨s, s', ?_, ?_, serviceSpec_congr halike⟩
      · exact bodyEntry_eq_ok_iff.mpr (.packed htype hread)
      · exact bodyEntry_eq_ok_iff.mpr (.packed htype hread')
    · -- A body of another type is refused by its type, whatever is in it.
      refine .inl ⟨.unsupportedType url, ?_, ?_⟩
      · exact bodyEntry_eq_error_iff.mpr ⟨_, rfl, .inl ⟨htype, rfl⟩⟩
      · exact bodyEntry_eq_error_iff.mpr ⟨_, rfl, .inl ⟨htype, rfl⟩⟩

/-- Resources that are alike are translated alike, or refused alike. -/
theorem translate_congr {r r' : McpResource} (h : r.Alike r') : translate r = translate r' := by
  obtain ⟨metadata, body⟩ := r
  obtain ⟨metadata', body'⟩ := r'
  obtain ⟨hmetadata, hbody⟩ := h
  cases hmetadata with
  | none => rfl
  | @some m m' hm =>
    -- Neither the version nor the time gets into the entry.
    have hentry (key : ObjectKey) (s : StreamedEntry) : entryOf m key s = entryOf m' key s := by
      rw [← hm]
      rfl
    have hnames : m.name = m'.name := by rw [← hm]
    cases hname : resourceKey m.name with
    | error err => rw [translate_of_name_error hname, translate_of_name_error (hnames ▸ hname)]
    | ok key =>
      have hname' : resourceKey m'.name = .ok key := hnames ▸ hname
      rcases bodyEntry_congr hbody with ⟨err, herr, herr'⟩ | ⟨s, s', hs, hs', hspec⟩
      · rw [translate_of_body_error hname herr, translate_of_body_error hname' herr']
      · rw [translate_of_accepted (resourceKey_eq_ok_iff_names.mp hname) hs,
          translate_of_accepted (resourceKey_eq_ok_iff_names.mp hname') hs', hentry]
        simp only [entryOf, ReceivedEntry.toEntry, hspec]

/-! ## The whole translation -/

/-- A resource is translated exactly if it has metadata, a name of two parts, and a body that is
absent or of the right type and readable; otherwise the first fault is reported. The entry has what
is kept of the resource, and what is not kept makes no difference. -/
theorem McpResource.translated_exactly :
    (∀ r : McpResource, (∃ e, translate r = .ok e) ↔
      ∃ m, r.metadata = some m ∧ (∃ key, Names m.name key) ∧
        (r.body = none ∨ ∃ packed s, r.body = some packed ∧ IsEntryType packed.typeUrl ∧
          StreamedEntry.decode? packed.value = some s)) ∧
    (∀ (r : McpResource) (err : DiscoveryError), translate r = .error err ↔ Refused r err) ∧
    (∀ (r : McpResource) (e : ServiceEntry), translate r = .ok e →
      ∃ m key s, r.metadata = some m ∧ Names m.name key ∧ Says r.body s ∧ StandsFor m key s e) ∧
    ∀ r r' : McpResource, r.Alike r' → translate r = translate r' := by
  refine ⟨fun r => ?_, fun r err => translate_eq_error_iff, fun r e h => ?_,
    fun r r' => translate_congr⟩
  · simp only [translate_eq_ok_iff]
    constructor
    · rintro ⟨e, m, key, s, hmetadata, hname, hbody, rfl⟩
      refine ⟨m, hmetadata, ⟨key, hname⟩, ?_⟩
      cases hpacked : r.body with
      | none => exact .inl rfl
      | some packed =>
        rw [hpacked, says_some_iff] at hbody
        exact .inr ⟨packed, s, rfl, hbody⟩
    · rintro ⟨m, hmetadata, ⟨key, hname⟩, hbody | ⟨packed, s, hbody, htype, hread⟩⟩
      · exact ⟨_, m, key, {}, hmetadata, hname, hbody ▸ .absent, rfl⟩
      · exact ⟨_, m, key, s, hmetadata, hname, hbody ▸ .packed htype hread, rfl⟩
  · obtain ⟨m, key, s, hmetadata, hname, hbody, rfl⟩ := translate_eq_ok_iff.mp h
    exact ⟨m, key, s, hmetadata, hname, hbody, standsFor_entryOf m key s⟩

/-- A resource whose location is no location and whose endpoint has a label that is not kept stands
for an entry; another value of that label and another version change nothing. A name of one part is
refused although the body has another type, too. -/
theorem racks_change_nothing :
    let spec (rack : String) : StreamedEntry :=
      { hosts := ["Shop.Example"], location := 7
        endpoints := [{ address := "10.0.0.1", labels := .ofList [("app", "shop"), ("rack", rack)] }] }
    let metadata (version : String) : McpMetadata := { name := "prod/Shop", version }
    let resource (version rack : String) : McpResource :=
      ⟨some (metadata version), some ⟨"", (spec rack).encode⟩⟩
    let unnamed : McpResource := ⟨some { name := "Shop" }, some ⟨TypeUrl.route, []⟩⟩
    (∃ e key, translate (resource "1" "a") = .ok e ∧ StandsFor (metadata "1") key (spec "a") e) ∧
      translate (resource "1" "a") = translate (resource "2" "b") ∧
      translate unnamed = .error (.invalidResourceName "Shop") := by
  intro spec metadata resource unnamed
  obtain ⟨haccepted, hrefused, hstands, halike⟩ := translated_exactly
  have hread : StreamedEntry.decode? (spec "a").encode = some (spec "a") := by decide +kernel
  have hread' : StreamedEntry.decode? (spec "b").encode = some (spec "b") := by decide +kernel
  refine ⟨?_, halike _ _ ⟨.some rfl, .packed hread hread' ⟨rfl, ?_⟩⟩, ?_⟩
  · have hname : Names "prod/Shop" ⟨"prod", "Shop"⟩ := by constructor <;> decide +kernel
    obtain ⟨e, he⟩ := (haccepted (resource "1" "a")).mpr
      ⟨_, rfl, ⟨_, hname⟩, .inr ⟨_, _, rfl, .inl rfl, hread⟩⟩
    obtain ⟨_, key, s, ⟨⟩, -, hbody, hentry⟩ := hstands _ e he
    obtain rfl : spec "a" = s := Option.some.inj (hread ▸ (says_some_iff.mp hbody).2)
    exact ⟨e, key, he, hentry⟩
  · refine .cons ⟨rfl, ?_⟩ .nil
    rintro _ (rfl | rfl) <;> decide +kernel
  · refine (hrefused _ _).mpr (.unnamed fun key hkey => ?_)
    have hslash : '/' ∉ "Shop".toList := by decide
    have hjoined : "Shop" = key.space ++ "/" ++ key.name := hkey.joined
    rw [hjoined] at hslash
    simp at hslash

/-! ## Names with slashes -/

/-- The names of resources are those that are put together from a namespace and a name, neither of
them empty and both without slashes. The addresses of types are those that are put together from
three parts without slashes. An address that is read is written again from its parts, and parts
without slashes are read from the address that they are written to. -/
theorem slashed_names_readBack (s : String) :
    (∀ space name, resourceKey s = .ok ⟨space, name⟩ ↔
      s = space ++ "/" ++ name ∧ space ≠ "" ∧ name ≠ "" ∧
        '/' ∉ space.toList ∧ '/' ∉ name.toList) ∧
    (∀ t, TypeName.ofUrl? s = some t ↔
      s = t.group ++ "/" ++ t.version ++ "/" ++ t.kind ∧ t.Slashless) ∧
    (∀ t, TypeName.ofUrl? s = some t → t.url = s) ∧
    ∀ t : TypeName, t.Slashless → TypeName.ofUrl? t.url = some t := by
  refine ⟨fun space name => resourceKey_eq_ok_iff, fun t => TypeName.ofUrl?_eq_some_iff, ?_, ?_⟩
  · intro t hread
    exact TypeName.url_of_ofUrl? hread
  · intro t hfree
    exact TypeName.ofUrl?_eq_some_iff.mpr ⟨rfl, hfree⟩

/-- A type whose parts are all empty but one, and a text with one slash, which is no address. -/
theorem sparse_address_readBack :
    let t : TypeName := ⟨"", "", "ServiceEntry"⟩
    TypeName.ofUrl? "//ServiceEntry" = some t ∧ t.url = "//ServiceEntry" ∧
      TypeName.ofUrl? t.url = some t ∧ resourceKey "//ServiceEntry" ≠ .ok ⟨"", "/ServiceEntry"⟩ := by
  intro t
  obtain ⟨hname, haddress, hwritten, hread⟩ := slashed_names_readBack "//ServiceEntry"
  have hfree : t.Slashless := ⟨by decide, by decide, by decide⟩
  have ht : TypeName.ofUrl? "//ServiceEntry" = some t := (haddress t).mpr ⟨by decide, hfree⟩
  refine ⟨ht, hwritten t ht, hread t hfree, fun hkey => ?_⟩
  exact absurd rfl ((hname _ _).mp hkey).2.1

end MeshRegistry
