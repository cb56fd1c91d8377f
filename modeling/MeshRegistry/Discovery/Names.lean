import MeshRegistry.Entry.Basic
import MeshRegistry.Text.Pieces
/-!
# Names on the discovery stream

The names on the discovery stream are put together with slashes: the address of a type from a
group, a version and a kind, the name of a resource from a namespace and a name. A slash only ever
separates, so the parts themselves have none. A name that is put together differently is one of the
errors of the discovery client.

## Main definitions

- `DiscoveryError`, `DiscoveryError.message?`: why the client fails, and how that is worded.
- `TypeName`, `TypeName.ofUrl?`, `TypeName.url`: the address of a type in three parts.
- `resourceKey`: the namespace and the name in the name of a resource.
-/

namespace MeshRegistry

/-! ## Errors -/

/-- Why the discovery client fails. -/
inductive DiscoveryError where
  /-- The name of a resource does not consist of a namespace and a name. -/
  | invalidResourceName (name : String)
  /-- The body of a resource is of another type. -/
  | unsupportedType (typeUrl : String)
  /-- A resource has no metadata. -/
  | missingMetadata
  /-- The client is closed. -/
  | closed
  /-- The octets of a message cannot be read. -/
  | undecodable
  /-- The address of the server is none. -/
  | invalidAddress
  /-- The queue of operations would have more room than any queue. -/
  | queueTooLong
deriving DecidableEq, Repr

namespace DiscoveryError

/-- How a failure is worded, where the wording is this library's. -/
def message? : DiscoveryError → Option String
  | .invalidResourceName name =>
    some ("invalid resource name " ++ name ++ ", expected namespace/name")
  | .unsupportedType typeUrl => some ("unsupported resource type " ++ typeUrl)
  | .missingMetadata => some "resource without metadata"
  | .closed => some "discovery client closed"
  | .undecodable => none
  | .invalidAddress => none
  | .queueTooLong => none

end DiscoveryError

/-! ## Types of resources -/

/-- The name of a type of resources in its three parts. -/
structure TypeName where
  /-- The group of types. -/
  group : String
  /-- The version of the group. -/
  version : String
  /-- The kind within the group. -/
  kind : String
deriving DecidableEq, Repr

namespace TypeName

/-- The parts of an address of a type; nothing unless it has exactly three. -/
def ofUrl? (url : String) : Option TypeName :=
  match Text.firstPieces '/' 3 url.toList with
  | [g, v, k] =>
    -- What is left behind the second slash is one part or more.
    if '/' ∈ k then none else some ⟨String.ofList g, String.ofList v, String.ofList k⟩
  | _ => none

/-- The address of a type, given its parts. -/
def url (t : TypeName) : String := t.group ++ "/" ++ t.version ++ "/" ++ t.kind

/-- No part of the name has a slash. -/
structure Slashless (t : TypeName) : Prop where
  group : '/' ∉ t.group.toList
  version : '/' ∉ t.version.toList
  kind : '/' ∉ t.kind.toList

theorem toList_url (t : TypeName) :
    t.url.toList = t.group.toList ++ '/' :: (t.version.toList ++ '/' :: t.kind.toList) := by
  simp [url]

/-- The addresses that are read are those put together from three parts without slashes. -/
theorem ofUrl?_eq_some_iff {url : String} {t : TypeName} :
    ofUrl? url = some t ↔ url = t.url ∧ t.Slashless := by
  constructor
  · intro h
    unfold ofUrl? at h
    split at h
    next g v k hparts =>
      split at h
      · cases h
      next hk =>
        cases h
        obtain ⟨hurl, hg, hv⟩ := Text.firstPieces_eq_triple_iff.mp hparts
        refine ⟨String.toList_inj.mp ?_, by simpa using hg, by simpa using hv, by simpa using hk⟩
        simpa [toList_url] using hurl
    · cases h
  · rintro ⟨rfl, hg, hv, hk⟩
    simp [ofUrl?, Text.firstPieces_eq_triple_iff.mpr ⟨toList_url t, hg, hv⟩, hk]

theorem isSome_ofUrl?_iff {url : String} :
    (ofUrl? url).isSome ↔ (Text.split '/' url).length = 3 := by
  rw [Text.split, List.length_map]
  constructor
  · intro h
    obtain ⟨t, ht⟩ := Option.isSome_iff_exists.mp h
    obtain ⟨rfl, hg, hv, hk⟩ := ofUrl?_eq_some_iff.mp ht
    have hparts : Text.pieces '/' t.url.toList =
        [t.group.toList, t.version.toList, t.kind.toList] := by
      rw [Text.pieces_eq_iff (by simp), toList_url]
      simp [List.intercalate, hg, hv, hk]
    rw [hparts]
    rfl
  · intro h
    match hparts : Text.pieces '/' url.toList, h with
    | [g, v, k], _ =>
      obtain ⟨hurl, hfree⟩ := (Text.pieces_eq_iff (by simp)).mp hparts
      have hread : ofUrl? url = some ⟨String.ofList g, String.ofList v, String.ofList k⟩ := by
        refine ofUrl?_eq_some_iff.mpr ⟨String.toList_inj.mp ?_, ?_, ?_, ?_⟩
        · simpa [toList_url, List.intercalate] using hurl
        all_goals simp [hfree]
      rw [hread]
      rfl

/-- An address is put together from its parts. -/
theorem url_of_ofUrl? {url : String} {t : TypeName} (h : ofUrl? url = some t) : t.url = url :=
  (ofUrl?_eq_some_iff.mp h).1.symm

end TypeName

/-! ## Resources -/

/-- The namespace and the name in the name of a resource. Both must be given, with one slash
between them. -/
def resourceKey (name : String) : Except DiscoveryError ObjectKey :=
  match Text.cutFirst? '/' name.toList with
  | some (space, rest) =>
    if space = [] ∨ rest = [] ∨ '/' ∈ rest then .error (.invalidResourceName name)
    else .ok ⟨String.ofList space, String.ofList rest⟩
  | none => .error (.invalidResourceName name)

theorem resourceKey_eq_ok_iff {name : String} {key : ObjectKey} :
    resourceKey name = .ok key ↔
      name = key.space ++ "/" ++ key.name ∧ key.space ≠ "" ∧ key.name ≠ "" ∧
        '/' ∉ key.space.toList ∧ '/' ∉ key.name.toList := by
  have hcut : Text.cutFirst? '/' name.toList = some (key.space.toList, key.name.toList) ↔
      name = key.space ++ "/" ++ key.name ∧ '/' ∉ key.space.toList := by
    rw [Text.cutFirst?_eq_some_iff, ← String.toList_inj]
    simp
  constructor
  · intro h
    unfold resourceKey at h
    split at h
    next space rest hsides =>
      split at h
      · cases h
      next hgiven =>
        cases h
        obtain ⟨hspace, hrest, hslash⟩ := by simpa only [not_or] using hgiven
        obtain ⟨hname, hfree⟩ := hcut.mp (by simpa using hsides)
        exact ⟨hname, by simpa using hspace, by simpa using hrest, hfree, by simpa using hslash⟩
    · cases h
  · rintro ⟨hname, hspace, hrest, hfree, hslash⟩
    simp [resourceKey, hcut.mpr ⟨hname, hfree⟩, hspace, hrest, hslash]

/-- A name that is refused is told. -/
theorem resourceKey_eq_error_iff {name : String} {err : DiscoveryError} :
    resourceKey name = .error err ↔
      err = .invalidResourceName name ∧ ∀ key, resourceKey name ≠ .ok key := by
  unfold resourceKey
  split
  · split <;> simp [eq_comm]
  · simp [eq_comm]

end MeshRegistry
