import MeshRegistry.Proofs.Discovery.Pipeline
/-!
# What resources ask for, name by name

A resource that can be read and translated is an offer: it has a name, a version, and a service
entry. What a client makes of an offer depends on the offers of the same name before it and on
nothing else, although all names share one map of versions.

Read name by name, a client remembers one version. An offer with the remembered version is passed
over. Any other one is to be upserted and its version remembered, or, where its entry has no
endpoints, to be deleted and the version forgotten.

## Main definitions

- `Offer`, `Offer.of?`: offers, and the one in a resource.
- `Offer.reference`: the operations that the offers of one name give rise to.
- `Offer.stemsAfter`: offers in their order of arrival, each with the operation that stems from it.

## Main results

- `Offer.stemsAfter_of_name`: name by name, the operations are those of the reference.
- `Remembers.consider`: a client decides on a resource as its offers so far tell.
- `DiscoveryClient.yields_eq`: what comes of answers that are handled alone.
-/

namespace MeshRegistry

/-- A resource that can be used. -/
structure Offer where
  /-- The name of the resource. -/
  name : String
  /-- The version of the resource. -/
  version : String
  /-- The service entry that the resource stands for. -/
  entry : ServiceEntry
deriving DecidableEq

namespace Offer

/-- The offer in a resource. There is none where the resource cannot be decoded, has no metadata
or cannot be translated. -/
def of? (a : Any) : Option Offer :=
  (McpResource.decode? a.value).bind fun resource =>
    resource.metadata.bind fun m =>
      match translate resource with
      | .error _ => none
      | .ok entry => some ⟨m.name, m.version, entry⟩

/-- The version to remember after an offer, and the operation that it gives rise to. -/
def note (last : Option String) (o : Offer) : Option String × Option EntryOp :=
  if last = some o.version then (last, none)
  else if o.entry.spec.endpoints = [] then (none, some (.delete o.entry))
  else (some o.version, some (.upsert o.entry))

/-- The operations that the offers of one name give rise to, from a remembered version on. -/
def reference : Option String → List Offer → List EntryOp
  | _, [] => []
  | last, o :: rest => (o.note last).2.toList ++ reference (o.note last).1 rest

/-- The version that is remembered of a name after some offers. -/
def lastVersion (name : String) (seen : List Offer) : Option String :=
  (seen.filter (·.name = name)).foldl (fun last o => (o.note last).1) none

/-- The offers that give rise to an operation, and the operation of each, in the order in which
they arrive after some others. -/
def stemsAfter (seen : List Offer) : List Offer → List (Offer × EntryOp)
  | [] => []
  | o :: rest =>
    (o.note (lastVersion o.name seen)).2.toList.map (o, ·) ++ stemsAfter (seen ++ [o]) rest

/-- The operations that offers give rise to when they arrive after some others. -/
def opsAfter (seen offers : List Offer) : List EntryOp := (stemsAfter seen offers).map (·.2)

section Names

variable {o : Offer} {name : String}

theorem lastVersion_of_name (seen : List Offer) (h : o.name = name) :
    lastVersion name (seen ++ [o]) = (o.note (lastVersion name seen)).1 := by
  simp [lastVersion, h]

theorem lastVersion_of_ne (seen : List Offer) (h : o.name ≠ name) :
    lastVersion name (seen ++ [o]) = lastVersion name seen := by
  simp [lastVersion, h]

/-- Among the offers of one name the operations are those of the reference. -/
theorem stemsAfter_of_name (name : String) (seen offers : List Offer) :
    ((stemsAfter seen offers).filter (·.1.name = name)).map (·.2) =
      reference (lastVersion name seen) (offers.filter (·.name = name)) := by
  induction offers generalizing seen with
  | nil => rfl
  | cons o rest ih =>
    rw [stemsAfter, List.filter_append, List.map_append, ih]
    by_cases hname : o.name = name
    · -- An offer of the name takes the reference one step further.
      have hfilter : (o :: rest).filter (·.name = name) = o :: rest.filter (·.name = name) :=
        List.filter_cons_of_pos (by simpa using hname)
      rw [hfilter, reference, lastVersion_of_name seen hname, hname]
      congr 1
      cases (o.note (lastVersion name seen)).2 <;> simp [hname]
    · have hfilter : (o :: rest).filter (·.name = name) = rest.filter (·.name = name) :=
        List.filter_cons_of_neg (by simpa using hname)
      rw [hfilter, lastVersion_of_ne seen hname]
      cases (o.note (lastVersion o.name seen)).2 <;> simp [hname]

/-- Operations come in the order in which their offers have arrived. -/
theorem stemsAfter_sublist (seen offers : List Offer) :
    ((stemsAfter seen offers).map (·.1)).Sublist offers := by
  induction offers generalizing seen with
  | nil => exact List.Sublist.slnil
  | cons o rest ih =>
    -- An offer without an operation is left out, and no offer has more than one.
    have hrest := ih (seen ++ [o])
    rw [stemsAfter, List.map_append]
    cases (o.note (lastVersion o.name seen)).2 with
    | none => exact hrest.cons o
    | some op => exact hrest.cons_cons o

end Names

theorem opsAfter_cons (seen : List Offer) (o : Offer) (rest : List Offer) :
    opsAfter seen (o :: rest) =
      (o.note (lastVersion o.name seen)).2.toList ++ opsAfter (seen ++ [o]) rest := by
  rw [opsAfter, stemsAfter, List.map_append, opsAfter]
  cases (o.note (lastVersion o.name seen)).2 <;> rfl

theorem opsAfter_append (seen first rest : List Offer) :
    opsAfter seen (first ++ rest) = opsAfter seen first ++ opsAfter (seen ++ first) rest := by
  induction first generalizing seen with
  | nil => simp [opsAfter, stemsAfter]
  | cons o first ih => rw [List.cons_append, opsAfter_cons, opsAfter_cons, ih]; simp

end Offer

/-- The offers in resources, in their order. -/
def offersIn (resources : List Any) : List Offer := resources.filterMap Offer.of?

theorem offersIn_cons (a : Any) (rest : List Any) :
    offersIn (a :: rest) = (Offer.of? a).toList ++ offersIn rest := by
  cases hoffer : Offer.of? a <;> simp [offersIn, hoffer]

/-! ## The map of versions -/

/-- A client remembers of each name what the offers so far leave of it. -/
def Remembers (c : DiscoveryClient) (seen : List Offer) : Prop :=
  ∀ name, c.resourceVersions.get? name = Offer.lastVersion name seen

section Versions

variable {c c' : DiscoveryClient} {seen : List Offer} {a : Any} {o : Offer}

theorem Remembers.same (h : Remembers c seen) (hsame : Pipeline.SameEntries c c') :
    Remembers c' seen := by
  intro name
  rw [hsame.resourceVersions]
  exact h name

/-- A resource that cannot be used is passed over. -/
theorem consider_of_no_offer (c : DiscoveryClient) (h : Offer.of? a = none) :
    c.consider a = (c, none) := by
  unfold DiscoveryClient.consider
  unfold Offer.of? at h
  cases hdecode : McpResource.decode? a.value with
  | none => rfl
  | some resource =>
    cases hmetadata : resource.metadata with
    | none => simp [hmetadata]
    | some m =>
      cases htranslate : translate resource with
      | ok entry => simp [hdecode, hmetadata, htranslate] at h
      | error e => simp [hmetadata, htranslate]

/-- An offer is decided on by the version noted under its name, and only that note changes. -/
theorem consider_of_offer (c : DiscoveryClient) (h : Offer.of? a = some o) :
    (c.consider a).2 = (o.note (c.resourceVersions.get? o.name)).2 ∧
      ∀ name, (c.consider a).1.resourceVersions.get? name =
        if name = o.name then (o.note (c.resourceVersions.get? o.name)).1
        else c.resourceVersions.get? name := by
  simp only [Offer.of?, Option.bind_eq_some_iff] at h
  obtain ⟨resource, hdecode, m, hmetadata, hoffer⟩ := h
  cases htranslate : translate resource with
  | error e => simp [htranslate] at hoffer
  | ok entry =>
    obtain rfl : (⟨m.name, m.version, entry⟩ : Offer) = o := by simpa [htranslate] using hoffer
    simp only [DiscoveryClient.consider, hdecode, hmetadata, htranslate, Offer.note]
    -- The noted version decides first, then whether there are endpoints.
    by_cases hnoted : c.resourceVersions.get? m.name = some m.version
    · simp only [if_pos hnoted, true_and]
      intro name
      split <;> simp_all
    · simp only [if_neg hnoted]
      split
      · simp [SortedMap.get?_erase]
      · simp [SortedMap.get?_insert]

/-- A client that remembers the offers so far passes a resource over, or decides on it as the
offers tell and remembers it with them. -/
theorem Remembers.consider (h : Remembers c seen) (a : Any) :
    Remembers (c.consider a).1 (seen ++ (Offer.of? a).toList) ∧
      (c.consider a).2.toList = Offer.opsAfter seen (Offer.of? a).toList := by
  cases hoffer : Offer.of? a with
  | none => simpa [consider_of_no_offer c hoffer, Offer.opsAfter, Offer.stemsAfter] using h
  | some o =>
    obtain ⟨hop, hnoted⟩ := consider_of_offer c hoffer
    rw [h o.name] at hop hnoted
    constructor
    · intro name
      rw [hnoted name, h name]
      by_cases hname : o.name = name
      · rw [if_pos hname.symm, Option.toList_some, Offer.lastVersion_of_name seen hname, hname]
      · rw [if_neg (Ne.symm hname), Option.toList_some, Offer.lastVersion_of_ne seen hname]
    · rw [hop, Option.toList_some, Offer.opsAfter_cons]
      simp [Offer.opsAfter, Offer.stemsAfter]

end Versions

/-! ## Answers that are handled alone -/

/-- The resources that answers bring as service entries. -/
def entryResources (answers : List DiscoveryResponse) : List Any :=
  (answers.filter fun r => Pipeline.takesEntries r.typeUrl).flatMap (·.resources)

namespace DiscoveryClient

/-- The client with a queue that is empty and has room for so many operations. -/
def withRoom (c : DiscoveryClient) (capacity : Nat) : DiscoveryClient :=
  { c with operations := ⟨capacity, [], true, true⟩ }

/-- The operations that answers give rise to when they are handled one by one and nobody waits:
every answer meets a queue with room for one operation of each of its resources. -/
def yields (c : DiscoveryClient) : List DiscoveryResponse → List EntryOp
  | [] => []
  | r :: rest =>
    let handled := ((c.withRoom r.resources.length).handle r).1
    handled.operations.items ++ handled.yields rest

section Alone

variable {c : DiscoveryClient} {seen : List Offer}

/-- With room for all of them, resources are worked through and none is left. -/
theorem work_with_room (h : Remembers c seen) (r : DiscoveryResponse) (rest : List Any)
    (hsender : c.operations.hasSender = true) (hreceiver : c.operations.hasReceiver = true)
    (hroom : c.operations.items.length + rest.length ≤ c.operations.capacity) :
    Remembers (c.work r rest).1 (seen ++ offersIn rest) ∧
      (c.work r rest).1.operations.items =
        c.operations.items ++ Offer.opsAfter seen (offersIn rest) := by
  induction rest generalizing c seen with
  | nil =>
    have hsame := Pipeline.sameEntries_finish c r
    rw [work, hsame.operations]
    exact ⟨by simpa [offersIn] using h.same hsame,
      by simp [offersIn, Offer.opsAfter, Offer.stemsAfter]⟩
  | cons a rest ih =>
    obtain ⟨hremembers, hop⟩ := h.consider a
    rw [offersIn_cons, ← List.append_assoc, Offer.opsAfter_append, ← hop, ← List.append_assoc, work]
    simp only [List.length_cons] at hroom
    cases hconsider : c.consider a with
    | mk considered op =>
      have hoperations : considered.operations = c.operations := by
        rw [← Pipeline.operations_consider c a, hconsider]
      rw [hconsider] at hremembers
      cases op with
      | none =>
        have hrest := ih hremembers (by rw [hoperations, hsender]) (by rw [hoperations, hreceiver])
          (by rw [hoperations]; omega)
        simpa [hoperations] using hrest
      | some op =>
        -- The operation takes one of the places, so one is left for each further resource.
        have hfree : c.operations.room = .free := by
          rw [Queue.room, hsender, hreceiver, Bool.and_self, if_pos rfl, if_pos (by omega)]
        have hrest := ih
          (c := { considered with operations := considered.operations.push op }) hremembers
          (by rw [Queue.push, hoperations, hsender]) (by rw [Queue.push, hoperations, hreceiver])
          (by simp only [Queue.push, hoperations, List.length_append, List.length_singleton]; omega)
        simpa [hfree, Queue.push, hoperations] using hrest

/-- What comes of answers is what comes of the offers in their resources, in one row. -/
theorem yields_eq (h : Remembers c seen) (answers : List DiscoveryResponse) :
    c.yields answers = Offer.opsAfter seen (offersIn (entryResources answers)) := by
  induction answers generalizing c seen with
  | nil => rfl
  | cons r rest ih =>
    have hroomy : Remembers (c.withRoom r.resources.length) seen := h
    rw [yields]
    cases htakes : Pipeline.takesEntries r.typeUrl with
    | true =>
      have hnoted : Remembers (((c.withRoom r.resources.length).noteReceived r.typeUrl).noteVersion
          r.typeUrl r.versionInfo) seen := hroomy
      obtain ⟨hremembers, hitems⟩ :=
        work_with_room hnoted r r.resources rfl rfl (Nat.le_of_eq (Nat.zero_add _))
      rw [← Pipeline.handle_of_takesEntries htakes] at hremembers hitems
      have hresources : entryResources (r :: rest) = r.resources ++ entryResources rest := by
        simp [entryResources, htakes]
      rw [hresources, offersIn, List.filterMap_append, Offer.opsAfter_append]
      rw [hitems, ih hremembers]
      rfl
    | false =>
      -- Such an answer leaves the empty queue empty and all notes as they are.
      obtain ⟨noted, hsame, -, hhandle⟩ :=
        Pipeline.handle_of_not_takesEntries (c.withRoom r.resources.length) htakes
      have hfinished := hsame.trans (Pipeline.sameEntries_finish noted r)
      have hresources : entryResources (r :: rest) = entryResources rest := by
        simp [entryResources, htakes]
      rw [hresources, hhandle, hfinished.operations, ih (hroomy.same hfinished)]
      rfl

end Alone

end DiscoveryClient

end MeshRegistry
