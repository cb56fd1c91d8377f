import MeshRegistry.Proofs.Discovery.Pipeline
import MeshRegistry.Proofs.Discovery.Translation
/-!
# Resources that are sent again

The version of a resource is noted when its operation is taken up, and the operation is applied
later, perhaps in vain. Nobody takes the version back then. So a resource that is sent again with
the version that is noted brings nothing into the mesh: whether its entry is there is decided by
what had been taken up before.

## Main definitions

- `Pipeline.UndisturbedPush`: a resource is pushed while calls succeed, and nothing else happens
  to its object.

## Main results

- `exists_received_of_translate`, `isNamed_of_translate`: the entry of a resource has the name and
  the namespace in the name of the resource.
- `Pipeline.pushed_entry_present_iff`: exactly when the entry of a pushed resource is in the mesh
  once the queue is empty.
- `Pipeline.resent_entry_present_iff`: what has not been brought by the first push of a version is
  not brought by another one.
-/

namespace MeshRegistry

/-! ## The names of translated entries -/

theorem Text.lowercase_ne_empty {s : String} (h : s ≠ "") : Text.lowercase s ≠ "" := by
  have hchars : s.toList ≠ [] := fun hnil => h (String.toList_eq_nil_iff.mp hnil)
  obtain ⟨c, rest, hcons⟩ := List.exists_cons_of_ne_nil hchars
  intro hempty
  have hlower : Text.lowerFrom [] s.toList = [] := by
    simpa [Text.lowercase] using hempty
  rw [hcons, Text.lowerFrom] at hlower
  -- Every character has an image of at least one character.
  have himage := (List.append_eq_nil_iff.mp hlower).1
  split at himage
  · cases himage
  · split at himage
    · split at himage <;> cases himage
    · cases himage

/-- A resource that can be translated is accepted under the key in its name. -/
theorem exists_received_of_translate {r : McpResource} {e : ServiceEntry}
    (h : translate r = .ok e) :
    ∃ m, ∃ received : ReceivedEntry, r.metadata = some m ∧
      resourceKey m.name = .ok received.key ∧ received.toEntry = e := by
  obtain ⟨m, key, s, hmetadata, hname, -, rfl⟩ := translate_eq_ok_iff.mp h
  exact ⟨m, _, hmetadata, resourceKey_eq_ok_iff_names.mpr hname, rfl⟩

/-- The entry of a resource has a name and a namespace, as the resource has both. -/
theorem isNamed_of_translate {r : McpResource} {e : ServiceEntry} (h : translate r = .ok e) :
    MeshStore.isNamed e = true := by
  obtain ⟨m, received, -, hname, rfl⟩ := exists_received_of_translate h
  obtain ⟨-, hspace, hlocal, -, -⟩ := resourceKey_eq_ok_iff.mp hname
  have hlower := Text.lowercase_ne_empty hlocal
  simp [MeshStore.isNamed, ServiceEntry.space, ServiceEntry.name, ReceivedEntry.toEntry, hspace,
    hlower]

namespace Pipeline

/-! ## Pushes -/

/-- The pipeline can be reached: its client was new when the mesh had had some history. -/
def Reached (s : Pipeline) : Prop :=
  ∃ config files client reference history steps,
    DiscoveryClient.create config files = .ok client ∧
      s = (Pipeline.mk client ((Mesh.fresh reference).after history) .idle).run steps

/-- The next resource to be taken up has the name and the version, and stands for the entry, which
has endpoints. -/
def Pushes (s : Pipeline) (name version : String) (e : ServiceEntry) : Prop :=
  ∃ r a rest resource m, s.receiving = .working r (a :: rest) ∧
    McpResource.decode? a.value = some resource ∧ resource.metadata = some m ∧
    m.name = name ∧ m.version = version ∧ translate resource = .ok e ∧ e.spec.endpoints ≠ []

/-- A resource is pushed, and then nothing but the passing on of operations happens to its
object. -/
structure UndisturbedPush (s : Pipeline) (name version : String) (e : ServiceEntry)
    (later : List Step) : Prop where
  pushes : s.Pushes name version e
  /-- Calls are accepted again, and none fails from now on. -/
  up : s.mesh.store.down = false
  calm : ∀ step ∈ later, step.Calm
  /-- What is taken up later concerns other objects. -/
  alone : ∀ op ∈ (s.step .receive).takenUp later, op.entry.key ≠ e.key
  /-- At the end nothing is due any more. -/
  drained : (s.run (.receive :: later)).due = []
  /-- The object that the entry meets, if any, does not ask for a merge. -/
  unmarked : ∀ old, s.settled.stored? e.key = some old → old.annotation? mergeAnnotation = none

section Reached

variable {s : Pipeline}

theorem Reached.open (h : s.Reached) : s.Open := by
  obtain ⟨config, files, client, reference, history, steps, hcreate, rfl⟩ := h
  exact (open_of_create hcreate _).run steps

theorem Reached.run (h : s.Reached) (more : List Step) : (s.run more).Reached := by
  obtain ⟨config, files, client, reference, history, steps, hcreate, rfl⟩ := h
  exact ⟨config, files, client, reference, history, steps ++ more, hcreate,
    List.foldl_append.symm⟩

theorem Reached.keyed (h : s.Reached) : s.mesh.Keyed := by
  obtain ⟨config, files, client, reference, history, steps, -, rfl⟩ := h
  refine keyed_run (Mesh.keyed_after ?_ history) steps
  intro key e he
  cases he

end Reached

section Push

variable {s : Pipeline} {name version : String} {e : ServiceEntry} {later : List Step}

/-- A resource is taken up unless its version is noted, whatever has become of the operation that
the version was noted for. -/
theorem Pushes.taken (h : s.Pushes name version e) :
    s.taken .receive =
      if s.client.resourceVersions.get? name = some version then [] else [.upsert e] := by
  obtain ⟨r, a, rest, resource, m, hreceiving, hdecode, hmetadata, rfl, rfl, htranslate,
    hendpoints⟩ := h
  have hconsider : (s.client.consider a).2 =
      if s.client.resourceVersions.get? m.name = some m.version then none
      else some (.upsert e) := by
    simp only [DiscoveryClient.consider, hdecode, hmetadata, htranslate, if_neg hendpoints]
    split <;> rfl
  simp only [Pipeline.taken, hreceiving, hconsider]
  split <;> rfl

theorem Pushes.isNamed (h : s.Pushes name version e) : MeshStore.isNamed e = true := by
  obtain ⟨r, a, rest, resource, m, -, -, -, -, -, htranslate, -⟩ := h
  exact isNamed_of_translate htranslate

/-- What the object of a pushed resource comes to is settled when the resource is taken up. -/
theorem UndisturbedPush.stored?_eq (hs : s.Reached) (h : s.UndisturbedPush name version e later) :
    (s.run (.receive :: later)).mesh.stored? e.key =
      (applyInOrder (s.taken .receive) s.settled).stored? e.key := by
  have hcalm : Step.Calm .receive := trivial
  -- With nothing due, the mesh at the end is the settled one, and later operations are about others.
  have hsettled : (s.run (.receive :: later)).settled =
      applyInOrder ((s.step .receive).takenUp later) (s.step .receive).settled :=
    settled_run (hs.open.step .receive) (up_step h.up hcalm) h.calm
  have hdrained : (s.run (.receive :: later)).settled = (s.run (.receive :: later)).mesh := by
    rw [settled, h.drained]
    rfl
  have hkeyed : (applyInOrder (s.taken .receive) s.settled).Keyed :=
    keyed_applyInOrder (keyed_applyInOrder hs.keyed _) _
  rw [← hdrained, hsettled, settled_step hs.open h.up hcalm]
  exact stored?_applyInOrder_of_ne hkeyed h.alone

end Push

end Pipeline

/-- The mesh has an object for the entry, with its specification. -/
def Mesh.Has (m : Mesh) (e : ServiceEntry) : Prop :=
  ∃ object, m.stored? e.key = some object ∧ object.spec = e.spec

namespace Pipeline

/-- When a resource with endpoints has been pushed and the queue is empty, the mesh has its entry
exactly if the version was not noted, or if the entry is there on account of what was due
already. An earlier operation that has failed does not count, but its version is noted. -/
theorem pushed_entry_present_iff {s : Pipeline} {name version : String} {e : ServiceEntry}
    {later : List Step} (hs : s.Reached) (h : s.UndisturbedPush name version e later) :
    (s.run (.receive :: later)).mesh.Has e ↔
      s.client.resourceVersions.get? name ≠ some version ∨ s.settled.Has e := by
  unfold Mesh.Has
  rw [h.stored?_eq hs, h.pushes.taken]
  by_cases hnoted : s.client.resourceVersions.get? name = some version
  · rw [if_pos hnoted]
    exact (or_iff_right (not_not.mpr hnoted)).symm
  · rw [if_neg hnoted]
    refine iff_of_true ?_ (.inl hnoted)
    -- Nothing is in the way of the operation: the entry is created or replaces the object.
    have hup : s.settled.store.down = false := (down_applyInOrder s.due s.mesh).trans h.up
    have hkeyed : s.settled.Keyed := keyed_applyInOrder hs.keyed s.due
    obtain ⟨object, hobject, hspec⟩ :=
      Mesh.exists_stored_applyTo hup hkeyed h.pushes.isNamed
    refine ⟨object, hobject, ?_⟩
    rw [hspec]
    cases hold : s.settled.stored? e.key with
    | none => rfl
    | some old => exact spec_applied_of_unmarked (h.unmarked old hold)

/-! ## Sending again -/

/-- The version is the one noted under the name. -/
def Notes (c : DiscoveryClient) (name version : String) : Prop :=
  c.resourceVersions.get? name = some version

/-- The metadata of the resource that a step takes up, if any. -/
def considered? (s : Pipeline) : Step → Option McpMetadata
  | .answer _ => none
  | .receive =>
    match s.receiving with
    | .idle => none
    | .working _ [] => none
    | .working _ (a :: _) => (McpResource.decode? a.value).bind (·.metadata)
    | .sending _ _ _ => none
  | .apply _ => none
  | .outage _ => none

/-- Along some steps the name comes with no other version. -/
def Sticks (s : Pipeline) (name version : String) : List Step → Prop
  | [] => True
  | first :: rest =>
    (∀ m, s.considered? first = some m → m.name = name → m.version = version) ∧
      (s.step first).Sticks name version rest

section Notes

variable {s : Pipeline} {c : DiscoveryClient} {name version : String}

/-- A resource under another name, or with the noted version, leaves the note alone. -/
theorem Notes.consider (h : Notes c name version) {a : Any}
    (ha : ∀ m, (McpResource.decode? a.value).bind (·.metadata) = some m → m.name = name →
      m.version = version) : Notes (c.consider a).1 name version := by
  unfold DiscoveryClient.consider
  cases hdecode : McpResource.decode? a.value with
  | none => exact h
  | some resource =>
    cases hmetadata : resource.metadata with
    | none => simpa [hmetadata] using h
    | some m =>
      have hversion := ha m (by simp [hdecode, hmetadata])
      simp only [hmetadata]
      split
      · exact h
      next hnew =>
        -- The noted version of this name would have been recognized.
        have hname : name ≠ m.name := by
          rintro rfl
          rw [hversion rfl] at hnew
          exact hnew h
        split
        · exact h
        · split <;> simpa [Notes, hname] using h

theorem Notes.step (h : Notes s.client name version) {step : Step}
    (hstep : ∀ m, s.considered? step = some m → m.name = name → m.version = version) :
    Notes (s.step step).client name version := by
  cases step with
  | answer r =>
    show (s.takeIn r).client.resourceVersions.get? name = some version
    rw [(sameEntries_takeIn s r).resourceVersions]
    exact h
  | receive =>
    show Notes s.goOn.client name version
    cases hreceiving : s.receiving with
    | idle => simpa [goOn, hreceiving] using h
    | working r rest =>
      cases rest with
      | nil =>
        have hversions := (sameEntries_finish s.client r).resourceVersions
        simpa [goOn, hreceiving, Notes, hversions] using h
      | cons a rest =>
        have hconsidered : Notes (s.client.consider a).1 name version := by
          refine h.consider fun m hm => hstep m ?_
          simpa [considered?, hreceiving] using hm
        cases hconsider : s.client.consider a with
        | mk client op =>
          rw [hconsider] at hconsidered
          cases op <;> simpa [goOn, hreceiving, hconsider] using hconsidered
    | sending r op rest =>
      cases hroom : s.client.operations.room <;> simpa [goOn, hreceiving, hroom, Notes] using h
  | apply faults =>
    show Notes (s.applyOldest faults).client name version
    unfold applyOldest
    split <;> exact h
  | outage down => exact h

theorem Notes.run (h : Notes s.client name version) {steps : List Step}
    (hsteps : s.Sticks name version steps) : Notes (s.run steps).client name version := by
  induction steps generalizing s with
  | nil => exact h
  | cons first rest ih => exact ih (h.step hsteps.1) hsteps.2

/-- A resource with endpoints that has been taken up, or passed over, is noted. -/
theorem Pushes.notes {e : ServiceEntry} (h : s.Pushes name version e) :
    Notes (s.step .receive).client name version := by
  obtain ⟨r, a, rest, resource, m, hreceiving, hdecode, hmetadata, rfl, rfl, htranslate,
    hendpoints⟩ := h
  by_cases hnoted : s.client.resourceVersions.get? m.name = some m.version
  · simp [Pipeline.step, goOn, hreceiving, DiscoveryClient.consider, hdecode, hmetadata, hnoted,
      Notes]
  · simp [Pipeline.step, goOn, hreceiving, DiscoveryClient.consider, hdecode, hmetadata, hnoted,
      htranslate, hendpoints, Notes]

end Notes

/-- A resource that is sent again with an unchanged version changes nothing: its entry is there
exactly if what was due already has put it there. -/
theorem resent_entry_present_iff {s : Pipeline} {name version : String} {e first : ServiceEntry}
    {between later : List Step} (hs : s.Reached) (hfirst : s.Pushes name version first)
    (hbetween : (s.step .receive).Sticks name version between)
    (h : ((s.step .receive).run between).UndisturbedPush name version e later) :
    (((s.step .receive).run between).run (.receive :: later)).mesh.Has e ↔
      ((s.step .receive).run between).settled.Has e := by
  have hreached : ((s.step .receive).run between).Reached := hs.run (.receive :: between)
  have hnotes : ((s.step .receive).run between).client.resourceVersions.get? name = some version :=
    hfirst.notes.run hbetween
  unfold Mesh.Has
  rw [h.stored?_eq hreached, h.pushes.taken, if_pos hnotes]
  rfl

/-! ## Runs with one service -/

namespace Sample

/-- A new client of a server. -/
def client : DiscoveryClient where
  config :=
    { address := "localhost:18848"
      identity := { id := "router~10.0.0.9~sync.mesh~mesh.svc", locality := none,
                    metadata := .empty } }
  operations := ⟨50, [], true, true⟩

/-- The service has endpoints at the given addresses. -/
def resource (name : String) (addresses : List String) : McpResource where
  metadata := some { name, version := "1" }
  body :=
    let spec : StreamedEntry :=
      { hosts := ["orders"], endpoints := addresses.map fun address => { address } }
    some { typeUrl := TypeUrl.istioServiceEntry, value := spec.encode }

/-- An answer with one resource. -/
def answer (name : String) (addresses : List String) : DiscoveryResponse where
  typeUrl := TypeUrl.serviceEntry
  resources := [{ value := (resource name addresses).encode }]

/-- The entry that the service stands for while it has an endpoint. -/
def entry : ServiceEntry where
  metadata := { name := some "orders", space := some "default" }
  spec := { hosts := ["orders"], endpoints := [{ address := "10.0.0.1" }] }

/-- The client is new and the mesh is empty. -/
def start : Pipeline := ⟨client, (Mesh.fresh { name := "registry" }).after [], .idle⟩

/-- The answer with the service arrives and is handled to its end. -/
def pushed : List Step :=
  [.answer (answer "default/orders" ["10.0.0.1"]), .receive, .receive, .receive]

theorem create_client : DiscoveryClient.create client.config {} = .ok client :=
  DiscoveryClient.create_eq_ok_iff.mpr ⟨by decide +kernel, by decide, rfl⟩

end Sample

/-- The service was applied when it arrived first, so it is there when it has been sent again. -/
theorem resent_entry_present :
    let s := Sample.start.run (Sample.pushed ++
      [.apply [], .answer (Sample.answer "default/orders" ["10.0.0.1"])])
    s.Reached ∧ s.UndisturbedPush "default/orders" "1" Sample.entry [.receive] ∧
      (s.run [.receive, .receive]).mesh.Has Sample.entry := by
  intro s
  have hreached : s.Reached :=
    ⟨_, _, _, _, [], _, Sample.create_client, rfl⟩
  have hstored : s.settled.stored? Sample.entry.key =
      some (Sample.entry.withVersion (some "1")) := by
    decide +kernel
  have hpush : s.UndisturbedPush "default/orders" "1" Sample.entry [.receive] := by
    refine ⟨?_, by decide +kernel, ?_, by decide +kernel, by decide +kernel, ?_⟩
    · exact ⟨Sample.answer "default/orders" ["10.0.0.1"],
        { value := (Sample.resource "default/orders" ["10.0.0.1"]).encode }, [],
        Sample.resource "default/orders" ["10.0.0.1"],
        { name := "default/orders", version := "1" }, by decide +kernel, by decide +kernel, rfl,
        rfl, rfl, by decide +kernel, by decide⟩
    · intro step hstep
      rw [List.mem_singleton.mp hstep]
      trivial
    · intro old hold
      obtain rfl := Option.some.inj (hstored.symm.trans hold)
      rfl
  exact ⟨hreached, hpush, (pushed_entry_present_iff hreached hpush).mpr (.inr ⟨_, hstored, rfl⟩)⟩

/-- The service is applied in vain during an outage, or is taken out again by a resource whose name
differs in capital letters. Sent again with the same version, it is missing for good. -/
theorem resent_entry_missing :
    let again : List Step :=
      [.answer (Sample.answer "default/orders" ["10.0.0.1"]), .receive, .receive]
    let afterOutage := Sample.start.run (Sample.pushed ++
      [.outage true, .apply [], .outage false] ++ again)
    let afterRemoval := Sample.start.run (Sample.pushed ++
      [.apply [], .answer (Sample.answer "default/Orders" []), .receive, .receive, .receive,
        .apply []] ++ again)
    (afterOutage.mesh.store.down = false ∧ afterOutage.due = [] ∧
        afterOutage.receiving = .idle ∧ afterOutage.mesh.stored? Sample.entry.key = none) ∧
      afterRemoval.due = [] ∧ afterRemoval.receiving = .idle ∧
        afterRemoval.mesh.stored? Sample.entry.key = none := by
  decide +kernel

end Pipeline

end MeshRegistry
