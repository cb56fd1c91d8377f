import MeshRegistry.Proofs.Mesh.Plain
import Mathlib.Data.List.Nodup
import Mathlib.Data.List.Perm.Basic
/-!
# Passes, one name at a time

On a plain mesh everything that has one name is independent of everything that has another: the
model knows an entry under its name, a host without underscores is written to its own name, and
collection removes the entry that has the name of the host. So a pass acts on every name by
itself, and what it does there depends on the endpoints of that host alone.

Versions are left out, as they count the writes to all names.

## Main definitions

- `Slot`, `Mesh.slot`: what the model and the store have under a name.
- `Reconciler.onSlot`: what a pass does to a name.

## Main results

- `Reconciler.slot_pass`: a pass acts on each name by itself.
-/

namespace MeshRegistry

/-- An entry without its version. -/
def ServiceEntry.unversioned (e : ServiceEntry) : ServiceEntry := e.withVersion none

@[simp] theorem ServiceEntry.spec_unversioned (e : ServiceEntry) : e.unversioned.spec = e.spec :=
  rfl

@[simp] theorem ServiceEntry.space_unversioned (e : ServiceEntry) :
    e.unversioned.space = e.space := rfl

/-- What the model and the store have under a name, versions left out. -/
structure Slot where
  /-- The entry that the model has among ours. -/
  owned : Option ServiceEntry
  /-- The entries that are stored, by namespace. -/
  stored : String → Option ServiceEntry

namespace Slot

/-- Nothing has the name. -/
def empty : Slot := ⟨none, fun _ => none⟩

/-- One entry has the name, and the model knows it. -/
def only (e : ServiceEntry) : Slot where
  owned := some e
  stored := fun space => if space = e.space then some e else none

/-- The slot after an entry has been written. The model is told of a new specification only. -/
def written (s : Slot) (e : ServiceEntry) : Slot where
  owned := if (s.stored e.space).map (·.spec) = some e.spec then s.owned else some e
  stored := fun space => if space = e.space then some e else s.stored space

/-- The slot after the entry in a namespace has been removed. -/
def removed (s : Slot) (space : String) : Slot where
  owned := none
  stored := fun other => if other = space then none else s.stored other

theorem ext {s t : Slot} (howned : s.owned = t.owned)
    (hstored : ∀ space, s.stored space = t.stored space) : s = t := by
  cases s
  cases t
  simp_all only [Slot.mk.injEq, true_and]
  exact funext hstored

@[simp] theorem owned_only (e : ServiceEntry) : (only e).owned = some e := rfl

@[simp] theorem stored_only (e : ServiceEntry) (space : String) :
    (only e).stored space = if space = e.space then some e else none := rfl

theorem written_empty (e : ServiceEntry) : empty.written e = only e := by
  refine ext ?_ fun space => rfl
  simp [written, empty]

/-- Another specification in the same namespace takes the place of the old one. -/
theorem written_only {e old : ServiceEntry} (hspace : e.space = old.space)
    (hspec : old.spec ≠ e.spec) : (only old).written e = only e := by
  refine ext ?_ fun space => ?_
  · simp [written, hspace, hspec]
  · by_cases h : space = old.space <;> simp [written, hspace, h]

theorem removed_only (e : ServiceEntry) : (only e).removed e.space = empty := by
  refine ext rfl fun space => ?_
  by_cases h : space = e.space <;> simp [removed, empty, h]

end Slot

namespace Mesh

/-- What the mesh has under a name. -/
def slot (m : Mesh) (name : String) : Slot where
  owned := (m.ownership.ours.get? name).map ServiceEntry.unversioned
  stored := fun space => (m.stored? ⟨space, name⟩).map ServiceEntry.unversioned

section Slots

variable {kind : RegistryKind} {m : Mesh} {e old : ServiceEntry} {key : ObjectKey} {name : String}

/-- A mesh differs by one written entry, of which the model was told if the specification is a new
one. -/
theorem slot_of_written {m' : Mesh}
    (hstored : ∀ key, m'.stored? key = if key = e.key then some (m.stamped e) else m.stored? key)
    (howned : ∀ host, m'.ownership.ours.get? host =
      if host = e.name ∧ (m.stored? e.key).map (·.spec) ≠ some e.spec then some (m.stamped e)
      else m.ownership.ours.get? host) :
    m'.slot name =
      if name = e.name then (m.slot name).written e.unversioned else m.slot name := by
  split
  next hname =>
    subst hname
    refine Slot.ext ?_ fun space => ?_
    · -- Whether the model was told depends on what was stored in the namespace of the entry.
      have hold : ((m.slot e.name).stored e.space).map (·.spec) =
          (m.stored? e.key).map (·.spec) := by
        simp [slot, ServiceEntry.key, Function.comp_def]
      show (m'.ownership.ours.get? e.name).map ServiceEntry.unversioned =
        if ((m.slot e.name).stored e.space).map (·.spec) = some e.spec then (m.slot e.name).owned
        else some e.unversioned
      rw [howned, hold]
      by_cases hspec : (m.stored? e.key).map (·.spec) = some e.spec
      · simp [hspec, slot]
      · simp [hspec]
        rfl
    · by_cases hspace : space = e.space
      · simp [slot, Slot.written, hstored, hspace, ServiceEntry.key]
        rfl
      · simp [slot, Slot.written, hstored, hspace, ServiceEntry.key]
  next hname =>
    refine Slot.ext ?_ fun space => ?_
    · simp [slot, howned, hname]
    · simp [slot, hstored, ServiceEntry.key, hname]

theorem slot_created (h : m.Plain kind) (he : PlainEntry kind m.ownership.reference e)
    (habsent : m.stored? e.key = none) :
    (m.created e).slot name =
      if name = e.name then (m.slot name).written e.unversioned else m.slot name := by
  refine slot_of_written (fun key => stored?_created m e key) fun host => ?_
  rw [ours_created h he, habsent]
  simp

theorem slot_replaced (h : m.Plain kind) (he : PlainEntry kind m.ownership.reference e)
    (hold : m.stored? e.key = some old) :
    (m.replaced old e).slot name =
      if name = e.name then (m.slot name).written e.unversioned else m.slot name := by
  refine slot_of_written (fun key => stored?_replaced m e old key) fun host => ?_
  rw [ours_replaced h he hold, hold]
  simp

theorem slot_removed (h : m.Plain kind) (hold : m.stored? key = some old) :
    (m.removed key old).slot name =
      if name = key.name then (m.slot name).removed key.space else m.slot name := by
  split
  next hname =>
    subst hname
    refine Slot.ext ?_ fun space => ?_
    · simp [slot, Slot.removed, ours_removed h hold]
    · by_cases hspace : space = key.space
      · subst hspace
        simp [slot, Slot.removed]
      · have hkey : (⟨space, key.name⟩ : ObjectKey) ≠ key := fun hkey =>
          hspace (congrArg ObjectKey.space hkey)
        simp [slot, Slot.removed, hspace, hkey]
  next hname =>
    refine Slot.ext ?_ fun space => ?_
    · simp [slot, ours_removed h hold, hname]
    · have hkey : (⟨space, name⟩ : ObjectKey) ≠ key := fun hkey =>
        hname (congrArg ObjectKey.name hkey)
      simp [slot, hkey]

/-- A mesh that nobody has written to, followed by a model. -/
structure Pristine (m : Mesh) : Prop where
  /-- The model follows the store. -/
  announced : m.announced = true
  /-- Nothing is stored. -/
  stored : ∀ key, m.stored? key = none
  /-- Nothing is ours. -/
  ours : ∀ host, m.ownership.ours.get? host = none
  /-- Nothing is theirs. -/
  theirs : ∀ host, m.ownership.theirs.get? host = none

theorem Pristine.plain (h : m.Pristine) : m.Plain kind where
  announced := h.announced
  theirs := h.theirs
  stored key e he := by
    rw [h.stored] at he
    cases he
  ours host e he := by
    rw [h.ours] at he
    cases he

theorem Pristine.slot (h : m.Pristine) (name : String) : m.slot name = .empty := by
  refine Slot.ext ?_ fun space => ?_
  · simp [Mesh.slot, h.ours, Slot.empty]
  · simp [Mesh.slot, h.stored, Slot.empty]

end Slots

end Mesh

namespace Reconciler

/-! ## What the steps of a pass do to a name -/

section Steps

variable {r : Reconciler} {m : Mesh} {snapshot : Snapshot}
  {ours : SortedMap String ServiceEntry} {host name : String} {endpoints : List Endpoint}

/-- What writing the entry of a host does to its name. -/
def writeSlot (r : Reconciler) (host : String) (endpoints : List Endpoint) (s : Slot) : Slot :=
  if r.space ≠ "" ∧ host ≠ "" then s.written (r.builder.build host endpoints) else s

/-- What a pass does to the name of a host, given the endpoints of the host if it has any. -/
def onSlot (r : Reconciler) (host : String) (cached : Option (List Endpoint)) (s : Slot) : Slot :=
  match cached, s.owned with
  | some endpoints, some e =>
    if e.spec.endpoints = endpoints then s else r.writeSlot host endpoints s
  | some endpoints, none => r.writeSlot host endpoints s
  | none, some e =>
    if Text.startsWith host r.hostPrefix ∧ e.space = r.space then s.removed r.space else s
  | none, none => s

section Equations

variable {s : Slot} {e : ServiceEntry}

theorem onSlot_cached_owned (h : s.owned = some e) :
    r.onSlot host (some endpoints) s =
      if e.spec.endpoints = endpoints then s else r.writeSlot host endpoints s := by
  simp [onSlot, h]

theorem onSlot_cached_free (h : s.owned = none) :
    r.onSlot host (some endpoints) s = r.writeSlot host endpoints s := by
  simp [onSlot, h]

theorem onSlot_gone_owned (h : s.owned = some e) :
    r.onSlot host none s =
      if Text.startsWith host r.hostPrefix ∧ e.space = r.space then s.removed r.space else s := by
  simp [onSlot, h]

theorem onSlot_gone_free (h : s.owned = none) : r.onSlot host none s = s := by
  simp [onSlot, h]

theorem onSlot_cached_empty (hnamed : r.space ≠ "" ∧ host ≠ "") :
    r.onSlot host (some endpoints) .empty = .only (r.builder.build host endpoints) := by
  rw [onSlot_cached_free rfl, writeSlot, if_pos hnamed, Slot.written_empty]

/-- The right endpoints are kept. -/
theorem onSlot_cached_only (h : e.spec.endpoints = endpoints) :
    r.onSlot host (some endpoints) (.only e) = .only e := by
  rw [onSlot_cached_owned rfl, if_pos h]

/-- Other endpoints in the target namespace are replaced. -/
theorem onSlot_cached_only_of_ne (hnamed : r.space ≠ "" ∧ host ≠ "") (hspace : e.space = r.space)
    (h : e.spec.endpoints ≠ endpoints) :
    r.onSlot host (some endpoints) (.only e) = .only (r.builder.build host endpoints) := by
  rw [onSlot_cached_owned rfl, if_neg h, writeSlot, if_pos hnamed, Slot.written_only]
  · exact hspace.symm
  · intro hspec
    exact h (congrArg ServiceSpec.endpoints hspec)

theorem onSlot_gone_empty : r.onSlot host none .empty = .empty := onSlot_gone_free rfl

theorem onSlot_gone_only :
    r.onSlot host none (.only e) =
      if Text.startsWith host r.hostPrefix ∧ e.space = r.space then .empty else .only e := by
  rw [onSlot_gone_owned rfl]
  split
  next h => rw [← h.2, Slot.removed_only]
  next => rfl

end Equations

@[simp] theorem space_build : (r.builder.build host endpoints).space = r.space := rfl

theorem name_build (h : '_' ∉ host.toList) : (r.builder.build host endpoints).name = host :=
  HostName.formatted_of_not_mem h

theorem slot_writeHost (h : r.Serves m) (hhost : '_' ∉ host.toList) :
    ((r.writeHost host endpoints).run Mesh.api m).2.slot name =
      if name = host then r.writeSlot host endpoints (m.slot host) else m.slot name := by
  have hformatted := HostName.formatted_of_not_mem hhost
  rcases writeHost_cases h.up r host endpoints with
    ⟨current, hname, hcurrent, hrun⟩ | ⟨hname, -, habsent, hrun⟩ | ⟨hplaced, hrun⟩
  · rw [hrun, Mesh.slot_replaced h.plain (plainEntry_build h.owner hname) hcurrent,
      name_build hhost]
    have hnamed : r.space ≠ "" ∧ host ≠ "" := ⟨hname.1, hformatted ▸ hname.2⟩
    split
    next heq =>
      subst heq
      rw [writeSlot, if_pos hnamed]
      rfl
    next => rfl
  · rw [hrun, Mesh.slot_created h.plain (plainEntry_build h.owner hname) habsent,
      name_build hhost]
    have hnamed : r.space ≠ "" ∧ host ≠ "" := ⟨hname.1, hformatted ▸ hname.2⟩
    split
    next heq =>
      subst heq
      rw [writeSlot, if_pos hnamed]
      rfl
    next => rfl
  · -- The namespace exists, so only an entry without a name or a namespace is refused.
    have hnamed : ¬ (r.space ≠ "" ∧ host ≠ "") := fun hnamed => by
      have hmissing := (hplaced ⟨hnamed.1, by rw [hformatted]; exact hnamed.2⟩).1
      rw [h.space] at hmissing
      cases hmissing
    rw [hrun, writeSlot, if_neg hnamed]
    split
    next heq => rw [heq]
    next => rfl

/-- On a plain mesh nothing is theirs, so a host without an entry of ours is always written. -/
theorem rewrites_none (h : r.Serves m) : Rewrites m.ownership host endpoints none := by
  show m.ownership.classify host ≠ .them
  have htheirs : m.ownership.theirs.contains host = false := by
    simp [SortedMap.contains, h.plain.theirs]
  unfold OwnershipModel.classify
  rw [htheirs]
  split <;> simp

/-- Visiting a host acts on its name alone. -/
theorem slot_visited (h : r.Serves m) (hhost : '_' ∉ host.toList)
    (hcached : snapshot.get? host = some endpoints)
    (howned : (ours.get? host).map ServiceEntry.unversioned = (m.slot host).owned) :
    (r.visited snapshot ours m host).slot name =
      if name = host then r.onSlot host (some endpoints) (m.slot host) else m.slot name := by
  unfold visited
  rw [hcached]
  dsimp only
  cases hours : ours.get? host with
  | none =>
    rw [hours] at howned
    rw [run_reconcileHost_of_rewrites (rewrites_none h), slot_writeHost h hhost,
      onSlot_cached_free howned.symm]
  | some e =>
    rw [hours] at howned
    rw [onSlot_cached_owned howned.symm, ServiceEntry.spec_unversioned]
    by_cases hsame : e.spec.endpoints = endpoints
    · have hkept : ¬ Rewrites m.ownership host endpoints (some e) := not_not.mpr hsame
      rw [run_reconcileHost_of_not_rewrites hkept, if_pos hsame]
      split
      next heq => rw [heq]
      next => rfl
    · have hrewrites : Rewrites m.ownership host endpoints (some e) := hsame
      rw [run_reconcileHost_of_rewrites hrewrites, slot_writeHost h hhost, if_neg hsame]

/-- Looking at a host for collection acts on its name alone. -/
theorem slot_swept (h : r.Serves m) {e : ServiceEntry} (hours : ours.get? host = some e)
    (howned : some e.unversioned = (m.slot host).owned) :
    (r.swept snapshot ours m host).slot name =
      if name = host ∧ snapshot.get? host = none then r.onSlot host none (m.slot host)
      else m.slot name := by
  -- The model has the entry, so one with the same name is stored in its namespace.
  obtain ⟨e', he', hsame⟩ : ∃ e', m.ownership.ours.get? host = some e' ∧
      e'.unversioned = e.unversioned := Option.map_eq_some_iff.mp howned.symm
  obtain ⟨hname, current, hcurrent, -⟩ := h.plain.ours host e' he'
  have hname' : e.name = host := (congrArg ServiceEntry.name hsame).symm.trans hname
  have hspace : e.space = e'.space := (congrArg ServiceEntry.space hsame).symm
  unfold swept
  rw [hours]
  dsimp only
  by_cases hcandidate : r.isCandidate snapshot host e = true
  · rw [if_pos hcandidate]
    simp only [isCandidate, SortedMap.contains, Bool.and_eq_true, beq_iff_eq, Bool.not_eq_true',
      Option.isSome_eq_false_iff, Option.isNone_iff_eq_none] at hcandidate
    obtain ⟨⟨hbegins, hspace'⟩, huncached⟩ := hcandidate
    have hkey : e'.key = ⟨r.space, e.name⟩ := by
      rw [ServiceEntry.key, ← hspace, hspace', hname, hname']
    rw [hkey] at hcurrent
    -- Every entry on a plain mesh has the label, so the candidate is removed.
    have hmark : r.Marks current := (h.plain.stored _ _ hcurrent).2.label
    rw [run_collectEntry_of_marked h.up hcurrent hmark, Mesh.slot_removed h.plain hcurrent]
    simp only [huncached, and_true, hname']
    split
    next heq =>
      have hboth : Text.startsWith host r.hostPrefix = true ∧ e.unversioned.space = r.space :=
        ⟨hbegins, hspace'⟩
      subst heq
      rw [onSlot_gone_owned howned.symm, if_pos hboth]
    next => rfl
  · rw [if_neg hcandidate]
    split
    next hboth =>
      obtain ⟨rfl, huncached⟩ := hboth
      have hneither : ¬ (Text.startsWith name r.hostPrefix = true ∧
          e.unversioned.space = r.space) := by
        rintro ⟨hbegins, hspace'⟩
        refine hcandidate ?_
        rw [ServiceEntry.space_unversioned] at hspace'
        simp [isCandidate, SortedMap.contains, hbegins, hspace', huncached]
      rw [onSlot_gone_owned howned.symm, if_neg hneither]
    next => rfl

end Steps

/-! ## Whole passes -/

section Passes

variable {r : Reconciler} {m : Mesh} {snapshot : Snapshot}
  {ours : SortedMap String ServiceEntry} {name : String} {hosts : List String}

/-- The entry among ours at the beginning is still current when the turn of its host comes, because
the turns before it are those of other names. -/
theorem slot_foldl_visited (h : r.Serves m) (hnodup : hosts.Nodup)
    (hcached : ∀ host ∈ hosts, '_' ∉ host.toList ∧
      ∃ endpoints, snapshot.get? host = some endpoints)
    (howned : ∀ host ∈ hosts,
      (ours.get? host).map ServiceEntry.unversioned = (m.slot host).owned) :
    (hosts.foldl (r.visited snapshot ours) m).slot name =
      if name ∈ hosts then r.onSlot name (snapshot.get? name) (m.slot name) else m.slot name := by
  induction hosts generalizing m with
  | nil => simp
  | cons host rest ih =>
    obtain ⟨hfresh, hnodup⟩ := List.nodup_cons.mp hnodup
    obtain ⟨⟨hhost, endpoints, hget⟩, hcached⟩ := List.forall_mem_cons.mp hcached
    obtain ⟨howned, howned'⟩ := List.forall_mem_cons.mp howned
    have hstep : ∀ other, (r.visited snapshot ours m host).slot other =
        if other = host then r.onSlot host (some endpoints) (m.slot host) else m.slot other :=
      fun other => slot_visited h hhost hget howned
    -- No host comes twice, so the step does not disturb what is known of those to come.
    rw [List.foldl_cons, ih h.visited hnodup hcached, hstep]
    · by_cases hname : name = host
      · subst hname
        simp [hfresh, hget]
      · simp [hname]
    · intro other hother
      have hne : other ≠ host := fun heq => hfresh (heq ▸ hother)
      rw [hstep, if_neg hne]
      exact howned' other hother

theorem slot_foldl_swept (h : r.Serves m) (hnodup : hosts.Nodup)
    (howned : ∀ host ∈ hosts, ∃ e, ours.get? host = some e ∧
      some e.unversioned = (m.slot host).owned) :
    (hosts.foldl (r.swept snapshot ours) m).slot name =
      if name ∈ hosts ∧ snapshot.get? name = none then r.onSlot name none (m.slot name)
      else m.slot name := by
  induction hosts generalizing m with
  | nil => simp
  | cons host rest ih =>
    obtain ⟨hfresh, hnodup⟩ := List.nodup_cons.mp hnodup
    obtain ⟨⟨e, hget, howned⟩, howned'⟩ := List.forall_mem_cons.mp howned
    have hstep : ∀ other, (r.swept snapshot ours m host).slot other =
        if other = host ∧ snapshot.get? host = none then r.onSlot host none (m.slot host)
        else m.slot other := fun other => slot_swept h hget howned
    rw [List.foldl_cons, ih h.swept hnodup, hstep]
    · by_cases hname : name = host
      · subst hname
        simp [hfresh]
      · simp [hname]
    · intro other hother
      have hne : other ≠ host := fun heq => hfresh (heq ▸ hother)
      rw [hstep, if_neg fun hboth => hne hboth.1]
      exact howned' other hother

theorem nodup_keys {α : Type} (s : SortedMap String α) : s.keys.Nodup := by
  refine List.pairwise_map.mpr (s.ascending.imp ?_)
  intro a b hlt heq
  rw [heq] at hlt
  simp at hlt

/-- A pass over hosts without underscores acts on each name by itself. -/
theorem slot_pass (h : r.Serves m) (visit collect : Arrangement)
    (hhosts : ∀ host endpoints, snapshot.get? host = some endpoints → '_' ∉ host.toList) :
    ((r.pass visit collect snapshot).run Mesh.api m).2.slot name =
      r.onSlot name (snapshot.get? name) (m.slot name) := by
  -- The writes act on the names of the snapshot.
  have hwritten : (r.reconciled visit snapshot m).slot name =
      if name ∈ visit.arrange snapshot.keys then r.onSlot name (snapshot.get? name) (m.slot name)
      else m.slot name := by
    refine slot_foldl_visited h ((visit.perm _).nodup_iff.mpr (nodup_keys _)) ?_ fun _ _ => rfl
    intro host hhost
    obtain ⟨endpoints, hget⟩ := visit.mem_keys_iff.mp hhost
    exact ⟨hhosts host endpoints hget, endpoints, hget⟩
  -- The collection acts on the other names that the model has by then.
  have hserves : r.Serves (r.reconciled visit snapshot m) := h.foldl_visited _
  rw [run_pass_snd, collected, slot_foldl_swept hserves ((collect.perm _).nodup_iff.mpr
    (nodup_keys _)), hwritten]
  · cases hget : snapshot.get? name with
    | some endpoints =>
      have hmem := visit.mem_keys_iff.mpr ⟨endpoints, hget⟩
      simp [hmem]
    | none =>
      have hmem : name ∉ visit.arrange snapshot.keys := fun hmem => by
        obtain ⟨endpoints, hsome⟩ := visit.mem_keys_iff.mp hmem
        rw [hget] at hsome
        cases hsome
      rw [if_neg hmem] at hwritten ⊢
      simp only [and_true]
      split
      next => rfl
      next habsent =>
        -- The model has no such name, so the pass has nothing to do there.
        refine (onSlot_gone_free ?_).symm
        rw [← hwritten]
        show ((r.reconciled visit snapshot m).ownership.ours.get? name).map _ = none
        rw [Option.map_eq_none_iff, Option.eq_none_iff_forall_ne_some]
        exact fun e he => habsent (collect.mem_keys_iff.mpr ⟨e, he⟩)
  · intro host hhost
    obtain ⟨e, he⟩ := collect.mem_keys_iff.mp hhost
    refine ⟨e, he, ?_⟩
    show _ = ((r.reconciled visit snapshot m).ownership.ours.get? host).map _
    rw [he]
    rfl

/-- A mesh is settled when the model has every host of the snapshot with its endpoints, and no
other name that is to be collected. -/
theorem settled_of_slots
    (hcached : ∀ host endpoints, snapshot.get? host = some endpoints →
      ∃ e, (m.slot host).owned = some e ∧ e.spec.endpoints = endpoints)
    (hgone : ∀ host e, snapshot.get? host = none → (m.slot host).owned = some e →
      ¬ (Text.startsWith host r.hostPrefix = true ∧ e.space = r.space)) :
    r.Settled snapshot m where
  hosts host endpoints hget := by
    obtain ⟨e, howned, hsame⟩ := hcached host endpoints hget
    obtain ⟨e', he', rfl⟩ := Option.map_eq_some_iff.mp howned
    rw [he']
    exact not_not.mpr hsame
  entries host e he hcandidate := by
    simp only [isCandidate, SortedMap.contains, Bool.and_eq_true, beq_iff_eq, Bool.not_eq_true',
      Option.isSome_eq_false_iff, Option.isNone_iff_eq_none] at hcandidate
    obtain ⟨hboth, huncached⟩ := hcandidate
    have howned : (m.slot host).owned = some e.unversioned :=
      Option.map_eq_some_iff.mpr ⟨e, he, rfl⟩
    exact absurd hboth (hgone host e.unversioned huncached howned)

end Passes

end Reconciler

end MeshRegistry
