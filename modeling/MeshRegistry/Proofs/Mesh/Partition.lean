import MeshRegistry.Proofs.Mesh.Failures
import MeshRegistry.Proofs.Mesh.Reflection
import Mathlib.Data.List.Infix
/-!
# Meshes of separate hosts

When every object has its own name as its only host, what happens to one object shows at one host
only: the model hears of entries that are filed at that host. A call about an object can then be
judged by what the mesh shows of its host, and what it leaves there is the same on every mesh that
shows the same, but for versions, which count the writes to all objects.

## Main definitions

- `Mesh.SelfNamed`: every object has its own name as its only host.
- `Mesh.Partitioned`: the invariant of histories in which this is so.
- `HostView`, `Mesh.view`: what a mesh shows of one host.
- `Call.Concerns`: the calls that a reconciler makes about one object.

## Main results

- `Mesh.partitioned_after`: the invariant along histories.
- `Mesh.Partitioned.perform`: a call about an object shows at its own host only.
- `Mesh.perform_map_of_view_eq`, `Mesh.stored?_perform_of_view_eq`: a call is answered by what is
  seen of its object.
-/

namespace MeshRegistry

/-! ## Changes of the model -/

/-- The entries that a change is about. -/
def Change.entries : Change → List ServiceEntry
  | .add e => [e]
  | .update old new => [old, new]
  | .delete e => [e]

namespace OwnershipModel

variable {m : OwnershipModel} {c : Change} {side : Side} {host : String} {e : ServiceEntry}

/-- A change shows only at the hosts of its entries. -/
theorem get?_receive_of_not_mem (h : ∀ e ∈ c.entries, host ∉ e.spec.hosts) :
    ((m.receive c).on side).get? host = (m.on side).get? host := by
  cases c with
  | add e =>
    have hhost : host ∉ e.spec.hosts := h e (by simp [Change.entries])
    rw [receive, insert, get?_place, if_neg (fun hat => hhost hat.1)]
  | update old new =>
    have hold : host ∉ old.spec.hosts := h old (by simp [Change.entries])
    have hnew : host ∉ new.spec.hosts := h new (by simp [Change.entries])
    rw [receive, update]
    split
    · rfl
    · rw [get?_place, if_neg (fun hat => hnew hat.1), get?_clear,
        if_neg (fun hat => hold hat.1)]
  | delete e =>
    have hhost : host ∉ e.spec.hosts := h e (by simp [Change.entries])
    rw [receive, delete, get?_clear, if_neg (fun hat => hhost hat.1)]

/-- What the model has at a host was there before a change, or belongs to the change. -/
theorem get?_receive_cases (h : ((m.receive c).on side).get? host = some e) :
    (m.on side).get? host = some e ∨ e ∈ c.entries ∧ host ∈ e.spec.hosts := by
  cases c with
  | add new =>
    rw [receive, insert, get?_place] at h
    split at h
    next hat =>
      obtain rfl := Option.some.inj h
      exact .inr ⟨by simp [Change.entries], hat.1⟩
    next => exact .inl h
  | update old new =>
    rw [receive, update] at h
    split at h
    next => exact .inl h
    next =>
      rw [get?_place] at h
      split at h
      next hat =>
        obtain rfl := Option.some.inj h
        exact .inr ⟨by simp [Change.entries], hat.1⟩
      next =>
        rw [get?_clear] at h
        split at h
        · cases h
        · exact .inl h
  | delete old =>
    rw [receive, delete, get?_clear] at h
    split at h
    · cases h
    · exact .inl h

end OwnershipModel

namespace Mesh

/-! ## Meshes of separate hosts -/

/-- Every object has its own name as its only host. -/
def SelfNamed (m : Mesh) : Prop := ∀ key e, m.stored? key = some e → e.spec.hosts = [e.name]

instance (m : Mesh) : Decidable m.SelfNamed :=
  decidable_of_iff (∀ a ∈ m.store.entries.entries, a.2.spec.hosts = [a.2.name])
    ⟨fun h key e he => h (key, e) (SortedMap.get?_eq_some_iff.mp he),
      fun h a ha => h a.1 a.2 (SortedMap.get?_eq_some_iff.mpr ha)⟩

/-- What is stored changes under one key at most, and the model hears at most of one change, of what
is or was stored there. -/
structure ChangesAt (key : ObjectKey) (m m' : Mesh) : Prop where
  /-- Other objects stay as they are. -/
  stored : ∀ other, other ≠ key → m'.stored? other = m.stored? other
  /-- The model hears of nothing else. -/
  ownership : m'.ownership = m.ownership ∨
    ∃ change, m'.ownership = m.ownership.receive change ∧
      ∀ e ∈ change.entries, m.stored? key = some e ∨ m'.stored? key = some e

/-- Every stored entry has its own host only, and the model has entries at their hosts only. -/
structure Partitioned (m : Mesh) : Prop where
  /-- Entries are stored under their keys. -/
  keyed : m.Keyed
  /-- Every object has its own name as its only host. -/
  selfNamed : m.SelfNamed
  /-- The model has an entry at the host of its name. -/
  filed : ∀ side host e, (m.ownership.on side).get? host = some e → e.name = host

section Changes

variable {m m' : Mesh} {key : ObjectKey} {e : ServiceEntry}

/-- A change is heard of, or the model stays as it is. -/
theorem changesAt_advance {store : MeshStore} {change : Change}
    (hstored : ∀ other, other ≠ key → (m.advance store change).stored? other = m.stored? other)
    (hentries : ∀ e ∈ change.entries,
      m.stored? key = some e ∨ (m.advance store change).stored? key = some e) :
    ChangesAt key m (m.advance store change) where
  stored := hstored
  ownership := by
    cases hannounced : m.announced with
    | true => exact .inr ⟨change, m.ownership_advance store change hannounced, hentries⟩
    | false => exact .inl (by simp [advance, hannounced])

theorem Effect.changesAt {c : Call} (h : m.Effect c m') : ChangesAt c.key m m' := by
  cases h with
  | same => exact ⟨fun _ _ => rfl, .inl rfl⟩
  | used => exact ⟨fun _ _ => rfl, .inl rfl⟩
  | spaced => exact ⟨fun _ _ => rfl, .inl rfl⟩
  | created e =>
    refine changesAt_advance (fun other hother => ?_) (List.forall_mem_singleton.mpr (.inr ?_))
    · exact (stored?_created m e other).trans (if_neg hother)
    · exact (stored?_created m e e.key).trans (if_pos rfl)
  | replaced old e _ hold =>
    refine changesAt_advance (fun other hother => ?_)
      (List.forall_mem_cons.mpr ⟨.inl hold, List.forall_mem_singleton.mpr (.inr ?_)⟩)
    · exact (stored?_replaced m e old other).trans (if_neg hother)
    · exact (stored?_replaced m e old e.key).trans (if_pos rfl)
  | removed key old hold =>
    refine changesAt_advance (fun other hother => ?_) (List.forall_mem_singleton.mpr (.inl hold))
    exact (stored?_removed m old key other).trans (if_neg hother)

/-- Whatever happens, it happens to one object at most. -/
theorem exists_changesAt_happen (m : Mesh) (event : MeshEvent) :
    ∃ key, ChangesAt key m (m.happen event) := by
  cases event with
  | call c => exact ⟨c.key, (perform_effect c m).changesAt⟩
  | outage down => exact ⟨⟨"", ""⟩, fun _ _ => rfl, .inl rfl⟩
  | seed e =>
    refine ⟨e.key, changesAt_advance (fun other hother => ?_)
      (List.forall_mem_singleton.mpr (.inr ?_))⟩
    · exact (stored?_seed m e other).trans (if_neg hother)
    · exact (stored?_seed m e e.key).trans (if_pos rfl)

namespace Partitioned

theorem hosts_eq (h : m.Partitioned) (he : m.stored? key = some e) : e.spec.hosts = [key.name] := by
  have hname : e.name = key.name := congrArg ObjectKey.name (h.keyed key e he)
  rw [h.selfNamed key e he, hname]

/-- A change at a key is filed at the host of its name, if it leaves the objects in order. -/
theorem changed (h : m.Partitioned) (hkeyed : m'.Keyed) (hnamed : m'.SelfNamed)
    (hchange : ChangesAt key m m') :
    m'.Partitioned ∧ ∀ side host, host ≠ key.name →
      (m'.ownership.on side).get? host = (m.ownership.on side).get? host := by
  -- The entries of the change have the name of the key as their only host.
  have hentries : ∀ e, m.stored? key = some e ∨ m'.stored? key = some e →
      e.name = key.name ∧ e.spec.hosts = [key.name] := by
    rintro e (he | he)
    · exact ⟨congrArg ObjectKey.name (h.keyed key e he), h.hosts_eq he⟩
    · have hname : e.name = key.name := congrArg ObjectKey.name (hkeyed key e he)
      exact ⟨hname, by rw [hnamed key e he, hname]⟩
  rcases hchange.ownership with hsame | ⟨change, hheard, hchanged⟩
  · rw [hsame]
    exact ⟨⟨hkeyed, hnamed, by rw [hsame]; exact h.filed⟩, fun _ _ _ => rfl⟩
  · refine ⟨⟨hkeyed, hnamed, fun side host e he => ?_⟩, fun side host hhost => ?_⟩
    · rw [hheard] at he
      rcases OwnershipModel.get?_receive_cases he with hbefore | ⟨hmem, hhost⟩
      · exact h.filed side host e hbefore
      · obtain ⟨hname, hhosts⟩ := hentries e (hchanged e hmem)
        rw [hhosts] at hhost
        exact hname.trans (List.mem_singleton.mp hhost).symm
    · rw [hheard]
      refine OwnershipModel.get?_receive_of_not_mem fun e hmem hat => ?_
      rw [(hentries e (hchanged e hmem)).2] at hat
      exact hhost (List.mem_singleton.mp hat)

end Partitioned

theorem partitioned_fresh (reference : OwnerReference) : (fresh reference).Partitioned where
  keyed key e he := by cases he
  selfNamed key e he := by cases he
  filed side host e he := by cases side <;> cases he

/-- Histories in which every object ever stored has its own name as its only host. -/
theorem partitioned_after (h : m.Partitioned) (history : List MeshEvent)
    (hnamed : ∀ before, before <+: history → (m.after before).SelfNamed) :
    (m.after history).Partitioned := by
  induction history generalizing m with
  | nil => exact h
  | cons event rest ih =>
    -- Only the state after the event has to be known to be in order, not the event itself.
    obtain ⟨key, hchange⟩ := exists_changesAt_happen m event
    have hnext : (m.happen event).SelfNamed := hnamed [event] (by simp)
    refine ih (h.changed (h.keyed.happen event) hnext hchange).1 fun before hbefore => ?_
    exact hnamed (event :: before) (by simpa using hbefore)

end Changes

end Mesh

/-! ## What is seen of a host -/

/-- What a mesh shows of a host in a namespace. -/
structure HostView where
  /-- The object with the name of the host. -/
  stored : Option ServiceEntry
  /-- What the model has at the host. -/
  filed : Side → Option ServiceEntry
  /-- Whether calls are refused. -/
  down : Bool
  /-- Whether the namespace exists. -/
  placed : Bool

/-- The call is about the object under a key. An entry that it writes has its own name as its only
host. -/
def Call.Concerns (key : ObjectKey) : Call → Prop
  | .get k => k = key
  | .create e => e.key = key ∧ e.spec.hosts = [e.name]
  | .update e => e.key = key ∧ e.spec.hosts = [e.name]
  | .delete k => k = key
  | .ensureSpace _ => False

namespace Call

variable {c : Call} {key : ObjectKey}

theorem Concerns.key_eq (h : c.Concerns key) : c.key = key := by
  cases c with
  | get k => exact h
  | create e => exact h.1
  | update e => exact h.1
  | delete k => exact h
  | ensureSpace space => exact h.elim

theorem Concerns.kind_ne (h : c.Concerns key) : c.kind ≠ .ensureSpace := by
  cases c with
  | ensureSpace space => exact h.elim
  | _ => simp [kind]

/-- What a successful call makes of its object. -/
def leaves (c : Call) (stored : Option ServiceEntry) : Option ServiceEntry :=
  match c with
  | .create e => some e
  | .update e => some e
  | .delete _ => none
  | _ => stored

end Call

namespace Mesh

/-- What the mesh shows of the host that has the name in a key. -/
def view (m : Mesh) (key : ObjectKey) : HostView where
  stored := m.stored? key
  filed side := (m.ownership.on side).get? key.name
  down := m.store.down
  placed := m.store.hasSpace key.space

section Calls

variable {m m' : Mesh} {c : Call} {key other : ObjectKey}

theorem SelfNamed.perform (h : m.SelfNamed) (hc : c.Concerns key) :
    (m.perform c).2.SelfNamed := by
  intro k e he
  have heffect := perform_effect c m
  generalize (m.perform c).2 = m' at heffect he
  -- What is stored afterwards was stored before, or is what the call has written.
  cases heffect with
  | same => exact h k e he
  | used => exact h k e he
  | created e' =>
    rw [stored?_created] at he
    split at he
    next =>
      obtain rfl := Option.some.inj he
      exact hc.2
    next => exact h k e he
  | replaced old e' =>
    rw [stored?_replaced] at he
    split at he
    next =>
      obtain rfl := Option.some.inj he
      exact hc.2
    next => exact h k e he
  | removed k' old =>
    rw [stored?_removed] at he
    split at he
    · cases he
    · exact h k e he
  | spaced => exact hc.elim

/-- A call about one object shows at the host with its name only. -/
theorem Partitioned.perform (h : m.Partitioned) (hc : c.Concerns key) :
    (m.perform c).2.Partitioned ∧
      ∀ other, other.name ≠ key.name → (m.perform c).2.view other = m.view other := by
  have heffect := perform_effect c m
  have hchange : ChangesAt key m (m.perform c).2 := hc.key_eq ▸ heffect.changesAt
  obtain ⟨hpartitioned, hfiled⟩ :=
    h.changed (h.keyed.happen (.call c)) (h.selfNamed.perform hc) hchange
  refine ⟨hpartitioned, fun other hother => ?_⟩
  have hspaces := heffect.spaces_eq hc.kind_ne
  have hne : other ≠ key := fun heq => hother (congrArg ObjectKey.name heq)
  simp only [view, HostView.mk.injEq]
  refine ⟨hchange.stored other hne, funext fun side => hfiled side _ hother, heffect.frame.1, ?_⟩
  rw [MeshStore.hasSpace, hspaces, MeshStore.hasSpace]

/-- Where the same is seen of an object, a call about it is answered alike, but for the entry that
it returns. -/
theorem perform_map_of_view_eq (h : m.view c.key = m'.view c.key) :
    (m.perform c).1.map (fun _ => ()) = (m'.perform c).1.map fun _ => () := by
  have hdown : m.store.down = m'.store.down := congrArg HostView.down h
  have hstored : m.store.entries.get? c.key = m'.store.entries.get? c.key :=
    congrArg HostView.stored h
  have hplaced : m.store.hasSpace c.key.space = m'.store.hasSpace c.key.space :=
    congrArg HostView.placed h
  -- Of the mesh, no call looks at more than this.
  cases c with
  | get key =>
    simp only [Mesh.perform, MeshStore.get, hdown]
    split_ifs <;> rfl
  | create e =>
    have hcontains : m.store.entries.contains e.key = m'.store.entries.contains e.key :=
      congrArg Option.isSome hstored
    change m.store.hasSpace e.space = m'.store.hasSpace e.space at hplaced
    simp only [Mesh.perform, MeshStore.create, hdown, hcontains, hplaced]
    split_ifs <;> rfl
  | update e =>
    change m.store.entries.get? e.key = m'.store.entries.get? e.key at hstored
    simp only [Mesh.perform, MeshStore.update, hdown, hstored]
    cases m'.store.entries.get? e.key <;> dsimp only <;> split_ifs <;> rfl
  | delete key =>
    change m.store.entries.get? key = m'.store.entries.get? key at hstored
    simp only [Mesh.perform, MeshStore.delete, hdown, hstored]
    cases m'.store.entries.get? key <;> dsimp only <;> split_ifs <;> rfl
  | ensureSpace space =>
    simp only [Mesh.perform, MeshStore.ensureSpace, hdown]
    split_ifs <;> rfl

/-- Versions aside, a successful call makes of its object what it says, and any other call leaves
the object as it is. -/
theorem stored?_perform (m : Mesh) (c : Call) :
    ((m.perform c).2.stored? c.key).map ServiceEntry.unversioned =
      (if m.Accepts c then c.leaves (m.stored? c.key) else m.stored? c.key).map
        ServiceEntry.unversioned := by
  cases c with
  | get key => exact congrArg _ (ite_self _).symm
  | create e =>
    rcases perform_create_cases m e with ⟨haccepts, hcreated⟩ | ⟨hrefused, hsame⟩
    · rw [if_pos haccepts, hcreated, Call.key, stored?_created, if_pos rfl]
      rfl
    · rw [if_neg hrefused, hsame]
  | update e =>
    rcases perform_update_cases m e with ⟨haccepts, -, -, old, -, -, hreplaced⟩ | ⟨hrefused, hsame⟩
    · rw [if_pos haccepts, hreplaced, Call.key, stored?_replaced, if_pos rfl]
      rfl
    · rw [if_neg hrefused, hsame]
  | delete key =>
    rcases perform_delete_cases m key with ⟨haccepts, old, hremoved⟩ | ⟨hrefused, hsame⟩
    · rw [if_pos haccepts, hremoved, Call.key, stored?_removed, if_pos rfl]
      rfl
    · rw [if_neg hrefused, hsame]
  | ensureSpace space =>
    have hkept : ¬ (MeshEvent.call (.ensureSpace space)).Writes ⟨space, ""⟩ m := id
    exact congrArg _ ((stored?_happen_of_not_writes hkept).trans (ite_self _).symm)

/-- Where the same is seen of an object, a call about it leaves the same, versions aside. -/
theorem stored?_perform_of_view_eq (h : m.view c.key = m'.view c.key) :
    ((m.perform c).2.stored? c.key).map ServiceEntry.unversioned =
      ((m'.perform c).2.stored? c.key).map ServiceEntry.unversioned := by
  have hstored : m.stored? c.key = m'.stored? c.key := congrArg HostView.stored h
  have haccepts : m.Accepts c ↔ m'.Accepts c := by
    have hanswers := perform_map_of_view_eq h
    unfold Accepts
    cases hm : (m.perform c).1 <;> cases hm' : (m'.perform c).1 <;>
      simp_all [Except.map]
  rw [stored?_perform, stored?_perform, hstored]
  simp only [haccepts]

end Calls

end Mesh

end MeshRegistry
