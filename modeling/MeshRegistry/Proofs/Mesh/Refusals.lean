import MeshRegistry.Proofs.Mesh.Writes
/-!
# Calls that fail, and entries in their places

A call that fails changes nothing, except that a version may be lost: the entry of a creation gets
its version before a name that is taken is noticed. What succeeds keeps the store in order. Every
entry is under the namespace and the name that it carries, the namespace exists, and no two entries
have one version.

## Main definitions

- `Mesh.InPlace`: an entry is where it belongs, with a version of its own.
- `Mesh.Placed`: all entries are in place.

## Main results

- `Mesh.perform_of_error`: what a call does that fails.
- `Mesh.Placed.happen`, `Mesh.placed_after`: every history keeps the entries in place.
- `Mesh.failures_change_nothing`: both together.
-/

namespace MeshRegistry

namespace Mesh

variable {m : Mesh} {key : ObjectKey} {e : ServiceEntry}

/-! ## Calls that fail -/

/-- A call that fails has no effect, unless it is a creation whose name is taken: that uses up a
version. -/
theorem perform_of_error {c : Call} {err : MeshError} (h : (m.perform c).1 = .error err) :
    (m.perform c).2 = m ∨
      (∃ e, c = .create e ∧ err = .alreadyExists .entry e.key) ∧ (m.perform c).2 = m.drawn := by
  have hrefused : ¬m.Accepts c := not_accepts_of_error h
  cases c with
  | get key => exact .inl rfl
  | create e =>
    cases hup : m.store.down with
    | true => exact .inl (perform_of_down _ hup)
    | false =>
      by_cases hplaced : MeshStore.isNamed e = true ∧ m.store.hasSpace e.space = true
      · cases hold : m.stored? e.key with
        | none =>
          exact absurd (accepts_of_ok (perform_create_of_absent hup hplaced.1 hplaced.2 hold))
            hrefused
        | some old =>
          have htaken := perform_create_of_taken hup hplaced.1 hplaced.2 hold
          rw [htaken] at h ⊢
          exact .inr ⟨⟨e, rfl, (Except.error.inj h).symm⟩, rfl⟩
      · obtain ⟨_, hsame⟩ := perform_create_of_unplaced hup (e := e) (by simpa using hplaced)
        exact .inl (congrArg Prod.snd hsame)
  | update e => exact .inl (perform_update_of_not_accepts hrefused)
  | delete key =>
    rcases perform_delete_cases m key with ⟨haccepted, -⟩ | ⟨-, hsame⟩
    · exact absurd haccepted hrefused
    · exact .inl hsame
  | ensureSpace space =>
    cases hup : m.store.down with
    | true => exact .inl (perform_of_down _ hup)
    | false =>
      -- To add a namespace fails during an outage only.
      refine absurd ⟨(), ?_⟩ hrefused
      simp [perform, MeshStore.ensureSpace, hup]

/-! ## Entries in their places -/

/-- An entry under a key carries the namespace and the name of the key, neither of them empty; the
namespace exists; and no entry under another key has its version, which was handed out. -/
structure InPlace (m : Mesh) (key : ObjectKey) (e : ServiceEntry) : Prop where
  space : e.metadata.space = some key.space
  name : e.metadata.name = some key.name
  space_ne_empty : key.space ≠ ""
  name_ne_empty : key.name ≠ ""
  hasSpace : m.store.hasSpace key.space = true
  version : ∃ n, n ≤ m.store.version ∧ e.metadata.resourceVersion = some (toString n)
  own : ∀ key' e', m.stored? key' = some e' →
    e'.metadata.resourceVersion = e.metadata.resourceVersion → key' = key

/-- All entries are in place. -/
def Placed (m : Mesh) : Prop := ∀ key e, m.stored? key = some e → m.InPlace key e

theorem placed_fresh (reference : OwnerReference) : (fresh reference).Placed := by
  intro key e he
  cases he

theorem isNamed_iff :
    MeshStore.isNamed e = true ↔ e.metadata.space = some e.key.space ∧
      e.metadata.name = some e.key.name ∧ e.key.space ≠ "" ∧ e.key.name ≠ "" := by
  cases hspace : e.metadata.space <;> cases hname : e.metadata.name <;>
    simp [MeshStore.isNamed, ServiceEntry.key, ServiceEntry.space, ServiceEntry.name, hspace, hname]

end Mesh

/-- The entry that an event brings, to be stored with the next version. -/
def MeshEvent.given? : MeshEvent → Option ServiceEntry
  | .seed e => some e
  | .call (.create e) => some e
  | .call (.update e) => some e
  | _ => none

namespace Mesh

variable {m : Mesh} {key : ObjectKey} {e : ServiceEntry}

theorem hasSpace_seed (m : Mesh) (e : ServiceEntry) (space : String) :
    (m.seed e).store.hasSpace space = true ↔ space = e.space ∨ m.store.hasSpace space = true := by
  by_cases h : space = e.space <;>
    simp [seed, MeshStore.seed, advance, MeshStore.draw, MeshStore.addSpace, MeshStore.hasSpace,
      SortedMap.contains, h]

theorem hasSpace_happen {space : String} (h : m.store.hasSpace space = true) (event : MeshEvent) :
    (m.happen event).store.hasSpace space = true := by
  cases event with
  | seed e => exact (hasSpace_seed m e space).mpr (.inr h)
  | call c => exact (perform_effect c m).hasSpace h
  | outage down => exact h

/-- An entry that is there after an event was there before, or it is the one that the event brings.
This has a name and a namespace if those that are seeded have them, and the namespace exists. -/
theorem stored?_happen_cases (hm : m.Placed) {event : MeshEvent}
    (hseed : ∀ s, event = .seed s → MeshStore.isNamed s = true)
    (he : (m.happen event).stored? key = some e) :
    m.stored? key = some e ∨ ∃ given, event.given? = some given ∧ e = m.stamped given ∧
      given.key = key ∧ MeshStore.isNamed given = true ∧
      (m.happen event).store.version = m.store.version + 1 ∧
      (m.happen event).store.hasSpace key.space = true := by
  cases event with
  | seed given =>
    rw [happen, stored?_seed] at he
    split at he
    next hkey =>
      subst hkey
      exact .inr ⟨given, rfl, (Option.some.inj he).symm, rfl, hseed given rfl, rfl,
        (hasSpace_seed m given _).mpr (.inl rfl)⟩
    next => exact .inl he
  | outage down => exact .inl he
  | call c =>
    -- Of the effects of calls only two bring an entry.
    have heffect := perform_effect c m
    change (m.perform c).2.stored? key = some e at he
    change _ ∨ ∃ given, _ ∧ _ ∧ _ ∧ _ ∧ (m.perform c).2.store.version = _ ∧
      (m.perform c).2.store.hasSpace _ = true
    revert he
    generalize (m.perform c).2 = m' at heffect
    intro he
    cases heffect with
    | same => exact .inl he
    | used => exact .inl he
    | created given hnamed hspace =>
      rw [stored?_created] at he
      split at he
      next hkey =>
        subst hkey
        exact .inr ⟨given, rfl, (Option.some.inj he).symm, rfl, hnamed, rfl, hspace⟩
      next => exact .inl he
    | replaced old given hnamed hold =>
      rw [stored?_replaced] at he
      split at he
      next hkey =>
        subst hkey
        -- The namespace of the old entry still exists.
        exact .inr ⟨given, rfl, (Option.some.inj he).symm, rfl, hnamed, rfl,
          (hm _ old hold).hasSpace⟩
      next => exact .inl he
    | removed key' old =>
      rw [stored?_removed] at he
      split at he
      · cases he
      · exact .inl he
    | spaced => exact .inl he

theorem InPlace.version_ne_next (h : m.InPlace key e) :
    e.metadata.resourceVersion ≠ some m.store.nextVersion := by
  obtain ⟨n, hn, hversion⟩ := h.version
  intro hnext
  have hsame : n = m.store.version + 1 :=
    toString_injective (Option.some.inj (hversion.symm.trans hnext))
  omega

/-- Every event keeps the entries in place, if what is seeded has a name and a namespace. -/
theorem Placed.happen (hm : m.Placed) {event : MeshEvent}
    (hseed : ∀ s, event = .seed s → MeshStore.isNamed s = true) : (m.happen event).Placed := by
  intro key e he
  rcases stored?_happen_cases hm hseed he with
    hold | ⟨given, hgiven, rfl, rfl, hnamed, hversion, hspace⟩
  · have hplace := hm key e hold
    refine { hplace with
      hasSpace := hasSpace_happen hplace.hasSpace event
      version := ?_
      own := ?_ }
    · obtain ⟨n, hn, hversion⟩ := hplace.version
      exact ⟨n, hn.trans (version_le_happen event), hversion⟩
    · intro key' e' he' hsame
      -- A new entry has a version that no old one has.
      rcases stored?_happen_cases hm hseed he' with hold' | ⟨given, -, rfl, -⟩
      · exact hplace.own key' e' hold' hsame
      · exact absurd hsame.symm hplace.version_ne_next
  · obtain ⟨hspaceName, hname, hspaceNonempty, hnameNonempty⟩ := isNamed_iff.mp hnamed
    refine ⟨hspaceName, hname, hspaceNonempty, hnameNonempty, hspace,
      ⟨m.store.version + 1, hversion.ge, rfl⟩, ?_⟩
    intro key' e' he' hsame
    rcases stored?_happen_cases hm hseed he' with hold' | ⟨given', hgiven', -, rfl, -⟩
    · exact absurd hsame (hm key' e' hold').version_ne_next
    · -- An event brings one entry only.
      rw [hgiven] at hgiven'
      rw [Option.some.inj hgiven']

theorem placed_after (hm : m.Placed) {history : List MeshEvent}
    (hseeds : ∀ s, .seed s ∈ history → MeshStore.isNamed s = true) :
    (m.after history).Placed := by
  induction history generalizing m with
  | nil => exact hm
  | cons event rest ih =>
    refine ih (hm.happen fun s hs => hseeds s ?_) fun s hs => hseeds s (.tail _ hs)
    rw [hs]
    exact List.mem_cons_self

/-! ## Both together -/

/-- A call that fails changes nothing, but a creation whose name is taken uses up a version. After
every history of calls and outages, in which only entries with a name and a namespace are seeded,
all entries are in place. -/
theorem failures_change_nothing :
    (∀ (m : Mesh) (c : Call) (err : MeshError), (m.perform c).1 = .error err →
      ∃ v, (m.perform c).2 = { m with store := { m.store with version := v } } ∧
        (v = m.store.version ∨
          v = m.store.version + 1 ∧ ∃ e, c = .create e ∧ err = .alreadyExists .entry e.key)) ∧
    ∀ (reference : OwnerReference) (history : List MeshEvent),
      (∀ s, .seed s ∈ history → MeshStore.isNamed s = true) →
      ((fresh reference).after history).Placed := by
  refine ⟨fun m c err h => ?_, fun reference history => placed_after (placed_fresh reference)⟩
  rcases perform_of_error h with hsame | ⟨htaken, hdrawn⟩
  · exact ⟨m.store.version, hsame, .inl rfl⟩
  · exact ⟨m.store.version + 1, hdrawn, .inr ⟨rfl, htaken⟩⟩

/-- A second creation of a name is refused, and all that is left of it is that the next entry has
the third version. -/
theorem refused_creation_loses_version :
    let entry (name : String) : ServiceEntry :=
      { metadata := { name := some name, space := some "default" }, spec := {} }
    let twice : List MeshEvent :=
      [.call (.ensureSpace "default"), .call (.create (entry "a")), .call (.create (entry "a"))]
    let m (history : List MeshEvent) : Mesh := (fresh {}).after history
    (∃ v, ((m (twice.take 2)).perform (.create (entry "a"))).2 =
      { m (twice.take 2) with store := { (m (twice.take 2)).store with version := v } }) ∧
    ∃ e, (m (twice ++ [.call (.create (entry "b"))])).stored? ⟨"default", "b"⟩ = some e ∧
      e.metadata.resourceVersion = some "3" ∧
      (m (twice ++ [.call (.create (entry "b"))])).InPlace ⟨"default", "b"⟩ e := by
  intro entry twice m
  obtain ⟨hfails, hplaced⟩ := failures_change_nothing
  have hrefused : ((m (twice.take 2)).perform (.create (entry "a"))).1 =
      .error (.alreadyExists .entry ⟨"default", "a"⟩) := by
    decide +kernel
  obtain ⟨v, hsame, -⟩ := hfails _ _ _ hrefused
  refine ⟨⟨v, hsame⟩, (entry "b").withVersion (some "3"), ?_, rfl, ?_⟩
  · decide +kernel
  · refine hplaced _ _ ?_ _ _ ?_
    · intro s hs
      simp [twice] at hs
    · decide +kernel

end Mesh

end MeshRegistry
