import MeshRegistry.Proofs.Mesh.Slots
import MeshRegistry.Proofs.Mesh.Watched
import MeshRegistry.Proofs.Mesh.Writes
/-!
# A model that reflects the store

An ownership model that follows a store hears of every change, but it files entries by their hosts
and is not told who had a host before. It shows the store faithfully under two conditions: stored
entries share no hosts, and an update that leaves the specification as it is, which the model passes
over, does not take an entry from one side to the other.

A write changes what is stored under one key, and the model clears the slots of what was there and
fills those of what is there now. This is said once, for creations, replacements and removals alike.

## Main definitions

- `Mesh.HostsApart`, `Mesh.Orderly`: the two conditions, along a history.
- `Mesh.Reflected`: the model shows the store.
- `Mesh.Filed`: the invariant of orderly histories.

## Main results

- `Mesh.Filed.rewritten`: a write that the model hears of keeps the invariant.
- `Mesh.reflected_after`: after an orderly history of calls the model shows the store.
-/

namespace MeshRegistry

/-! ## Look-ups in a model -/

namespace Owner

theorem side_eq_theirs_iff {owner : Owner} : owner.side = .theirs ↔ owner = .them := by
  cases owner <;> simp [side]

theorem side_eq_ours_iff {owner : Owner} : owner.side = .ours ↔ owner ≠ .them := by
  cases owner <;> simp [side]

end Owner

instance (owner : Owner) (side : Side) : Decidable (owner.Clears side) :=
  inferInstanceAs (Decidable (owner = .none ∨ owner.side = side))

namespace OwnershipModel

variable (m : OwnershipModel) (owner : Owner) (e : ServiceEntry) (side : Side) (host : String)

theorem get?_place :
    ((m.place owner e).on side).get? host =
      if host ∈ e.spec.hosts ∧ owner.side = side then some e else (m.on side).get? host := by
  cases owner <;> cases side <;> simp [place, on, Owner.side, get?_occupy]

theorem get?_clear :
    ((m.clear owner e).on side).get? host =
      if host ∈ e.spec.hosts ∧ owner.Clears side then none else (m.on side).get? host := by
  cases owner <;> cases side <;> simp [clear, on, Owner.side, Owner.Clears, get?_vacate]

end OwnershipModel

namespace Mesh

/-! ## What is asked of a history -/

/-- Stored entries share no hosts. -/
def HostsApart (m : Mesh) : Prop :=
  ∀ key e key' e', m.stored? key = some e → m.stored? key' = some e' → key ≠ key' →
    ∀ host ∈ e.spec.hosts, host ∉ e'.spec.hosts

/-- An accepted update that leaves the specification as it is leaves the entry on its side. -/
def KeepsSides (m : Mesh) : MeshEvent → Prop
  | .call (.update e) => m.Accepts (.update e) → ∀ old ∈ m.stored? e.key, old.spec = e.spec →
      (m.ownership.ownerOf old = .them ↔ m.ownership.ownerOf e = .them)
  | _ => True

/-- Every event keeps sides when its turn comes, and no stored entries share a host after it. -/
def Orderly (m : Mesh) : List MeshEvent → Prop
  | [] => True
  | event :: rest =>
    m.KeepsSides event ∧ (m.happen event).HostsApart ∧ (m.happen event).Orderly rest

/-! The conditions can be checked on given histories. -/

instance (m : Mesh) : Decidable m.HostsApart :=
  decidable_of_iff
    (∀ a ∈ m.store.entries.entries, ∀ b ∈ m.store.entries.entries, a.1 ≠ b.1 →
      ∀ host ∈ a.2.spec.hosts, host ∉ b.2.spec.hosts)
    ⟨fun h key e key' e' he he' => h (key, e) (SortedMap.get?_eq_some_iff.mp he)
        (key', e') (SortedMap.get?_eq_some_iff.mp he'),
      fun h a ha b hb => h a.1 a.2 b.1 b.2 (SortedMap.get?_eq_some_iff.mpr ha)
        (SortedMap.get?_eq_some_iff.mpr hb)⟩

instance (m : Mesh) (c : Call) : Decidable (m.Accepts c) :=
  match h : (m.perform c).1 with
  | .ok reply => isTrue ⟨reply, h⟩
  | .error _ => isFalse (not_accepts_of_error h)

instance (m : Mesh) (event : MeshEvent) : Decidable (m.KeepsSides event) := by
  unfold KeepsSides
  split <;> infer_instance

instance decidableOrderly : (m : Mesh) → (history : List MeshEvent) → Decidable (m.Orderly history)
  | _, [] => isTrue trivial
  | m, event :: rest =>
    have := decidableOrderly (m.happen event) rest
    inferInstanceAs (Decidable
      (m.KeepsSides event ∧ (m.happen event).HostsApart ∧ (m.happen event).Orderly rest))

/-! ## Models that show the store -/

/-- The model shows the store. -/
structure Reflected (m : Mesh) : Prop where
  /-- Ours are exactly the hosts of the stored entries that do not belong to somebody else. -/
  ours : ∀ host, m.ownership.ours.contains host = true ↔
    ∃ key e, m.stored? key = some e ∧ host ∈ e.spec.hosts ∧ m.ownership.ownerOf e ≠ .them
  /-- Theirs are exactly the hosts of the others. -/
  theirs : ∀ host, m.ownership.theirs.contains host = true ↔
    ∃ key e, m.stored? key = some e ∧ host ∈ e.spec.hosts ∧ m.ownership.ownerOf e = .them
  /-- What is filed under a host has the name, the namespace and the specification of the stored
  entry with that host. -/
  slots : ∀ side host filed, (m.ownership.on side).get? host = some filed →
    ∃ key e, m.stored? key = some e ∧ host ∈ e.spec.hosts ∧
      (m.ownership.ownerOf e).side = side ∧ filed.name = e.name ∧ filed.space = e.space ∧
      filed.spec = e.spec
  /-- No host is on both sides. -/
  disjoint : ∀ host, ¬ (m.ownership.ours.contains host = true ∧
    m.ownership.theirs.contains host = true)

/-- Every slot has a version of the stored entry that lists the host, and every stored entry has its
slots. -/
structure Filed (m : Mesh) : Prop where
  /-- The model follows the store. -/
  announced : m.announced = true
  /-- Entries are stored under their keys. -/
  keyed : m.Keyed
  /-- Stored entries share no hosts. -/
  apart : m.HostsApart
  /-- A slot has a version of a stored entry. -/
  slots : ∀ side host filed, (m.ownership.on side).get? host = some filed →
    ∃ e, m.stored? filed.key = some e ∧ e.Fills m.ownership.reference side host ∧
      filed.spec = e.spec
  /-- A stored entry has its slots. -/
  stored : ∀ key e side host, m.stored? key = some e → e.Fills m.ownership.reference side host →
    ((m.ownership.on side).get? host).isSome

section Filing

variable {m m' : Mesh} {e old : ServiceEntry} {key : ObjectKey}

theorem Pristine.filed (h : m.Pristine) : m.Filed where
  announced := h.announced
  keyed key e he := by
    rw [h.stored] at he
    cases he
  apart key e key' e' he := by
    rw [h.stored] at he
    cases he
  slots side host filed hfiled := by
    cases side with
    | ours =>
      have hvacant : m.ownership.ours.get? host = some filed := hfiled
      rw [h.ours] at hvacant
      cases hvacant
    | theirs =>
      have hvacant : m.ownership.theirs.get? host = some filed := hfiled
      rw [h.theirs] at hvacant
      cases hvacant
  stored key e side host he := by
    rw [h.stored] at he
    cases he

theorem Filed.reflected (h : m.Filed) : m.Reflected := by
  -- A host is filed on a side exactly if a stored entry of that side lists it.
  have hfiled : ∀ side host, ((m.ownership.on side).get? host).isSome ↔
      ∃ key e, m.stored? key = some e ∧ e.Fills m.ownership.reference side host := by
    intro side host
    constructor
    · intro hsome
      obtain ⟨filed, hslot⟩ := Option.isSome_iff_exists.mp hsome
      obtain ⟨e, he, hfills, -⟩ := h.slots side host filed hslot
      exact ⟨filed.key, e, he, hfills⟩
    · rintro ⟨key, e, he, hfills⟩
      exact h.stored key e side host he hfills
  refine ⟨fun host => ?_, fun host => ?_, fun side host filed hslot => ?_, fun host => ?_⟩
  · refine (hfiled .ours host).trans ?_
    simp [ServiceEntry.Fills, Owner.side_eq_ours_iff, OwnershipModel.ownerOf]
  · refine (hfiled .theirs host).trans ?_
    simp [ServiceEntry.Fills, Owner.side_eq_theirs_iff, OwnershipModel.ownerOf]
  · obtain ⟨e, he, hfills, hspec⟩ := h.slots side host filed hslot
    have hkey := h.keyed _ _ he
    exact ⟨filed.key, e, he, hfills.1, hfills.2, (congrArg ObjectKey.name hkey).symm,
      (congrArg ObjectKey.space hkey).symm, hspec⟩
  · rintro ⟨hours, htheirs⟩
    obtain ⟨key, e, he, hfills⟩ := (hfiled .ours host).mp hours
    obtain ⟨key', e', he', hfills'⟩ := (hfiled .theirs host).mp htheirs
    -- Entries that share a host are one entry, and that has one owner.
    by_cases hkey : key = key'
    · subst hkey
      obtain rfl := Option.some.inj (he.symm.trans he')
      have hboth := hfills.2.symm.trans hfills'.2
      cases hboth
    · exact h.apart key e key' e' he he' hkey host hfills.1 hfills'.1

/-! ## Writes -/

/-- The model after what is stored under a key has been replaced by something else: the slots of
the new entry are filled, those of the old one are cleared, and the others stay. -/
structure Refiled (m m' : Mesh) (key : ObjectKey) (new : Option ServiceEntry) : Prop where
  /-- The key has the new entry, and all others have what they had. -/
  stored : ∀ other, m'.stored? other = if other = key then new else m.stored? other
  /-- The new entry has the key. -/
  key_eq : ∀ e, new = some e → e.key = key
  /-- The model follows the store as before. -/
  frame : m'.announced = m.announced ∧ m'.ownership.reference = m.ownership.reference
  fills : ∀ e side host, new = some e → e.Fills m.ownership.reference side host →
    (m'.ownership.on side).get? host = some e
  clears : ∀ old side host, m.stored? key = some old → old.Frees m.ownership.reference side host →
    (∀ e, new = some e → ¬ e.Fills m.ownership.reference side host) →
    (m'.ownership.on side).get? host = none
  keeps : ∀ side host,
    (∀ old, m.stored? key = some old → ¬ old.Frees m.ownership.reference side host) →
    (∀ e, new = some e → ¬ e.Fills m.ownership.reference side host) →
    (m'.ownership.on side).get? host = (m.ownership.on side).get? host

/-- A write that the model hears of keeps the slots in order. -/
theorem Filed.rewritten {new : Option ServiceEntry} (h : m.Filed) (hwrite : Refiled m m' key new)
    (hapart : m'.HostsApart) : m'.Filed where
  announced := hwrite.frame.1.trans h.announced
  keyed other e he := by
    rw [hwrite.stored] at he
    split at he
    next hkey => rw [hwrite.key_eq e he, hkey]
    next => exact h.keyed other e he
  apart := hapart
  slots side host filed hslot := by
    rw [hwrite.frame.2]
    by_cases hfills : ∃ e, new = some e ∧ e.Fills m.ownership.reference side host
    · obtain ⟨e, hnew, hfills⟩ := hfills
      obtain rfl := Option.some.inj ((hwrite.fills e side host hnew hfills).symm.trans hslot)
      refine ⟨e, ?_, hfills, rfl⟩
      rw [hwrite.stored, if_pos (hwrite.key_eq e hnew), hnew]
    · have hunfilled : ∀ e, new = some e → ¬ e.Fills m.ownership.reference side host :=
        fun e hnew he => hfills ⟨e, hnew, he⟩
      by_cases hfrees : ∃ old, m.stored? key = some old ∧ old.Frees m.ownership.reference side host
      · obtain ⟨old, hold, hfrees⟩ := hfrees
        rw [hwrite.clears old side host hold hfrees hunfilled] at hslot
        cases hslot
      · rw [hwrite.keeps side host (fun old hold he => hfrees ⟨old, hold, he⟩) hunfilled] at hslot
        obtain ⟨e, he, hfilled, hspec⟩ := h.slots side host filed hslot
        -- The slot is not one of the old entry, so its entry is stored under another key.
        have hkey : filed.key ≠ key := fun hkey => hfrees ⟨e, hkey ▸ he, hfilled.frees⟩
        exact ⟨e, by rw [hwrite.stored, if_neg hkey]; exact he, hfilled, hspec⟩
  stored other e side host he hfills := by
    rw [hwrite.frame.2] at hfills
    rw [hwrite.stored] at he
    split at he
    next => rw [hwrite.fills e side host he hfills]; rfl
    next hother =>
      by_cases hfilled : ∃ e, new = some e ∧ e.Fills m.ownership.reference side host
      · obtain ⟨e', hnew, hfills'⟩ := hfilled
        rw [hwrite.fills e' side host hnew hfills']
        rfl
      · rw [hwrite.keeps side host ?_ fun e' hnew he' => hfilled ⟨e', hnew, he'⟩]
        · exact h.stored other e side host he hfills
        · -- The old entry does not list the host, because another stored entry does.
          intro old hold hfrees
          exact h.apart other e key old he hold hother host hfills.1 hfrees.1

theorem refiled_created (h : m.Filed) (habsent : m.stored? e.key = none) :
    Refiled m (m.created e) e.key (some (m.stamped e)) where
  stored := stored?_created m e
  key_eq _ hnew := Option.some.inj hnew ▸ rfl
  frame := ⟨rfl, reference_advance m _ _⟩
  fills e' side host hnew hfills := by
    obtain rfl := Option.some.inj hnew
    rw [created, ownership_advance m _ _ h.announced, OwnershipModel.receive,
      OwnershipModel.insert, OwnershipModel.get?_place]
    exact if_pos hfills
  clears old side host hold := by
    rw [habsent] at hold
    cases hold
  keeps side host _ hunfilled := by
    rw [created, ownership_advance m _ _ h.announced, OwnershipModel.receive,
      OwnershipModel.insert, OwnershipModel.get?_place]
    exact if_neg (hunfilled _ rfl)

theorem refiled_replaced (h : m.Filed) (hold : m.stored? e.key = some old)
    (hspec : old.spec ≠ e.spec) : Refiled m (m.replaced old e) e.key (some (m.stamped e)) := by
  have hslot : ∀ side host, ((m.replaced old e).ownership.on side).get? host =
      if host ∈ (m.stamped e).spec.hosts ∧ (m.ownership.ownerOf (m.stamped e)).side = side then
        some (m.stamped e)
      else if host ∈ old.spec.hosts ∧ (m.ownership.ownerOf old).Clears side then none
      else (m.ownership.on side).get? host := by
    intro side host
    rw [replaced, ownership_advance m _ _ h.announced, OwnershipModel.receive,
      OwnershipModel.update, spec_stamped, if_neg hspec, OwnershipModel.get?_place,
      OwnershipModel.get?_clear, spec_stamped]
  refine
    { stored := stored?_replaced m e old
      key_eq := fun _ hnew => Option.some.inj hnew ▸ rfl
      frame := ⟨rfl, reference_advance m _ _⟩
      fills := fun e' side host hnew hfills => ?_
      clears := fun old' side host hold' hfrees hunfilled => ?_
      keeps := fun side host hunfreed hunfilled => ?_ }
  · obtain rfl := Option.some.inj hnew
    rw [hslot]
    exact if_pos hfills
  · obtain rfl := Option.some.inj (hold.symm.trans hold')
    rw [hslot]
    exact (if_neg (hunfilled _ rfl)).trans (if_pos hfrees)
  · rw [hslot]
    exact (if_neg (hunfilled _ rfl)).trans (if_neg (hunfreed old hold))

theorem refiled_removed (h : m.Filed) (hold : m.stored? key = some old) :
    Refiled m (m.removed key old) key none := by
  have hslot : ∀ side host, ((m.removed key old).ownership.on side).get? host =
      if host ∈ old.spec.hosts ∧ (m.ownership.ownerOf old).Clears side then none
      else (m.ownership.on side).get? host := by
    intro side host
    rw [removed, ownership_advance m _ _ h.announced, OwnershipModel.receive,
      OwnershipModel.delete, OwnershipModel.get?_clear]
  refine
    { stored := stored?_removed m old key
      key_eq := fun e hnew => by cases hnew
      frame := ⟨rfl, reference_advance m _ _⟩
      fills := fun e side host hnew => by cases hnew
      clears := fun old' side host hold' hfrees _ => ?_
      keeps := fun side host hunfreed _ => ?_ }
  · obtain rfl := Option.some.inj (hold.symm.trans hold')
    rw [hslot]
    exact if_pos hfrees
  · rw [hslot]
    exact if_neg (hunfreed old hold)

/-- The model passes over an update that leaves the specification as it is. What it has is still a
version of the stored entry if the entry stays on its side. -/
theorem Filed.respected (h : m.Filed) (hold : m.stored? e.key = some old)
    (hspec : old.spec = e.spec)
    (hside : m.ownership.ownerOf old = .them ↔ m.ownership.ownerOf e = .them)
    (hapart : (m.replaced old e).HostsApart) : (m.replaced old e).Filed := by
  have hmodel : (m.replaced old e).ownership = m.ownership := by
    rw [replaced, ownership_advance m _ _ h.announced, OwnershipModel.receive,
      OwnershipModel.update, spec_stamped, if_pos hspec]
  have hsides : (m.ownership.ownerOf old).side = (m.ownership.ownerOf e).side := by
    by_cases hthem : m.ownership.ownerOf old = .them
    · rw [Owner.side_eq_theirs_iff.mpr hthem, Owner.side_eq_theirs_iff.mpr (hside.mp hthem)]
    · rw [Owner.side_eq_ours_iff.mpr hthem,
        Owner.side_eq_ours_iff.mpr fun hthem' => hthem (hside.mpr hthem')]
  have hfills : ∀ side host, old.Fills m.ownership.reference side host ↔
      (m.stamped e).Fills m.ownership.reference side host := by
    intro side host
    show _ ∧ (m.ownership.ownerOf old).side = side ↔ _ ∧ (m.ownership.ownerOf e).side = side
    rw [hspec, hsides, spec_stamped]
  refine ⟨h.announced, ?_, hapart, ?_, ?_⟩
  · intro other e' he'
    rw [stored?_replaced] at he'
    split at he'
    next hkey =>
      obtain rfl := Option.some.inj he'
      exact hkey.symm
    next => exact h.keyed other e' he'
  · intro side host filed hslot
    rw [hmodel] at hslot ⊢
    obtain ⟨e', he', hfilled, hspec'⟩ := h.slots side host filed hslot
    rw [stored?_replaced]
    split
    next hkey =>
      rw [hkey] at he'
      obtain rfl := Option.some.inj (hold.symm.trans he')
      exact ⟨m.stamped e, rfl, (hfills side host).mp hfilled, hspec'.trans hspec⟩
    next => exact ⟨e', he', hfilled, hspec'⟩
  · intro other e' side host he' hfills'
    rw [hmodel] at hfills' ⊢
    rw [stored?_replaced] at he'
    split at he'
    next =>
      obtain rfl := Option.some.inj he'
      exact h.stored e.key old side host hold ((hfills side host).mpr hfills')
    next => exact h.stored other e' side host he' hfills'

/-- An orderly event that is not a seed keeps the slots in order. -/
theorem Filed.happen (h : m.Filed) {event : MeshEvent} (hcall : ∀ e, event ≠ .seed e)
    (hsides : m.KeepsSides event) (hapart : (m.happen event).HostsApart) :
    (m.happen event).Filed := by
  cases event with
  | seed e => exact absurd rfl (hcall e)
  | outage down => exact ⟨h.announced, h.keyed, hapart, h.slots, h.stored⟩
  | call c =>
    have heffect := perform_effect c m
    change (m.perform c).2.HostsApart at hapart
    change (m.perform c).2.Filed
    cases c with
    | update e =>
      -- Whether the model hears of an update depends on the specification.
      rcases perform_update_cases m e with
        ⟨haccepts, -, -, old, hold, -, hreplaced⟩ | ⟨-, hsame⟩
      · rw [hreplaced] at hapart ⊢
        by_cases hspec : old.spec = e.spec
        · exact h.respected hold hspec (hsides haccepts old hold hspec) hapart
        · exact h.rewritten (refiled_replaced h hold hspec) hapart
      · rw [hsame]
        exact h
    | get key => exact h
    | create e =>
      generalize (m.perform (.create e)).2 = m' at heffect hapart
      cases heffect with
      | same => exact h
      | used => exact ⟨h.announced, h.keyed, hapart, h.slots, h.stored⟩
      | created _ _ _ habsent => exact h.rewritten (refiled_created h habsent) hapart
    | delete key =>
      generalize (m.perform (.delete key)).2 = m' at heffect hapart
      cases heffect with
      | same => exact h
      | removed _ old hold => exact h.rewritten (refiled_removed h hold) hapart
    | ensureSpace space =>
      generalize (m.perform (.ensureSpace space)).2 = m' at heffect hapart
      cases heffect with
      | same => exact h
      | spaced => exact ⟨h.announced, h.keyed, hapart, h.slots, h.stored⟩

theorem Filed.after (h : m.Filed) {history : List MeshEvent} (hcalls : ∀ e, .seed e ∉ history)
    (horderly : m.Orderly history) : (m.after history).Filed := by
  induction history generalizing m with
  | nil => exact h
  | cons event rest ih =>
    obtain ⟨hsides, hapart, hrest⟩ := horderly
    have hcall : ∀ e, event ≠ .seed e := by
      rintro e rfl
      exact hcalls e (List.mem_cons_self ..)
    exact ih (h.happen hcall hsides hapart)
      (fun e hmem => hcalls e (List.mem_cons_of_mem _ hmem)) hrest

end Filing

/-- Calls and outages on a mesh with nothing stored: if stored entries never share a host and no
update that leaves the specification as it is takes an entry to the other side, then the model shows
the store in every state that is reached. -/
theorem reflected_after (start : Mesh) (history : List MeshEvent) (hstart : start.Pristine)
    (hcalls : ∀ e, .seed e ∉ history) (horderly : start.Orderly history) :
    (start.after history).Reflected :=
  (hstart.filed.after hcalls horderly).reflected

/-- A host moves from one entry to another, an entry changes its owner, and some calls fail. -/
theorem reflected_after_moves :
    let entry (name : String) (hosts : List String) (owners : Option (List OwnerReference))
        (version : Option String) : ServiceEntry :=
      { metadata :=
          { name := some name, space := some "default", resourceVersion := version
            ownerReferences := owners }
        spec := { hosts } }
    let reference : OwnerReference := { name := "registry" }
    let somebody : OwnerReference := { name := "somebody" }
    let start : Mesh := { store := {}, ownership := { reference } }
    let history : List MeshEvent :=
      [.call (.create (entry "shop" ["shop"] none none)), .call (.ensureSpace "default"),
        .call (.create (entry "shop" ["shop", "store"] none none)),
        .call (.create (entry "pay" ["pay"] (some [somebody]) none)),
        .outage true, .call (.delete ⟨"default", "pay"⟩), .outage false,
        .call (.update (entry "shop" ["shop"] none (some "1"))),
        .call (.update (entry "shop" ["shop"] (some [reference]) (some "3"))),
        .call (.create (entry "store" ["store"] none none)),
        .call (.update (entry "pay" ["pay", "bill"] (some [reference]) (some "2"))),
        .call (.update (entry "store" ["store"] (some [somebody]) (some "4"))),
        .call (.delete ⟨"default", "shop"⟩)]
    (start.Pristine ∧ (∀ e, .seed e ∉ history) ∧ start.Orderly history) ∧
      (start.after history).Reflected ∧
      (start.after history).ownership.ours.keys = ["bill", "pay", "store"] := by
  intro entry reference somebody start history
  have hstart : start.Pristine := ⟨rfl, fun _ => rfl, fun _ => rfl, fun _ => rfl⟩
  have hcalls : ∀ e, .seed e ∉ history := by simp [history]
  have horderly : start.Orderly history := by decide +kernel
  exact ⟨⟨hstart, hcalls, horderly⟩, reflected_after start history hstart hcalls horderly,
    by decide +kernel⟩

end Mesh

end MeshRegistry
