import MeshRegistry.Mesh.Informer
/-!
# A model that follows a watch

An informer turns events into changes and an ownership model takes the changes in. This module
says once what an event does to the two together: which slots of the model it fills, which slots
it frees, and what the informer knows afterwards. A slot is a host on one side of the model.

Filling a slot goes by the entry that is put there. Freeing a slot goes by the hosts and the owner
of an entry that is taken away, whatever entry the slot holds. The results about orphaned slots
and about relists rest on the descriptions here and do not look into the operations again.

## Main definitions

- `Side`, `OwnershipModel.Occupied`: the slots of a model.
- `ServiceEntry.Fills`, `ServiceEntry.Frees`: the slots that an entry takes when it is inserted,
  and those that are cleared when it is taken away.
- `WatchedModel`: an informer and the model that observes it.

## Main results

- `OwnershipModel.occupied_receive`: the slots after a change.
- `WatchedModel.occupied_apply`, `occupied_delete`, `occupied_initDone`: the slots after an event.
-/

namespace MeshRegistry

/-! ## Slots -/

/-- The two sides of an ownership model. -/
inductive Side where
  | ours
  | theirs
deriving DecidableEq

/-- The side on which entries of an owner are put. -/
def Owner.side : Owner → Side
  | .us => .ours
  | .none => .ours
  | .them => .theirs

/-- The sides that are cleared when an entry of an owner goes. -/
def Owner.Clears (owner : Owner) (side : Side) : Prop := owner = .none ∨ owner.side = side

namespace OwnershipModel

def on (m : OwnershipModel) : Side → SortedMap String ServiceEntry
  | .ours => m.ours
  | .theirs => m.theirs

/-- A host has an entry on a side. -/
def Occupied (m : OwnershipModel) (side : Side) (host : String) : Prop :=
  ((m.on side).get? host).isSome

end OwnershipModel

namespace ServiceEntry

/-- Inserting the entry fills the slot. -/
def Fills (reference : OwnerReference) (e : ServiceEntry) (side : Side) (host : String) : Prop :=
  host ∈ e.spec.hosts ∧ (ownerOf reference e).side = side

/-- Taking the entry away clears the slot. -/
def Frees (reference : OwnerReference) (e : ServiceEntry) (side : Side) (host : String) : Prop :=
  host ∈ e.spec.hosts ∧ (ownerOf reference e).Clears side

theorem Fills.frees {reference : OwnerReference} {e : ServiceEntry} {side : Side} {host : String}
    (h : e.Fills reference side host) : e.Frees reference side host :=
  ⟨h.1, .inr h.2⟩

end ServiceEntry

namespace OwnershipModel

section Slots

variable (m : OwnershipModel) (e : ServiceEntry) (side : Side) (host : String)

theorem occupied_place (owner : Owner) :
    (m.place owner e).Occupied side host ↔
      (host ∈ e.spec.hosts ∧ owner.side = side) ∨ m.Occupied side host := by
  -- What holds of one side holds of the other; the owner decides which of them is filled.
  have hfilled : ∀ entries : SortedMap String ServiceEntry,
      ((occupy entries e.spec.hosts e).get? host).isSome ↔
        host ∈ e.spec.hosts ∨ (entries.get? host).isSome := by
    intro entries
    rw [get?_occupy]
    split <;> simp_all
  cases owner <;> cases side <;> simp [place, Occupied, on, Owner.side, hfilled]

theorem occupied_clear (owner : Owner) :
    (m.clear owner e).Occupied side host ↔
      m.Occupied side host ∧ ¬ (host ∈ e.spec.hosts ∧ owner.Clears side) := by
  have hcleared : ∀ entries : SortedMap String ServiceEntry,
      ((vacate entries e.spec.hosts).get? host).isSome ↔
        (entries.get? host).isSome ∧ host ∉ e.spec.hosts := by
    intro entries
    rw [get?_vacate]
    split <;> simp_all
  cases owner <;> cases side <;>
    simp [clear, Occupied, on, Owner.side, Owner.Clears, hcleared]

/-- The model has nothing at a host exactly when both slots of the host are vacant. -/
theorem classify_ne_none : m.classify host ≠ .none ↔ ∃ side, m.Occupied side host := by
  have hsides : (∃ side, m.Occupied side host) ↔
      m.Occupied .ours host ∨ m.Occupied .theirs host := by
    constructor
    · rintro ⟨side, h⟩
      cases side
      · exact .inl h
      · exact .inr h
    · rintro (h | h)
      · exact ⟨_, h⟩
      · exact ⟨_, h⟩
  rw [hsides]
  by_cases hours : (m.ours.get? host).isSome
  · simp [classify, SortedMap.contains, Occupied, on, hours]
  · by_cases htheirs : (m.theirs.get? host).isSome <;>
      simp [classify, SortedMap.contains, Occupied, on, hours, htheirs]

theorem empty_iff :
    m.ours = .empty ∧ m.theirs = .empty ↔ ∀ side host, ¬ m.Occupied side host := by
  constructor
  · rintro ⟨hours, htheirs⟩ side host
    cases side <;> simp [Occupied, on, hours, htheirs]
  · intro h
    constructor
    · refine SortedMap.ext_get? fun host => ?_
      have hvacant := h .ours host
      simpa [Occupied, on] using hvacant
    · refine SortedMap.ext_get? fun host => ?_
      have hvacant := h .theirs host
      simpa [Occupied, on] using hvacant

end Slots

end OwnershipModel

/-! ## Changes -/

namespace Change

/-- The change fills the slot. An update to the same specification does nothing. -/
def Fills (reference : OwnerReference) : Change → Side → String → Prop
  | .add e, side, host => e.Fills reference side host
  | .update old new, side, host => old.spec ≠ new.spec ∧ new.Fills reference side host
  | .delete _, _, _ => False

/-- The change clears the slot, which it may fill again. -/
def Frees (reference : OwnerReference) : Change → Side → String → Prop
  | .add _, _, _ => False
  | .update old new, side, host => old.spec ≠ new.spec ∧ old.Frees reference side host
  | .delete e, side, host => e.Frees reference side host

end Change

namespace OwnershipModel

variable {m : OwnershipModel} {side : Side} {host : String}

theorem occupied_receive (c : Change) :
    (m.receive c).Occupied side host ↔
      c.Fills m.reference side host ∨
        (m.Occupied side host ∧ ¬ c.Frees m.reference side host) := by
  cases c with
  | add e => simp [receive, insert, ownerOf, occupied_place, Change.Fills, Change.Frees,
      ServiceEntry.Fills]
  | update old new =>
    by_cases hspec : old.spec = new.spec
    · simp [receive, update, hspec, Change.Fills, Change.Frees]
    · simp [receive, update, hspec, ownerOf, occupied_place, occupied_clear, Change.Fills,
        Change.Frees, ServiceEntry.Fills, ServiceEntry.Frees]
  | delete e => simp [receive, delete, ownerOf, occupied_clear, Change.Fills, Change.Frees,
      ServiceEntry.Frees]

@[simp] theorem reference_receiveAll (changes : List Change) :
    (m.receiveAll changes).reference = m.reference := by
  induction changes generalizing m with
  | nil => rfl
  | cons c rest ih => exact (ih (m := m.receive c)).trans (m.reference_receive c)

theorem occupied_receiveAll_delete (gone : List ServiceEntry) :
    (m.receiveAll (gone.map Change.delete)).Occupied side host ↔
      m.Occupied side host ∧ ∀ e ∈ gone, ¬ e.Frees m.reference side host := by
  induction gone generalizing m with
  | nil => simp [receiveAll]
  | cons e rest ih =>
    -- A deletion fills nothing, so it only adds one more entry that must not clear the slot.
    have hstep : m.receiveAll ((e :: rest).map Change.delete) =
        (m.receive (.delete e)).receiveAll (rest.map Change.delete) := rfl
    rw [hstep, ih, occupied_receive, reference_receive]
    simp [Change.Fills, Change.Frees, and_assoc]

end OwnershipModel

/-! ## Events -/

/-- An informer with the ownership model that observes it. -/
structure WatchedModel where
  informer : Informer
  model : OwnershipModel

namespace WatchedModel

/-- Before the first event nothing is known. -/
def fresh (reference : OwnerReference) : WatchedModel := ⟨{}, { reference }⟩

/-- The informer handles an event, and the model hears of the changes. -/
def observe (w : WatchedModel) (event : WatchEvent) : WatchedModel :=
  ⟨(w.informer.handle event).1, w.model.receiveAll (w.informer.handle event).2⟩

def observeAll (w : WatchedModel) (events : List WatchEvent) : WatchedModel :=
  events.foldl observe w

/-- The model may as well take in the changes of all events at the end, as a handler does that is
behind. -/
theorem observeAll_eq_handleAll (w : WatchedModel) (events : List WatchEvent) :
    w.observeAll events =
      ⟨(w.informer.handleAll events).1, w.model.receiveAll (w.informer.handleAll events).2⟩ := by
  induction events generalizing w with
  | nil => rfl
  | cons event rest ih =>
    have hstep : w.observeAll (event :: rest) = (w.observe event).observeAll rest := rfl
    rw [hstep, ih]
    simp [Informer.handleAll, observe, OwnershipModel.receiveAll, List.foldl_append]

@[simp] theorem observeAll_append (w : WatchedModel) (before after : List WatchEvent) :
    w.observeAll (before ++ after) = (w.observeAll before).observeAll after :=
  List.foldl_append

@[simp] theorem observeAll_cons (w : WatchedModel) (event : WatchEvent)
    (rest : List WatchEvent) : w.observeAll (event :: rest) = (w.observe event).observeAll rest :=
  rfl

@[simp] theorem observeAll_nil (w : WatchedModel) : w.observeAll [] = w := rfl

/-- What the informer has under a key. -/
def known? (w : WatchedModel) (key : String) : Option ServiceEntry := w.informer.store.get? key

/-- The reference that marks our entries. -/
def reference (w : WatchedModel) : OwnerReference := w.model.reference

def Occupied (w : WatchedModel) (side : Side) (host : String) : Prop :=
  w.model.Occupied side host

/-- The model takes the entry in: it is new, or its specification is. -/
def TakesIn (w : WatchedModel) (e : ServiceEntry) : Prop :=
  ∀ old, w.known? (Informer.storeKey e) = some old → old.spec ≠ e.spec

/-- The version that the entry takes the place of is removed from the slot. -/
def Displaces (w : WatchedModel) (e : ServiceEntry) (side : Side) (host : String) : Prop :=
  ∃ old, w.known? (Informer.storeKey e) = some old ∧ old.spec ≠ e.spec ∧
    old.Frees w.reference side host

section Events

variable {w : WatchedModel} {e : ServiceEntry} {side : Side} {host key : String}

theorem not_occupied_fresh (r : OwnerReference) : ¬ (fresh r).Occupied side host := by
  cases side <;> simp [fresh, Occupied, OwnershipModel.Occupied, OwnershipModel.on]

@[simp] theorem reference_observe (event : WatchEvent) :
    (w.observe event).reference = w.reference :=
  OwnershipModel.reference_receiveAll _

@[simp] theorem reference_observeAll (events : List WatchEvent) :
    (w.observeAll events).reference = w.reference := by
  induction events generalizing w with
  | nil => rfl
  | cons event rest ih => exact (ih (w := w.observe event)).trans (reference_observe event)

/-! ### An entry is shown -/

theorem known?_apply :
    (w.observe (.apply e)).known? key =
      if key = Informer.storeKey e then some e else w.known? key := by
  simp [observe, known?, Informer.handle, Informer.applyEntry]

theorem occupied_apply :
    (w.observe (.apply e)).Occupied side host ↔
      (w.TakesIn e ∧ e.Fills w.reference side host) ∨
        (w.Occupied side host ∧ ¬ w.Displaces e side host) := by
  -- A version that is known already is not announced, and one with the same specification is
  -- announced in vain.
  cases hknown : w.informer.store.get? (Informer.storeKey e) with
  | none =>
    have happly : (w.observe (.apply e)).model = w.model.receive (.add e) := by
      simp [observe, Informer.handle, Informer.applyEntry, hknown, OwnershipModel.receiveAll]
    rw [Occupied, happly, OwnershipModel.occupied_receive]
    simp [TakesIn, Displaces, known?, hknown, Change.Fills, Change.Frees, Occupied, reference]
  | some old =>
    have happly : (w.observe (.apply e)).model = w.model.receive (.update old e) := by
      by_cases hnews : old.metadata.resourceVersion ≠ e.metadata.resourceVersion ∨
        old.spec ≠ e.spec
      · simp [observe, Informer.handle, Informer.applyEntry, hknown, hnews,
          OwnershipModel.receiveAll]
      · have hversion : old.metadata.resourceVersion = e.metadata.resourceVersion :=
          Decidable.not_not.mp fun h => hnews (.inl h)
        have hspec : old.spec = e.spec := Decidable.not_not.mp fun h => hnews (.inr h)
        simp [observe, Informer.handle, Informer.applyEntry, hknown, hversion, hspec,
          OwnershipModel.receiveAll, OwnershipModel.receive, OwnershipModel.update]
    rw [Occupied, happly, OwnershipModel.occupied_receive]
    simp [TakesIn, Displaces, known?, hknown, Change.Fills, Change.Frees, Occupied, reference]

theorem known?_initApply :
    (w.observe (.initApply e)).known? key =
      if key = Informer.storeKey e then some e else w.known? key :=
  known?_apply

theorem occupied_initApply :
    (w.observe (.initApply e)).Occupied side host ↔
      (w.TakesIn e ∧ e.Fills w.reference side host) ∨
        (w.Occupied side host ∧ ¬ w.Displaces e side host) :=
  occupied_apply

/-! ### An entry goes -/

theorem known?_delete :
    (w.observe (.delete e)).known? key =
      if key = Informer.storeKey e then none else w.known? key := by
  simp [observe, known?, Informer.handle]

theorem occupied_delete :
    (w.observe (.delete e)).Occupied side host ↔
      w.Occupied side host ∧ ¬ e.Frees w.reference side host := by
  have hdelete : (w.observe (.delete e)).model = w.model.receive (.delete e) := rfl
  rw [Occupied, hdelete, OwnershipModel.occupied_receive]
  simp [Change.Fills, Change.Frees, Occupied, reference]

/-! ### The end of a listing -/

/-- At the end of the listing an entry that was not shown is removed from the slot. -/
def Abandons (w : WatchedModel) (side : Side) (host : String) : Prop :=
  ∃ key old, w.known? key = some old ∧ w.informer.wasListed key = false ∧
    old.Frees w.reference side host

theorem known?_initDone :
    (w.observe .initDone).known? key =
      if w.informer.wasListed key then w.known? key else none := by
  simp only [observe, known?, Informer.handle, SortedMap.get?_filter]
  cases hlisted : w.informer.wasListed key <;> cases w.informer.store.get? key <;> simp

theorem occupied_initDone :
    (w.observe .initDone).Occupied side host ↔ w.Occupied side host ∧ ¬ w.Abandons side host := by
  have hgone : ∀ gone : ServiceEntry,
      gone ∈ (w.informer.store.filter fun k _ => !w.informer.wasListed k).values ↔
        ∃ key, w.known? key = some gone ∧ w.informer.wasListed key = false := by
    intro gone
    simp [SortedMap.values, SortedMap.filter, known?, SortedMap.get?_eq_some_iff]
  have hdone : (w.observe .initDone).model = w.model.receiveAll
      ((w.informer.store.filter fun k _ => !w.informer.wasListed k).values.map Change.delete) :=
    rfl
  rw [Occupied, hdone, OwnershipModel.occupied_receiveAll_delete]
  -- Those that go are the known entries that were not shown.
  simp only [hgone, Abandons]
  constructor
  · rintro ⟨hoccupied, hkept⟩
    refine ⟨hoccupied, ?_⟩
    rintro ⟨key, old, hknown, hlisted, hfrees⟩
    exact hkept old ⟨key, hknown, hlisted⟩ hfrees
  · rintro ⟨hoccupied, hkept⟩
    refine ⟨hoccupied, ?_⟩
    rintro old ⟨key, hknown, hlisted⟩ hfrees
    exact hkept ⟨key, old, hknown, hlisted, hfrees⟩

end Events

end WatchedModel

end MeshRegistry
