import MeshRegistry.Proofs.Mesh.Watched
import Mathlib.Data.List.Infix
/-!
# Orphaned slots

A slot is orphaned when its host stays occupied although the informer knows no entry any more.
The model clears slots by the hosts and the owner of the entry that goes, so a slot is safe as
long as some known entry would clear it. That is the invariant here, and it is not kept by every
event: an entry shown again with the same specification replaces the known one without the model
being told, and a deletion is announced with the entry of the event in place of the known one.
Where such an entry lists other hosts or has another owner, nobody is left to clear the slot.

## Main definitions

- `WatchedModel.Accounted`: every occupied slot is cleared when some known entry goes.
- `WatchedModel.Faithful`: what an event has to take care of for that to stay so.

## Main results

- `WatchedModel.accounted_observe_iff`: a single event.
- `WatchedModel.no_orphans_iff`: exactly which histories leave no orphaned slot.
-/

namespace MeshRegistry.WatchedModel

/-- With no entry known, no host is occupied. -/
def OrphanFree (w : WatchedModel) : Prop :=
  w.informer.store = .empty → w.model.ours = .empty ∧ w.model.theirs = .empty

/-- A known entry clears the slot when it goes. -/
def Covered (w : WatchedModel) (side : Side) (host : String) : Prop :=
  ∃ key e, w.known? key = some e ∧ e.Frees w.reference side host

/-- An entry known under another key clears the slot when it goes. -/
def CoveredBeside (w : WatchedModel) (key : String) (side : Side) (host : String) : Prop :=
  ∃ other e, other ≠ key ∧ w.known? other = some e ∧ e.Frees w.reference side host

/-- Every occupied slot is cleared when some known entry goes. -/
def Accounted (w : WatchedModel) : Prop :=
  ∀ side host, w.Occupied side host → w.Covered side host

/-- The entry takes over the occupied slots of the one that is known under its key: it clears them
when it goes, or an entry with another key does. -/
def TakesOver (w : WatchedModel) (e : ServiceEntry) : Prop :=
  ∀ old, w.known? (Informer.storeKey e) = some old → ∀ side host, w.Occupied side host →
    old.Frees w.reference side host →
      e.Frees w.reference side host ∨ w.CoveredBeside (Informer.storeKey e) side host

/-- The event keeps account of the slots. Only entries of which the model is not told, and those
that are deleted, have something to take over. -/
def Faithful (w : WatchedModel) : WatchEvent → Prop
  | .init => True
  | .initApply e => ¬ w.TakesIn e → w.TakesOver e
  | .initDone => True
  | .apply e => ¬ w.TakesIn e → w.TakesOver e
  | .delete e => w.TakesOver e

/-- Every event keeps account of the slots when its turn comes. -/
def FaithfulThroughout (w : WatchedModel) : List WatchEvent → Prop
  | [] => True
  | event :: rest => w.Faithful event ∧ (w.observe event).FaithfulThroughout rest

section Steps

variable {w : WatchedModel} {e old : ServiceEntry} {side : Side} {host key : String}

/-! ## Covered slots -/

theorem covered_iff_beside (key : String) :
    w.Covered side host ↔
      (∃ old, w.known? key = some old ∧ old.Frees w.reference side host) ∨
        w.CoveredBeside key side host := by
  constructor
  · rintro ⟨other, e, hknown, hfrees⟩
    by_cases hkey : other = key
    · subst hkey
      exact .inl ⟨e, hknown, hfrees⟩
    · exact .inr ⟨other, e, hkey, hknown, hfrees⟩
  · rintro (⟨old, hknown, hfrees⟩ | ⟨other, e, -, hknown, hfrees⟩)
    · exact ⟨key, old, hknown, hfrees⟩
    · exact ⟨other, e, hknown, hfrees⟩

theorem covered_apply :
    (w.observe (.apply e)).Covered side host ↔
      e.Frees w.reference side host ∨ w.CoveredBeside (Informer.storeKey e) side host := by
  rw [covered_iff_beside (Informer.storeKey e)]
  simp only [CoveredBeside, known?_apply, reference_observe, if_true, Option.some.injEq]
  constructor
  · rintro (⟨_, rfl, hfrees⟩ | ⟨other, e', hother, hknown, hfrees⟩)
    · exact .inl hfrees
    · exact .inr ⟨other, e', hother, by simpa [hother] using hknown, hfrees⟩
  · rintro (hfrees | ⟨other, e', hother, hknown, hfrees⟩)
    · exact .inl ⟨e, rfl, hfrees⟩
    · exact .inr ⟨other, e', hother, by simpa [hother] using hknown, hfrees⟩

theorem covered_delete :
    (w.observe (.delete e)).Covered side host ↔
      w.CoveredBeside (Informer.storeKey e) side host := by
  rw [covered_iff_beside (Informer.storeKey e)]
  simp only [CoveredBeside, known?_delete, reference_observe, if_true]
  constructor
  · rintro (⟨_, hnone, -⟩ | ⟨other, e', hother, hknown, hfrees⟩)
    · cases hnone
    · exact ⟨other, e', hother, by simpa [hother] using hknown, hfrees⟩
  · rintro ⟨other, e', hother, hknown, hfrees⟩
    exact .inr ⟨other, e', hother, by simpa [hother] using hknown, hfrees⟩

/-! ## One event -/

/-- Slots that an entry does not take over are covered by entries with other keys. -/
theorem Accounted.beside (h : w.Accounted) (hoccupied : w.Occupied side host)
    (hnot : ∀ old, w.known? key = some old → ¬ old.Frees w.reference side host) :
    w.CoveredBeside key side host := by
  rcases (covered_iff_beside key).mp (h side host hoccupied) with ⟨old, hold, hfrees⟩ | hbeside
  · exact absurd hfrees (hnot old hold)
  · exact hbeside

theorem accounted_apply_iff (h : w.Accounted) :
    (w.observe (.apply e)).Accounted ↔ (¬ w.TakesIn e → w.TakesOver e) := by
  constructor
  · -- An entry of which the model is not told leaves the slots as they are.
    intro hafter htold old hold side host hoccupied _
    refine covered_apply.mp (hafter side host (occupied_apply.mpr (.inr ⟨hoccupied, ?_⟩)))
    rintro ⟨_, hold', hspec, -⟩
    refine htold fun other hother => ?_
    obtain rfl := Option.some.inj (hother.symm.trans hold')
    exact hspec
  · intro hover side host hoccupied
    refine covered_apply.mpr ?_
    rcases occupied_apply.mp hoccupied with ⟨-, hfills⟩ | ⟨hoccupied, hkept⟩
    · exact .inl hfills.frees
    by_cases htold : w.TakesIn e
    · -- The old version has cleared its slots, so this one is another entry's.
      refine .inr (h.beside hoccupied fun old hold hfrees => ?_)
      exact hkept ⟨old, hold, htold old hold, hfrees⟩
    · -- The model keeps what it has, so this entry has to take it over from the old version.
      rcases (covered_iff_beside _).mp (h side host hoccupied) with ⟨old, hold, hfrees⟩ | hbeside
      · exact hover htold old hold side host hoccupied hfrees
      · exact .inr hbeside

theorem accounted_delete_iff (h : w.Accounted) :
    (w.observe (.delete e)).Accounted ↔ w.TakesOver e := by
  constructor
  · intro hafter old _ side host hoccupied _
    by_cases hfrees : e.Frees w.reference side host
    · exact .inl hfrees
    · exact .inr (covered_delete.mp
        (hafter side host (occupied_delete.mpr ⟨hoccupied, hfrees⟩)))
  · intro hover side host hoccupied
    obtain ⟨hoccupied, hkept⟩ := occupied_delete.mp hoccupied
    refine covered_delete.mpr ?_
    rcases (covered_iff_beside _).mp (h side host hoccupied) with ⟨old, hold, hfrees⟩ | hbeside
    · exact (hover old hold side host hoccupied hfrees).resolve_left hkept
    · exact hbeside

/-- The end of a listing takes every entry away as it is known. -/
theorem Accounted.initDone (h : w.Accounted) : (w.observe .initDone).Accounted := by
  intro side host hoccupied
  obtain ⟨hoccupied, hkept⟩ := occupied_initDone.mp hoccupied
  obtain ⟨key, e, hknown, hfrees⟩ := h side host hoccupied
  have hlisted : w.informer.wasListed key = true := by
    by_contra hlisted
    exact hkept ⟨key, e, hknown, by simpa using hlisted, hfrees⟩
  refine ⟨key, e, ?_, by simpa using hfrees⟩
  rw [known?_initDone, if_pos hlisted, hknown]

/-- An event keeps all slots accounted for exactly when it is faithful. -/
theorem accounted_observe_iff (h : w.Accounted) (event : WatchEvent) :
    (w.observe event).Accounted ↔ w.Faithful event := by
  cases event with
  | init => exact iff_of_true h trivial
  | initApply e => exact accounted_apply_iff h
  | initDone => exact iff_of_true h.initDone trivial
  | apply e => exact accounted_apply_iff h
  | delete e => exact accounted_delete_iff h

end Steps

/-! ## Histories -/

section Runs

variable {w : WatchedModel}

theorem accounted_fresh (reference : OwnerReference) : (fresh reference).Accounted :=
  fun _ _ hoccupied => absurd hoccupied (not_occupied_fresh reference)

/-- The slots are accounted for all along exactly when every event is faithful. -/
theorem accounted_throughout_iff (h : w.Accounted) (events : List WatchEvent) :
    (∀ shown, shown <+: events → (w.observeAll shown).Accounted) ↔
      w.FaithfulThroughout events := by
  induction events generalizing w with
  | nil =>
    refine iff_of_true (fun shown hshown => ?_) trivial
    rw [List.prefix_nil.mp hshown]
    exact h
  | cons event rest ih =>
    constructor
    · intro hall
      -- One event tells whether it is faithful; the others are judged from where it leads.
      have hfirst : (w.observe event).Accounted := hall [event] ⟨rest, rfl⟩
      refine ⟨(accounted_observe_iff h event).mp hfirst, (ih hfirst).mp fun shown hshown => ?_⟩
      exact hall (event :: shown) (List.cons_prefix_cons.mpr ⟨rfl, hshown⟩)
    · rintro ⟨hevent, hrest⟩ shown hshown
      have hfirst := (accounted_observe_iff h event).mpr hevent
      cases shown with
      | nil => exact h
      | cons first shown =>
        obtain ⟨rfl, htail⟩ := List.cons_prefix_cons.mp hshown
        exact (ih hfirst).mpr hrest shown htail

theorem Accounted.orphanFree (h : w.Accounted) : w.OrphanFree := by
  intro hstore
  refine (w.model.empty_iff).mpr fun side host hoccupied => ?_
  obtain ⟨key, e, hknown, -⟩ := h side host hoccupied
  simp [known?, hstore] at hknown

/-- A listing that shows nothing tells whether the slots were accounted for. -/
theorem orphanFree_relisted_iff :
    (w.observeAll [.init, .initDone]).OrphanFree ↔ w.Accounted := by
  -- No entry is shown, so every one goes, and what is occupied then is covered by none of them.
  have hstore : (w.observeAll [.init, .initDone]).informer.store = .empty := by
    refine SortedMap.ext_get? fun key => ?_
    exact known?_initDone (w := w.observe .init)
  constructor
  · intro h side host hoccupied
    by_contra hcovered
    refine (OwnershipModel.empty_iff _).mp (h hstore) side host ?_
    refine occupied_initDone.mpr ⟨hoccupied, ?_⟩
    rintro ⟨key, old, hknown, -, hfrees⟩
    exact hcovered ⟨key, old, hknown, hfrees⟩
  · intro h
    have hdone : ((w.observe .init).observe .initDone).Accounted := Accounted.initDone h
    exact hdone.orphanFree

/-- A history leaves no orphaned slot at any time, and would leave none if a listing showed that
everything is gone, exactly when each of its events is faithful. -/
theorem no_orphans_iff (reference : OwnerReference) (events : List WatchEvent) :
    (∀ shown, shown <+: events →
        ((fresh reference).observeAll shown).OrphanFree ∧
          ((fresh reference).observeAll (shown ++ [.init, .initDone])).OrphanFree) ↔
      (fresh reference).FaithfulThroughout events := by
  rw [← accounted_throughout_iff (accounted_fresh reference)]
  constructor
  · intro h shown hshown
    have hrelisted := (h shown hshown).2
    rw [observeAll_append] at hrelisted
    exact orphanFree_relisted_iff.mp hrelisted
  · intro h shown hshown
    have haccounted := h shown hshown
    refine ⟨haccounted.orphanFree, ?_⟩
    rw [observeAll_append]
    exact orphanFree_relisted_iff.mpr haccounted

/-- An entry without an owner is put on our side. When it goes to another owner, with the same
specification, and is deleted then, its host stays with us. -/
theorem slot_orphaned_by_change_of_owner :
    let shop (owners : Option (List OwnerReference)) (version : String) : ServiceEntry :=
      { metadata :=
          { name := some "shop", space := some "default", resourceVersion := some version
            ownerReferences := owners }
        spec := { hosts := ["shop"] } }
    let adopted := shop (some [{ name := "somebody" }]) "2"
    let before := (fresh { name := "registry" }).observeAll [.apply (shop none "1"), .apply adopted]
    let w := before.observe (.delete adopted)
    before.known? (Informer.storeKey adopted) = some adopted ∧
      w.informer.store = .empty ∧ w.model.classify "shop" = .us ∧ w.model.ours ≠ .empty := by
  decide +kernel

end Runs

end MeshRegistry.WatchedModel
