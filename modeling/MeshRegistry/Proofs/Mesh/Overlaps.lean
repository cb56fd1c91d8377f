import MeshRegistry.Proofs.Mesh.Reflection
import Mathlib.Data.List.Induction
/-!
# Hosts on both sides

Inserting an entry of somebody else fills slots on their side and leaves our side alone, while a
host is looked up on our side first. Whether the hosts of the entry are classified as theirs is
settled by the changes before it, and for each host by those changes alone that touch the slot of
the host on our side: the slot is occupied when one of them has filled it and none of the later
ones has cleared it.

## Main definitions

- `FilledLast`: a slot has been filled and has not been cleared since.

## Main results

- `OwnershipModel.occupied_receiveAll`: the slots after a list of changes.
- `OwnershipModel.foreign_hosts_classified_iff`: where an inserted entry of somebody else is found.
-/

namespace MeshRegistry

/-- One of the changes fills the slot, and none of the later ones clears it. -/
def FilledLast (reference : OwnerReference) (changes : List Change) (side : Side)
    (host : String) : Prop :=
  ∃ before c after, changes = before ++ c :: after ∧ c.Fills reference side host ∧
    ∀ later ∈ after, ¬ later.Frees reference side host

section FilledLast

variable {reference : OwnerReference} {changes : List Change} {side : Side} {host : String}

theorem not_filledLast_nil : ¬ FilledLast reference [] side host := by
  rintro ⟨before, c, after, h, -⟩
  simp at h

theorem filledLast_concat (c : Change) :
    FilledLast reference (changes ++ [c]) side host ↔
      c.Fills reference side host ∨
        (FilledLast reference changes side host ∧ ¬ c.Frees reference side host) := by
  constructor
  · rintro ⟨before, filling, after, hchanges, hfills, hkept⟩
    -- The change that fills the slot is the last one, or the last one comes after it.
    rcases List.eq_nil_or_concat after with rfl | ⟨after, last, rfl⟩
    · obtain ⟨-, rfl⟩ := List.append_singleton_inj.mp hchanges
      exact .inl hfills
    · rw [List.concat_eq_append, ← List.cons_append, ← List.append_assoc] at hchanges
      obtain ⟨rfl, rfl⟩ := List.append_singleton_inj.mp hchanges
      refine .inr ⟨⟨before, filling, after, rfl, hfills, fun later hlater => ?_⟩, ?_⟩
      · exact hkept later (by simp [hlater])
      · exact hkept c (by simp)
  · rintro (hfills | ⟨⟨before, filling, after, rfl, hfills, hkept⟩, hlast⟩)
    · exact ⟨changes, c, [], rfl, hfills, fun _ hlater => absurd hlater List.not_mem_nil⟩
    · refine ⟨before, filling, after ++ [c], by simp, hfills, fun later hlater => ?_⟩
      rcases List.mem_append.mp hlater with hlater | hlater
      · exact hkept later hlater
      · rwa [List.mem_singleton.mp hlater]

end FilledLast

namespace OwnershipModel

variable {m : OwnershipModel} {side : Side} {host : String}

/-- A slot is occupied after a history when it has been filled last, or has been occupied from the
start and never been cleared. -/
theorem occupied_receiveAll (changes : List Change) :
    (m.receiveAll changes).Occupied side host ↔
      FilledLast m.reference changes side host ∨
        (m.Occupied side host ∧ ∀ c ∈ changes, ¬ c.Frees m.reference side host) := by
  -- The last change decides about the slot, or leaves it as the others have left it.
  induction changes using List.reverseRecOn with
  | nil => simp [receiveAll, not_filledLast_nil]
  | append_singleton changes c ih =>
    have hlast : m.receiveAll (changes ++ [c]) = (m.receiveAll changes).receive c := by
      simp [receiveAll]
    rw [hlast, occupied_receive, ih, reference_receiveAll, filledLast_concat]
    simp only [List.mem_append, List.mem_singleton, or_imp, forall_and, forall_eq]
    tauto

/-- From the empty model on, the occupied slots are those that have been filled last. -/
theorem occupied_history (reference : OwnerReference) (changes : List Change) :
    (({ reference } : OwnershipModel).receiveAll changes).Occupied side host ↔
      FilledLast reference changes side host := by
  have hempty : ¬ ({ reference } : OwnershipModel).Occupied side host := by
    cases side <;> simp [Occupied, on]
  rw [occupied_receiveAll]
  simp [hempty]

theorem occupied_insert (e : ServiceEntry) :
    (m.insert e).Occupied side host ↔
      e.Fills m.reference side host ∨ m.Occupied side host := by
  have hadd : m.insert e = m.receive (.add e) := rfl
  rw [hadd, occupied_receive]
  simp [Change.Fills, Change.Frees]

/-! ## The side of a host -/

theorem mem_keys_ours_iff : host ∈ m.ours.keys ↔ m.Occupied .ours host := by
  rw [SortedMap.mem_keys_iff, ← Option.isSome_iff_exists]
  rfl

theorem classify_eq_us_iff : m.classify host = .us ↔ m.Occupied .ours host := by
  show m.classify host = .us ↔ m.ours.contains host = true
  unfold classify
  split
  · simp_all
  · split <;> simp_all

theorem classify_eq_them_iff :
    m.classify host = .them ↔ m.Occupied .theirs host ∧ ¬ m.Occupied .ours host := by
  show m.classify host = .them ↔ m.theirs.contains host = true ∧ ¬ m.ours.contains host = true
  unfold classify
  split
  · simp_all
  · split <;> simp_all

/-! ## Entries of somebody else -/

section Foreign

variable {reference : OwnerReference} {e : ServiceEntry}

/-- An entry of somebody else fills slots on their side only. -/
theorem fills_foreign_iff (hforeign : MeshRegistry.ownerOf reference e = .them) :
    e.Fills reference side host ↔ host ∈ e.spec.hosts ∧ side = .theirs := by
  rw [ServiceEntry.Fills, hforeign]
  exact and_congr_right fun _ => eq_comm

theorem occupied_insert_foreign (hforeign : MeshRegistry.ownerOf reference e = .them)
    (changes : List Change) :
    ((({ reference } : OwnershipModel).receiveAll changes).insert e).Occupied side host ↔
      (host ∈ e.spec.hosts ∧ side = .theirs) ∨ FilledLast reference changes side host := by
  rw [occupied_insert, reference_receiveAll, occupied_history, fills_foreign_iff hforeign]

/-- After an entry of somebody else has been inserted, their side has it under each of its hosts.
Such a host is classified as theirs, and our side does not have it, exactly when the changes before
have not filled it on our side last. Otherwise it is classified as ours. -/
theorem foreign_hosts_classified_iff (reference : OwnerReference) (changes : List Change)
    (e : ServiceEntry) (hforeign : MeshRegistry.ownerOf reference e = .them) :
    let m := (({ reference } : OwnershipModel).receiveAll changes).insert e
    ∀ host ∈ e.spec.hosts,
      m.theirs.get? host = some e ∧
        ((m.classify host = .them ∧ host ∉ m.ours.keys) ↔
          ¬ FilledLast reference changes .ours host) ∧
        (m.classify host = .us ↔ FilledLast reference changes .ours host) := by
  intro m host hhost
  -- The entry goes to their side, so our side is as the history has left it.
  have hours : m.Occupied .ours host ↔ FilledLast reference changes .ours host := by
    rw [occupied_insert_foreign hforeign]
    simp
  have htheirs : m.Occupied .theirs host :=
    (occupied_insert_foreign hforeign changes).mpr (.inl ⟨hhost, rfl⟩)
  refine ⟨?_, ?_, ?_⟩
  · have hplace : m = (({ reference } : OwnershipModel).receiveAll changes).place .them e := by
      show insert _ e = _
      rw [insert, ownerOf, reference_receiveAll, hforeign]
    rw [hplace]
    simp [place, get?_occupy, hhost]
  · rw [classify_eq_them_iff, mem_keys_ours_iff, hours]
    simp [htheirs]
  · rw [classify_eq_us_iff, hours]

/-- A host of ours that has gone is theirs as soon as they list it. -/
theorem foreign_host_classified_after_removal :
    let reference : OwnerReference := { name := "registry" }
    let shop : ServiceEntry :=
      { metadata := { name := some "shop", space := some "default" }
        spec := { hosts := ["shop"] } }
    let foreign : ServiceEntry :=
      { metadata :=
          { name := some "store", space := some "default"
            ownerReferences := some [{ name := "somebody" }] }
        spec := { hosts := ["shop"] } }
    let m := (({ reference } : OwnershipModel).receiveAll [.add shop, .delete shop]).insert foreign
    MeshRegistry.ownerOf reference foreign = .them ∧
      m.theirs.get? "shop" = some foreign ∧ m.classify "shop" = .them ∧
        "shop" ∉ m.ours.keys := by
  intro reference shop foreign m
  have hforeign : MeshRegistry.ownerOf reference foreign = .them := by decide
  obtain ⟨htheirs, hthem, -⟩ := foreign_hosts_classified_iff reference
    [.add shop, .delete shop] foreign hforeign "shop" (List.mem_singleton_self _)
  refine ⟨hforeign, htheirs, hthem.mpr ?_⟩
  -- The deletion fills nothing, and it clears whatever the insertion has filled.
  rw [← List.singleton_append, filledLast_concat]
  rintro (hfills | ⟨hfilled, hkept⟩)
  · exact hfills
  · rw [← List.nil_append [_], filledLast_concat] at hfilled
    rcases hfilled with hfills | ⟨hnothing, -⟩
    · exact hkept hfills.frees
    · exact not_filledLast_nil hnothing

/-- An entry without an owner that lists a host keeps it on our side, whoever lists it then. -/
theorem foreign_host_classified_as_ours :
    let reference : OwnerReference := { name := "registry" }
    let shop : ServiceEntry :=
      { metadata := { name := some "shop", space := some "default" }
        spec := { hosts := ["shop"] } }
    let foreign : ServiceEntry :=
      { metadata :=
          { name := some "store", space := some "default"
            ownerReferences := some [{ name := "somebody" }] }
        spec := { hosts := ["shop"] } }
    let m := (({ reference } : OwnershipModel).receiveAll [.add shop]).insert foreign
    MeshRegistry.ownerOf reference foreign = .them ∧
      m.theirs.get? "shop" = some foreign ∧ m.classify "shop" = .us ∧ "shop" ∈ m.ours.keys := by
  decide +kernel

end Foreign

end OwnershipModel

end MeshRegistry
