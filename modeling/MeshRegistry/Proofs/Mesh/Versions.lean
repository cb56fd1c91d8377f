import MeshRegistry.Proofs.Mesh.Calls
import MeshRegistry.Text.Numeral
import Mathlib.Order.Basic
import Mathlib.Order.Nat
/-!
# Versions along a history

The store counts its versions up and gives each of them to one stored object. So the version of an
object tells whether the object has been written since a moment: an object that was stored at that
moment is still the same exactly if its version is not a later one.

## Main definitions

- `MeshEvent`, `Mesh.after`: a history of the mesh by any actors.
- `Mesh.Numbered`: every stored version was handed out by the store.
- `Mesh.Touched`: whatever is stored under a key now was written after a moment.

## Main results

- `Mesh.numbered_after`: every history leads to a numbered mesh.
- `Session.touched_run`: a conversation leaves touched what is touched.
- `Mesh.Numbered.not_touched`: an object that is still the same is not touched.
-/

namespace MeshRegistry

/-- Something that happens to the mesh, by any actor. -/
inductive MeshEvent where
  /-- An entry is put into the store without a call. -/
  | seed (e : ServiceEntry)
  /-- A call is made. -/
  | call (c : Call)
  /-- Calls are refused from now on, or accepted again. -/
  | outage (down : Bool)

namespace Mesh

/-- The mesh with nothing stored, followed by a model with the given reference. -/
def fresh (reference : OwnerReference) : Mesh := { store := {}, ownership := { reference } }

/-- The mesh after an event. -/
def happen (m : Mesh) : MeshEvent → Mesh
  | .seed e => m.seed e
  | .call c => (m.perform c).2
  | .outage down => m.setDown down

/-- The mesh after a history. -/
def after (m : Mesh) (history : List MeshEvent) : Mesh := history.foldl happen m

/-! ## The effects of calls on versions -/

/-- The effect of a call on the count of versions. -/
theorem Effect.version_le {m m' : Mesh} {c : Call} (h : m.Effect c m') :
    m.store.version ≤ m'.store.version := by
  cases h <;> simp

/-- An entry that is there after a call was there before it, or it carries the next version. -/
theorem Effect.entry_cases {m m' : Mesh} {c : Call} (h : m.Effect c m') {key : ObjectKey}
    {e : ServiceEntry} (he : m'.stored? key = some e) :
    m.stored? key = some e ∨
      m'.store.version = m.store.version + 1 ∧
        e.metadata.resourceVersion = some m.store.nextVersion := by
  cases h with
  | same => exact .inl he
  | used => exact .inl he
  | created e' =>
    rw [stored?_created] at he
    split at he
    · obtain rfl := Option.some.inj he
      exact .inr ⟨rfl, rfl⟩
    · exact .inl he
  | replaced old e' =>
    rw [stored?_replaced] at he
    split at he
    · obtain rfl := Option.some.inj he
      exact .inr ⟨rfl, rfl⟩
    · exact .inl he
  | removed key' old =>
    rw [stored?_removed] at he
    split at he
    · cases he
    · exact .inl he
  | spaced => exact .inl he

/-! ## Numbered meshes -/

/-- Every stored version was handed out by the store. -/
def Numbered (m : Mesh) : Prop :=
  ∀ key e, m.stored? key = some e →
    ∃ n, n ≤ m.store.version ∧ e.metadata.resourceVersion = some (toString n)

theorem numbered_fresh (reference : OwnerReference) : (fresh reference).Numbered := by
  intro key e he
  cases he

theorem Numbered.perform {m : Mesh} (h : m.Numbered) (c : Call) : (m.perform c).2.Numbered := by
  intro key e he
  have heffect := perform_effect c m
  -- An old entry keeps its number, which is still below the count, and a new one has the last.
  rcases heffect.entry_cases he with hbefore | ⟨hnext, hversion⟩
  · obtain ⟨n, hn, hversion⟩ := h key e hbefore
    exact ⟨n, hn.trans heffect.version_le, hversion⟩
  · exact ⟨m.store.version + 1, hnext.ge, hversion⟩

theorem Numbered.seed {m : Mesh} (h : m.Numbered) (e : ServiceEntry) : (m.seed e).Numbered := by
  intro key e' he'
  have hlook : (m.seed e).stored? key =
      if key = e.key then some (m.stamped e) else m.stored? key := by
    simp [Mesh.seed, MeshStore.seed, advance, stored?, stamped]
  rw [hlook] at he'
  split at he'
  · obtain rfl := Option.some.inj he'
    exact ⟨m.store.version + 1, le_rfl, rfl⟩
  · obtain ⟨n, hn, hversion⟩ := h key e' he'
    exact ⟨n, Nat.le_succ_of_le hn, hversion⟩

theorem Numbered.happen {m : Mesh} (h : m.Numbered) (event : MeshEvent) :
    (m.happen event).Numbered := by
  cases event with
  | seed e => exact h.seed e
  | call c => exact h.perform c
  | outage down => exact h

/-- Every history leads to a numbered mesh. -/
theorem numbered_after {m : Mesh} (h : m.Numbered) (history : List MeshEvent) :
    (m.after history).Numbered := by
  induction history generalizing m with
  | nil => exact h
  | cons event rest ih => exact ih (h.happen event)

/-! ## Touched objects -/

/-- Whatever is stored under a key was written after so many versions had been handed out. -/
structure Touched (v : Nat) (key : ObjectKey) (m : Mesh) : Prop where
  /-- So many versions have been handed out. -/
  age : v ≤ m.store.version
  /-- An entry under the key has a later version. -/
  later : ∀ e, m.stored? key = some e →
    ∃ n, v < n ∧ e.metadata.resourceVersion = some (toString n)

section Touched

variable {v : Nat} {key : ObjectKey} {m : Mesh}

/-- An object stays touched, even when it is removed and created again. -/
theorem Touched.perform (h : m.Touched v key) (c : Call) : (m.perform c).2.Touched v key := by
  have heffect := perform_effect c m
  refine ⟨h.age.trans heffect.version_le, fun e he => ?_⟩
  rcases heffect.entry_cases he with hbefore | ⟨-, hversion⟩
  · exact h.later e hbefore
  · exact ⟨m.store.version + 1, Nat.lt_succ_of_le h.age, hversion⟩

/-- An entry with the next version is a touched one. -/
theorem touched_of_stamped {m' : Mesh} {e : ServiceEntry} (h : v ≤ m.store.version)
    (hnext : m.store.version ≤ m'.store.version) (he : m'.stored? key = some (m.stamped e)) :
    m'.Touched v key := by
  refine ⟨h.trans hnext, fun e' he' => ?_⟩
  rw [he] at he'
  obtain rfl := Option.some.inj he'
  exact ⟨m.store.version + 1, Nat.lt_succ_of_le h, rfl⟩

/-- A key without an entry counts as touched. -/
theorem touched_of_absent (h : v ≤ m.store.version) (hkey : m.stored? key = none) :
    m.Touched v key := by
  refine ⟨h, fun e he => ?_⟩
  rw [hkey] at he
  cases he

theorem toString_injective {a b : Nat} (h : toString a = toString b) : a = b := by
  -- The numerals have been shown to be readable, so reading them back tells them apart.
  have hdigits : Nat.toDigits 10 a = Nat.toDigits 10 b := by
    simpa using congrArg String.toList h
  have hnumbers := congrArg Text.nat? hdigits
  rw [Text.nat?_toDigits, Text.nat?_toDigits] at hnumbers
  exact Option.some.inj hnumbers

/-- An object that is still what it was at some moment has not been touched since. -/
theorem Numbered.not_touched {m' : Mesh} {e : ServiceEntry} (hm : m.Numbered)
    (he : m.stored? key = some e) (he' : m'.stored? key = some e) :
    ¬ m'.Touched m.store.version key := by
  intro htouched
  obtain ⟨n, hn, hversion⟩ := hm key e he
  obtain ⟨n', hn', hversion'⟩ := htouched.later e he'
  -- One entry would carry both a version from before that moment and one from after it.
  rw [hversion] at hversion'
  have hsame : n = n' := toString_injective (Option.some.inj hversion')
  omega

end Touched

end Mesh

namespace Session

variable {α : Type} {v : Nat} {key : ObjectKey} {m : Mesh}

/-- A conversation gives no version back. -/
theorem version_le_run (p : Session α) (h : v ≤ m.store.version) :
    v ≤ (p.run Mesh.api m).2.store.version :=
  p.run_preserves Mesh.api (P := fun s => v ≤ s.store.version)
    (fun c s hs => hs.trans (Mesh.perform_effect c s).version_le) h

/-- A conversation leaves touched what is touched. -/
theorem touched_run (p : Session α) (h : m.Touched v key) :
    (p.run Mesh.api m).2.Touched v key :=
  p.run_preserves Mesh.api (P := Mesh.Touched v key) (fun c _ h => h.perform c) h

end Session

end MeshRegistry
