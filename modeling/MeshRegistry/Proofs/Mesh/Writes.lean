import MeshRegistry.Proofs.Mesh.Rules
import MeshRegistry.Proofs.Mesh.Versions
import Mathlib.Logic.Basic
/-!
# Writes of an object

An object is written when an entry is seeded under its key, or when a call that creates, replaces or
removes it succeeds. As every version is handed out once, a write leaves a later version behind or
nothing, and whatever happens after it, no earlier version comes back. So an update that carries a
version fetched earlier is accepted exactly if the object has not been written since.

## Main definitions

- `Mesh.Accepts`: a call succeeds.
- `MeshEvent.Writes`, `Mesh.Written`: what counts as a write of an object.
- `Mesh.Keyed`: entries are stored under their keys.

## Main results

- `Mesh.kept_or_written`: an object is as it was, or was written and is touched.
- `Mesh.accepts_update_after_iff`: when an update with a fetched version is accepted.
-/

namespace MeshRegistry

namespace Mesh

/-- The call succeeds. -/
def Accepts (m : Mesh) (c : Call) : Prop := ∃ reply, (m.perform c).1 = .ok reply

end Mesh

/-- The event changes what is stored under the key: an entry is put there without a call, or a call
that creates, replaces or removes it succeeds. -/
def MeshEvent.Writes (key : ObjectKey) (m : Mesh) : MeshEvent → Prop
  | .seed e => e.key = key
  | .call (.create e) => e.key = key ∧ m.Accepts (.create e)
  | .call (.update e) => e.key = key ∧ m.Accepts (.update e)
  | .call (.delete k) => k = key ∧ m.Accepts (.delete k)
  | .call (.get _) => False
  | .call (.ensureSpace _) => False
  | .outage _ => False

namespace Mesh

/-- Some event of the history writes the object. -/
def Written (m : Mesh) (history : List MeshEvent) (key : ObjectKey) : Prop :=
  ∃ before event later, history = before ++ event :: later ∧ event.Writes key (m.after before)

/-- Entries are stored under their keys. -/
def Keyed (m : Mesh) : Prop := ∀ key e, m.stored? key = some e → e.key = key

section Writes

variable {m : Mesh} {e : ServiceEntry} {key : ObjectKey} {v : Nat}

/-! ### Single calls -/

theorem accepts_of_ok {c : Call} {reply : c.Reply} {m' : Mesh}
    (h : m.perform c = (.ok reply, m')) : m.Accepts c :=
  ⟨reply, congrArg Prod.fst h⟩

theorem not_accepts_of_error {c : Call} {err : MeshError} (h : (m.perform c).1 = .error err) :
    ¬ m.Accepts c := by
  rintro ⟨reply, hreply⟩
  rw [h] at hreply
  cases hreply

theorem not_accepts_of_down (c : Call) (h : m.store.down = true) : ¬ m.Accepts c := by
  have hrefused : (m.perform c).1 = .error MeshStore.outage := by
    cases c <;> simp [perform, MeshStore.get, MeshStore.create, MeshStore.update,
      MeshStore.delete, MeshStore.ensureSpace, h]
  exact not_accepts_of_error hrefused

theorem perform_get_eq_some_iff {read : ServiceEntry} :
    (m.perform (.get key)).1 = .ok (some read) ↔
      m.store.down = false ∧ m.stored? key = some read := by
  cases hup : m.store.down with
  | true => simp [perform, MeshStore.get, hup]
  | false => simp [perform_get hup]

/-- A creation stores the entry, or leaves all entries as they are. -/
theorem perform_create_cases (m : Mesh) (e : ServiceEntry) :
    (m.Accepts (.create e) ∧ (m.perform (.create e)).2 = m.created e) ∨
      (¬ m.Accepts (.create e) ∧
        ∀ key, (m.perform (.create e)).2.stored? key = m.stored? key) := by
  cases hup : m.store.down with
  | true => exact .inr ⟨not_accepts_of_down _ hup, fun key => by rw [perform_of_down _ hup]⟩
  | false =>
    by_cases hplaced : MeshStore.isNamed e = true ∧ m.store.hasSpace e.space = true
    · cases hold : m.stored? e.key with
      | none =>
        have hcreated := perform_create_of_absent hup hplaced.1 hplaced.2 hold
        exact .inl ⟨accepts_of_ok hcreated, congrArg Prod.snd hcreated⟩
      | some old =>
        -- A version is lost, but no entry changes.
        have htaken := perform_create_of_taken hup hplaced.1 hplaced.2 hold
        exact .inr ⟨not_accepts_of_error (congrArg Prod.fst htaken), fun key => by rw [htaken]; rfl⟩
    · obtain ⟨err, hrefused⟩ := perform_create_of_unplaced hup (e := e) (by simpa using hplaced)
      exact .inr ⟨not_accepts_of_error (congrArg Prod.fst hrefused), fun key => by rw [hrefused]⟩

/-- An update replaces the entry that has its version, or has no effect. -/
theorem perform_update_cases (m : Mesh) (e : ServiceEntry) :
    (m.Accepts (.update e) ∧ m.store.down = false ∧ MeshStore.isNamed e = true ∧
        ∃ old, m.stored? e.key = some old ∧
          old.metadata.resourceVersion = e.metadata.resourceVersion ∧
          (m.perform (.update e)).2 = m.replaced old e) ∨
      (¬ m.Accepts (.update e) ∧ (m.perform (.update e)).2 = m) := by
  cases hup : m.store.down with
  | true => exact .inr ⟨not_accepts_of_down _ hup, perform_of_down _ hup⟩
  | false =>
    by_cases hcurrent : MeshStore.isNamed e = true ∧ ∃ old, m.stored? e.key = some old ∧
        old.metadata.resourceVersion = e.metadata.resourceVersion
    · obtain ⟨hnamed, old, hold, hversion⟩ := hcurrent
      have hreplaced := perform_update_of_current hup hnamed hold hversion
      exact .inl ⟨accepts_of_ok hreplaced, rfl, hnamed, old, hold, hversion,
        congrArg Prod.snd hreplaced⟩
    · obtain ⟨err, hrefused⟩ := perform_update_of_refused hup (e := e)
        fun hnamed old hold hversion => hcurrent ⟨hnamed, old, hold, hversion⟩
      exact .inr ⟨not_accepts_of_error (congrArg Prod.fst hrefused), congrArg Prod.snd hrefused⟩

theorem accepts_update_iff :
    m.Accepts (.update e) ↔
      m.store.down = false ∧ MeshStore.isNamed e = true ∧
        ∃ old, m.stored? e.key = some old ∧
          old.metadata.resourceVersion = e.metadata.resourceVersion := by
  constructor
  · intro haccepts
    rcases perform_update_cases m e with
      ⟨-, hup, hnamed, old, hold, hversion, -⟩ | ⟨hrefused, -⟩
    · exact ⟨hup, hnamed, old, hold, hversion⟩
    · exact absurd haccepts hrefused
  · rintro ⟨hup, hnamed, old, hold, hversion⟩
    exact accepts_of_ok (perform_update_of_current hup hnamed hold hversion)

theorem perform_update_of_not_accepts (h : ¬ m.Accepts (.update e)) :
    (m.perform (.update e)).2 = m := by
  rcases perform_update_cases m e with ⟨haccepts, -⟩ | ⟨-, hsame⟩
  · exact absurd haccepts h
  · exact hsame

/-- A removal takes the entry away, or has no effect. -/
theorem perform_delete_cases (m : Mesh) (key : ObjectKey) :
    (m.Accepts (.delete key) ∧ ∃ old, (m.perform (.delete key)).2 = m.removed key old) ∨
      (¬ m.Accepts (.delete key) ∧ (m.perform (.delete key)).2 = m) := by
  cases hup : m.store.down with
  | true => exact .inr ⟨not_accepts_of_down _ hup, perform_of_down _ hup⟩
  | false =>
    cases hold : m.stored? key with
    | none =>
      have habsent := perform_delete_of_absent hup hold
      exact .inr ⟨not_accepts_of_error (congrArg Prod.fst habsent), congrArg Prod.snd habsent⟩
    | some old =>
      have hremoved := perform_delete_of_present hup hold
      exact .inl ⟨accepts_of_ok hremoved, old, congrArg Prod.snd hremoved⟩

/-! ### Single events -/

@[simp] theorem stored?_seed (m : Mesh) (e : ServiceEntry) (key : ObjectKey) :
    (m.seed e).stored? key = if key = e.key then some (m.stamped e) else m.stored? key := by
  simp [Mesh.seed, MeshStore.seed, advance, stored?, stamped]

theorem version_le_happen (event : MeshEvent) :
    m.store.version ≤ (m.happen event).store.version := by
  cases event with
  | seed e => exact Nat.le_succ _
  | call c => exact (perform_effect c m).version_le
  | outage down => exact le_rfl

theorem Keyed.happen (h : m.Keyed) (event : MeshEvent) : (m.happen event).Keyed := by
  have hstamped : ∀ e key read, (if key = e.key then some (m.stamped e) else m.stored? key) =
      some read → read.key = key := by
    intro e key read hread
    split at hread
    next hkey =>
      obtain rfl := Option.some.inj hread
      exact hkey.symm
    next => exact h key read hread
  intro key read hread
  cases event with
  | seed e => exact hstamped e key read (by rwa [← stored?_seed])
  | outage down => exact h key read hread
  | call c =>
    -- The effects of calls say what is stored afterwards.
    have heffect := perform_effect c m
    change (m.perform c).2.stored? key = some read at hread
    revert hread
    generalize (m.perform c).2 = m' at heffect
    intro hread
    cases heffect with
    | same => exact h key read hread
    | used => exact h key read hread
    | created e => exact hstamped e key read (by rwa [← stored?_created])
    | replaced old e => exact hstamped e key read (by rwa [← stored?_replaced m e old key])
    | removed key' old =>
      rw [stored?_removed] at hread
      split at hread
      · cases hread
      · exact h key read hread
    | spaced => exact h key read hread

theorem keyed_after (h : m.Keyed) (history : List MeshEvent) : (m.after history).Keyed := by
  induction history generalizing m with
  | nil => exact h
  | cons event rest ih => exact ih (h.happen event)

theorem Touched.happen (h : m.Touched v key) (event : MeshEvent) :
    (m.happen event).Touched v key := by
  cases event with
  | seed e =>
    refine ⟨Nat.le_succ_of_le h.age, fun read hread => ?_⟩
    rw [Mesh.happen, stored?_seed] at hread
    split at hread
    · obtain rfl := Option.some.inj hread
      exact ⟨m.store.version + 1, Nat.lt_succ_of_le h.age, rfl⟩
    · exact h.later read hread
  | call c => exact h.perform c
  | outage down => exact ⟨h.age, h.later⟩

theorem stored?_happen_of_not_writes {event : MeshEvent} (h : ¬ event.Writes key m) :
    (m.happen event).stored? key = m.stored? key := by
  cases event with
  | seed e =>
    have hkey : key ≠ e.key := fun hkey => h hkey.symm
    rw [happen, stored?_seed, if_neg hkey]
  | outage down => rfl
  | call c =>
    show (m.perform c).2.stored? key = m.stored? key
    cases c with
    | get k => rfl
    | create e =>
      rcases perform_create_cases m e with ⟨haccepts, hcreated⟩ | ⟨-, hsame⟩
      · have hkey : key ≠ e.key := fun hkey => h ⟨hkey.symm, haccepts⟩
        rw [hcreated, stored?_created, if_neg hkey]
      · exact hsame key
    | update e =>
      rcases perform_update_cases m e with ⟨haccepts, -, -, old, -, -, hreplaced⟩ | ⟨-, hsame⟩
      · have hkey : key ≠ e.key := fun hkey => h ⟨hkey.symm, haccepts⟩
        rw [hreplaced, stored?_replaced, if_neg hkey]
      · rw [hsame]
    | delete k =>
      rcases perform_delete_cases m k with ⟨haccepts, old, hremoved⟩ | ⟨-, hsame⟩
      · have hkey : key ≠ k := fun hkey => h ⟨hkey.symm, haccepts⟩
        rw [hremoved, stored?_removed, if_neg hkey]
      · rw [hsame]
    | ensureSpace space =>
      cases hup : m.store.down <;> simp [perform, MeshStore.ensureSpace, MeshStore.addSpace,
        stored?, hup]

theorem touched_happen_of_writes {event : MeshEvent} (hage : v ≤ m.store.version)
    (h : event.Writes key m) : (m.happen event).Touched v key := by
  have hnext : m.store.version ≤ (m.happen event).store.version := version_le_happen event
  cases event with
  | seed e =>
    refine touched_of_stamped (e := e) hage hnext ?_
    rw [happen, stored?_seed, if_pos h.symm]
  | outage down => exact h.elim
  | call c =>
    cases c with
    | get k => exact h.elim
    | create e =>
      -- What is stored by an accepted call carries a version that was not handed out before.
      obtain ⟨hkey, haccepts⟩ := h
      refine touched_of_stamped (e := e) hage hnext ?_
      rcases perform_create_cases m e with ⟨-, hcreated⟩ | ⟨hrefused, -⟩
      · rw [happen, hcreated, stored?_created, if_pos hkey.symm]
      · exact absurd haccepts hrefused
    | update e =>
      obtain ⟨hkey, haccepts⟩ := h
      refine touched_of_stamped (e := e) hage hnext ?_
      rcases perform_update_cases m e with ⟨-, -, -, old, -, -, hreplaced⟩ | ⟨hrefused, -⟩
      · rw [happen, hreplaced, stored?_replaced, if_pos hkey.symm]
      · exact absurd haccepts hrefused
    | delete k =>
      obtain ⟨rfl, haccepts⟩ := h
      refine touched_of_absent (hage.trans hnext) ?_
      rcases perform_delete_cases m k with ⟨-, old, hremoved⟩ | ⟨hrefused, -⟩
      · rw [happen, hremoved, stored?_removed, if_pos rfl]
      · exact absurd haccepts hrefused
    | ensureSpace space => exact h.elim

/-! ### Answers -/

/-- Only fetching shows an entry, and it shows what is stored. -/
theorem exists_get_of_mem_learnt {c : Call} {read : ServiceEntry}
    (h : read ∈ c.learnt (m.perform c).1) :
    ∃ key, c = .get key ∧ (m.perform (.get key)).1 = .ok (some read) := by
  cases c with
  | get key =>
    refine ⟨key, rfl, ?_⟩
    cases hresult : (m.perform (.get key)).1 with
    | error err => simp [Call.learnt, hresult] at h
    | ok found =>
      cases found with
      | none => simp [Call.learnt, hresult] at h
      | some e =>
        rw [hresult] at h
        rw [List.mem_singleton.mp h]
  | create e => cases h
  | update e => cases h
  | delete key => cases h
  | ensureSpace space => cases h

theorem Keyed.key_eq {read : ServiceEntry} (h : m.Keyed)
    (hread : (m.perform (.get key)).1 = .ok (some read)) : read.key = key :=
  h key read (perform_get_eq_some_iff.mp hread).2

/-- The answers of the mesh are those that conversations reckon with. -/
theorem Keyed.credible (h : m.Keyed) (c : Call) : c.Credible (m.perform c).1 := by
  intro read hlearnt
  obtain ⟨key, rfl, hread⟩ := exists_get_of_mem_learnt hlearnt
  exact h.key_eq hread

/-! ### Histories -/

theorem written_cons {event : MeshEvent} {rest : List MeshEvent} :
    m.Written (event :: rest) key ↔ event.Writes key m ∨ (m.happen event).Written rest key := by
  constructor
  · rintro ⟨before, first, later, heq, hwrites⟩
    cases before with
    | nil =>
      obtain ⟨rfl, -⟩ := List.cons.inj heq
      exact .inl hwrites
    | cons other before =>
      obtain ⟨rfl, htail⟩ := List.cons.inj heq
      exact .inr ⟨before, first, later, htail, hwrites⟩
  · rintro (hwrites | ⟨before, first, later, rfl, hwrites⟩)
    · exact ⟨[], event, rest, rfl, hwrites⟩
    · exact ⟨event :: before, first, later, rfl, hwrites⟩

theorem touched_after (h : m.Touched v key) (history : List MeshEvent) :
    (m.after history).Touched v key := by
  induction history generalizing m with
  | nil => exact h
  | cons event rest ih => exact ih (h.happen event)

/-- Along a history an object stays as it is unless it is written; then it is touched, whatever
happens to it later. -/
theorem kept_or_written (key : ObjectKey) (hage : v ≤ m.store.version)
    (history : List MeshEvent) :
    (¬ m.Written history key ∧ (m.after history).stored? key = m.stored? key) ∨
      (m.Written history key ∧ (m.after history).Touched v key) := by
  induction history generalizing m with
  | nil =>
    refine .inl ⟨?_, rfl⟩
    rintro ⟨before, event, later, heq, -⟩
    simp at heq
  | cons event rest ih =>
    rw [written_cons]
    by_cases hwrites : event.Writes key m
    · -- Once touched, the object stays so through the rest.
      exact .inr ⟨.inl hwrites, touched_after (touched_happen_of_writes hage hwrites) rest⟩
    · have hkept := stored?_happen_of_not_writes hwrites
      rcases ih (hage.trans (version_le_happen event)) with ⟨hnot, hsame⟩ | ⟨hlater, htouched⟩
      · refine .inl ⟨not_or.mpr ⟨hwrites, hnot⟩, hsame.trans hkept⟩
      · exact .inr ⟨.inr hlater, htouched⟩

/-- A version that was fetched is accepted later exactly if the object has not been written. -/
theorem accepts_update_after_iff (hnumbered : m.Numbered) {read : ServiceEntry}
    (hread : m.stored? e.key = some read)
    (hversion : e.metadata.resourceVersion = read.metadata.resourceVersion)
    (history : List MeshEvent) :
    (m.after history).Accepts (.update e) ↔
      (m.after history).store.down = false ∧ MeshStore.isNamed e = true ∧
        ¬ m.Written history e.key := by
  rw [accepts_update_iff]
  refine and_congr_right fun _ => and_congr_right fun _ => ?_
  rcases kept_or_written e.key le_rfl history with
    ⟨hnot, hkept⟩ | ⟨hwritten, htouched⟩
  · exact iff_of_true ⟨read, hkept.trans hread, hversion.symm⟩ hnot
  · refine iff_of_false ?_ (not_not.mpr hwritten)
    rintro ⟨old, hold, hsame⟩
    -- The stored version is later than every version that was out when the object was fetched.
    obtain ⟨n, hn, hfetched⟩ := hnumbered e.key read hread
    obtain ⟨n', hn', hlater⟩ := htouched.later old hold
    rw [hsame, hversion, hfetched] at hlater
    have hnumbers : n = n' := toString_injective (Option.some.inj hlater)
    omega

end Writes

end Mesh

end MeshRegistry
