import MeshRegistry.Discovery.Stream
import MeshRegistry.Proofs.Mesh.Failures
import MeshRegistry.Proofs.Mesh.Rules
/-!
# What operations leave in the mesh

While calls are accepted, an operation concerns the one object that its entry names. Applying an
entry with a name and a namespace always succeeds: afterwards the object is there, with the
specification of the entry unless the object asks for a merge.

## Main definitions

- `Mesh.ApplyEffect`: what applying an entry does.

## Main results

- `Mesh.run_applyEntry_effect`: applying an entry has one of the effects.
- `MeshApi.Relays.stored?_run_of_spares`: an object that a conversation does not write.
- `Mesh.stored?_applyTo_of_ne`: operations leave other objects alone.
- `Mesh.exists_stored_applyTo`: what is stored after an entry has been applied.
- `MeshApi.run_withFaults_nil`: a script without faults does not show.
-/

namespace MeshRegistry

/-! ## Keys and names -/

/-- Whether an object has a name and a namespace can be told by its key. -/
theorem MeshStore.isNamed_congr {a b : ServiceEntry} (h : a.key = b.key) :
    isNamed a = isNamed b := by
  have hspace : a.space = b.space := congrArg ObjectKey.space h
  have hname : a.name = b.name := congrArg ObjectKey.name h
  rw [isNamed, isNamed, hspace, hname]

section Unmarked

variable {existing entry : ServiceEntry}

/-- An object that does not ask for a merge takes over the specification of the entry, and keeps the
rest. -/
theorem applied_of_unmarked (h : existing.annotation? mergeAnnotation = none) :
    applied existing entry = existing.withSpec entry.spec := by
  simp [applied, h]

theorem spec_applied_of_unmarked (h : existing.annotation? mergeAnnotation = none) :
    (applied existing entry).spec = entry.spec := by
  rw [applied_of_unmarked h]
  rfl

end Unmarked

namespace Mesh

variable {α : Type} {m : Mesh} {e : ServiceEntry} {key : ObjectKey}

/-! ## Conversations -/

theorem Keyed.run (h : m.Keyed) (p : Session α) : (p.run api m).2.Keyed :=
  p.run_preserves api (P := Keyed) (fun c _ h => h.happen (.call c)) h

/-- A call that does not write an object keeps it. -/
theorem stored?_perform_of_spares {c : Call} (h : c.Spares key) :
    (m.perform c).2.stored? key = m.stored? key := by
  have hkeeps : ¬ (MeshEvent.call c).Writes key m := by
    intro hwrites
    cases c with
    | get k => exact hwrites
    | create e => exact h hwrites.1
    | update e => exact h hwrites.1
    | delete k => exact h hwrites.1
    | ensureSpace space => exact hwrites
  exact stored?_happen_of_not_writes hkeeps

end Mesh

theorem MeshApi.Relays.stored?_run_of_spares {α σ : Type} {api : MeshApi σ} {mesh : σ → Mesh}
    (hapi : api.Relays mesh) {p : Session α} {s : σ} {key : ObjectKey} (hkeyed : (mesh s).Keyed)
    {known : List ServiceEntry} (h : p.Obeys (fun _ c => c.Spares key) known) :
    (mesh (p.run api s).2).stored? key = (mesh s).stored? key := by
  -- The rule only reckons with answers under the right keys, so the mesh has to stay keyed.
  induction p generalizing s known with
  | done a => rfl
  | look next ih => exact ih _ hkeyed (h _)
  | ask c next ih =>
    obtain ⟨hspares, hnext⟩ := h
    show (mesh ((next (api.perform c s).1).run api (api.perform c s).2).2).stored? key = _
    rcases hapi.perform c s with ⟨hanswer, hmesh⟩ | ⟨⟨err, hanswer⟩, hmesh⟩
    · have hkeyed' : (mesh (api.perform c s).2).Keyed := by
        rw [hmesh]
        exact hkeyed.happen (.call c)
      have hkept := Mesh.stored?_perform_of_spares (m := mesh s) hspares
      rw [ih _ hkeyed' (hnext _ (hanswer ▸ hkeyed.credible c)), hmesh, hkept]
    · -- A failure shows nothing, and the call has not reached the mesh.
      have hkeyed' : (mesh (api.perform c s).2).Keyed := hmesh ▸ hkeyed
      have hshown : c.Credible (api.perform c s).1 := by
        rw [hanswer]
        cases c <;> exact fun read hread => absurd hread List.not_mem_nil
      rw [ih _ hkeyed' (hnext _ hshown), hmesh]

/-- A conversation behind a script without faults is held as without the script. -/
theorem MeshApi.run_withFaults_nil {α σ : Type} (api : MeshApi σ) (p : Session α) (s : σ) :
    p.run api.withFaults ([], s) = ((p.run api s).1, ([], (p.run api s).2)) := by
  induction p generalizing s with
  | done a => rfl
  | ask c next ih => exact ih _ _
  | look next ih => exact ih _ _

/-- What single calls preserve is preserved by a conversation behind a script. -/
theorem MeshApi.run_withFaults_preserves {α σ : Type} (api : MeshApi σ) {P : σ → Prop}
    (hcall : ∀ c s, P s → P (api.perform c s).2) (p : Session α) {s : List Fault × σ}
    (h : P s.2) : P (p.run api.withFaults s).2.2 := by
  refine p.run_preserves api.withFaults (P := fun s => P s.2) (fun c s hs => ?_) h
  rcases api.perform_withFaults_cases c s with ⟨-, heffect⟩ | ⟨-, hnone⟩
  · rw [heffect]
    exact hcall c s.2 hs
  · rw [hnone]
    exact hs

namespace Mesh

section Operations

variable {m : Mesh} {e : ServiceEntry} {op : EntryOp} {key : ObjectKey}

/-! ## Operations -/

theorem Keyed.applyTo (h : m.Keyed) (op : EntryOp) : (StreamWatcher.applyTo api op m).Keyed :=
  h.run op.apply

theorem down_applyTo (op : EntryOp) :
    (StreamWatcher.applyTo api op m).store.down = m.store.down :=
  op.apply.down_run m

theorem stored?_applyTo_of_ne (hkeyed : m.Keyed) (h : op.entry.key ≠ key) :
    (StreamWatcher.applyTo api op m).stored? key = m.stored? key :=
  relays_api.stored?_run_of_spares hkeyed (spares_apply h)

theorem perform_ensureSpace (hup : m.store.down = false) (space : String) :
    m.perform (.ensureSpace space) = (.ok (), m.withSpace space) := by
  simp [perform, MeshStore.ensureSpace, hup, withSpace]

theorem hasSpace_withSpace (m : Mesh) (space : String) :
    (m.withSpace space).store.hasSpace space = true := by
  simp [withSpace, MeshStore.addSpace, MeshStore.hasSpace, SortedMap.contains]

theorem perform_get_withSpace (hup : m.store.down = false) (space : String) (key : ObjectKey) :
    (m.withSpace space).perform (.get key) = (.ok (m.stored? key), m.withSpace space) :=
  perform_get hup

/-- What applying an entry does to a mesh, and what it ends with. -/
inductive ApplyEffect (e : ServiceEntry) (m : Mesh) :
    Except MeshError ApplyOutcome × Mesh → Prop where
  /-- There was no object, so one was created. -/
  | created (absent : m.stored? e.key = none) (named : MeshStore.isNamed e = true) :
      ApplyEffect e m (.ok .created, (m.withSpace e.space).created e)
  /-- The object was as it should be. -/
  | unchanged (old : ServiceEntry) (stored : m.stored? e.key = some old)
      (same : old.spec = (applied old e).spec) :
      ApplyEffect e m (.ok .unchanged, m.withSpace e.space)
  /-- The object was replaced. -/
  | updated (old : ServiceEntry) (stored : m.stored? e.key = some old)
      (other : old.spec ≠ (applied old e).spec) (named : MeshStore.isNamed e = true) :
      ApplyEffect e m (.ok .updated, (m.withSpace e.space).replaced old (applied old e))
  /-- Something had to be written, but the entry lacks a name or a namespace. -/
  | refused (err : MeshError) (unnamed : MeshStore.isNamed e = false)
      (other : ∀ old, m.stored? e.key = some old → old.spec ≠ (applied old e).spec) :
      ApplyEffect e m (.error err, m.withSpace e.space)

/-- While calls are accepted, applying an entry has one of the effects. -/
theorem run_applyEntry_effect (hup : m.store.down = false) (hkeyed : m.Keyed) (e : ServiceEntry) :
    ApplyEffect e m ((applyEntry e).run api m) := by
  have hup' : (m.withSpace e.space).store.down = false := hup
  unfold applyEntry
  rw [Session.run_bind, Session.run_call, api_perform, perform_ensureSpace hup]
  dsimp only
  rw [Session.run_bind, Session.run_call, api_perform, perform_get_withSpace hup]
  cases hold : m.stored? e.key with
  | none =>
    have habsent : (m.withSpace e.space).stored? e.key = none := hold
    dsimp only
    rw [Session.run_bind, Session.run_call, api_perform]
    cases hnamed : MeshStore.isNamed e with
    | true =>
      rw [perform_create_of_absent hup' hnamed (hasSpace_withSpace m e.space) habsent]
      exact .created hold hnamed
    | false =>
      obtain ⟨err, hrefused⟩ := perform_create_of_unplaced hup' (e := e) (by simp [hnamed])
      rw [hrefused]
      exact .refused err hnamed fun old hstored => by rw [hold] at hstored; cases hstored
  | some old =>
    have hstored : (m.withSpace e.space).stored? e.key = some old := hold
    have hkey : (applied old e).key = e.key := (key_applied old e).trans (hkeyed _ _ hold)
    have hname : MeshStore.isNamed (applied old e) = MeshStore.isNamed e :=
      MeshStore.isNamed_congr hkey
    dsimp only
    split
    next hsame => exact .unchanged old hold hsame
    next hother =>
      rw [Session.run_bind, Session.run_call, api_perform]
      cases hnamed : MeshStore.isNamed e with
      | true =>
        -- The update carries the version that was found, so it is accepted.
        rw [perform_update_of_current hup' (hname.trans hnamed) (hkey ▸ hstored)
          (resourceVersion_applied old e).symm]
        exact .updated old hold hother hnamed
      | false =>
        obtain ⟨err, hrefused⟩ := perform_update_of_refused hup' (e := applied old e)
          fun h => absurd (hname.symm.trans h) (by simp [hnamed])
        rw [hrefused]
        refine .refused err hnamed fun old' hstored' => ?_
        rw [hold] at hstored'
        exact (Option.some.inj hstored') ▸ hother

/-- An object that is as it should be stays so. -/
theorem ApplyEffect.unchanged_of_same {ran : Except MeshError ApplyOutcome × Mesh}
    {old : ServiceEntry} (h : ApplyEffect e m ran) (hold : m.stored? e.key = some old)
    (hsame : old.spec = (applied old e).spec) : ran.1 = .ok .unchanged := by
  cases h with
  | created habsent => rw [hold] at habsent; cases habsent
  | unchanged => rfl
  | updated other hother hdiffers =>
    rw [hold] at hother
    obtain rfl := Option.some.inj hother
    exact absurd hsame hdiffers
  | refused err hunnamed hdiffers => exact absurd hsame (hdiffers old hold)

/-- No more than three calls are made to apply an entry. -/
theorem length_calls_applyEntry_le {σ : Type} (api : MeshApi σ) (e : ServiceEntry) (s : σ) :
    ((applyEntry e).calls api s).length ≤ 3 := by
  unfold applyEntry
  rw [Session.calls_bind, Session.calls_call, Session.run_call]
  rcases (api.perform (.ensureSpace e.space) s).1 with err | -
  · simp
  dsimp only
  rw [Session.calls_bind, Session.calls_call, Session.run_call]
  rcases (api.perform (.get e.key) (api.perform (.ensureSpace e.space) s).2).1 with
    err | (_ | old)
  · simp
  · dsimp only
    rw [Session.calls_bind, Session.calls_call]
    split <;> simp
  · dsimp only
    split
    · simp
    · rw [Session.calls_bind, Session.calls_call]
      split <;> simp

/-- An object that is as it should be is only fetched. -/
theorem calls_applyEntry_of_same {old : ServiceEntry} (hup : m.store.down = false)
    (hold : m.stored? e.key = some old) (hsame : old.spec = (applied old e).spec) :
    (applyEntry e).calls api m = [.ensureSpace e.space, .get e.key] := by
  unfold applyEntry
  rw [Session.calls_bind, Session.run_call, Session.calls_call, api_perform,
    perform_ensureSpace hup]
  dsimp only
  rw [Session.calls_bind, Session.run_call, Session.calls_call, api_perform,
    perform_get_withSpace hup, hold]
  dsimp only
  rw [if_pos hsame]
  rfl

/-- An entry that has been applied is there. The object has its specification, or what a merge has
made of it. -/
theorem exists_stored_applyTo (hup : m.store.down = false) (hkeyed : m.Keyed)
    (hnamed : MeshStore.isNamed e = true) :
    ∃ object, (StreamWatcher.applyTo api (.upsert e) m).stored? e.key = some object ∧
      object.spec = ((m.stored? e.key).elim e fun old => applied old e).spec := by
  show ∃ object, ((applyEntry e).run api m).2.stored? e.key = some object ∧ _
  have heffect := run_applyEntry_effect hup hkeyed e
  generalize (applyEntry e).run api m = ran at heffect
  cases heffect with
  | created habsent =>
    rw [habsent]
    exact ⟨_, (stored?_created _ e e.key).trans (if_pos rfl), rfl⟩
  | unchanged old hold hsame =>
    rw [hold]
    exact ⟨old, hold, hsame⟩
  | updated old hold =>
    have hkey : (applied old e).key = e.key := (key_applied old e).trans (hkeyed _ _ hold)
    rw [hold]
    exact ⟨_, (stored?_replaced _ (applied old e) old e.key).trans (if_pos hkey.symm), rfl⟩
  | refused err hunnamed => exact absurd (hnamed.symm.trans hunnamed) (by simp)

end Operations

end Mesh

end MeshRegistry
