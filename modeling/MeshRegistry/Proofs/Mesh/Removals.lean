import MeshRegistry.Proofs.Mesh.Foreign
import MeshRegistry.Proofs.Mesh.Plain
/-!
# Entries that a pass removes

Collection goes through the hosts of ours, and for a host that has left the registry it removes the
whole object that the model has there. An object that lists several hosts is in several places of
the model, and only the one that is looked at has to have left: the others may still be hosts of
the registry.

## Main definitions

- `Session.removals`: the entries that a conversation removes, as they were stored.

## Main results

- `Reconciler.mem_removals_pass_iff`: which entries a pass removes.
- `Reconciler.pass_spares_registered_iff`: exactly when a pass removes no entry of a host that is
  still in the registry.
- `Reconciler.pass_spares_registered_of_serves`: this is so where reconcilers alone have written.
-/

namespace MeshRegistry

namespace Mesh

/-- The entry that a call removes, as it is stored when the call is made. -/
def takenOut? (m : Mesh) : Call → Option ServiceEntry
  | .delete key =>
    match (m.perform (.delete key)).1 with
    | .ok _ => m.stored? key
    | .error _ => none
  | _ => none

theorem takenOut?_of_down {m : Mesh} (hdown : m.store.down = true) (c : Call) :
    m.takenOut? c = none := by
  cases c <;> simp [takenOut?, perform, MeshStore.delete, hdown]

end Mesh

namespace Session

variable {α β : Type}

/-- The entries that a conversation removes from the mesh, in the order of its calls. -/
def removals : Session α → Mesh → List ServiceEntry
  | .done _, _ => []
  | .ask c next, m => (m.takenOut? c).toList ++ (next (m.perform c).1).removals (m.perform c).2
  | .look next, m => (next m.ownership).removals m

@[simp] theorem removals_pure (a : α) (m : Mesh) : (pure a : Session α).removals m = [] := rfl

@[simp] theorem removals_call (c : Call) (m : Mesh) :
    (call c).removals m = (m.takenOut? c).toList := by
  simp [call, removals]

@[simp] theorem removals_ownership (m : Mesh) : ownership.removals m = [] := rfl

@[simp] theorem removals_bind (p : Session α) (f : α → Session β) (m : Mesh) :
    (p >>= f).removals m =
      p.removals m ++ (f (p.run Mesh.api m).1).removals (p.run Mesh.api m).2 := by
  show (p.andThen f).removals m = _
  induction p generalizing m with
  | done a => rfl
  | ask c next ih =>
    show _ ++ ((next _).andThen f).removals _ = _
    rw [ih, ← List.append_assoc]
    rfl
  | look next ih => exact ih _ _

/-- While calls are refused, nothing is removed. -/
theorem removals_of_down (p : Session α) {m : Mesh} (hdown : m.store.down = true) :
    p.removals m = [] := by
  induction p with
  | done a => rfl
  | ask c next ih => simp [removals, Mesh.takenOut?_of_down hdown, Mesh.perform_of_down c hdown, ih]
  | look next ih => exact ih _

end Session

namespace Reconciler

variable {r : Reconciler} {m : Mesh} {snapshot : Snapshot} {ours : SortedMap String ServiceEntry}
  {e : ServiceEntry}

/-! ## Reconciling removes nothing -/

theorem removals_writeHost (r : Reconciler) (host : String) (endpoints : List Endpoint) (m : Mesh) :
    (r.writeHost host endpoints).removals m = [] := by
  unfold writeHost
  rw [Session.removals_bind, Session.removals_call]
  -- Whatever the read has shown, at most one more call follows, and it is not a removal.
  split
  · rfl
  · rw [Session.removals_bind, Session.removals_call]
    split <;> rfl
  · rw [Session.removals_bind, Session.removals_call]
    split <;> rfl

theorem removals_reconcileHost (r : Reconciler) (host : String) (endpoints : List Endpoint)
    (owned : Option ServiceEntry) (m : Mesh) :
    (r.reconcileHost host endpoints owned).removals m = [] := by
  cases owned with
  | some entry =>
    unfold reconcileHost
    dsimp only
    split
    · rfl
    · exact r.removals_writeHost host endpoints m
  | none =>
    unfold reconcileHost
    rw [Session.removals_bind, Session.removals_ownership, List.nil_append]
    split
    · rfl
    · exact r.removals_writeHost host endpoints _

theorem removals_reconcileHosts (r : Reconciler) (snapshot : Snapshot)
    (ours : SortedMap String ServiceEntry) (report : PassReport) (hosts : List String) (m : Mesh) :
    (r.reconcileHosts snapshot ours report hosts).removals m = [] := by
  induction hosts generalizing report m with
  | nil => rfl
  | cons host rest ih =>
    rw [reconcileHosts]
    split
    · exact ih report m
    · rw [Session.removals_bind, removals_reconcileHost, ih]
      rfl

/-! ## What collection removes -/

theorem removals_collectEntry_of_marked {owned : ServiceEntry} (hup : m.store.down = false)
    (hstored : m.stored? ⟨r.space, owned.name⟩ = some e) (hmark : r.Marks e) :
    (r.collectEntry owned).removals m = [e] := by
  have hlabel : e.label? registryLabel = some r.registry.text := hmark
  have hdelete := Mesh.perform_delete_of_present hup hstored
  unfold collectEntry
  rw [Session.removals_bind, Session.run_call, Mesh.api_perform, Mesh.perform_get hup, hstored]
  dsimp only
  -- The first call is a read, so what is removed is what the second one removes.
  rw [if_neg (not_not.mpr hlabel), Session.removals_bind, Session.run_call, Mesh.api_perform,
    hdelete, Session.removals_call, Session.removals_call]
  simp [Mesh.takenOut?, hdelete, hstored]

theorem removals_collectEntry_of_unmarked {owned : ServiceEntry} (hup : m.store.down = false)
    (h : ∀ current, m.stored? ⟨r.space, owned.name⟩ = some current → ¬ r.Marks current) :
    (r.collectEntry owned).removals m = [] := by
  unfold collectEntry
  rw [Session.removals_bind, Session.run_call, Mesh.api_perform, Mesh.perform_get hup]
  cases hkey : m.stored? ⟨r.space, owned.name⟩ with
  | none => rfl
  | some current =>
    have hlabel : current.label? registryLabel ≠ some r.registry.text := h current hkey
    dsimp only
    rw [if_pos hlabel]
    rfl

/-- Collection removes the stored objects that some host on the list is a reason to collect, each
of them once. -/
theorem mem_removals_collectHosts_iff (hup : m.store.down = false) (deleted : Nat)
    (hosts : List String) :
    e ∈ (r.collectHosts snapshot ours deleted hosts).removals m ↔
      ∃ key, m.stored? key = some e ∧ ∃ host ∈ hosts, r.Collects snapshot ours key e host := by
  -- By induction on the list: what a turn removes is no longer there for the later ones.
  induction hosts generalizing deleted m with
  | nil => simp [collectHosts]
  | cons host rest ih =>
    rw [collectHosts]
    simp only [List.mem_cons, exists_eq_or_imp]
    cases howned : ours.get? host with
    | none =>
      -- A host that the model does not have is no reason to collect anything.
      have hnever : ∀ key, ¬ r.Collects snapshot ours key e host := by
        rintro key ⟨-, owned, hsome, -⟩
        rw [howned] at hsome
        cases hsome
      simpa [hnever] using ih hup deleted
    | some owned =>
      dsimp only
      have hcollects : ∀ key, r.Collects snapshot ours key e host ↔
          r.Marks e ∧ r.isCandidate snapshot host owned = true ∧
            (⟨r.space, owned.name⟩ : ObjectKey) = key := by
        intro key
        simp [Collects, howned]
      by_cases hcandidate : r.isCandidate snapshot host owned = true
      · rw [if_pos hcandidate, Session.removals_bind]
        by_cases hmarked : ∃ current, m.stored? ⟨r.space, owned.name⟩ = some current ∧
            r.Marks current
        · obtain ⟨current, hstored, hmark⟩ := hmarked
          rw [removals_collectEntry_of_marked hup hstored hmark,
            run_collectEntry_of_marked hup hstored hmark, List.mem_append, List.mem_singleton]
          dsimp only
          rw [ih (m := m.removed ⟨r.space, owned.name⟩ current) hup]
          constructor
          · rintro (rfl | ⟨key, hkey, later⟩)
            · exact ⟨_, hstored, .inl ((hcollects _).mpr ⟨hmark, hcandidate, rfl⟩)⟩
            · rw [Mesh.stored?_removed] at hkey
              split at hkey
              · cases hkey
              · exact ⟨key, hkey, .inr later⟩
          · rintro ⟨key, hkey, hreason⟩
            by_cases hsame : key = ⟨r.space, owned.name⟩
            · -- The object is gone after this turn, so later reasons find nothing.
              subst hsame
              exact .inl (Option.some.inj (hkey.symm.trans hstored))
            · rcases hreason with hnow | later
              · exact absurd ((hcollects key).mp hnow).2.2.symm hsame
              · refine .inr ⟨key, ?_, later⟩
                rw [Mesh.stored?_removed, if_neg hsame]
                exact hkey
        · have hunmarked : ∀ current, m.stored? ⟨r.space, owned.name⟩ = some current →
              ¬ r.Marks current := fun current hstored hmark => hmarked ⟨current, hstored, hmark⟩
          rw [removals_collectEntry_of_unmarked hup hunmarked,
            run_collectEntry_of_unmarked hup hunmarked, List.nil_append]
          dsimp only
          rw [ih hup]
          refine exists_congr fun key => and_congr_right fun hkey => ?_
          refine (or_iff_right fun hnow => ?_).symm
          obtain ⟨hmark, -, rfl⟩ := (hcollects key).mp hnow
          exact hunmarked e hkey hmark
      · have hnever : ∀ key, ¬ r.Collects snapshot ours key e host := fun key hnow =>
          hcandidate ((hcollects key).mp hnow).2.1
        simpa [hnever, if_neg hcandidate] using ih hup deleted

/-- A pass removes the objects that some host of ours is a reason to collect, as they are after the
writes of the pass. -/
theorem mem_removals_pass_iff (visit collect : Arrangement) :
    e ∈ (r.pass visit collect snapshot).removals m ↔
      m.store.down = false ∧ ∃ key, (r.reconciled visit snapshot m).stored? key = some e ∧
        ∃ host, r.Collects snapshot (r.reconciled visit snapshot m).ownership.ours key e host := by
  cases hup : m.store.down with
  | true => simp [Session.removals_of_down _ hup]
  | false =>
    have hwritten : (r.reconciled visit snapshot m).store.down = false := by
      rw [reconciled, ← run_reconcileHosts_snd snapshot _ {}, Session.down_run, hup]
    have hremovals : (r.pass visit collect snapshot).removals m =
        (r.collectHosts snapshot (r.reconciled visit snapshot m).ownership.ours 0
          (collect.arrange (r.reconciled visit snapshot m).ownership.ours.keys)).removals
          (r.reconciled visit snapshot m) := by
      simp [pass, removals_reconcileHosts, run_reconcileHosts_snd, reconciled]
    rw [hremovals, mem_removals_collectHosts_iff hwritten]
    simp only [true_and]
    -- Collection looks at every host that the model has by then.
    refine exists_congr fun key => and_congr_right fun _ => exists_congr fun host => ?_
    refine and_iff_right_of_imp ?_
    rintro ⟨-, owned, howned, -⟩
    exact collect.mem_keys_iff.mpr ⟨owned, howned⟩

/-! ## Hosts that are still registered -/

/-- The entry lists a host that the registry has. -/
def Registered (snapshot : Snapshot) (e : ServiceEntry) : Prop :=
  ∃ host ∈ e.spec.hosts, snapshot.contains host = true

/-- A pass removes no entry that lists a host of the registry exactly when calls are refused, or
when no such entry, as it is stored after the writes of the pass, is collected for the sake of
another host under which the model has it. -/
theorem pass_spares_registered_iff (r : Reconciler) (visit collect : Arrangement)
    (snapshot : Snapshot) (m : Mesh) :
    let written := r.reconciled visit snapshot m
    (∀ e ∈ (r.pass visit collect snapshot).removals m, ¬ Registered snapshot e) ↔
      m.store.down = true ∨
        ∀ key e, written.stored? key = some e → Registered snapshot e →
          ¬ ∃ host, r.Collects snapshot written.ownership.ours key e host := by
  intro written
  simp only [mem_removals_pass_iff]
  cases hup : m.store.down with
  | true => simp
  | false =>
    simp only [true_and, Bool.false_eq_true, false_or]
    constructor
    · intro hspared key e hstored hregistered hcollects
      exact hspared e ⟨key, hstored, hcollects⟩ hregistered
    · rintro hspared e ⟨key, hstored, hcollects⟩ hregistered
      exact hspared key e hstored hregistered hcollects

/-- An object that lists a registered host is removed for the sake of another host, in the very pass
that has found the registered one in order. -/
theorem registered_entry_removed :
    let endpoints := [Endpoint.onPort "10.0.0.1" 80]
    let entry : ServiceEntry :=
      { metadata :=
          { name := some "shop", space := some "default"
            labels := some (.singleton registryLabel RegistryKind.consul.text) }
        spec := { hosts := ["shop", "old-shop"], endpoints } }
    let m := (Mesh.fresh { name := "registry" }).after [.seed entry]
    let r : Reconciler := { space := "default", registry := .consul }
    let snapshot : Snapshot := .singleton "shop" endpoints
    let pass := r.pass .given .given snapshot
    "shop" ∈ entry.spec.hosts ∧ snapshot.contains "shop" = true ∧
      pass.removals m = [entry.withVersion (some "1")] ∧
      (pass.run Mesh.api m).1 = { unchanged := 1, deleted := 1 } ∧
      (pass.run Mesh.api m).2.stored? entry.key = none := by
  decide +kernel

/-- Where reconcilers alone have written, every object has one host, under which the model knows it,
so a pass removes no entry of a registered host. -/
theorem pass_spares_registered_of_serves (h : r.Serves m) (visit collect : Arrangement) :
    ∀ e ∈ (r.pass visit collect snapshot).removals m, ¬ Registered snapshot e := by
  rintro e hremoved ⟨host', hlisted, hregistered⟩
  obtain ⟨-, key, hstored, host, -, owned, howned, hcandidate, rfl⟩ :=
    (mem_removals_pass_iff visit collect).mp hremoved
  have hwritten : r.Serves (r.reconciled visit snapshot m) := h.foldl_visited _
  obtain ⟨hname, -⟩ := hwritten.plain.ours host owned howned
  obtain ⟨hkey, hplain⟩ := hwritten.plain.stored _ _ hstored
  -- The removed object has the name of the host that is looked at, and no other host.
  have hhost : host' = host := by
    have hself : host' = e.name := by
      rw [hplain.hosts] at hlisted
      exact List.mem_singleton.mp hlisted
    rw [hself, ← hname]
    exact congrArg ObjectKey.name hkey
  subst hhost
  have hgone : snapshot.contains host' = false := by
    simpa [isCandidate] using ((Bool.and_eq_true _ _).mp hcandidate).2
  rw [hgone] at hregistered
  cases hregistered

end Reconciler

end MeshRegistry
