import MeshRegistry.Proofs.Mesh.Turns
/-!
# The footprint of a pass

A pass leaves traces in a few places only. It creates and replaces entries under the names of the
hosts of the snapshot, and removes entries that the model had among ours and whose object it has
just seen with the label of the registry. Its report counts the hosts of the snapshot and the
successful calls. Nothing is asked of the mesh for this, neither of its entries nor of its model,
and calls may fail at will.

The exchanges of the two halves of a pass are described separately; what is said of them adds up
over the turns.

## Main definitions

- `Reconciler.Justified`: what a removal is founded on.
- `Reconciler.VisitsMade`, `Reconciler.CollectionsMade`: the exchanges of the two halves.

## Main results

- `Reconciler.pass_footprint`: what a pass writes, removes, leaves alone and reports.
-/

namespace MeshRegistry

namespace Exchange

/-- Calls of other kinds do not count. -/
theorem countP_succeeded_eq_zero {made : List Exchange} {kind : CallKind}
    (h : ∀ x ∈ made, x.call.kind ≠ kind) : made.countP (·.succeeded kind) = 0 := by
  refine List.countP_eq_zero.mpr fun x hx => ?_
  simp [succeeded, h x hx]

end Exchange

namespace Reconciler

variable {r : Reconciler} {snapshot : Snapshot} {ours : SortedMap String ServiceEntry}
  {key : ObjectKey}

/-! ## The exchanges of the visits -/

/-- The turns of the hosts of a snapshot fetch, create and replace what has the names of those
hosts, and are logged. -/
structure VisitsMade (r : Reconciler) (snapshot : Snapshot)
    (log : List (String × Except MeshError HostAction)) (made : List Exchange) : Prop where
  /-- Entries are written under the names of the hosts. -/
  calls : ∀ x ∈ made, x.call.kind = .get ∨ (x.call.kind = .create ∨ x.call.kind = .update) ∧
    ∃ host, snapshot.contains host = true ∧ x.call.key = r.keyOf host
  /-- Creations are logged. -/
  created : log.countP (·.2 = .ok .created) = made.countP (·.succeeded .create)
  /-- Replacements are logged. -/
  updated : log.countP (·.2 = .ok .updated) = made.countP (·.succeeded .update)

theorem VisitsMade.nil : r.VisitsMade snapshot [] [] := ⟨by simp, rfl, rfl⟩

theorem VisitsMade.append {log log' : List (String × Except MeshError HostAction)}
    {made made' : List Exchange} (h : r.VisitsMade snapshot log made)
    (h' : r.VisitsMade snapshot log' made') :
    r.VisitsMade snapshot (log ++ log') (made ++ made') where
  calls := List.forall_mem_append.mpr ⟨h.calls, h'.calls⟩
  created := by rw [List.countP_append, List.countP_append, h.created, h'.created]
  updated := by rw [List.countP_append, List.countP_append, h.updated, h'.updated]

/-- Calls of other kinds are not made. -/
theorem VisitsMade.kind_ne {log : List (String × Except MeshError HostAction)}
    {made : List Exchange} {kind : CallKind} (h : r.VisitsMade snapshot log made)
    (hkind : kind ≠ .get ∧ kind ≠ .create ∧ kind ≠ .update) :
    ∀ x ∈ made, x.call.kind ≠ kind := by
  rintro x hx rfl
  rcases h.calls x hx with hget | ⟨hcreate | hupdate, -⟩
  · exact hkind.1 hget
  · exact hkind.2.1 hcreate
  · exact hkind.2.2 hupdate

section Turns

variable {σ : Type} (api : MeshApi σ) (s : σ)

theorem visitsMade_writeHost {host : String} {endpoints : List Endpoint}
    (hcached : snapshot.contains host = true) :
    r.VisitsMade snapshot [(host, ((r.writeHost host endpoints).run api s).1)]
      ((r.writeHost host endpoints).exchanges api s) := by
  rcases r.writeHost_cases_of_exchanges api s host endpoints with
    ⟨err, hmade, hrun⟩ | ⟨result, hmade, hrun⟩ | ⟨current, result, hmade, hrun⟩
  · rw [hmade, hrun]
    exact ⟨by simp [Call.kind], rfl, rfl⟩
  · rw [hmade, hrun]
    refine ⟨List.forall_mem_cons.mpr ⟨.inl rfl, List.forall_mem_singleton.mpr ?_⟩, ?_, ?_⟩
    · exact .inr ⟨.inl rfl, host, hcached, rfl⟩
    · cases result <;> rfl
    · cases result <;> rfl
  · rw [hmade, hrun]
    refine ⟨List.forall_mem_cons.mpr ⟨.inl rfl, List.forall_mem_singleton.mpr ?_⟩, ?_, ?_⟩
    · exact .inr ⟨.inr rfl, host, hcached, rfl⟩
    · cases result <;> rfl
    · cases result <;> rfl

theorem visitsMade_visitTurn (host : String) :
    r.VisitsMade snapshot (((r.visitTurn snapshot ours host).run api s).1.map (host, ·)).toList
      ((r.visitTurn snapshot ours host).exchanges api s) := by
  unfold visitTurn
  cases hget : snapshot.get? host with
  | none => exact .nil
  | some endpoints =>
    have hcached : snapshot.contains host = true := by simp [SortedMap.contains, hget]
    simp only [Session.run_bind, Session.exchanges_bind, Session.run_pure,
      Session.exchanges_pure, List.append_nil, Option.map_some, Option.toList_some]
    rcases r.reconcileHost_cases_of_exchanges api s host endpoints (ours.get? host) with
      ⟨hmade, hrun⟩ | ⟨hmade, hrun⟩
    · -- A host that is left alone is neither created nor replaced.
      rw [hmade, hrun]
      refine ⟨by simp, ?_, ?_⟩ <;> cases ours.get? host <;> rfl
    · rw [hmade, hrun]
      exact visitsMade_writeHost api s hcached

theorem visitsMade_visits (r : Reconciler) (snapshot : Snapshot) (api : MeshApi σ) (s : σ)
    (visit : Arrangement) :
    r.VisitsMade snapshot ((r.visits visit snapshot).run api s).1
      ((r.visits visit snapshot).exchanges api s) :=
  Session.inTurn_adds_up .nil .append (fun host _ s => visitsMade_visitTurn api s host) s

/-- Every host of the snapshot is logged once. -/
theorem length_visits (visit : Arrangement) :
    ((r.visits visit snapshot).run api s).1.length = snapshot.size := by
  refine (Session.length_inTurn (fun host hmem s => ?_) s).trans ?_
  · obtain ⟨endpoints, hget⟩ := visit.mem_keys_iff.mp hmem
    simp [visitTurn, hget]
  · rw [(visit.perm _).length_eq, SortedMap.keys, List.length_map, SortedMap.size]

end Turns

/-! ## The exchanges of the collection -/

/-- A removal is founded on what came before it: the object has just been fetched and carried the
label of the registry, and the model has an entry with its name and namespace among ours, at a
host that begins as the hosts of the registry do and is not in the snapshot. -/
def Justified (r : Reconciler) (snapshot : Snapshot) (ours : SortedMap String ServiceEntry)
    (before : List Exchange) (key : ObjectKey) : Prop :=
  ∃ earlier fetched host e, before = earlier ++ [⟨.get key, .ok (some fetched)⟩] ∧
    r.Marks fetched ∧ key.space = r.space ∧ ours.get? host = some e ∧ e.key = key ∧
    Text.startsWith host r.hostPrefix = true ∧ snapshot.contains host = false

theorem Justified.prepend {before : List Exchange} (h : r.Justified snapshot ours before key)
    (made : List Exchange) : r.Justified snapshot ours (made ++ before) key := by
  obtain ⟨earlier, fetched, host, e, rfl, h⟩ := h
  exact ⟨made ++ earlier, fetched, host, e, by simp, h⟩

/-- Every removal among the exchanges is founded on what came before it. -/
def JustifiesRemovals (r : Reconciler) (snapshot : Snapshot) (ours : SortedMap String ServiceEntry)
    (made : List Exchange) : Prop :=
  ∀ before x later, made = before ++ x :: later → x.call.kind = .delete →
    r.Justified snapshot ours before x.call.key

theorem justifiesRemovals_of_none {made : List Exchange} (h : ∀ x ∈ made, x.call.kind ≠ .delete) :
    r.JustifiesRemovals snapshot ours made := by
  rintro before x later rfl hkind
  exact absurd hkind (h x (by simp))

theorem JustifiesRemovals.append {made made' : List Exchange}
    (h : r.JustifiesRemovals snapshot ours made) (h' : r.JustifiesRemovals snapshot ours made') :
    r.JustifiesRemovals snapshot ours (made ++ made') := by
  intro before x later hsplit hkind
  -- The removal is one of the first exchanges, or one of the others with all the first before it.
  rcases List.append_eq_append_iff.mp hsplit with ⟨rest, hbefore, hmade'⟩ | ⟨rest, hmade, hlater⟩
  · rw [hbefore]
    exact (h' rest x later hmade' hkind).prepend made
  · cases rest with
    | nil =>
      have hbefore : before = made := by simpa using hmade.symm
      rw [hbefore, ← List.append_nil made]
      exact (h' [] x later hlater.symm hkind).prepend made
    | cons y rest =>
      obtain ⟨rfl, -⟩ := List.cons.inj hlater
      exact h before x rest hmade hkind

/-- The turns of the hosts of ours fetch and remove; removals are founded on what came before them,
and are logged. -/
structure CollectionsMade (r : Reconciler) (snapshot : Snapshot)
    (ours : SortedMap String ServiceEntry) (log : List (String × Bool)) (made : List Exchange) :
    Prop where
  /-- Objects are fetched and removed. -/
  calls : ∀ x ∈ made, x.call.kind = .get ∨ x.call.kind = .delete
  /-- Each removal is founded on what came before it. -/
  justified : r.JustifiesRemovals snapshot ours made
  /-- Removals are logged. -/
  deleted : log.countP (·.2) = made.countP (·.succeeded .delete)

theorem CollectionsMade.nil : r.CollectionsMade snapshot ours [] [] :=
  ⟨by simp, justifiesRemovals_of_none (by simp), rfl⟩

theorem CollectionsMade.append {log log' : List (String × Bool)} {made made' : List Exchange}
    (h : r.CollectionsMade snapshot ours log made)
    (h' : r.CollectionsMade snapshot ours log' made') :
    r.CollectionsMade snapshot ours (log ++ log') (made ++ made') where
  calls := List.forall_mem_append.mpr ⟨h.calls, h'.calls⟩
  justified := h.justified.append h'.justified
  deleted := by rw [List.countP_append, List.countP_append, h.deleted, h'.deleted]

theorem CollectionsMade.kind_ne {log : List (String × Bool)} {made : List Exchange}
    {kind : CallKind} (h : r.CollectionsMade snapshot ours log made)
    (hkind : kind ≠ .get ∧ kind ≠ .delete) : ∀ x ∈ made, x.call.kind ≠ kind := by
  rintro x hx rfl
  rcases h.calls x hx with hget | hdelete
  · exact hkind.1 hget
  · exact hkind.2 hdelete

section Turns

variable {σ : Type} (api : MeshApi σ) (s : σ)

theorem collectionsMade_collectEntry {host : String} {e : ServiceEntry}
    (hours : ours.get? host = some e) (hcandidate : r.isCandidate snapshot host e = true) :
    r.CollectionsMade snapshot ours [(host, ((r.collectEntry e).run api s).1)]
      ((r.collectEntry e).exchanges api s) := by
  rcases r.collectEntry_cases_of_exchanges api s e with
    ⟨fetched, hmade, hrun⟩ | ⟨current, result, hmark, hmade, hrun⟩
  · rw [hmade, hrun]
    exact ⟨by simp [Call.kind], justifiesRemovals_of_none (by simp [Call.kind]), rfl⟩
  · rw [hmade, hrun]
    refine ⟨by simp [Call.kind], ?_, by cases result <;> rfl⟩
    intro before x later hsplit hkind
    simp only [isCandidate, Bool.and_eq_true, beq_iff_eq, Bool.not_eq_true'] at hcandidate
    obtain ⟨⟨hbegins, hspace⟩, hgone⟩ := hcandidate
    have hkey : e.key = ⟨r.space, e.name⟩ := by rw [← hspace]; rfl
    -- Only the second of the two calls is a removal.
    cases before with
    | nil =>
      obtain ⟨rfl, -⟩ := List.cons.inj hsplit
      cases hkind
    | cons fetch rest =>
      obtain ⟨rfl, hrest⟩ := List.cons.inj hsplit
      cases rest with
      | nil =>
        obtain ⟨rfl, -⟩ := List.cons.inj hrest
        exact ⟨[], current, host, e, rfl, hmark, rfl, hours, hkey, hbegins, hgone⟩
      | cons _ rest => simp at hrest

theorem collectionsMade_collectTurn (host : String) :
    r.CollectionsMade snapshot ours
      (((r.collectTurn snapshot ours host).run api s).1.map (host, ·)).toList
      ((r.collectTurn snapshot ours host).exchanges api s) := by
  unfold collectTurn
  cases hours : ours.get? host with
  | none => exact .nil
  | some e =>
    dsimp only
    split
    next hcandidate =>
      simp only [Session.run_bind, Session.exchanges_bind, Session.run_pure,
        Session.exchanges_pure, List.append_nil, Option.map_some, Option.toList_some]
      exact collectionsMade_collectEntry api s hours hcandidate
    next => exact .nil

theorem collectionsMade_collections (r : Reconciler) (snapshot : Snapshot) (api : MeshApi σ) (s : σ)
    (collect : Arrangement) :
    r.CollectionsMade snapshot (api.ownership s).ours ((r.collections collect snapshot).run api s).1
      ((r.collections collect snapshot).exchanges api s) :=
  Session.inTurn_adds_up .nil .append (fun host _ s => collectionsMade_collectTurn api s host) s

end Turns

/-! ## The footprint -/

/-- A pass over any mesh, whichever calls fail. Entries are created and replaced under the names of
the hosts of the snapshot. What is removed is in the target namespace, was fetched just before and
had the label of the registry, and has the name and the namespace of an entry that the model had
among ours after the writes, at a host that begins as the hosts of the registry do and is not in the
snapshot. An object that no successful call has written is still there as it was, and so are the
namespaces. The report counts every host of the snapshot once, and the successful calls of each
kind. -/
theorem pass_footprint {σ : Type} (api : MeshApi σ) (mesh : σ → Mesh) (hapi : api.Relays mesh)
    (r : Reconciler) (visit collect : Arrangement) (snapshot : Snapshot) (s : σ) :
    let p := r.pass visit collect snapshot
    let report := (p.run api s).1
    let after := mesh (p.run api s).2
    let made := p.exchanges api s
    let ours := (mesh ((r.visits visit snapshot).run api s).2).ownership.ours
    (∀ x ∈ made, x.call.kind = .create ∨ x.call.kind = .update →
      ∃ host, snapshot.contains host = true ∧ x.call.key = r.keyOf host) ∧
    (∀ before x later, made = before ++ x :: later → x.call.kind = .delete →
      r.Justified snapshot ours before x.call.key) ∧
    (∀ key, (∀ x ∈ made, ¬ x.Wrote key) → after.stored? key = (mesh s).stored? key) ∧
    after.store.spaces = (mesh s).store.spaces ∧
    report.created + report.updated + report.unchanged + report.skipped + report.failed =
      snapshot.size ∧
    report.created = made.countP (·.succeeded .create) ∧
    report.updated = made.countP (·.succeeded .update) ∧
    report.deleted = made.countP (·.succeeded .delete) := by
  intro p report after made ours
  -- The two halves of the pass, the second of which goes on where the first has ended.
  let s' := ((r.visits visit snapshot).run api s).2
  have hvisits := r.visitsMade_visits snapshot api s visit
  have hcollections := r.collectionsMade_collections snapshot api s' collect
  rw [hapi.ownership s'] at hcollections
  have hmade : made = (r.visits visit snapshot).exchanges api s ++
      (r.collections collect snapshot).exchanges api s' := by
    rw [← exchanges_loggedPass, ← exchanges_pass]
  have hreport : report = PassLog.report
      { reconciled := ((r.visits visit snapshot).run api s).1
        collected := ((r.collections collect snapshot).run api s').1 } := by
    simp only [report, p, run_pass, run_loggedPass, s']
  obtain ⟨hcreated, hupdated, htotal⟩ :=
    PassReport.countAll_spec {} ((r.visits visit snapshot).run api s).1
  refine ⟨?_, ?_, fun key hspared => hapi.stored?_run p hspared, ?_, ?_, ?_, ?_, ?_⟩
  · rw [hmade]
    refine List.forall_mem_append.mpr ⟨fun x hx hkind => ?_, fun x hx hkind => ?_⟩
    · rcases hvisits.calls x hx with hget | ⟨-, hhost⟩
      · simp [hget] at hkind
      · exact hhost
    · rcases hcollections.calls x hx with hget | hdelete
      · simp [hget] at hkind
      · simp [hdelete] at hkind
  · rw [hmade]
    refine (justifiesRemovals_of_none fun x hx => ?_).append hcollections.justified
    exact hvisits.kind_ne (by decide) x hx
  · have hkinds : ∀ x ∈ made, x.call.kind ≠ .ensureSpace := by
      rw [hmade]
      exact List.forall_mem_append.mpr
        ⟨hvisits.kind_ne (by decide), hcollections.kind_ne (by decide)⟩
    exact hapi.spaces_run p hkinds
  · rw [hreport]
    refine htotal.trans ?_
    rw [length_visits]
    exact Nat.zero_add _
  · rw [hreport, hmade, List.countP_append, ← hvisits.created,
      Exchange.countP_succeeded_eq_zero (hcollections.kind_ne (by decide))]
    exact hcreated.trans (Nat.zero_add _)
  · rw [hreport, hmade, List.countP_append, ← hvisits.updated,
      Exchange.countP_succeeded_eq_zero (hcollections.kind_ne (by decide))]
    exact hupdated.trans (Nat.zero_add _)
  · rw [hreport, hmade, List.countP_append, ← hcollections.deleted,
      Exchange.countP_succeeded_eq_zero (hvisits.kind_ne (by decide)), Nat.zero_add]
    rfl

/-- The first replacement fails: the entry stays as it was, while another one is created and a third
one removed. -/
theorem footprint_of_failed_replacement :
    let reference : OwnerReference := { name := "registry" }
    let r : Reconciler :=
      { space := "mesh", registry := .consul, hostPrefix := "or", owner := some reference }
    let endpoints := [Endpoint.onPort "10.0.0.1" 80]
    let start : Mesh := ((Mesh.fresh reference).seed (r.builder.build "orders" [])).seed
      (r.builder.build "oranges" endpoints)
    let s : List Fault × Mesh := ([⟨.update, .unavailable⟩], start)
    let p := r.pass .given .given (.ofList [("orbit", endpoints), ("orders", endpoints)])
    let after := (p.run Mesh.api.withFaults s).2.2
    after.stored? ⟨"mesh", "orders"⟩ = start.stored? ⟨"mesh", "orders"⟩ ∧
      after.store.spaces = start.store.spaces ∧
      (p.run Mesh.api.withFaults s).1 = { created := 1, deleted := 1, failed := 1 } := by
  intro reference r endpoints start s p after
  obtain ⟨-, -, hkept, hspaces, -⟩ := pass_footprint Mesh.api.withFaults (fun s => s.2)
    Mesh.relays_api.withFaults r .given .given
    (.ofList [("orbit", endpoints), ("orders", endpoints)]) s
  exact ⟨hkept ⟨"mesh", "orders"⟩ (by decide +kernel), hspaces, by decide +kernel⟩

end Reconciler

end MeshRegistry
