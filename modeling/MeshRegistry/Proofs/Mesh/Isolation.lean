import MeshRegistry.Proofs.Mesh.Partition
import MeshRegistry.Proofs.Mesh.Turns
/-!
# One host does not depend on another

On a mesh in which every object has its own name as its only host, a pass acts on each host by
itself: what comes of a host is the same in any order of visit, and whichever calls about other
objects fail.

Two passes over one mesh are compared. All calls in a turn are about the object with the name of
the host, so before the turn of the host both passes see of it what there was at the beginning; in
its turn both do the same; and no later turn changes it.

## Main definitions

- `seenOf`: what is seen of an object while calls fail by a plan.
- `AlikeAt`: two conversations end with the same value and leave the same object.

## Main results

- `Session.run_keeps_others`: conversations about one object keep what is seen of the others.
- `Session.inTurn_isolated`: in a row of turns each host has the turn that it would have alone.
- `Reconciler.visitTurn_alike`, `Reconciler.collectTurn_alike`: a turn depends on what is seen.
- `Reconciler.pass_isolates_host`: two passes that treat the calls about a host alike do the same
  to it.
-/

namespace MeshRegistry

/-- What is seen of an object while calls fail by a plan: the calls that were made about it, and
what the mesh shows. -/
def seenOf (key : ObjectKey) (s : List Call × Mesh) : List Call × HostView :=
  (callsAbout key s.1, s.2.view key)

/-- Two conversations end with the same value and leave the same object, versions aside. -/
structure AlikeAt {α : Type} (key : ObjectKey) (ran ran' : α × List Call × Mesh) : Prop where
  /-- They end with the same value. -/
  value : ran.1 = ran'.1
  /-- They leave the same object. -/
  stored : (ran.2.2.stored? key).map ServiceEntry.unversioned =
    (ran'.2.2.stored? key).map ServiceEntry.unversioned

section Calls

variable {plan plan' : FailurePlan} {key : ObjectKey} {s s' : List Call × Mesh} {c : Call}

theorem stored?_eq_of_seen (hseen : seenOf key s = seenOf key s') :
    s.2.stored? key = s'.2.stored? key :=
  congrArg (fun seen => seen.2.stored) hseen

theorem alikeAt_of_seen {α : Type} (hseen : seenOf key s = seenOf key s') (a : α) :
    AlikeAt key (a, s) (a, s') :=
  ⟨rfl, congrArg _ (stored?_eq_of_seen hseen)⟩

/-! ## Calls about one object -/

/-- A call fails by both plans, in the same way, or by none. -/
theorem FailurePlan.AgreeOn.eq_of_seen (hplans : FailurePlan.AgreeOn key plan plan')
    (hkey : c.key = key) (hseen : seenOf key s = seenOf key s') :
    plan (c :: s.1) = plan' (c :: s'.1) :=
  hplans c s.1 s'.1 hkey (congrArg Prod.fst hseen)

/-- An object is fetched alike, and the same is seen of it afterwards. -/
theorem fetch_alike (hplans : FailurePlan.AgreeOn key plan plan')
    (hseen : seenOf key s = seenOf key s') :
    ((Mesh.api.withPlan plan).perform (.get key) s).1 =
        ((Mesh.api.withPlan plan').perform (.get key) s').1 ∧
      seenOf key ((Mesh.api.withPlan plan).perform (.get key) s).2 =
        seenOf key ((Mesh.api.withPlan plan').perform (.get key) s').2 := by
  have hcalls : callsAbout key s.1 = callsAbout key s'.1 := congrArg Prod.fst hseen
  have hview : s.2.view key = s'.2.view key := congrArg Prod.snd hseen
  have hnext : seenOf key (Call.get key :: s.1, s.2) =
      seenOf key (Call.get key :: s'.1, s'.2) := by
    refine Prod.ext ?_ hview
    show callsAbout key ([.get key] ++ s.1) = callsAbout key ([.get key] ++ s'.1)
    unfold callsAbout at hcalls ⊢
    rw [List.filter_append, List.filter_append, hcalls]
  have hplan := hplans.eq_of_seen (c := .get key) rfl hseen
  cases hfails : plan' (.get key :: s'.1) with
  | some err =>
    rw [MeshApi.perform_withPlan_of_some (hplan.trans hfails),
      MeshApi.perform_withPlan_of_some hfails]
    exact ⟨rfl, hnext⟩
  | none =>
    rw [MeshApi.perform_withPlan_of_none (hplan.trans hfails),
      MeshApi.perform_withPlan_of_none hfails]
    have hdown : s.2.store.down = s'.2.store.down := congrArg HostView.down hview
    have hstored : s.2.store.entries.get? key = s'.2.store.entries.get? key :=
      congrArg HostView.stored hview
    refine ⟨?_, hnext⟩
    simp only [Mesh.api_perform, Mesh.perform, MeshStore.get, hdown, hstored]

/-- A conversation that ends with a call, and with a value that tells only whether and how the call
has failed. -/
theorem call_alike {α : Type} (hplans : FailurePlan.AgreeOn key plan plan') (hkey : c.key = key)
    (hseen : seenOf key s = seenOf key s') {f : Except MeshError Unit → α}
    {next : c.Result → Session α}
    (hnext : ∀ result, next result = pure (f (result.map fun _ => ()))) :
    AlikeAt key ((Session.call c >>= next).run (Mesh.api.withPlan plan) s)
      ((Session.call c >>= next).run (Mesh.api.withPlan plan') s') := by
  subst hkey
  have hview : s.2.view c.key = s'.2.view c.key := congrArg Prod.snd hseen
  have hstored := stored?_eq_of_seen hseen
  have hplan := hplans.eq_of_seen rfl hseen
  rw [Session.run_call_bind hnext, Session.run_call_bind hnext]
  cases hfails : plan' (c :: s'.1) with
  | some err =>
    rw [MeshApi.perform_withPlan_of_some (hplan.trans hfails),
      MeshApi.perform_withPlan_of_some hfails]
    exact ⟨rfl, congrArg (Option.map _) hstored⟩
  | none =>
    rw [MeshApi.perform_withPlan_of_none (hplan.trans hfails),
      MeshApi.perform_withPlan_of_none hfails]
    exact ⟨congrArg f (Mesh.perform_map_of_view_eq hview), Mesh.stored?_perform_of_view_eq hview⟩

end Calls

/-! ## Conversations about other objects -/

namespace Session

variable {α : Type} {plan : FailurePlan} {key other : ObjectKey} {s : List Call × Mesh}

/-- A conversation about one object keeps what is seen of objects with other names. -/
theorem run_keeps_others (p : Session α)
    (hp : ∀ x ∈ p.exchanges (Mesh.api.withPlan plan) s, x.call.Concerns key)
    (hs : s.2.Partitioned) :
    (p.run (Mesh.api.withPlan plan) s).2.2.Partitioned ∧
      ∀ other, other.name ≠ key.name →
        seenOf other (p.run (Mesh.api.withPlan plan) s).2 = seenOf other s := by
  have hmesh := (Mesh.relays_api.withPlan plan).run_preserves p (s := s)
    (P := fun m => m.Partitioned ∧ ∀ other, other.name ≠ key.name → m.view other = s.2.view other)
    (fun x hx m hm _ => by
      obtain ⟨hpartitioned, hkept⟩ := hm.1.perform (hp x hx)
      exact ⟨hpartitioned, fun other hother => (hkept other hother).trans (hm.2 other hother)⟩)
    ⟨hs, fun _ _ => rfl⟩
  refine ⟨hmesh.1, fun other hother => Prod.ext ?_ (hmesh.2 other hother)⟩
  show callsAbout other (p.run (Mesh.api.withPlan plan) s).2.1 = callsAbout other s.1
  rw [calls_run_withPlan]
  refine callsAbout_append_of_ne fun c hc heq => hother ?_
  rw [List.mem_reverse, ← map_call_exchanges] at hc
  obtain ⟨x, hx, rfl⟩ := List.mem_map.mp hc
  rw [← heq, (hp x hx).key_eq]

/-! ## Rows of turns -/

section InTurn

variable {space host : String} {turn : String → Session (Option α)} {hosts : List String}

/-- The turns of other hosts keep what is seen of a host, and log nothing about it. -/
theorem inTurn_of_others
    (hconcerns : ∀ h s, ∀ x ∈ (turn h).exchanges (Mesh.api.withPlan plan) s,
      x.call.Concerns ⟨space, h⟩)
    (hhost : host ∉ hosts) (hs : s.2.Partitioned) :
    let row := (inTurn turn hosts).run (Mesh.api.withPlan plan) s
    row.1.filter (·.1 = host) = [] ∧ seenOf ⟨space, host⟩ row.2 = seenOf ⟨space, host⟩ s ∧
      row.2.2.Partitioned := by
  induction hosts generalizing s with
  | nil => exact ⟨rfl, rfl, hs⟩
  | cons first rest ih =>
    obtain ⟨hfirst, hrest⟩ := List.ne_and_not_mem_of_not_mem_cons hhost
    obtain ⟨hnext, hkept⟩ := run_keeps_others (turn first) (hconcerns first s) hs
    obtain ⟨hlog, hseen, hend⟩ := ih hrest hnext
    intro row
    simp only [row, run_inTurn_cons]
    refine ⟨?_, hseen.trans (hkept ⟨space, host⟩ hfirst), hend⟩
    rw [List.filter_append, hlog, List.append_nil]
    cases ((turn first).run (Mesh.api.withPlan plan) s).1 <;> simp [Ne.symm hfirst]

/-- In a row of turns a host has the turn that it would have alone: at its beginning the same is
seen of the host as at the beginning of the row, and at its end the same as at the end. -/
theorem inTurn_isolated (turn : String → Session (Option α)) (space host : String)
    (hnodup : hosts.Nodup)
    (hconcerns : ∀ h s, ∀ x ∈ (turn h).exchanges (Mesh.api.withPlan plan) s,
      x.call.Concerns ⟨space, h⟩)
    (habsent : host ∉ hosts → turn host = pure none) (hs : s.2.Partitioned) :
    let row := (inTurn turn hosts).run (Mesh.api.withPlan plan) s
    row.2.2.Partitioned ∧ ∃ start, seenOf ⟨space, host⟩ start = seenOf ⟨space, host⟩ s ∧
      let own := (turn host).run (Mesh.api.withPlan plan) start
      row.1.filter (·.1 = host) = (own.1.map (host, ·)).toList ∧
        seenOf ⟨space, host⟩ row.2 = seenOf ⟨space, host⟩ own.2 := by
  induction hosts generalizing s with
  | nil =>
    rw [habsent List.not_mem_nil]
    exact ⟨hs, s, rfl, rfl, rfl⟩
  | cons first rest ih =>
    obtain ⟨hfirst, hrest⟩ := List.nodup_cons.mp hnodup
    obtain ⟨hnext, hkept⟩ := run_keeps_others (turn first) (hconcerns first s) hs
    intro row
    simp only [row, run_inTurn_cons]
    by_cases hhost : first = host
    · -- The turns after that of the host are turns of others.
      subst hhost
      obtain ⟨hlog, hseen, hend⟩ := inTurn_of_others hconcerns hfirst hnext
      refine ⟨hend, s, rfl, ?_, hseen⟩
      rw [List.filter_append, hlog, List.append_nil]
      cases ((turn first).run (Mesh.api.withPlan plan) s).1 <;> simp
    · have hlater : host ∉ rest → turn host = pure none := fun hnot =>
        habsent (by simp [Ne.symm hhost, hnot])
      obtain ⟨hend, start, hstart, hlog, hseen⟩ := ih hrest hlater hnext
      refine ⟨hend, start, hstart.trans (hkept ⟨space, host⟩ (Ne.symm hhost)), ?_, hseen⟩
      rw [List.filter_append, hlog]
      cases ((turn first).run (Mesh.api.withPlan plan) s).1 <;> simp [hhost]

end InTurn

end Session

namespace Reconciler

variable {r : Reconciler} {snapshot : Snapshot} {ours ours' : SortedMap String ServiceEntry}
  {host : String} {endpoints : List Endpoint} {e : ServiceEntry} {plan plan' : FailurePlan}
  {s s' : List Call × Mesh}

/-! ## Turns about one object -/

theorem keyOf_eq (h : '_' ∉ host.toList) : r.keyOf host = ⟨r.space, host⟩ := by
  rw [keyOf, HostName.formatted_of_not_mem h]

section Concerns

variable {σ : Type} (api : MeshApi σ) (s : σ)

theorem concerns_writeHost (hhost : '_' ∉ host.toList) (endpoints : List Endpoint) :
    ∀ x ∈ (r.writeHost host endpoints).exchanges api s, x.call.Concerns ⟨r.space, host⟩ := by
  have hkey := keyOf_eq (r := r) hhost
  rcases r.writeHost_cases_of_exchanges api s host endpoints with
    ⟨err, hmade, -⟩ | ⟨result, hmade, -⟩ | ⟨current, result, hmade, -⟩
  · rw [hmade]
    exact List.forall_mem_singleton.mpr hkey
  · rw [hmade]
    exact List.forall_mem_cons.mpr ⟨hkey, List.forall_mem_singleton.mpr ⟨hkey, rfl⟩⟩
  · rw [hmade]
    exact List.forall_mem_cons.mpr ⟨hkey, List.forall_mem_singleton.mpr ⟨hkey, rfl⟩⟩

/-- The turn of a cached host is about the object with its name. -/
theorem concerns_visitTurn
    (hhosts : ∀ host, snapshot.contains host = true → '_' ∉ host.toList) (host : String) :
    ∀ x ∈ (r.visitTurn snapshot ours host).exchanges api s, x.call.Concerns ⟨r.space, host⟩ := by
  unfold visitTurn
  cases hget : snapshot.get? host with
  | none => simp
  | some endpoints =>
    have hhost : '_' ∉ host.toList := hhosts host (by simp [SortedMap.contains, hget])
    simp only [Session.exchanges_bind, Session.exchanges_pure, List.append_nil]
    rcases r.reconcileHost_cases_of_exchanges api s host endpoints (ours.get? host) with
      ⟨hmade, -⟩ | ⟨hmade, -⟩
    · simp [hmade]
    · rw [hmade]
      exact concerns_writeHost api s hhost endpoints

theorem concerns_collectEntry :
    ∀ x ∈ (r.collectEntry e).exchanges api s, x.call.Concerns ⟨r.space, e.name⟩ := by
  rcases r.collectEntry_cases_of_exchanges api s e with
    ⟨fetched, hmade, -⟩ | ⟨current, result, -, hmade, -⟩
  · rw [hmade]
    exact List.forall_mem_singleton.mpr rfl
  · rw [hmade]
    exact List.forall_mem_cons.mpr ⟨rfl, List.forall_mem_singleton.mpr rfl⟩

/-- The turn of a host of ours is about the object with the name of the entry there. -/
theorem concerns_collectTurn (hours : ∀ host e, ours.get? host = some e → e.name = host)
    (host : String) :
    ∀ x ∈ (r.collectTurn snapshot ours host).exchanges api s,
      x.call.Concerns ⟨r.space, host⟩ := by
  unfold collectTurn
  cases hget : ours.get? host with
  | none => simp
  | some e =>
    dsimp only
    split
    · simp only [Session.exchanges_bind, Session.exchanges_pure, List.append_nil]
      rw [← hours host e hget]
      exact concerns_collectEntry api s
    · simp

end Concerns

/-! ## Turns of two passes -/

section Alike

variable (hplans : FailurePlan.AgreeOn ⟨r.space, host⟩ plan plan')
  (hseen : seenOf ⟨r.space, host⟩ s = seenOf ⟨r.space, host⟩ s')

include hplans hseen

theorem writeHost_alike (hhost : '_' ∉ host.toList) (endpoints : List Endpoint) :
    AlikeAt ⟨r.space, host⟩ ((r.writeHost host endpoints).run (Mesh.api.withPlan plan) s)
      ((r.writeHost host endpoints).run (Mesh.api.withPlan plan') s') := by
  have hkey := keyOf_eq (r := r) hhost
  obtain ⟨hfetched, hseen'⟩ := fetch_alike hplans hseen
  unfold writeHost
  rw [Session.run_bind, Session.run_bind, Session.run_call, Session.run_call, hkey, hfetched]
  -- The second call depends on what was fetched, which is the same in both passes.
  generalize ((Mesh.api.withPlan plan).perform (.get ⟨r.space, host⟩) s).2 = t at hseen'
  generalize ((Mesh.api.withPlan plan').perform (.get ⟨r.space, host⟩) s').2 = t' at hseen'
  cases ((Mesh.api.withPlan plan').perform (.get ⟨r.space, host⟩) s').1 with
  | error err => exact alikeAt_of_seen hseen' _
  | ok found =>
    cases found with
    | none =>
      refine call_alike (c := .create (r.builder.build host endpoints))
        (f := fun result => result.map fun _ => .created) hplans hkey hseen' fun result => ?_
      cases result <;> rfl
    | some current =>
      refine call_alike (c := .update ((r.builder.build host endpoints).withVersion
        current.metadata.resourceVersion)) (f := fun result => result.map fun _ => .updated) hplans
        hkey hseen' fun result => ?_
      cases result <;> rfl

theorem reconcileHost_alike (hhost : '_' ∉ host.toList) (endpoints : List Endpoint)
    (owned : Option ServiceEntry) :
    AlikeAt ⟨r.space, host⟩
      ((r.reconcileHost host endpoints owned).run (Mesh.api.withPlan plan) s)
      ((r.reconcileHost host endpoints owned).run (Mesh.api.withPlan plan') s') := by
  cases owned with
  | some entry =>
    unfold reconcileHost
    dsimp only
    split
    · exact alikeAt_of_seen hseen _
    · exact writeHost_alike hplans hseen hhost endpoints
  | none =>
    -- The side of the host can be told from what is seen of it.
    have hclassify : s.2.ownership.classify host = s'.2.ownership.classify host := by
      have hours : s.2.ownership.ours.contains host = s'.2.ownership.ours.contains host :=
        congrArg (fun seen => (seen.2.filed .ours).isSome) hseen
      have htheirs : s.2.ownership.theirs.contains host = s'.2.ownership.theirs.contains host :=
        congrArg (fun seen => (seen.2.filed .theirs).isSome) hseen
      rw [OwnershipModel.classify, OwnershipModel.classify, hours, htheirs]
    unfold reconcileHost
    dsimp only
    rw [Session.run_bind, Session.run_bind, Session.run_ownership, Session.run_ownership]
    show AlikeAt _ (Session.run _ (if s.2.ownership.classify host = .them then _ else _) s)
      (Session.run _ (if s'.2.ownership.classify host = .them then _ else _) s')
    rw [hclassify]
    split
    · exact alikeAt_of_seen hseen _
    · exact writeHost_alike hplans hseen hhost endpoints

theorem visitTurn_alike (hhosts : ∀ host, snapshot.contains host = true → '_' ∉ host.toList)
    (ours : SortedMap String ServiceEntry) :
    AlikeAt ⟨r.space, host⟩ ((r.visitTurn snapshot ours host).run (Mesh.api.withPlan plan) s)
      ((r.visitTurn snapshot ours host).run (Mesh.api.withPlan plan') s') := by
  unfold visitTurn
  cases hget : snapshot.get? host with
  | none => exact alikeAt_of_seen hseen _
  | some endpoints =>
    have hhost : '_' ∉ host.toList := hhosts host (by simp [SortedMap.contains, hget])
    dsimp only
    rw [Session.run_bind, Session.run_bind]
    have halike := reconcileHost_alike hplans hseen hhost endpoints (ours.get? host)
    exact ⟨congrArg some halike.value, halike.stored⟩

theorem collectEntry_alike (hname : e.name = host) :
    AlikeAt ⟨r.space, host⟩ ((r.collectEntry e).run (Mesh.api.withPlan plan) s)
      ((r.collectEntry e).run (Mesh.api.withPlan plan') s') := by
  obtain ⟨hfetched, hseen'⟩ := fetch_alike hplans hseen
  unfold collectEntry
  rw [Session.run_bind, Session.run_bind, Session.run_call, Session.run_call, hname, hfetched]
  generalize ((Mesh.api.withPlan plan).perform (.get ⟨r.space, host⟩) s).2 = t at hseen'
  generalize ((Mesh.api.withPlan plan').perform (.get ⟨r.space, host⟩) s').2 = t' at hseen'
  cases ((Mesh.api.withPlan plan').perform (.get ⟨r.space, host⟩) s').1 with
  | error err => exact alikeAt_of_seen hseen' _
  | ok found =>
    cases found with
    | none => exact alikeAt_of_seen hseen' _
    | some current =>
      dsimp only
      split
      · exact alikeAt_of_seen hseen' _
      · refine call_alike (c := .delete _) (f := Except.isOk) hplans rfl hseen' fun result => ?_
        cases result <;> rfl

theorem collectTurn_alike (hours : ∀ host e, ours.get? host = some e → e.name = host)
    (hsame : ours.get? host = ours'.get? host) (snapshot : Snapshot) :
    AlikeAt ⟨r.space, host⟩ ((r.collectTurn snapshot ours host).run (Mesh.api.withPlan plan) s)
      ((r.collectTurn snapshot ours' host).run (Mesh.api.withPlan plan') s') := by
  unfold collectTurn
  rw [← hsame]
  cases hget : ours.get? host with
  | none => exact alikeAt_of_seen hseen _
  | some e =>
    dsimp only
    split
    · rw [Session.run_bind, Session.run_bind]
      have halike := collectEntry_alike (e := e) hplans hseen (hours host e hget)
      exact ⟨congrArg some halike.value, halike.stored⟩
    · exact alikeAt_of_seen hseen _

end Alike

/-! ## Passes -/

theorem visitTurn_of_gone (h : snapshot.get? host = none) :
    r.visitTurn snapshot ours host = pure none := by
  rw [visitTurn, h]

theorem collectTurn_of_free (h : ours.get? host = none) :
    r.collectTurn snapshot ours host = pure none := by
  rw [collectTurn, h]

/-- A host that is in the snapshot is no candidate for collection. -/
theorem collectTurn_of_cached (h : snapshot.contains host = true) :
    r.collectTurn snapshot ours host = pure none := by
  unfold collectTurn
  cases ours.get? host with
  | none => rfl
  | some e => simp [isCandidate, h]

/-- A pass does to a host what the two turns of the host do, the first of which begins with what was
seen of the host at the beginning of the pass, and the second with what the first has left. -/
theorem loggedPass_isolated (r : Reconciler)
    (hhosts : ∀ host, snapshot.contains host = true → '_' ∉ host.toList)
    (hs : s.2.Partitioned) (visit collect : Arrangement) (plan : FailurePlan) (host : String) :
    ∃ start middle ours,
      let visited :=
        (r.visitTurn snapshot s.2.ownership.ours host).run (Mesh.api.withPlan plan) start
      let swept := (r.collectTurn snapshot ours host).run (Mesh.api.withPlan plan) middle
      let ran := (r.loggedPass visit collect snapshot).run (Mesh.api.withPlan plan) s
      seenOf ⟨r.space, host⟩ start = seenOf ⟨r.space, host⟩ s ∧
      seenOf ⟨r.space, host⟩ middle = seenOf ⟨r.space, host⟩ visited.2 ∧
      seenOf ⟨r.space, host⟩ ran.2 = seenOf ⟨r.space, host⟩ swept.2 ∧
      ran.1.about host =
        ⟨(visited.1.map (host, ·)).toList, (swept.1.map (host, ·)).toList⟩ ∧
      (∀ host e, ours.get? host = some e → e.name = host) ∧
      ours.get? host = middle.2.ownership.ours.get? host := by
  let written := (r.visits visit snapshot).run (Mesh.api.withPlan plan) s
  let ours := written.2.2.ownership.ours
  have hvisit : (visit.arrange snapshot.keys).Nodup :=
    (visit.perm _).nodup_iff.mpr (nodup_keys snapshot)
  have hcollect : (collect.arrange ours.keys).Nodup :=
    (collect.perm _).nodup_iff.mpr (nodup_keys ours)
  -- A host without a turn in one of the rows is one about which the turn does nothing.
  have hgone : host ∉ visit.arrange snapshot.keys →
      r.visitTurn snapshot s.2.ownership.ours host = pure none := fun hnot =>
    visitTurn_of_gone (Option.eq_none_iff_forall_not_mem.mpr fun endpoints hget =>
      hnot (visit.mem_keys_iff.mpr ⟨endpoints, hget⟩))
  have hfree : host ∉ collect.arrange ours.keys → r.collectTurn snapshot ours host = pure none :=
    fun hnot => collectTurn_of_free (Option.eq_none_iff_forall_not_mem.mpr fun e hget =>
      hnot (collect.mem_keys_iff.mpr ⟨e, hget⟩))
  obtain ⟨hwritten, start, hstart, hreconciled, hseen⟩ :=
    Session.inTurn_isolated (r.visitTurn snapshot s.2.ownership.ours) r.space host hvisit
      (fun h t => concerns_visitTurn (Mesh.api.withPlan plan) t hhosts h) hgone hs
  have hours : ∀ host e, ours.get? host = some e → e.name = host := hwritten.filed .ours
  obtain ⟨-, middle, hmiddle, hcollected, hseen'⟩ :=
    Session.inTurn_isolated (r.collectTurn snapshot ours) r.space host hcollect
      (fun h t => concerns_collectTurn (Mesh.api.withPlan plan) t hours h) hfree hwritten
  refine ⟨start, middle, ours, ?_⟩
  rw [run_loggedPass]
  refine ⟨hstart, hmiddle.trans hseen, hseen', ?_, hours, ?_⟩
  · exact congrArg₂ PassLog.mk hreconciled hcollected
  · exact (congrArg (fun seen => seen.2.filed .ours) hmiddle).symm

/-- Two passes over one mesh, in any orders and with any failures, do the same to a host and leave
the same object, versions aside, if the calls about the object of the host fail alike. The mesh is
one with a history in which every object ever stored had its own name as its only host, and the
hosts of the snapshot have no underscores. -/
theorem pass_isolates_host (r : Reconciler) (reference : OwnerReference)
    (history : List MeshEvent) (snapshot : Snapshot) (host : String)
    (visit collect visit' collect' : Arrangement) (plan plan' : FailurePlan)
    (hnamed : ∀ before, before <+: history → ((Mesh.fresh reference).after before).SelfNamed)
    (hhosts : ∀ host, snapshot.contains host = true → '_' ∉ host.toList)
    (hplans : FailurePlan.AgreeOn ⟨r.space, host⟩ plan plan') :
    let start : List Call × Mesh := ([], (Mesh.fresh reference).after history)
    let log := ((r.loggedPass visit collect snapshot).run (Mesh.api.withPlan plan) start).1
    let log' := ((r.loggedPass visit' collect' snapshot).run (Mesh.api.withPlan plan') start).1
    let after := ((r.pass visit collect snapshot).run (Mesh.api.withPlan plan) start).2.2
    let after' := ((r.pass visit' collect' snapshot).run (Mesh.api.withPlan plan') start).2.2
    log.about host = log'.about host ∧
      (after.stored? ⟨r.space, host⟩).map ServiceEntry.unversioned =
        (after'.stored? ⟨r.space, host⟩).map ServiceEntry.unversioned := by
  intro start log log' after after'
  have hstart : start.2.Partitioned :=
    Mesh.partitioned_after (Mesh.partitioned_fresh reference) history hnamed
  obtain ⟨first, middle, ours, hfirst, hmiddle, hend, habout, hours, hown⟩ :=
    r.loggedPass_isolated hhosts hstart visit collect plan host
  obtain ⟨first', middle', ours', hfirst', hmiddle', hend', habout', hours', hown'⟩ :=
    r.loggedPass_isolated hhosts hstart visit' collect' plan' host
  have hvisited := visitTurn_alike hplans (hfirst.trans hfirst'.symm) hhosts start.2.ownership.ours
  simp only [log, log', after, after', run_pass]
  rw [habout, habout', stored?_eq_of_seen hend, stored?_eq_of_seen hend']
  cases hcached : snapshot.contains host with
  | true =>
    -- A cached host is left alone by the collection.
    rw [collectTurn_of_cached hcached, collectTurn_of_cached hcached]
    refine ⟨by rw [hvisited.value]; rfl, ?_⟩
    show (middle.2.stored? _).map _ = (middle'.2.stored? _).map _
    rw [stored?_eq_of_seen hmiddle, stored?_eq_of_seen hmiddle']
    exact hvisited.stored
  | false =>
    -- Any other host has no visit, so the collection finds what was there at the beginning.
    have hgone : r.visitTurn snapshot start.2.ownership.ours host = pure none :=
      visitTurn_of_gone (by simpa [SortedMap.contains] using hcached)
    rw [hgone] at hmiddle hmiddle' ⊢
    have hseen := (hmiddle.trans hfirst).trans (hmiddle'.trans hfirst').symm
    have hsame : ours.get? host = ours'.get? host := by
      rw [hown, hown']
      exact congrArg (fun seen => seen.2.filed .ours) hseen
    have hswept := collectTurn_alike hplans hseen hours hsame snapshot
    exact ⟨by rw [hswept.value]; rfl, hswept.stored⟩

/-- In one of two passes all calls about other objects fail, and the hosts have their turns in the
reverse order. The entry of the host is replaced in both. -/
theorem pass_isolates_orders :
    let reference : OwnerReference := { name := "registry" }
    let r : Reconciler := { space := "mesh", registry := .consul, owner := some reference }
    let endpoints := [Endpoint.onPort "10.0.0.1" 80]
    let history : List MeshEvent :=
      [.seed (r.builder.build "orders" []), .seed (r.builder.build "pay" endpoints)]
    let snapshot : Snapshot := .ofList [("cart", endpoints), ("orders", endpoints)]
    let backwards : Arrangement := ⟨List.reverse, List.reverse_perm⟩
    let others : FailurePlan := fun calls =>
      if calls.head?.all (·.key = ⟨"mesh", "orders"⟩) then none else some (.unavailable "refused")
    let start : List Call × Mesh := ([], (Mesh.fresh reference).after history)
    let log := ((r.loggedPass .given .given snapshot).run
      (Mesh.api.withPlan fun _ => none) start).1
    let log' := ((r.loggedPass backwards backwards snapshot).run (Mesh.api.withPlan others) start).1
    log.about "orders" = log'.about "orders" ∧
      log'.about "orders" = ⟨[("orders", .ok .updated)], []⟩ ∧
      log.about "cart" ≠ log'.about "cart" := by
  intro reference r endpoints history snapshot backwards others start log log'
  have hnamed : ∀ before ∈ history.inits, ((Mesh.fresh reference).after before).SelfNamed := by
    decide +kernel
  have hkeys : ∀ host ∈ snapshot.keys, '_' ∉ host.toList := by decide +kernel
  have hhosts : ∀ host, snapshot.contains host = true → '_' ∉ host.toList := fun host hcached =>
    hkeys host (SortedMap.mem_keys_iff.mpr (Option.isSome_iff_exists.mp hcached))
  have hplans : FailurePlan.AgreeOn ⟨r.space, "orders"⟩ (fun _ => none) others := by
    intro c earlier earlier' hkey _
    have hkey' : c.key = ⟨"mesh", "orders"⟩ := hkey
    simp [others, hkey']
  have hisolated := pass_isolates_host r reference history snapshot "orders" .given .given backwards
    backwards (fun _ => none) others
    (fun before hbefore => hnamed before ((List.mem_inits _ _).mpr hbefore)) hhosts hplans
  exact ⟨hisolated.1, by decide +kernel, by decide +kernel⟩

end Reconciler

end MeshRegistry
