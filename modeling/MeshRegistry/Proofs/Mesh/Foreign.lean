import MeshRegistry.Proofs.Mesh.Pass
import MeshRegistry.Proofs.Mesh.Versions
/-!
# Objects of other owners during a pass

A pass decides by host whether an entry belongs to somebody else, but it writes by name and
collects by label. So an object of another owner is safe only while no host of the registry leads
to its name, and while nothing of ours that is to be collected has its name.

The condition below is exact. It looks at the writes in the order of the visit, because each of
them changes the ownership model that the next host is judged by.

## Main definitions

- `Reconciler.WritesTo`: a host whose turn overwrites the object under a key.
- `Reconciler.Collects`: a host of ours for whose sake the object under a key is removed.

## Main results

- `Reconciler.pass_keeps_foreign_iff`: exactly when an object of another owner survives a pass
  unchanged, version included.
-/

namespace MeshRegistry.Reconciler

/-! ## Steps that hit an object or miss it -/

/-- Calls are accepted, and so many versions have been handed out. -/
structure Ready (v : Nat) (m : Mesh) : Prop where
  /-- Calls are accepted. -/
  up : m.store.down = false
  /-- So many versions have been handed out. -/
  age : v ≤ m.store.version

/-- Steps along a list of hosts of which is known which ones hit the object under a key. -/
structure Tracks (step : Mesh → String → Mesh) (Hits : Mesh → String → Prop) (v : Nat)
    (key : ObjectKey) (e : ServiceEntry) : Prop where
  /-- A step keeps the mesh ready. -/
  ready : ∀ m host, Ready v m → Ready v (step m host)
  /-- What is touched stays touched. -/
  touched : ∀ m host, m.Touched v key → (step m host).Touched v key
  /-- A step that hits the object touches it. -/
  hit : ∀ m host, Ready v m → m.stored? key = some e → Hits m host → (step m host).Touched v key
  /-- A step that misses the object keeps it. -/
  miss : ∀ m host, Ready v m → m.stored? key = some e → ¬ Hits m host →
    (step m host).stored? key = some e

section Tracks

variable {step : Mesh → String → Mesh} {Hits : Mesh → String → Prop} {v : Nat} {key : ObjectKey}
  {e : ServiceEntry} {m : Mesh}

theorem Tracks.ready_foldl (h : Tracks step Hits v key e) (hosts : List String)
    (hm : Ready v m) : Ready v (hosts.foldl step m) := by
  induction hosts generalizing m with
  | nil => exact hm
  | cons host rest ih => exact ih (h.ready m host hm)

theorem Tracks.touched_foldl (h : Tracks step Hits v key e) (hosts : List String)
    (hm : m.Touched v key) : (hosts.foldl step m).Touched v key := by
  induction hosts generalizing m with
  | nil => exact hm
  | cons host rest ih => exact ih (h.touched m host hm)

/-- Either some step hits the object, and it is touched in the end, or it is kept. -/
theorem Tracks.foldl_cases (h : Tracks step Hits v key e) (hosts : List String)
    (hm : Ready v m) (he : m.stored? key = some e) :
    (∃ before host rest, hosts = before ++ host :: rest ∧ Hits (before.foldl step m) host) ∧
        (hosts.foldl step m).Touched v key ∨
      (¬ ∃ before host rest, hosts = before ++ host :: rest ∧ Hits (before.foldl step m) host) ∧
        (hosts.foldl step m).stored? key = some e := by
  -- Up to the first hit the object is as it was, so the hits are judged on the right meshes.
  induction hosts generalizing m with
  | nil =>
    refine .inr ⟨?_, he⟩
    rintro ⟨before, host, rest, heq, -⟩
    simp at heq
  | cons first hosts ih =>
    by_cases hfirst : Hits m first
    · refine .inl ⟨⟨[], first, hosts, rfl, hfirst⟩, ?_⟩
      exact h.touched_foldl hosts (h.hit m first hm he hfirst)
    · rcases ih (h.ready m first hm) (h.miss m first hm he hfirst) with
        ⟨hhit, htouched⟩ | ⟨hmiss, hkept⟩
      · obtain ⟨before, host, rest, heq, hhit⟩ := hhit
        exact .inl ⟨⟨first :: before, host, rest, congrArg (first :: ·) heq, hhit⟩, htouched⟩
      · refine .inr ⟨?_, hkept⟩
        rintro ⟨before, host, rest, heq, hhit⟩
        -- A hit is either the first step or one of the rest.
        cases before with
        | nil =>
          obtain ⟨rfl, -⟩ := List.cons.inj heq
          exact hfirst hhit
        | cons other before =>
          obtain ⟨rfl, htail⟩ := List.cons.inj heq
          exact hmiss ⟨before, host, rest, htail, hhit⟩

end Tracks

theorem ready_run {α : Type} (p : Session α) {v : Nat} {m : Mesh} (h : Ready v m) :
    Ready v (p.run Mesh.api m).2 :=
  ⟨(p.down_run m).trans h.up, p.version_le_run h.age⟩

/-! ## The writes of a pass -/

section Steps

variable (r : Reconciler) (snapshot : Snapshot) (ours : SortedMap String ServiceEntry) (v : Nat)
  (key : ObjectKey) (e : ServiceEntry)

/-- On this mesh the turn of a host overwrites the object under a key. -/
def WritesTo (m : Mesh) (host : String) : Prop :=
  r.keyOf host = key ∧ r.Nameable host ∧
    ∃ endpoints, snapshot.get? host = some endpoints ∧
      Rewrites m.ownership host endpoints (ours.get? host)

/-- For the sake of a host of ours the object under a key is removed. -/
def Collects (host : String) : Prop :=
  r.Marks e ∧ ∃ owned, ours.get? host = some owned ∧ r.isCandidate snapshot host owned = true ∧
    (⟨r.space, owned.name⟩ : ObjectKey) = key

theorem tracks_visited :
    Tracks (r.visited snapshot ours) (r.WritesTo snapshot ours key) v key e where
  ready m host hm := by
    unfold visited
    split
    · exact hm
    · exact ready_run _ hm
  touched m host hm := by
    unfold visited
    split
    · exact hm
    · exact Session.touched_run _ hm
  hit m host hm he hhit := by
    obtain ⟨rfl, hname, endpoints, hhost, hrewrites⟩ := hhit
    unfold visited
    rw [hhost]
    dsimp only
    rw [run_reconcileHost_of_rewrites hrewrites, writeHost_of_stored hm.up hname he]
    refine Mesh.touched_of_stamped hm.age ?_ (e := r.builder.build host endpoints) ?_
    · rw [Mesh.version_replaced]
      exact Nat.le_succ _
    · rw [Mesh.stored?_replaced, key_build, if_pos rfl]
  miss m host hm he hmiss := by
    unfold visited
    cases hhost : snapshot.get? host with
    | none => exact he
    | some endpoints =>
      dsimp only
      by_cases hrewrites : Rewrites m.ownership host endpoints (ours.get? host)
      · rw [run_reconcileHost_of_rewrites hrewrites]
        by_cases hkey : r.keyOf host = key
        · -- The name leads to the object, so the entry must be one that cannot be named.
          have hname : ¬ r.Nameable host := fun hname =>
            hmiss ⟨hkey, hname, endpoints, hhost, hrewrites⟩
          obtain ⟨err, hrun⟩ := writeHost_of_unplaced endpoints hm.up
            fun h => absurd h hname
          rw [hrun]
          exact he
        · rw [stored?_writeHost_of_ne hm.up (Ne.symm hkey)]
          exact he
      · rw [run_reconcileHost_of_not_rewrites hrewrites]
        exact he

theorem tracks_swept :
    Tracks (r.swept snapshot ours) (fun _ => r.Collects snapshot ours key e) v key e where
  ready m host hm := by
    unfold swept
    split
    · exact hm
    · split
      · exact ready_run _ hm
      · exact hm
  touched m host hm := by
    unfold swept
    split
    · exact hm
    · split
      · exact Session.touched_run _ hm
      · exact hm
  hit m host hm he hhit := by
    obtain ⟨hmark, owned, howned, hcandidate, rfl⟩ := hhit
    unfold swept
    rw [howned]
    dsimp only
    rw [if_pos hcandidate, run_collectEntry_of_marked hm.up he hmark]
    refine Mesh.touched_of_absent hm.age ?_
    rw [Mesh.stored?_removed, if_pos rfl]
  miss m host hm he hmiss := by
    unfold swept
    cases howned : ours.get? host with
    | none => exact he
    | some owned =>
      dsimp only
      split
      next hcandidate =>
        by_cases hmarked : ∃ current, m.stored? ⟨r.space, owned.name⟩ = some current ∧
            r.Marks current
        · obtain ⟨current, hcurrent, hmark⟩ := hmarked
          rw [run_collectEntry_of_marked hm.up hcurrent hmark, Mesh.stored?_removed]
          split
          next hkey =>
            subst hkey
            obtain rfl := Option.some.inj (hcurrent.symm.trans he)
            exact absurd ⟨hmark, owned, howned, hcandidate, rfl⟩ hmiss
          next => exact he
        · rw [run_collectEntry_of_unmarked hm.up
            fun current hcurrent hmark => hmarked ⟨current, hcurrent, hmark⟩]
          exact he
      next => exact he

end Steps

/-! ## Survival of objects of other owners -/

/-- After any history, an object of another owner survives a pass unchanged exactly when calls are
refused, or when no host of the snapshot overwrites it at its turn and no host of ours that is
left for collection removes it. The owner itself is not asked. -/
theorem pass_keeps_foreign_iff (r : Reconciler) (visit collect : Arrangement) (snapshot : Snapshot)
    (reference : OwnerReference) (history : List MeshEvent) (key : ObjectKey) (e : ServiceEntry)
    (he : ((Mesh.fresh reference).after history).stored? key = some e)
    (_hforeign : ownerOf reference e = .them) :
    let m := (Mesh.fresh reference).after history
    let step := r.visited snapshot m.ownership.ours
    let written := r.reconciled visit snapshot m
    ((r.pass visit collect snapshot).run Mesh.api m).2.stored? key = some e ↔
      m.store.down = true ∨
        (¬ ∃ before host rest, visit.arrange snapshot.keys = before ++ host :: rest ∧
          r.WritesTo snapshot m.ownership.ours key (before.foldl step m) host) ∧
        ¬ ∃ host, r.Collects snapshot written.ownership.ours key e host := by
  intro m step written
  have hnumbered : m.Numbered := Mesh.numbered_after (Mesh.numbered_fresh reference) history
  cases hup : m.store.down with
  | true =>
    -- During an outage a pass changes nothing at all.
    rw [Session.run_of_down _ hup]
    exact ⟨fun _ => .inl rfl, fun _ => he⟩
  | false =>
    have hready : Ready m.store.version m := ⟨hup, le_rfl⟩
    have hstep := tracks_visited r snapshot m.ownership.ours m.store.version key e
    have hsweep := tracks_swept r snapshot written.ownership.ours m.store.version key e
    have hwritten : Ready m.store.version written := hstep.ready_foldl _ hready
    rw [run_pass_snd]
    simp only [Bool.false_eq_true, false_or]
    rcases hstep.foldl_cases (visit.arrange snapshot.keys) hready he with
      ⟨hhit, htouched⟩ | ⟨hmiss, hkept⟩
    · -- An object that was overwritten has a later version for good.
      have htouched' := hsweep.touched_foldl (collect.arrange written.ownership.ours.keys) htouched
      exact ⟨fun h => absurd htouched' (hnumbered.not_touched he h), fun h => absurd hhit h.1⟩
    · rcases hsweep.foldl_cases (collect.arrange written.ownership.ours.keys) hwritten hkept with
        ⟨⟨_, host, _, _, hhit⟩, htouched⟩ | ⟨hmiss', hkept'⟩
      · -- So has an object that was removed, should it ever come back.
        exact ⟨fun h => absurd htouched (hnumbered.not_touched he h),
          fun h => absurd ⟨host, hhit⟩ h.2⟩
      · refine ⟨fun _ => ⟨hmiss, ?_⟩, fun _ => hkept'⟩
        rintro ⟨host, hcollects⟩
        -- Collection looks at every host of ours, in whatever order.
        have howned : host ∈ collect.arrange written.ownership.ours.keys := by
          obtain ⟨-, owned, howned, -⟩ := hcollects
          exact collect.mem_keys_iff.mpr ⟨owned, howned⟩
        obtain ⟨before, rest, heq⟩ := List.append_of_mem howned
        exact hmiss' ⟨before, host, rest, heq, hcollects⟩

/-- A pass that writes another host leaves an object of another owner as it is. -/
theorem foreign_object_survives :
    let reference : OwnerReference := { name := "registry" }
    let foreign : ServiceEntry :=
      { metadata :=
          { name := some "payments", space := some "default"
            ownerReferences := some [{ name := "somebody" }] }
        spec := { hosts := ["payments"] } }
    let history : List MeshEvent := [.seed foreign]
    let m := (Mesh.fresh reference).after history
    let r : Reconciler := { space := "default", registry := .consul }
    let snapshot : Snapshot := .singleton "orders" [Endpoint.onPort "10.0.0.1" 80]
    m.stored? ⟨"default", "payments"⟩ = some (foreign.withVersion (some "1")) ∧
      ownerOf reference (foreign.withVersion (some "1")) = .them ∧
      ((r.pass .given .given snapshot).run Mesh.api m).2.stored? ⟨"default", "payments"⟩ =
        some (foreign.withVersion (some "1")) := by
  intro reference foreign history m r snapshot
  have hstored : m.stored? ⟨"default", "payments"⟩ = some (foreign.withVersion (some "1")) := by
    decide +kernel
  have hforeign : ownerOf reference (foreign.withVersion (some "1")) = .them := by decide
  refine ⟨hstored, hforeign, ?_⟩
  refine (pass_keeps_foreign_iff r .given .given snapshot reference history _ _ hstored
    hforeign).mpr (.inr ⟨?_, ?_⟩)
  · rintro ⟨before, host, rest, heq, hkey, -⟩
    have hmem : host ∈ snapshot.keys := by
      have harranged : snapshot.keys = before ++ host :: rest := heq
      rw [harranged]
      exact List.mem_append_right _ (List.mem_cons_self ..)
    have hhost : host = "orders" := by
      simpa [snapshot, SortedMap.singleton, SortedMap.insert, SortedMap.empty, SortedMap.keys,
        SortedMap.insertEntry] using hmem
    subst hhost
    exact absurd hkey (by decide +kernel)
  · rintro ⟨host, hmark, -⟩
    exact absurd hmark (by unfold Marks; decide +kernel)

/-- A host whose name is that of an object of another owner takes the object over, although the
owner is known: the object lists other hosts. -/
theorem foreign_object_overwritten :
    let reference : OwnerReference := { name := "registry" }
    let foreign : ServiceEntry :=
      { metadata :=
          { name := some "payments", space := some "default"
            ownerReferences := some [{ name := "somebody" }] }
        spec := { hosts := ["pay.example.com"] } }
    let m := (Mesh.fresh reference).after [.seed foreign]
    let r : Reconciler := { space := "default", registry := .consul }
    let snapshot : Snapshot := .singleton "payments" [Endpoint.onPort "10.0.0.1" 80]
    let after := ((r.pass .given .given snapshot).run Mesh.api m).2
    m.stored? ⟨"default", "payments"⟩ = some (foreign.withVersion (some "1")) ∧
      ownerOf reference (foreign.withVersion (some "1")) = .them ∧
      m.ownership.classify "pay.example.com" = .them ∧
      after.stored? ⟨"default", "payments"⟩ =
        some ((r.builder.build "payments" [Endpoint.onPort "10.0.0.1" 80]).withVersion (some "2")) ∧
      after.stored? ⟨"default", "payments"⟩ ≠ some (foreign.withVersion (some "1")) := by
  decide +kernel

end MeshRegistry.Reconciler
