import MeshRegistry.Proofs.Catalog.Recovery
import MeshRegistry.Proofs.Mesh.SingleWriter
/-!
# Keeping up with a catalog

A watcher polls a catalog, and after each poll a reconciler makes a pass over the hosts that the
watcher has. The two share what hosts begin with. A host is looked up in the ownership model as the
watcher names it, but its entry is filed under the formatted name, without underscores. The name
of a service is formatted by the watcher already; what hosts begin with is not.

So everything depends on whether hosts begin with a text without underscores. If they do, a pass
leaves nothing to do, and takes out the entry of a host that has left the catalog. If they do not,
no host is ever found in the model: it is written again in every pass, and no entry is taken out,
since none begins as the hosts do.

## Main definitions

- `Reconciler.round`: a poll and the pass after it.
- `Reconciler.Keeps`: what passes over the hosts of services keep true of the mesh.

## Main results

- `Reconciler.pass_keeps_of_underscore`: with an underscore, passes take nothing out.
- `Reconciler.kept_up_iff`: exactly when rounds keep the mesh up with the catalog.
-/

namespace MeshRegistry

namespace CatalogWatcher

/-- A watcher that has been made for a registry has not polled it. -/
theorem unpolled_of_create {registry : RegistryConfig} {target : String} {poll : PollSettings}
    {w : CatalogWatcher} (h : create registry target poll = .ok w) :
    w.hostPrefix = registry.hostPrefix ∧ w.snapshot = .empty ∧ w.lastIndex = 0 := by
  unfold create at h
  simp only [bind, Except.bind] at h
  split at h
  · cases h
  · cases h
    exact ⟨rfl, rfl, rfl⟩

section Refresh

variable {w : CatalogWatcher} {c : FixedCatalog} {failure : String → Option CatalogError}
  {order : Arrangement} {host : String} {endpoints : List Endpoint}

theorem hostPrefix_refresh (w : CatalogWatcher) (order : Arrangement) (c : FixedCatalog)
    (failure : String → Option CatalogError) :
    (w.refresh order (c.answers failure)).2.hostPrefix = w.hostPrefix := by
  rw [refresh_answers]
  split <;> rfl

/-- After a poll that had something to learn, the hosts are those of services of the catalog. -/
theorem exists_service_of_refresh (hnews : w.snapshot = .empty ∨ c.index ≠ w.lastIndex)
    (hget : (w.refresh order (c.answers failure)).2.snapshot.get? host = some endpoints) :
    ∃ service ∈ c.services.keys, host = HostName.key w.hostPrefix service := by
  rw [refresh_answers] at hget
  split at hget
  next hknown =>
    rw [hnews.resolve_right (not_not.mpr hknown)] at hget
    cases hget
  next =>
    obtain ⟨service, hmem, hhost⟩ := exists_service_of_snapshotOf hget
    exact ⟨service, (order.perm _).mem_iff.mp hmem, hhost⟩

end Refresh

end CatalogWatcher

namespace Reconciler

/-! ## Passes that take nothing out -/

section Kept

variable {r : Reconciler} {m : Mesh} {snapshot : Snapshot}
  {ours : SortedMap String ServiceEntry} {hosts : List String} {key : ObjectKey}

/-- What every write to a host of the snapshot keeps is kept by visiting hosts. -/
theorem foldl_visited_preserves {P : Mesh → Prop} (h : r.Serves m) (hm : P m)
    (hwrite : ∀ host endpoints m, snapshot.get? host = some endpoints → r.Serves m → P m →
      P ((r.writeHost host endpoints).run Mesh.api m).2) :
    P (hosts.foldl (r.visited snapshot ours) m) := by
  induction hosts generalizing m with
  | nil => exact hm
  | cons host rest ih =>
    refine ih h.visited ?_
    unfold visited
    cases hget : snapshot.get? host with
    | none => exact hm
    | some endpoints =>
      dsimp only
      by_cases hrewrites : Rewrites m.ownership host endpoints (ours.get? host)
      · rw [run_reconcileHost_of_rewrites hrewrites]
        exact hwrite host endpoints m hget h hm
      · rw [run_reconcileHost_of_not_rewrites hrewrites]
        exact hm

/-- Where nothing of ours is a candidate, nothing is taken out. -/
theorem collected_of_no_candidates (collect : Arrangement)
    (h : ∀ host e, m.ownership.ours.get? host = some e → r.isCandidate snapshot host e = false) :
    r.collected collect snapshot m = m := by
  unfold collected
  generalize collect.arrange m.ownership.ours.keys = hosts
  induction hosts with
  | nil => rfl
  | cons host rest ih =>
    have hswept : r.swept snapshot m.ownership.ours m host = m := by
      unfold swept
      cases hours : m.ownership.ours.get? host with
      | none => rfl
      | some e => simp [h host e hours]
    rw [List.foldl_cons, hswept]
    exact ih

/-- All names that the model has among ours are formatted. -/
def FiledFormatted (m : Mesh) : Prop :=
  ∀ host e, m.ownership.ours.get? host = some e → '_' ∉ host.toList

/-- An entry is filed under its formatted name, whatever host it is written for. -/
theorem FiledFormatted.writeHost (h : FiledFormatted m) (hserves : r.Serves m) (host : String)
    (endpoints : List Endpoint) :
    FiledFormatted ((r.writeHost host endpoints).run Mesh.api m).2 := by
  have hname : '_' ∉ (r.builder.build host endpoints).name.toList :=
    HostName.underscore_not_mem_formatted host
  intro filed e hfiled
  -- Where the write is accepted, the entry is filed under its name, and others stay as they are.
  rcases writeHost_cases hserves.up r host endpoints with
    ⟨current, hnameable, hcurrent, hrun⟩ | ⟨hnameable, -, habsent, hrun⟩ | ⟨-, hrun⟩
  · rw [hrun, Mesh.ours_replaced hserves.plain (plainEntry_build hserves.owner hnameable)
      hcurrent] at hfiled
    split at hfiled
    next hhere => exact hhere.1 ▸ hname
    next => exact h filed e hfiled
  · rw [hrun, Mesh.ours_created hserves.plain (plainEntry_build hserves.owner hnameable)]
      at hfiled
    split at hfiled
    next hhere => exact hhere ▸ hname
    next => exact h filed e hfiled
  · rw [hrun] at hfiled
    exact h filed e hfiled

/-- A formatted name does not begin with a text that has an underscore. -/
theorem isCandidate_of_underscore (hscore : '_' ∈ r.hostPrefix.toList) {host : String}
    (hhost : '_' ∉ host.toList) (e : ServiceEntry) : r.isCandidate snapshot host e = false := by
  have hbegins : Text.startsWith host r.hostPrefix = false := by
    refine Bool.eq_false_iff.mpr fun hbegins => hhost ?_
    exact (List.isPrefixOf_iff_prefix.mp hbegins).subset hscore
  simp [isCandidate, hbegins]

/-- With an underscore in what hosts begin with, a pass writes and takes nothing out. -/
theorem run_pass_of_underscore (hscore : '_' ∈ r.hostPrefix.toList) (h : r.Serves m)
    (hfiled : FiledFormatted m) (visit collect : Arrangement) :
    FiledFormatted ((r.pass visit collect snapshot).run Mesh.api m).2 ∧
      ((r.pass visit collect snapshot).run Mesh.api m).2 = r.reconciled visit snapshot m := by
  have hwritten : FiledFormatted (r.reconciled visit snapshot m) :=
    foldl_visited_preserves h hfiled fun host endpoints _ _ hserves hm =>
      hm.writeHost hserves host endpoints
  have hcollected : r.collected collect snapshot (r.reconciled visit snapshot m) =
      r.reconciled visit snapshot m :=
    collected_of_no_candidates collect fun host e he =>
      isCandidate_of_underscore hscore (hwritten host e he) e
  rw [run_pass_snd, hcollected]
  exact ⟨hwritten, rfl⟩

/-- So an object that no host of the snapshot is written to is there afterwards exactly if it was
there before. -/
theorem pass_keeps_of_underscore (hscore : '_' ∈ r.hostPrefix.toList) (h : r.Serves m)
    (hfiled : FiledFormatted m) (visit collect : Arrangement)
    (hfree : ∀ host endpoints, snapshot.get? host = some endpoints → key ≠ r.keyOf host) :
    ((r.pass visit collect snapshot).run Mesh.api m).2.stored? key = m.stored? key := by
  rw [(run_pass_of_underscore hscore h hfiled visit collect).2]
  exact foldl_visited_preserves (P := fun m' => m'.stored? key = m.stored? key) h rfl
    fun host endpoints _ hget hserves hm =>
      (stored?_writeHost_of_ne hserves.up (hfree host endpoints hget)).trans hm

/-- A host that the model does not have is written again. -/
theorem not_settled_of_unowned (h : r.Serves m) {host : String} {endpoints : List Endpoint}
    (hget : snapshot.get? host = some endpoints) (hnone : m.ownership.ours.get? host = none) :
    ¬ r.Settled snapshot m := by
  intro hsettled
  have hkept := hsettled.hosts host endpoints hget
  rw [hnone] at hkept
  exact hkept (rewrites_none h)

/-- Where no host can be named, a pass over a mesh with nothing of ours changes nothing. -/
theorem run_pass_of_unnameable (h : r.Serves m)
    (hrefused : ∀ host endpoints, snapshot.get? host = some endpoints → ¬ r.Nameable host)
    (hours : ∀ host, m.ownership.ours.get? host = none) (visit collect : Arrangement) :
    ((r.pass visit collect snapshot).run Mesh.api m).2 = m := by
  -- Every write is refused, so the mesh stays as it is, and there is nothing of ours to collect.
  have hkept : r.reconciled visit snapshot m = m := by
    refine foldl_visited_preserves (P := fun m' => m' = m) h rfl ?_
    rintro host endpoints _ hget hserves rfl
    have hunplaced : ∃ err, (r.writeHost host endpoints).run Mesh.api _ = (.error err, _) :=
      writeHost_of_unplaced endpoints hserves.up
        fun hnameable => absurd hnameable (hrefused host endpoints hget)
    obtain ⟨err, hrun⟩ := hunplaced
    rw [hrun]
  rw [run_pass_snd, hkept]
  refine collected_of_no_candidates collect fun host e he => ?_
  rw [hours host] at he
  cases he

end Kept

/-! ## Passes over the hosts of services -/

/-- All hosts of a snapshot are those of some services. -/
def HostsOf (r : Reconciler) (services : List String) (snapshot : Snapshot) : Prop :=
  ∀ host endpoints, snapshot.get? host = some endpoints →
    ∃ service ∈ services, host = HostName.key r.hostPrefix service

section Passes

variable {r : Reconciler} {m : Mesh} {snapshot : Snapshot} {services : List String}

/-- Services with names have hosts that can be written, unless the hosts begin with an
underscore somewhere. -/
theorem HostsOf.suits (h : r.HostsOf services snapshot) (hnamed : ∀ s ∈ services, s ≠ "")
    (hscore : '_' ∉ r.hostPrefix.toList) : r.Suits snapshot := by
  intro host endpoints hget
  obtain ⟨service, hmem, rfl⟩ := h host endpoints hget
  refine ⟨HostName.key_ne_empty (hnamed service hmem) _, ?_, ?_⟩
  · rw [HostName.key, String.toList_append, List.mem_append]
    rintro (hbegins | hname)
    · exact hscore hbegins
    · exact HostName.underscore_not_mem_formatted service hname
  · rw [Text.startsWith, HostName.key, String.toList_append]
    exact List.isPrefixOf_iff_prefix.mpr (List.prefix_append _ _)

/-- What is true of the mesh whenever the reconciler has made some passes over hosts of services
and nobody else has written, by what its hosts begin with and where its entries go. -/
structure Keeps (r : Reconciler) (m : Mesh) : Prop where
  serves : r.Serves m
  mirrors : '_' ∉ r.hostPrefix.toList → r.space ≠ "" → r.Mirrors m
  filed : '_' ∈ r.hostPrefix.toList → FiledFormatted m
  nowhere : r.space = "" → m.Pristine

theorem keeps_of_pristine (h : m.Pristine) (hserves : r.Serves m) : r.Keeps m where
  serves := hserves
  mirrors _ _ := mirrors_of_pristine h hserves.space hserves.owner
  filed _ host e he := by
    rw [h.ours] at he
    cases he
  nowhere _ := h

theorem Keeps.pass (h : r.Keeps m) (hhosts : r.HostsOf services snapshot)
    (hnamed : ∀ s ∈ services, s ≠ "") (visit collect : Arrangement) :
    r.Keeps ((r.pass visit collect snapshot).run Mesh.api m).2 where
  serves := h.serves.pass visit collect snapshot
  mirrors hscore hspace :=
    (h.mirrors hscore hspace).pass hspace (hhosts.suits hnamed hscore) visit collect
  filed hscore := (run_pass_of_underscore hscore h.serves (h.filed hscore) visit collect).1
  nowhere hspace := by
    rw [run_pass_of_unnameable h.serves (fun _ _ _ hnameable => hnameable.1 hspace)
      (h.nowhere hspace).ours]
    exact h.nowhere hspace

/-- A pass leaves nothing to do exactly where it had nothing to write, or where hosts are filed as
they are looked up and can be written. -/
theorem Keeps.settled_pass_iff (h : r.Keeps m) (hhosts : r.HostsOf services snapshot)
    (hnamed : ∀ s ∈ services, s ≠ "") (visit collect : Arrangement) :
    r.Settled snapshot ((r.pass visit collect snapshot).run Mesh.api m).2 ↔
      snapshot = .empty ∨ ('_' ∉ r.hostPrefix.toList ∧ r.space ≠ "") := by
  have hafter := h.pass hhosts hnamed visit collect
  by_cases hgood : '_' ∉ r.hostPrefix.toList ∧ r.space ≠ ""
  · refine iff_of_true ?_ (.inr hgood)
    exact settled_of_slot_eq (slot_pass_of_mirrors (h.mirrors hgood.1 hgood.2) h.serves.up hgood.2
      (hhosts.suits hnamed hgood.1) visit collect)
  rw [or_iff_left hgood]
  constructor
  · intro hsettled
    refine SortedMap.ext_get? fun host => Option.eq_none_iff_forall_ne_some.mpr ?_
    intro endpoints hget
    -- The model does not have the host after the pass, so the next one writes it again.
    refine not_settled_of_unowned hafter.serves hget ?_ hsettled
    by_cases hspace : r.space = ""
    · exact (hafter.nowhere hspace).ours host
    · have hscore : '_' ∈ r.hostPrefix.toList := not_not.mp fun hscore => hgood ⟨hscore, hspace⟩
      obtain ⟨service, -, rfl⟩ := hhosts host endpoints hget
      refine Option.eq_none_iff_forall_ne_some.mpr fun e he => hafter.filed hscore _ e he ?_
      rw [HostName.key, String.toList_append]
      exact List.mem_append_left _ hscore
  · rintro rfl
    refine ⟨fun _ _ hget => (by cases hget), fun host e he hcandidate => ?_⟩
    by_cases hspace : r.space = ""
    · rw [(hafter.nowhere hspace).ours] at he
      cases he
    · have hscore : '_' ∈ r.hostPrefix.toList := not_not.mp fun hscore => hgood ⟨hscore, hspace⟩
      rw [isCandidate_of_underscore hscore (hafter.filed hscore host e he)] at hcandidate
      cases hcandidate

/-- After a pass over other hosts there is no entry at the name of a host exactly if hosts begin
with a text without underscores, or there was none before. -/
theorem Keeps.stored?_pass_eq_none_iff (h : r.Keeps m) (hhosts : r.HostsOf services snapshot)
    (hnamed : ∀ s ∈ services, s ≠ "") {service : String}
    (hgone : ∀ s ∈ services, HostName.key r.hostPrefix s ≠ HostName.key r.hostPrefix service)
    (visit collect : Arrangement) :
    let key := r.keyOf (HostName.key r.hostPrefix service)
    ((r.pass visit collect snapshot).run Mesh.api m).2.stored? key = none ↔
      '_' ∉ r.hostPrefix.toList ∨ m.stored? key = none := by
  intro key
  have hother : ∀ s ∈ services, HostName.formatted (HostName.key r.hostPrefix s) ≠ key.name :=
    fun s hmem hname => hgone s hmem (HostName.key_eq_of_formatted_eq hname)
  by_cases hscore : '_' ∈ r.hostPrefix.toList
  · -- No host of the snapshot is written to the name, and nothing is taken out.
    have hfree : ∀ host endpoints, snapshot.get? host = some endpoints → key ≠ r.keyOf host := by
      intro host endpoints hget hkey
      obtain ⟨s, hmem, rfl⟩ := hhosts host endpoints hget
      exact hother s hmem (congrArg ObjectKey.name hkey).symm
    rw [pass_keeps_of_underscore hscore h.serves (h.filed hscore) visit collect hfree]
    simp [hscore]
  · -- The model has the entry under the host, so the pass leaves what the snapshot says of it.
    refine iff_of_true ?_ (.inl hscore)
    by_cases hspace : r.space = ""
    · exact ((h.pass hhosts hnamed visit collect).nowhere hspace).stored key
    · have hmissing : snapshot.get? key.name = none := by
        refine Option.eq_none_iff_forall_ne_some.mpr fun endpoints hget => ?_
        obtain ⟨s, hmem, hkey⟩ := hhosts key.name endpoints hget
        refine hother s hmem ?_
        rw [← hkey]
        exact HostName.formatted_formatted _
      have hslot := slot_pass_of_mirrors (h.mirrors hscore hspace) h.serves.up hspace
        (hhosts.suits hnamed hscore) visit collect key.name
      rw [hmissing] at hslot
      exact Option.map_eq_none_iff.mp (congrArg (fun s => s.stored key.space) hslot)

/-- The mesh after some passes over the same hosts. -/
def repeated (r : Reconciler) (snapshot : Snapshot) (m : Mesh)
    (turns : List (Arrangement × Arrangement)) : Mesh :=
  turns.foldl (fun m turn => ((r.pass turn.1 turn.2 snapshot).run Mesh.api m).2) m

/-- Whatever a pass has left to do, later ones leave it to do as well. -/
theorem Keeps.repeated (h : r.Keeps m) (hhosts : r.HostsOf services snapshot)
    (hnamed : ∀ s ∈ services, s ≠ "") (turns : List (Arrangement × Arrangement)) :
    r.Keeps (r.repeated snapshot m turns) ∧
      ∀ visit collect, r.Settled snapshot
        (r.repeated snapshot ((r.pass visit collect snapshot).run Mesh.api m).2 turns) ↔
          snapshot = .empty ∨ ('_' ∉ r.hostPrefix.toList ∧ r.space ≠ "") := by
  induction turns generalizing m with
  | nil => exact ⟨h, h.settled_pass_iff hhosts hnamed⟩
  | cons turn rest ih =>
    refine ⟨(ih (h.pass hhosts hnamed turn.1 turn.2)).1, fun visit collect => ?_⟩
    exact (ih (h.pass hhosts hnamed visit collect)).2 turn.1 turn.2

end Passes

/-! ## Rounds -/

/-- A poll of a catalog, and a pass over the hosts that the watcher has then. -/
def round (r : Reconciler) (order visit collect : Arrangement) (c : Catalog)
    (s : CatalogWatcher × Mesh) : CatalogWatcher × Mesh :=
  let w := (s.1.refresh order c).2
  (w, ((r.pass visit collect w.snapshot).run Mesh.api s.2).2)

/-- A new watcher and a reconciler that nobody interferes with share what hosts begin with. After
a round over an empty mesh, however often it is followed by other passes, a further pass makes no
writing call exactly if the watcher has no hosts, or hosts begin with a text without underscores
and there is a target namespace. When the catalog has changed, the next round leaves no entry at
the name of a service whose host has left it, exactly if hosts begin with a text without
underscores or there was no such entry before. -/
theorem kept_up_iff (r : Reconciler) {registry : RegistryConfig} {target : String}
    {poll : PollSettings} {w : CatalogWatcher} {start : Mesh} (c c' : FixedCatalog)
    (failure failure' : String → Option CatalogError)
    (order order' visit visit' collect collect' : Arrangement)
    (more : List (Arrangement × Arrangement))
    (hcreate : CatalogWatcher.create registry target poll = .ok w)
    (hshared : r.hostPrefix = registry.hostPrefix) (hstart : start.Pristine)
    (hup : start.store.down = false) (hexists : start.store.hasSpace r.space = true)
    (howner : r.owner = none ∨ r.owner = some start.ownership.reference)
    (hnamed : ∀ service ∈ c.services.keys, service ≠ "")
    (hnamed' : ∀ service ∈ c'.services.keys, service ≠ "") (hindex : c'.index ≠ c.index) :
    let first := r.round order visit collect (c.answers failure) (w, start)
    let later := r.repeated first.1.snapshot first.2 more
    let second := r.round order' visit' collect' (c'.answers failure') (first.1, later)
    (∀ visit collect,
      (∀ call ∈ (r.pass visit collect first.1.snapshot).calls Mesh.api later,
        call.isWrite = false) ↔
      first.1.snapshot = .empty ∨ ('_' ∉ registry.hostPrefix.toList ∧ r.space ≠ "")) ∧
    ∀ service,
      (∀ other ∈ c'.services.keys,
        HostName.key registry.hostPrefix other ≠ HostName.key registry.hostPrefix service) →
      let key := r.keyOf (HostName.key registry.hostPrefix service)
      (second.2.stored? key = none ↔
        '_' ∉ registry.hostPrefix.toList ∨ later.stored? key = none) := by
  intro first later second
  obtain ⟨hbegins, hunpolled, -⟩ := CatalogWatcher.unpolled_of_create hcreate
  -- Neither poll is skipped: the first one finds a new watcher, the second one another index.
  have hhosts : r.HostsOf c.services.keys first.1.snapshot := by
    intro host endpoints hget
    obtain ⟨service, hmem, hhost⟩ := CatalogWatcher.exists_service_of_refresh (.inl hunpolled) hget
    exact ⟨service, hmem, by rw [hhost, hbegins, hshared]⟩
  have hhosts' : r.HostsOf c'.services.keys second.1.snapshot := by
    intro host endpoints hget
    have hknown : first.1.lastIndex = c.index := CatalogWatcher.lastIndex_refresh w order c failure
    have hkept : first.1.hostPrefix = w.hostPrefix :=
      CatalogWatcher.hostPrefix_refresh w order c failure
    have hnews : c'.index ≠ first.1.lastIndex := fun heq => hindex (heq.trans hknown)
    obtain ⟨service, hmem, hhost⟩ := CatalogWatcher.exists_service_of_refresh (.inr hnews) hget
    exact ⟨service, hmem, by rw [hhost, hkept, hbegins, hshared]⟩
  have hkeeps : r.Keeps start := keeps_of_pristine hstart ⟨hstart.plain, hup, hexists, howner⟩
  have hlater : r.Keeps later :=
    ((hkeeps.pass hhosts hnamed visit collect).repeated hhosts hnamed more).1
  constructor
  · intro visit₁ collect₁
    rw [pass_reads_iff_settled hlater.serves.up, ← hshared]
    exact (hkeeps.repeated hhosts hnamed more).2 visit collect
  · intro service hgone
    rw [← hshared] at hgone ⊢
    exact hlater.stored?_pass_eq_none_iff hhosts' hnamed' hgone visit' collect'

namespace Sample

/-- A registry whose hosts begin in a given way. -/
def registry (hostPrefix : String) : RegistryConfig where
  kind := .consul
  endpoint := "[::1]:8500"
  hostPrefix

/-- A reconciler of its hosts. -/
def reconciler (hostPrefix : String) : Reconciler where
  space := "mesh"
  registry := .consul
  hostPrefix

/-- An empty mesh with the target namespace. -/
def mesh : Mesh where
  store := { spaces := .singleton "mesh" () }
  ownership := { reference := { name := "registry" } }

/-- A catalog with one service. -/
def orders : FixedCatalog :=
  ⟨.singleton "orders" [], 7, fun _ => [{ nodeAddress := "10.0.0.1", servicePort := 80 }]⟩

/-- The catalog when the service has left. -/
def deserted : FixedCatalog := ⟨.empty, 8, fun _ => []⟩

/-- The watcher and the mesh after a round in which the service is there. -/
def first (hostPrefix : String) (w : CatalogWatcher) : CatalogWatcher × Mesh :=
  (reconciler hostPrefix).round .given .given .given (orders.answers fun _ => none) (w, mesh)

/-- A further pass after it. -/
def further (hostPrefix : String) (w : CatalogWatcher) : Session PassReport :=
  (reconciler hostPrefix).pass .given .given (first hostPrefix w).1.snapshot

/-- The watcher and the mesh after the round in which it has left. -/
def second (hostPrefix : String) (w : CatalogWatcher) : CatalogWatcher × Mesh :=
  (reconciler hostPrefix).round .given .given .given (deserted.answers fun _ => none)
    (first hostPrefix w)

end Sample

/-- With a hyphen at the end of what hosts begin with, the entry of the service is written once and
taken out when the service has left. -/
theorem hyphenated_host_kept_up :
    ∃ w, CatalogWatcher.create (Sample.registry "my-") "mesh" {} = .ok w ∧
      (Sample.first "my-" w).2.stored? ⟨"mesh", "my-orders"⟩ ≠ none ∧
      (∀ call ∈ (Sample.further "my-" w).calls Mesh.api (Sample.first "my-" w).2,
        call.isWrite = false) ∧
      (Sample.second "my-" w).2.stored? ⟨"mesh", "my-orders"⟩ = none := by
  have hwritten : (CatalogWatcher.create (Sample.registry "my-") "mesh" {}).toOption.any (fun w =>
      decide ((Sample.first "my-" w).2.stored? ⟨"mesh", "my-orders"⟩ ≠ none)) = true := by
    decide +kernel
  cases hcreate : CatalogWatcher.create (Sample.registry "my-") "mesh" {} with
  | error err =>
    rw [hcreate] at hwritten
    cases hwritten
  | ok w =>
    rw [hcreate] at hwritten
    have hstart : Sample.mesh.Pristine := ⟨rfl, fun _ => rfl, fun _ => rfl, fun _ => rfl⟩
    have hexists : Sample.mesh.store.hasSpace (Sample.reconciler "my-").space = true := by
      decide +kernel
    have hnamed : ∀ service ∈ Sample.orders.services.keys, service ≠ "" := by decide +kernel
    obtain ⟨hidle, hgone⟩ := kept_up_iff (Sample.reconciler "my-") Sample.orders Sample.deserted
      (fun _ => none) (fun _ => none) .given .given .given .given .given .given [] hcreate rfl
      hstart rfl hexists (.inl rfl) hnamed (fun service hmem => nomatch hmem) (by decide)
    refine ⟨w, rfl, of_decide_eq_true hwritten, ?_, ?_⟩
    · exact (hidle .given .given).mpr (.inr ⟨by decide +kernel, by decide⟩)
    · exact (hgone "orders" (fun other hmem => nomatch hmem)).mpr (.inl (by decide +kernel))

/-- With an underscore, every pass writes the entry again, and it stays when the service has
left. -/
theorem underscored_host_not_kept_up :
    ∃ w, CatalogWatcher.create (Sample.registry "my_") "mesh" {} = .ok w ∧
      ¬ (∀ call ∈ (Sample.further "my_" w).calls Mesh.api (Sample.first "my_" w).2,
        call.isWrite = false) ∧
      (Sample.second "my_" w).1.snapshot = .empty ∧
      (Sample.second "my_" w).2.stored? ⟨"mesh", "my-orders"⟩ ≠ none := by
  have hrun : (CatalogWatcher.create (Sample.registry "my_") "mesh" {}).toOption.any (fun w =>
      decide (¬ (∀ call ∈ (Sample.further "my_" w).calls Mesh.api (Sample.first "my_" w).2,
        call.isWrite = false) ∧
      (Sample.second "my_" w).1.snapshot = .empty ∧
      (Sample.second "my_" w).2.stored? ⟨"mesh", "my-orders"⟩ ≠ none)) = true := by
    decide +kernel
  cases hcreate : CatalogWatcher.create (Sample.registry "my_") "mesh" {} with
  | error err =>
    rw [hcreate] at hrun
    cases hrun
  | ok w =>
    rw [hcreate] at hrun
    exact ⟨w, rfl, of_decide_eq_true hrun⟩

end Reconciler

end MeshRegistry
