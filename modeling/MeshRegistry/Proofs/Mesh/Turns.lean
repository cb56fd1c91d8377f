import MeshRegistry.Proofs.Mesh.Failures
import MeshRegistry.Proofs.Mesh.Pass
/-!
# A pass as a row of turns

A pass gives every host its turn, and its report counts what was done in the turns. Here the turns
are made visible: the same conversation, which ends with a log of what was done about which host
instead of with the counts. It may be held with any API.

The exchanges of a turn come in few forms. An entry is fetched before it is written or removed, and
nothing comes after that.

## Main definitions

- `Session.inTurn`: conversations about hosts, one after the other.
- `PassLog`: what a pass has done about which host.
- `Reconciler.visitTurn`, `Reconciler.collectTurn`: the turns of a host.
- `Reconciler.loggedPass`: a pass that ends with its log.

## Main results

- `Reconciler.pass_eq_loggedPass`: a pass reports what its log says.
- `Reconciler.writeHost_cases_of_exchanges`, `Reconciler.collectEntry_cases_of_exchanges`: the forms
  of the exchanges.
-/

namespace MeshRegistry

/-! ## Turns -/

namespace Session

variable {α β γ σ : Type}

theorem pure_bind (a : α) (f : α → Session β) : pure a >>= f = f a := rfl

/-- Conversations put after each other may be grouped as one likes. -/
theorem bind_assoc (p : Session α) (f : α → Session β) (g : β → Session γ) :
    p >>= f >>= g = p >>= fun a => f a >>= g := by
  show (p.andThen f).andThen g = p.andThen fun a => (f a).andThen g
  induction p with
  | done a => rfl
  | ask c next ih => exact congrArg (ask c) (funext ih)
  | look next ih => exact congrArg look (funext ih)

section LastCall

variable {api : MeshApi σ} {c : Call} {f : c.Result → α} {next : c.Result → Session α}

/-! A conversation that ends after a call. -/

theorem run_call_bind (hnext : ∀ result, next result = pure (f result)) (s : σ) :
    (call c >>= next).run api s = (f (api.perform c s).1, (api.perform c s).2) := by
  rw [run_bind, run_call, hnext, run_pure]

theorem exchanges_call_bind (hnext : ∀ result, next result = pure (f result)) (s : σ) :
    (call c >>= next).exchanges api s = [⟨c, (api.perform c s).1⟩] := by
  rw [exchanges_bind, exchanges_call, hnext, exchanges_pure, List.append_nil]

end LastCall

/-- Hosts have their turns one after the other. The value has what was done in the turns, with the
hosts. -/
def inTurn (turn : String → Session (Option α)) : List String → Session (List (String × α))
  | [] => return []
  | host :: rest => do
    let deed ← turn host
    let later ← inTurn turn rest
    return (deed.map (host, ·)).toList ++ later

section InTurn

variable {api : MeshApi σ} {turn : String → Session (Option α)}

theorem run_inTurn_cons (host : String) (rest : List String) (s : σ) :
    (inTurn turn (host :: rest)).run api s =
      ((((turn host).run api s).1.map (host, ·)).toList ++
          ((inTurn turn rest).run api ((turn host).run api s).2).1,
        ((inTurn turn rest).run api ((turn host).run api s).2).2) := by
  rw [inTurn, run_bind, run_bind]
  rfl

theorem exchanges_inTurn_cons (host : String) (rest : List String) (s : σ) :
    (inTurn turn (host :: rest)).exchanges api s =
      (turn host).exchanges api s ++
        (inTurn turn rest).exchanges api ((turn host).run api s).2 := by
  rw [inTurn, exchanges_bind, exchanges_bind, exchanges_pure, List.append_nil]

/-- What adds up over turns holds of all turns together. -/
theorem inTurn_adds_up {R : List (String × α) → List Exchange → Prop} (hnil : R [] [])
    (happend : ∀ {log log' made made'}, R log made → R log' made' → R (log ++ log') (made ++ made'))
    {hosts : List String}
    (hturn : ∀ host ∈ hosts, ∀ s, R (((turn host).run api s).1.map (host, ·)).toList
      ((turn host).exchanges api s)) (s : σ) :
    R ((inTurn turn hosts).run api s).1 ((inTurn turn hosts).exchanges api s) := by
  induction hosts generalizing s with
  | nil => exact hnil
  | cons host rest ih =>
    obtain ⟨hfirst, hrest⟩ := List.forall_mem_cons.mp hturn
    rw [run_inTurn_cons, exchanges_inTurn_cons]
    exact happend (hfirst s) (ih hrest _)

theorem length_inTurn {hosts : List String}
    (hturn : ∀ host ∈ hosts, ∀ s, ((turn host).run api s).1.isSome) (s : σ) :
    ((inTurn turn hosts).run api s).1.length = hosts.length := by
  induction hosts generalizing s with
  | nil => rfl
  | cons host rest ih =>
    obtain ⟨hfirst, hrest⟩ := List.forall_mem_cons.mp hturn
    obtain ⟨deed, hdeed⟩ := Option.isSome_iff_exists.mp (hfirst s)
    rw [run_inTurn_cons, hdeed]
    simp [ih hrest]

end InTurn

end Session

/-! ## The log of a pass -/

/-- The report with the results for more hosts. -/
def PassReport.countAll (report : PassReport)
    (log : List (String × Except MeshError HostAction)) : PassReport :=
  log.foldl (fun report d => report.count d.2) report

/-- What a pass has done, in its order. -/
structure PassLog where
  /-- The hosts of the snapshot, with what has come of them. -/
  reconciled : List (String × Except MeshError HostAction)
  /-- The hosts that were candidates for collection, and whether their entry was removed. -/
  collected : List (String × Bool)
deriving DecidableEq

namespace PassLog

/-- The part of a log that is about one host. -/
def about (host : String) (log : PassLog) : PassLog where
  reconciled := log.reconciled.filter (·.1 = host)
  collected := log.collected.filter (·.1 = host)

/-- The counts of a log. -/
def report (log : PassLog) : PassReport :=
  { PassReport.countAll {} log.reconciled with deleted := log.collected.countP (·.2) }

end PassLog

namespace PassReport

/-- How many hosts a report tells of. -/
def total (report : PassReport) : Nat :=
  report.created + report.updated + report.unchanged + report.skipped + report.failed

/-- One host is counted once. -/
theorem count_spec (report : PassReport) (result : Except MeshError HostAction) :
    (report.count result).created = report.created + (if result = .ok .created then 1 else 0) ∧
    (report.count result).updated = report.updated + (if result = .ok .updated then 1 else 0) ∧
    (report.count result).total = report.total + 1 := by
  cases result with
  | error err => exact ⟨rfl, rfl, rfl⟩
  | ok action =>
    cases action with
    | created => exact ⟨rfl, rfl, by simp only [count, total]; omega⟩
    | updated => exact ⟨rfl, rfl, by simp only [count, total]; omega⟩
    | unchanged => exact ⟨rfl, rfl, by simp only [count, total]; omega⟩
    | skipped => exact ⟨rfl, rfl, by simp only [count, total]; omega⟩

theorem countAll_spec (report : PassReport) (log : List (String × Except MeshError HostAction)) :
    (report.countAll log).created = report.created + log.countP (·.2 = .ok .created) ∧
    (report.countAll log).updated = report.updated + log.countP (·.2 = .ok .updated) ∧
    (report.countAll log).total = report.total + log.length := by
  induction log generalizing report with
  | nil => exact ⟨rfl, rfl, rfl⟩
  | cons d rest ih =>
    obtain ⟨hcreated, hupdated, htotal⟩ := ih (report.count d.2)
    obtain ⟨hcreated', hupdated', htotal'⟩ := report.count_spec d.2
    have hafter : report.countAll (d :: rest) = (report.count d.2).countAll rest := rfl
    simp only [List.countP_cons, List.length_cons, hafter, decide_eq_true_eq]
    omega

end PassReport

namespace Reconciler

variable (r : Reconciler)

/-- The turn of a host of the snapshot. -/
def visitTurn (snapshot : Snapshot) (ours : SortedMap String ServiceEntry) (host : String) :
    Session (Option (Except MeshError HostAction)) :=
  match snapshot.get? host with
  | none => return none
  | some endpoints => do
    let result ← r.reconcileHost host endpoints (ours.get? host)
    return some result

/-- The turn of a host of ours, in which its entry may be removed. -/
def collectTurn (snapshot : Snapshot) (ours : SortedMap String ServiceEntry) (host : String) :
    Session (Option Bool) :=
  match ours.get? host with
  | none => return none
  | some e =>
    if r.isCandidate snapshot host e then do
      let removed ← r.collectEntry e
      return some removed
    else return none

def visits (visit : Arrangement) (snapshot : Snapshot) :
    Session (List (String × Except MeshError HostAction)) := do
  let model ← Session.ownership
  Session.inTurn (r.visitTurn snapshot model.ours) (visit.arrange snapshot.keys)

def collections (collect : Arrangement) (snapshot : Snapshot) :
    Session (List (String × Bool)) := do
  let model ← Session.ownership
  Session.inTurn (r.collectTurn snapshot model.ours) (collect.arrange model.ours.keys)

/-- A pass that ends with its log. -/
def loggedPass (visit collect : Arrangement) (snapshot : Snapshot) : Session PassLog := do
  let reconciled ← r.visits visit snapshot
  let collected ← r.collections collect snapshot
  return { reconciled, collected }

section Run

variable {σ : Type} (api : MeshApi σ) (s : σ) (visit collect : Arrangement) (snapshot : Snapshot)

/-- The collection goes on where the visits have ended. -/
theorem run_loggedPass :
    (r.loggedPass visit collect snapshot).run api s =
      (⟨((r.visits visit snapshot).run api s).1,
          ((r.collections collect snapshot).run api ((r.visits visit snapshot).run api s).2).1⟩,
        ((r.collections collect snapshot).run api ((r.visits visit snapshot).run api s).2).2) := by
  rw [loggedPass, Session.run_bind, Session.run_bind]
  rfl

theorem exchanges_loggedPass :
    (r.loggedPass visit collect snapshot).exchanges api s =
      (r.visits visit snapshot).exchanges api s ++
        (r.collections collect snapshot).exchanges api
          ((r.visits visit snapshot).run api s).2 := by
  rw [loggedPass, Session.exchanges_bind, Session.exchanges_bind, Session.exchanges_pure,
    List.append_nil]

end Run

theorem reconcileHosts_eq_inTurn (snapshot : Snapshot) (ours : SortedMap String ServiceEntry)
    (report : PassReport) (hosts : List String) :
    r.reconcileHosts snapshot ours report hosts =
      Session.inTurn (r.visitTurn snapshot ours) hosts >>= fun log =>
        pure (report.countAll log) := by
  induction hosts generalizing report with
  | nil => rfl
  | cons host rest ih =>
    rw [reconcileHosts, Session.inTurn, visitTurn]
    cases snapshot.get? host with
    | none => simp [ih, Session.bind_assoc, Session.pure_bind]
    | some endpoints => simp [ih, Session.bind_assoc, Session.pure_bind, PassReport.countAll]

theorem collectHosts_eq_inTurn (snapshot : Snapshot) (ours : SortedMap String ServiceEntry)
    (deleted : Nat) (hosts : List String) :
    r.collectHosts snapshot ours deleted hosts =
      Session.inTurn (r.collectTurn snapshot ours) hosts >>= fun log =>
        pure (deleted + log.countP (·.2)) := by
  induction hosts generalizing deleted with
  | nil => rfl
  | cons host rest ih =>
    rw [collectHosts, Session.inTurn, collectTurn]
    cases ours.get? host with
    | none => simp [ih, Session.bind_assoc, Session.pure_bind]
    | some e =>
      dsimp only
      split
      · -- The removal is counted before the rest on one side, and together with it on the other.
        simp only [ih, Session.bind_assoc, Session.pure_bind, Option.map_some, Option.toList_some,
          List.countP_append, List.countP_singleton]
        refine congrArg _ (funext fun removed => congrArg _ (funext fun later => ?_))
        cases removed <;> simp [Nat.add_assoc]
      · simp [ih, Session.bind_assoc, Session.pure_bind]

/-- A pass is the logged pass, of which only the counts are reported. -/
theorem pass_eq_loggedPass (visit collect : Arrangement) (snapshot : Snapshot) :
    r.pass visit collect snapshot =
      r.loggedPass visit collect snapshot >>= fun log => pure log.report := by
  simp [pass, loggedPass, visits, collections, reconcileHosts_eq_inTurn, collectHosts_eq_inTurn,
    Session.bind_assoc, Session.pure_bind, PassLog.report]

section Run

variable {σ : Type} (api : MeshApi σ) (s : σ) (visit collect : Arrangement) (snapshot : Snapshot)

/-- A pass leaves what the logged pass leaves, and reports the counts of its log. -/
theorem run_pass :
    (r.pass visit collect snapshot).run api s =
      (((r.loggedPass visit collect snapshot).run api s).1.report,
        ((r.loggedPass visit collect snapshot).run api s).2) := by
  rw [pass_eq_loggedPass, Session.run_bind]
  rfl

theorem exchanges_pass :
    (r.pass visit collect snapshot).exchanges api s =
      (r.loggedPass visit collect snapshot).exchanges api s := by
  rw [pass_eq_loggedPass, Session.exchanges_bind, Session.exchanges_pure, List.append_nil]

end Run

/-! ## The exchanges of a turn -/

section Exchanges

variable {σ : Type} (api : MeshApi σ) (s : σ) (host : String) (endpoints : List Endpoint)

/-- The entry of a host is written after the object with its name has been fetched, and is created
exactly if there was none. -/
theorem writeHost_cases_of_exchanges :
    (∃ err, (r.writeHost host endpoints).exchanges api s = [⟨.get (r.keyOf host), .error err⟩] ∧
      ((r.writeHost host endpoints).run api s).1 = .error err) ∨
    (∃ result, (r.writeHost host endpoints).exchanges api s =
        [⟨.get (r.keyOf host), .ok none⟩, ⟨.create (r.builder.build host endpoints), result⟩] ∧
      ((r.writeHost host endpoints).run api s).1 = result.map fun _ => .created) ∨
    ∃ current result, (r.writeHost host endpoints).exchanges api s =
        [⟨.get (r.keyOf host), .ok (some current)⟩,
          ⟨.update ((r.builder.build host endpoints).withVersion
            current.metadata.resourceVersion), result⟩] ∧
      ((r.writeHost host endpoints).run api s).1 = result.map fun _ => .updated := by
  unfold writeHost
  rw [Session.exchanges_bind, Session.run_bind, Session.exchanges_call, Session.run_call]
  generalize (api.perform (.get (r.keyOf host)) s).2 = s'
  cases (api.perform (.get (r.keyOf host)) s).1 with
  | error err => exact .inl ⟨err, rfl, rfl⟩
  | ok found =>
    cases found with
    | none =>
      let create : Call := .create (r.builder.build host endpoints)
      let outcome (result : create.Result) := result.map fun _ => HostAction.created
      refine .inr (.inl ⟨(api.perform create s').1,
        congrArg (_ :: ·) (Session.exchanges_call_bind (f := outcome) (fun result => ?_) s'),
        congrArg Prod.fst (Session.run_call_bind (f := outcome) (fun result => ?_) s')⟩)
      all_goals cases result <;> rfl
    | some current =>
      let update : Call :=
        .update ((r.builder.build host endpoints).withVersion current.metadata.resourceVersion)
      let outcome (result : update.Result) := result.map fun _ => HostAction.updated
      refine .inr (.inr ⟨current, (api.perform update s').1,
        congrArg (_ :: ·) (Session.exchanges_call_bind (f := outcome) (fun result => ?_) s'),
        congrArg Prod.fst (Session.run_call_bind (f := outcome) (fun result => ?_) s')⟩)
      all_goals cases result <;> rfl

/-- A host is left alone without a call, or its entry is written. -/
theorem reconcileHost_cases_of_exchanges (owned : Option ServiceEntry) :
    ((r.reconcileHost host endpoints owned).exchanges api s = [] ∧
      ((r.reconcileHost host endpoints owned).run api s).1 = .ok (leftAlone owned)) ∨
    ((r.reconcileHost host endpoints owned).exchanges api s =
        (r.writeHost host endpoints).exchanges api s ∧
      ((r.reconcileHost host endpoints owned).run api s).1 =
        ((r.writeHost host endpoints).run api s).1) := by
  cases owned with
  | some e =>
    by_cases hsame : e.spec.endpoints = endpoints
    · exact .inl (by simp [reconcileHost, hsame, leftAlone])
    · exact .inr (by simp [reconcileHost, hsame])
  | none =>
    by_cases hthem : (api.ownership s).classify host = .them
    · exact .inl (by simp [reconcileHost, hthem, leftAlone])
    · exact .inr (by simp [reconcileHost, hthem])

/-- An entry is removed after the object with its name has been fetched and had the label. -/
theorem collectEntry_cases_of_exchanges (e : ServiceEntry) :
    (∃ fetched, (r.collectEntry e).exchanges api s = [⟨.get ⟨r.space, e.name⟩, fetched⟩] ∧
      ((r.collectEntry e).run api s).1 = false) ∨
    ∃ current result, r.Marks current ∧ (r.collectEntry e).exchanges api s =
        [⟨.get ⟨r.space, e.name⟩, .ok (some current)⟩, ⟨.delete ⟨r.space, e.name⟩, result⟩] ∧
      ((r.collectEntry e).run api s).1 = result.isOk := by
  unfold collectEntry
  rw [Session.exchanges_bind, Session.run_bind, Session.exchanges_call, Session.run_call]
  generalize (api.perform (.get ⟨r.space, e.name⟩) s).2 = s'
  cases (api.perform (.get ⟨r.space, e.name⟩) s).1 with
  | error err => exact .inl ⟨.error err, rfl, rfl⟩
  | ok found =>
    cases found with
    | none => exact .inl ⟨.ok none, rfl, rfl⟩
    | some current =>
      dsimp only
      by_cases hmark : r.Marks current
      · have hlabel : ¬ current.label? registryLabel ≠ some r.registry.text := not_not.mpr hmark
        let delete : Call := .delete ⟨r.space, e.name⟩
        let outcome (result : delete.Result) := result.isOk
        rw [if_neg hlabel]
        refine .inr ⟨current, (api.perform delete s').1, hmark,
          congrArg (_ :: ·) (Session.exchanges_call_bind (f := outcome) (fun result => ?_) s'),
          congrArg Prod.fst (Session.run_call_bind (f := outcome) (fun result => ?_) s')⟩
        all_goals cases result <;> rfl
      · have hlabel : current.label? registryLabel ≠ some r.registry.text := hmark
        refine .inl ⟨.ok (some current), ?_, ?_⟩
        · rw [if_pos hlabel]
          rfl
        · rw [if_pos hlabel]
          rfl

end Exchanges

end Reconciler

end MeshRegistry
