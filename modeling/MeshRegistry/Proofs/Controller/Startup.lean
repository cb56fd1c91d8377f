import MeshRegistry.Proofs.Controller.Acceptance
/-!
# What goes out of range while a controller is assembled

Two numbers of a configuration are taken over into quantities that have a range of their own. The
time limit of a request to a catalog is computed from the seconds for which an answer may be held
back, and must be a span of time; the queue of operations must not have more room than any queue.
The check of a configuration looks at neither of them. Where such a number is too great the
assembly breaks off, and nothing is reported about the configuration.

The address of a registry is read before its number is used, and an address that is none is
reported. All catalogs are asked with the same waiting time and only one stream is followed, so the
first registry decides.

## Main definitions

- `AssemblyError.IsOverflow`: the assembly breaks off.
- `CatalogClient.longestWait`: the greatest number of seconds that leads to a time limit.
- `ControllerConfig.Overflows`: the number that a registry makes use of is too great.

## Main results

- `CatalogClient.timeLimit_lt_spanBound_iff`: which waiting times lead to a time limit.
- `ControllerConfig.watcher_overflows_iff`: when the watcher of a registry is out of range.
- `ControllerConfig.assembles_in_range_iff`: when a whole assembly stays in range.
-/

namespace MeshRegistry

/-- An assembly breaks off because a quantity is out of its range. -/
def AssemblyError.IsOverflow : AssemblyError → Prop
  | .catalog _ cause => cause = .limitTooLong
  | .stream _ cause => cause = .queueTooLong

/-- A traversal fails with the first failure. -/
theorem mapM_eq_error_iff {α β ε : Type} {f : α → Except ε β} {l : List α} {err : ε} :
    l.mapM f = .error err ↔ ∃ before a after, l = before ++ a :: after ∧
      (∀ b ∈ before, ∃ result, f b = .ok result) ∧ f a = .error err := by
  induction l with
  | nil => simp [pure, Except.pure]
  | cons first rest ih =>
    rw [List.mapM_cons]
    cases hfirst : f first with
    | error err' =>
      constructor
      · intro h
        cases h
        exact ⟨[], first, rest, rfl, by simp, hfirst⟩
      · rintro ⟨before, a, after, hsplit, hbefore, ha⟩
        cases before with
        | nil =>
          obtain ⟨rfl, rfl⟩ := List.cons.inj hsplit
          cases hfirst.symm.trans ha
          rfl
        | cons b before =>
          obtain ⟨rfl, -⟩ := List.cons.inj hsplit
          obtain ⟨result, hresult⟩ := hbefore first List.mem_cons_self
          cases hfirst.symm.trans hresult
    | ok result =>
      have hlater : (do let results ← rest.mapM f; pure (result :: results)) = Except.error err ↔
          rest.mapM f = .error err := by
        cases rest.mapM f <;> simp [bind, Except.bind, pure, Except.pure]
      refine hlater.trans (ih.trans ?_)
      constructor
      · rintro ⟨before, a, after, rfl, hbefore, ha⟩
        exact ⟨first :: before, a, after, rfl, List.forall_mem_cons.mpr ⟨⟨_, hfirst⟩, hbefore⟩, ha⟩
      · rintro ⟨before, a, after, hsplit, hbefore, ha⟩
        cases before with
        | nil =>
          obtain ⟨rfl, -⟩ := List.cons.inj hsplit
          cases hfirst.symm.trans ha
        | cons b before =>
          obtain ⟨-, rfl⟩ := List.cons.inj hsplit
          exact ⟨before, a, after, rfl, (List.forall_mem_cons.mp hbefore).2, ha⟩

/-! ## Time limits -/

namespace CatalogClient

/-- The greatest number of seconds for which an answer may be held back. -/
def longestWait : Nat := 17361641481138401511

theorem timeLimit_lt_spanBound_iff (secs : Nat) :
    timeLimit (secs * 1000) < spanBound ↔ secs ≤ longestWait := by
  have hsize : UInt64.size = 18446744073709551616 := rfl
  simp only [timeLimit, spanBound, longestWait, hsize]
  omega

theorem address_ne_limitTooLong (endpoint : String) : address endpoint ≠ .error .limitTooLong := by
  unfold address
  dsimp only
  split
  · simp
  · split
    · simp
    · split <;> simp

/-- What comes of the address and the time limit. The address is read first. -/
theorem create_cases (config : CatalogConfig) :
    (∃ err, address config.endpoint = .error err ∧ create config = .error err) ∨
    ∃ base, address config.endpoint = .ok base ∧
      (timeLimit config.wait < spanBound ∧ create config = .ok ⟨base, config⟩ ∨
        spanBound ≤ timeLimit config.wait ∧ create config = .error .limitTooLong) := by
  unfold create
  cases address config.endpoint with
  | error err => exact .inl ⟨err, rfl, rfl⟩
  | ok base =>
    rw [show ∀ f : Url → Except CatalogError CatalogClient, Except.ok base >>= f = f base from
      fun _ => rfl]
    refine .inr ⟨base, rfl, ?_⟩
    by_cases hlimit : timeLimit config.wait < spanBound
    · rw [if_pos hlimit]
      exact .inl ⟨hlimit, rfl⟩
    · rw [if_neg hlimit]
      exact .inr ⟨Nat.not_lt.mp hlimit, rfl⟩

theorem create_eq_limitTooLong_iff {config : CatalogConfig} :
    create config = .error .limitTooLong ↔
      (∃ base, address config.endpoint = .ok base) ∧ spanBound ≤ timeLimit config.wait := by
  rcases create_cases config with ⟨err, haddress, hcreate⟩ | ⟨base, haddress, hcreate⟩
  · constructor
    · intro h
      obtain rfl := Except.error.inj (hcreate.symm.trans h)
      exact absurd haddress (address_ne_limitTooLong _)
    · rintro ⟨⟨base, hbase⟩, -⟩
      cases haddress.symm.trans hbase
  · rcases hcreate with ⟨hlimit, hcreate⟩ | ⟨hlimit, hcreate⟩
    · constructor
      · intro h
        cases hcreate.symm.trans h
      · rintro ⟨-, hlong⟩
        exact absurd hlimit (Nat.not_lt.mpr hlong)
    · exact ⟨fun _ => ⟨⟨base, haddress⟩, hlimit⟩, fun _ => hcreate⟩

theorem timeLimit_lt_of_create {config : CatalogConfig} {client : CatalogClient}
    (h : create config = .ok client) : timeLimit config.wait < spanBound := by
  rcases create_cases config with ⟨err, -, hcreate⟩ | ⟨base, -, ⟨hlimit, -⟩ | ⟨-, hcreate⟩⟩
  · cases hcreate.symm.trans h
  · exact hlimit
  · cases hcreate.symm.trans h

end CatalogClient

namespace ControllerConfig

variable {c : ControllerConfig} {hostAddress : String} {files : Files} {r : RegistryConfig}

/-! ## One registry -/

/-- The address of a registry can be asked, and the number that is used then is too great. -/
def Overflows (c : ControllerConfig) (r : RegistryConfig) : Prop :=
  match r.kind with
  | .consul => (∃ base, CatalogClient.address r.endpoint = .ok base) ∧
      CatalogClient.longestWait < c.waitSecs.toNat
  | .nacos => DiscoveryClient.IsAddress r.endpoint ∧
      Queue.greatestCapacity < c.discovery.queueCapacity.toNat

theorem watcher_eq_of_consul (hkind : r.kind = .consul) :
    c.watcher hostAddress files r =
      match CatalogClient.create (c.catalogConfig r) with
      | .ok client => .ok (.catalog
          { client, hostPrefix := r.hostPrefix, targetSpace := c.targetOf r,
            tick := c.pollSettings.tick })
      | .error err => .error (.catalog r.endpoint err) := by
  have hcreated : CatalogWatcher.create r (c.targetOf r) c.pollSettings =
      CatalogClient.create (c.catalogConfig r) >>= fun client => pure
        { client, hostPrefix := r.hostPrefix, targetSpace := c.targetOf r,
          tick := c.pollSettings.tick } := rfl
  simp only [watcher, hkind, targetSpaceOr_eq, hcreated]
  cases CatalogClient.create (c.catalogConfig r) <;> rfl

theorem waitSecs_gt_iff :
    CatalogClient.longestWait < c.waitSecs.toNat ↔
      CatalogClient.spanBound ≤ CatalogClient.timeLimit (c.catalogConfig r).wait := by
  have hwait : (c.catalogConfig r).wait = c.waitSecs.toNat * 1000 := rfl
  rw [hwait, ← Nat.not_le, ← CatalogClient.timeLimit_lt_spanBound_iff, Nat.not_lt]

theorem queueCapacity_gt_iff {endpoint : String} :
    Queue.greatestCapacity < c.discovery.queueCapacity.toNat ↔
      Queue.greatestCapacity <
        (ClientConfig.ofSettings hostAddress endpoint c.discovery).queueCapacity := by
  have hroom : (ClientConfig.ofSettings hostAddress endpoint c.discovery).queueCapacity =
      max 1 c.discovery.queueCapacity.toNat := rfl
  have hone : ¬ Queue.greatestCapacity < 1 := by decide
  rw [hroom]
  omega

theorem watcher_overflows_iff :
    (∃ err, c.watcher hostAddress files r = .error err ∧ err.IsOverflow) ↔ c.Overflows r := by
  unfold Overflows
  cases hkind : r.kind with
  | consul =>
    have hcreate := @CatalogClient.create_eq_limitTooLong_iff (c.catalogConfig r)
    rw [← waitSecs_gt_iff] at hcreate
    refine Iff.trans ?_ hcreate
    rw [watcher_eq_of_consul hkind]
    cases CatalogClient.create (c.catalogConfig r) <;> simp [AssemblyError.IsOverflow]
  | nacos =>
    have hcreate := @DiscoveryClient.create_eq_queueTooLong_iff
      (.ofSettings hostAddress r.endpoint c.discovery) files
    rw [← queueCapacity_gt_iff] at hcreate
    refine Iff.trans ?_ hcreate
    simp only [watcher, hkind]
    cases DiscoveryClient.create (.ofSettings hostAddress r.endpoint c.discovery) files <;>
      simp [AssemblyError.IsOverflow]

/-- A catalog is only watched when the waiting time leads to a time limit. -/
theorem waitSecs_le_of_watcher {w : Watcher} (hkind : r.kind = .consul)
    (h : c.watcher hostAddress files r = .ok w) :
    c.waitSecs.toNat ≤ CatalogClient.longestWait := by
  rw [watcher_eq_of_consul hkind] at h
  cases hcreate : CatalogClient.create (c.catalogConfig r) with
  | error err =>
    rw [hcreate] at h
    cases h
  | ok client =>
    have hlimit := CatalogClient.timeLimit_lt_of_create hcreate
    exact Nat.le_of_not_lt fun hlong => absurd hlimit (Nat.not_lt.mpr (waitSecs_gt_iff.mp hlong))

/-! ## All registries -/

theorem assemble_eq_error_iff {err : AssemblyError} :
    c.assemble hostAddress files = .error err ↔
      c.activeRegistries.mapM (c.watcher hostAddress files) = .error err := by
  unfold assemble
  cases c.activeRegistries.mapM (c.watcher hostAddress files) with
  | error err' => simp [bind, Except.bind]
  | ok watchers => simp [bind, Except.bind, pure, Except.pure]

/-- The first registry is run, and others are run besides it only where all are catalogs. -/
theorem activeRegistries_cons (hvalid : c.validate = .ok ()) {first : RegistryConfig}
    {rest : List RegistryConfig} (h : c.registries = first :: rest) :
    ∃ others, c.activeRegistries = first :: others ∧
      ∀ r ∈ others, first.kind = .consul ∧ r.kind = .consul := by
  have hfirst : first ∈ c.registries := h ▸ List.mem_cons_self
  have halike : ∀ r ∈ c.registries, r.kind = first.kind := fun r hr =>
    (validate_eq_ok_iff.mp hvalid).kinds r hr first hfirst
  cases hkind : first.kind with
  | consul =>
    rw [hkind] at halike
    refine ⟨rest, (activeRegistries_of_consul halike).trans h, fun r hr => ⟨rfl, halike r ?_⟩⟩
    exact h ▸ List.mem_cons_of_mem _ hr
  | nacos =>
    rw [hkind] at halike
    exact ⟨[], activeRegistries_of_nacos h halike, by simp⟩

/-- The assembly breaks off exactly when the first registry makes use of a number that is too
great. -/
theorem assemble_overflows_iff (hvalid : c.validate = .ok ()) :
    (∃ err, c.assemble hostAddress files = .error err ∧ err.IsOverflow) ↔
      ∃ first ∈ c.registries.head?, c.Overflows first := by
  simp only [assemble_eq_error_iff, mapM_eq_error_iff]
  cases hregistries : c.registries with
  | nil => simp [activeRegistries, hregistries, dropLaterStreams]
  | cons first rest =>
    obtain ⟨others, hactive, hothers⟩ := activeRegistries_cons hvalid hregistries
    have hfirst : (∃ r ∈ (first :: rest).head?, c.Overflows r) ↔ c.Overflows first := by simp
    rw [hfirst, hactive, ← @watcher_overflows_iff c hostAddress files]
    constructor
    · rintro ⟨err, ⟨before, r, after, hsplit, hbefore, hr⟩, hoverflow⟩
      cases before with
      | nil =>
        obtain ⟨rfl, -⟩ := List.cons.inj hsplit
        exact ⟨err, hr, hoverflow⟩
      | cons b before =>
        -- The first registry is watched, so there is a time limit, and there is one for the other.
        obtain ⟨rfl, hlater⟩ := List.cons.inj hsplit
        obtain ⟨hkind, hkind'⟩ := hothers r (hlater ▸ by simp)
        obtain ⟨w, hw⟩ := hbefore _ List.mem_cons_self
        have hwait := waitSecs_le_of_watcher hkind hw
        have hlong : c.Overflows r := watcher_overflows_iff.mp ⟨err, hr, hoverflow⟩
        unfold Overflows at hlong
        rw [hkind'] at hlong
        exact absurd hlong.2 (Nat.not_lt.mpr hwait)
    · rintro ⟨err, herr, hoverflow⟩
      exact ⟨err, ⟨[], first, others, rfl, by simp, herr⟩, hoverflow⟩

/-- An acceptable configuration is assembled, or it is reported why it cannot be, exactly when its
first registry makes use of no number that is too great. There is a time limit for a waiting time
of 64 bits exactly up to the longest wait. -/
theorem assembles_in_range_iff (hvalid : c.validate = .ok ()) (hostAddress : String)
    (files : Files) :
    ((∃ a, c.assemble hostAddress files = .ok a) ∨
        (∃ err, c.assemble hostAddress files = .error err ∧ ¬ err.IsOverflow) ↔
      ∀ first ∈ c.registries.head?, ¬ c.Overflows first) ∧
    ∀ secs : UInt64, CatalogClient.timeLimit (secs.toNat * 1000) < CatalogClient.spanBound ↔
      secs.toNat ≤ CatalogClient.longestWait := by
  refine ⟨?_, fun secs => CatalogClient.timeLimit_lt_spanBound_iff secs.toNat⟩
  have hoverflows := @assemble_overflows_iff c hostAddress files hvalid
  have hnone : (∀ first ∈ c.registries.head?, ¬ c.Overflows first) ↔
      ¬ ∃ err, c.assemble hostAddress files = .error err ∧ err.IsOverflow := by
    rw [hoverflows]
    simp only [not_exists, not_and]
  rw [hnone]
  cases c.assemble hostAddress files with
  | ok a => simp
  | error err => simp

/-! ### Numbers at the ends of their ranges -/

namespace Sample

/-- A catalog that may hold back its answers for as long as there is a time limit. -/
def patient : ControllerConfig where
  meshId := "mesh-1"
  waitSecs := 17361641481138401511
  registries := [{ kind := .consul, endpoint := "[::1]:8500" }]

/-- The same catalog with the greatest number of 64 bits. -/
def tooPatient : ControllerConfig := { patient with waitSecs := 18446744073709551615 }

/-- A stream whose queue would have room for one item more than the greatest queue. -/
def tooRoomy : ControllerConfig where
  meshId := "mesh-1"
  discovery := { queueCapacity := 2305843009213693952 }
  registries := [{ kind := .nacos, endpoint := "nacos:18848" }]

end Sample

/-- The longest wait is in range. -/
theorem longest_wait_in_range :
    let c := Sample.patient
    c.validate = .ok () ∧ (∀ first ∈ c.registries.head?, ¬ c.Overflows first) ∧
      ((∃ a, c.assemble "10.0.0.1" {} = .ok a) ∨
        ∃ err, c.assemble "10.0.0.1" {} = .error err ∧ ¬ err.IsOverflow) := by
  intro c
  have hvalid : c.validate = .ok () := by decide +kernel
  have hfits : ∀ first ∈ c.registries.head?, ¬ c.Overflows first := by
    intro first hfirst
    obtain rfl := Option.some.inj hfirst
    rintro ⟨-, hlong⟩
    exact absurd hlong (by decide)
  exact ⟨hvalid, hfits, (assembles_in_range_iff hvalid "10.0.0.1" {}).1.mpr hfits⟩

/-- Acceptable configurations whose assembly breaks off: one with a longer wait, for which there is
no time limit, and one with a queue that is too long. -/
theorem great_numbers_break_off :
    Sample.tooPatient.validate = .ok () ∧
    Sample.tooPatient.assemble "10.0.0.1" {} =
      .error (.catalog "[::1]:8500" .limitTooLong) ∧
    ¬ CatalogClient.timeLimit (Sample.tooPatient.waitSecs.toNat * 1000) <
      CatalogClient.spanBound ∧
    Sample.tooRoomy.validate = .ok () ∧
    Sample.tooRoomy.assemble "10.0.0.1" {} = .error (.stream "nacos:18848" .queueTooLong) := by
  have hwait : CatalogClient.longestWait < Sample.tooPatient.waitSecs.toNat := by decide
  have hlimit : ¬ CatalogClient.timeLimit (Sample.tooPatient.waitSecs.toNat * 1000) <
      CatalogClient.spanBound := by
    rw [CatalogClient.timeLimit_lt_spanBound_iff]
    exact Nat.not_le.mpr hwait
  refine ⟨by decide +kernel, ?_, hlimit, by decide +kernel, ?_⟩
  · have haddress : ∃ base, CatalogClient.address "[::1]:8500" = .ok base := by
      have hok : (CatalogClient.address "[::1]:8500").isOk = true := by decide +kernel
      cases h : CatalogClient.address "[::1]:8500" with
      | error err =>
        rw [h] at hok
        cases hok
      | ok base => exact ⟨base, rfl⟩
    have hcreate := @CatalogClient.create_eq_limitTooLong_iff
      (Sample.tooPatient.catalogConfig { kind := .consul, endpoint := "[::1]:8500" })
    refine assemble_eq_error_iff.mpr (mapM_eq_error_iff.mpr ⟨[], _, [], rfl, by simp, ?_⟩)
    rw [watcher_eq_of_consul rfl, hcreate.mpr ⟨haddress, Nat.not_lt.mp hlimit⟩]
  · have hcreate := @DiscoveryClient.create_eq_queueTooLong_iff
      (.ofSettings "10.0.0.1" "nacos:18848" Sample.tooRoomy.discovery) {}
    refine assemble_eq_error_iff.mpr (mapM_eq_error_iff.mpr ⟨[], _, [], rfl, by simp, ?_⟩)
    have hlong := hcreate.mpr ⟨by decide +kernel, by decide⟩
    simp only [watcher]
    rw [hlong]

end ControllerConfig

end MeshRegistry
