import MeshRegistry.Mesh.Faults
import MeshRegistry.Proofs.Mesh.Writes
/-!
# Calls that fail without effect

Between a conversation and the mesh there may be something that has calls fail. A call that it has
fail is not made, so the mesh stays as it is; every other call is made and answered by the mesh.
What has happened to an object can then be read off the exchanges of the conversation, that is, off
its calls together with their answers: an object that no successful call has written is still there,
with its version.

Nothing is said about which calls fail. A plan of failures may look at all calls so far.

## Main definitions

- `MeshApi.Relays`: an API that passes calls on to a mesh, or has them fail without effect.
- `FailurePlan`, `MeshApi.withPlan`: an API in which calls fail by a plan.
- `Session.exchanges`: the calls of a conversation with their answers.

## Main results

- `MeshApi.Relays.run_preserves`: what the exchanges keep is kept by a conversation.
- `MeshApi.Relays.stored?_run`: an object that no successful call has written.
-/

namespace MeshRegistry

namespace MeshApi

variable {σ : Type}

/-! ## APIs with failures -/

/-- Each call is passed on to a mesh, or fails and has no effect, and the model of that mesh is
shown. -/
structure Relays (api : MeshApi σ) (mesh : σ → Mesh) : Prop where
  /-- A call is made, or fails without effect. -/
  perform : ∀ c s,
    (api.perform c s).1 = ((mesh s).perform c).1 ∧
        mesh (api.perform c s).2 = ((mesh s).perform c).2 ∨
      (∃ err, (api.perform c s).1 = .error err) ∧ mesh (api.perform c s).2 = mesh s
  /-- The model of the mesh is shown. -/
  ownership : ∀ s, api.ownership s = (mesh s).ownership

/-- A call behind a script is made as it would be without one, or fails and has no effect. -/
theorem perform_withFaults_cases (api : MeshApi σ) (c : Call) (s : List Fault × σ) :
    (api.withFaults.perform c s).1 = (api.perform c s.2).1 ∧
        (api.withFaults.perform c s).2.2 = (api.perform c s.2).2 ∨
      (∃ err, (api.withFaults.perform c s).1 = .error err) ∧
        (api.withFaults.perform c s).2.2 = s.2 := by
  obtain ⟨faults, inner⟩ := s
  cases faults with
  | nil => exact .inl ⟨rfl, rfl⟩
  | cons fault rest =>
    by_cases hkind : fault.call = c.kind
    · exact .inr ⟨⟨fault.kind.error c, by simp [withFaults, hkind]⟩, by simp [withFaults, hkind]⟩
    · exact .inl ⟨by simp [withFaults, hkind], by simp [withFaults, hkind]⟩

theorem Relays.withFaults {api : MeshApi σ} {mesh : σ → Mesh} (h : api.Relays mesh) :
    api.withFaults.Relays fun s => mesh s.2 where
  perform c s := by
    rcases api.perform_withFaults_cases c s with ⟨hanswer, hinner⟩ | ⟨hfails, hinner⟩
    · rw [hanswer, hinner]
      exact h.perform c s.2
    · exact .inr ⟨hfails, congrArg mesh hinner⟩
  ownership s := h.ownership s.2

end MeshApi

theorem Mesh.relays_api : Mesh.api.Relays id where
  perform _ _ := .inl ⟨rfl, rfl⟩
  ownership _ := rfl

/-- Tells of each call whether it fails, and how. It is shown all calls so far, the present one
first. -/
abbrev FailurePlan : Type := List Call → Option MeshError

/-- The calls about an object. -/
def callsAbout (key : ObjectKey) (calls : List Call) : List Call := calls.filter (·.key = key)

theorem callsAbout_append_of_ne {key : ObjectKey} {calls earlier : List Call}
    (h : ∀ c ∈ calls, c.key ≠ key) :
    callsAbout key (calls ++ earlier) = callsAbout key earlier := by
  have hnone : calls.filter (·.key = key) = [] :=
    List.filter_eq_nil_iff.mpr fun c hc => by simp [h c hc]
  rw [callsAbout, List.filter_append, hnone, List.nil_append, callsAbout]

/-- Two plans treat the calls about an object alike: whether and how such a call fails depends on
nothing but the earlier calls about that object. -/
def FailurePlan.AgreeOn (key : ObjectKey) (plan plan' : FailurePlan) : Prop :=
  ∀ c earlier earlier', c.key = key → callsAbout key earlier = callsAbout key earlier' →
    plan (c :: earlier) = plan' (c :: earlier')

/-- An API in which calls fail by a plan. The state begins with the calls so far, the latest
first. -/
def MeshApi.withPlan {σ : Type} (api : MeshApi σ) (plan : FailurePlan) :
    MeshApi (List Call × σ) where
  perform c s :=
    match plan (c :: s.1) with
    | some err => (.error err, (c :: s.1, s.2))
    | none => ((api.perform c s.2).1, (c :: s.1, (api.perform c s.2).2))
  ownership s := api.ownership s.2

namespace MeshApi

variable {σ : Type} {api : MeshApi σ} {plan : FailurePlan} {c : Call} {s : List Call × σ}
  {err : MeshError}

theorem perform_withPlan_of_some (h : plan (c :: s.1) = some err) :
    (api.withPlan plan).perform c s = (.error err, (c :: s.1, s.2)) := by
  simp [withPlan, h]

theorem perform_withPlan_of_none (h : plan (c :: s.1) = none) :
    (api.withPlan plan).perform c s =
      ((api.perform c s.2).1, (c :: s.1, (api.perform c s.2).2)) := by
  simp [withPlan, h]

/-- Every call is noted, whether it fails or not. -/
theorem perform_withPlan_calls (api : MeshApi σ) (plan : FailurePlan) (c : Call)
    (s : List Call × σ) : ((api.withPlan plan).perform c s).2.1 = c :: s.1 := by
  cases hplan : plan (c :: s.1) with
  | none => rw [perform_withPlan_of_none hplan]
  | some err => rw [perform_withPlan_of_some hplan]

theorem Relays.withPlan {mesh : σ → Mesh} (h : api.Relays mesh) (plan : FailurePlan) :
    (api.withPlan plan).Relays fun s => mesh s.2 where
  perform c s := by
    cases hplan : plan (c :: s.1) with
    | none => simpa [perform_withPlan_of_none hplan] using h.perform c s.2
    | some err =>
      rw [perform_withPlan_of_some hplan]
      exact .inr ⟨⟨err, rfl⟩, rfl⟩
  ownership s := h.ownership s.2

end MeshApi

/-! ## Exchanges -/

/-- A call and its answer. -/
structure Exchange where
  call : Call
  result : call.Result

namespace Exchange

/-- The exchange is a successful call of a kind. -/
def succeeded (kind : CallKind) (x : Exchange) : Bool := x.call.kind = kind && x.result.isOk

/-- A successful call has created, replaced or removed the object under a key. -/
def Wrote (key : ObjectKey) (x : Exchange) : Prop :=
  x.call.key = key ∧
    (x.succeeded .create = true ∨ x.succeeded .update = true ∨ x.succeeded .delete = true)

instance (key : ObjectKey) (x : Exchange) : Decidable (x.Wrote key) :=
  inferInstanceAs (Decidable (_ ∧ _))

/-- A call that the mesh accepts has been successful. -/
theorem wrote_of_writes {m : Mesh} {x : Exchange} {key : ObjectKey}
    (hresult : (m.perform x.call).1 = x.result)
    (hwrites : (MeshEvent.call x.call).Writes key m) : x.Wrote key := by
  obtain ⟨c, result⟩ := x
  -- The answer is that of the mesh, so a call that the mesh accepts has succeeded.
  have hok : m.Accepts c → result.isOk = true := by
    rintro ⟨reply, hreply⟩
    obtain rfl : .ok reply = result := hreply.symm.trans hresult
    rfl
  cases c with
  | get k => exact hwrites.elim
  | create e => exact ⟨hwrites.1, .inl (by simp [succeeded, Call.kind, hok hwrites.2])⟩
  | update e => exact ⟨hwrites.1, .inr (.inl (by simp [succeeded, Call.kind, hok hwrites.2]))⟩
  | delete k => exact ⟨hwrites.1, .inr (.inr (by simp [succeeded, Call.kind, hok hwrites.2]))⟩
  | ensureSpace space => exact hwrites.elim

end Exchange

namespace Session

variable {α β σ : Type}

/-- The calls that a conversation makes with their answers, in their order. -/
def exchanges (api : MeshApi σ) : Session α → σ → List Exchange
  | .done _, _ => []
  | .ask c next, s =>
    ⟨c, (api.perform c s).1⟩ ::
      (next (api.perform c s).1).exchanges api (api.perform c s).2
  | .look next, s => (next (api.ownership s)).exchanges api s

section Exchanges

variable (api : MeshApi σ) (s : σ)

@[simp] theorem exchanges_pure (a : α) : (pure a : Session α).exchanges api s = [] := rfl

@[simp] theorem exchanges_call (c : Call) :
    (call c).exchanges api s = [⟨c, (api.perform c s).1⟩] := rfl

@[simp] theorem exchanges_ownership : ownership.exchanges api s = [] := rfl

@[simp] theorem exchanges_bind (p : Session α) (f : α → Session β) :
    (p >>= f).exchanges api s =
      p.exchanges api s ++ (f (p.run api s).1).exchanges api (p.run api s).2 := by
  show (p.andThen f).exchanges api s = _
  induction p generalizing s with
  | done a => rfl
  | ask c next ih => exact congrArg (⟨c, (api.perform c s).1⟩ :: ·) (ih _ _)
  | look next ih => exact ih _ _

theorem map_call_exchanges (p : Session α) :
    (p.exchanges api s).map Exchange.call = p.calls api s := by
  induction p generalizing s with
  | done a => rfl
  | ask c next ih => exact congrArg (c :: ·) (ih _ _)
  | look next ih => exact ih _ _

end Exchanges

/-- All calls of a conversation are noted. -/
theorem calls_run_withPlan (api : MeshApi σ) (plan : FailurePlan) (p : Session α)
    (s : List Call × σ) :
    (p.run (api.withPlan plan) s).2.1 = (p.calls (api.withPlan plan) s).reverse ++ s.1 := by
  induction p generalizing s with
  | done a => rfl
  | ask c next ih =>
    have hnoted := api.perform_withPlan_calls plan c s
    refine (ih ((api.withPlan plan).perform c s).1 ((api.withPlan plan).perform c s).2).trans ?_
    simp [calls, hnoted]
  | look next ih => exact ih _ _

end Session

/-! ## What conversations keep -/

/-- Only one kind of call adds namespaces. -/
theorem Mesh.Effect.spaces_eq {m m' : Mesh} {c : Call} (h : m.Effect c m')
    (hkind : c.kind ≠ .ensureSpace) : m'.store.spaces = m.store.spaces := by
  cases h with
  | spaced space => exact absurd rfl hkind
  | _ => rfl

namespace MeshApi.Relays

variable {α σ : Type} {api : MeshApi σ} {mesh : σ → Mesh} {s : σ}

/-- What is kept by every call that is answered as it was in the conversation is kept by the
conversation. -/
theorem run_preserves (h : api.Relays mesh) {P : Mesh → Prop} (p : Session α)
    (hkeeps : ∀ x ∈ p.exchanges api s, ∀ m, P m → (m.perform x.call).1 = x.result →
      P (m.perform x.call).2)
    (hs : P (mesh s)) : P (mesh (p.run api s).2) := by
  induction p generalizing s with
  | done a => exact hs
  | ask c next ih =>
    obtain ⟨hfirst, hrest⟩ := List.forall_mem_cons.mp hkeeps
    refine ih _ hrest ?_
    rcases h.perform c s with ⟨hanswer, hmesh⟩ | ⟨-, hmesh⟩
    · rw [hmesh]
      exact hfirst _ hs hanswer.symm
    · -- A call that fails on its way does not reach the mesh.
      rwa [hmesh]
  | look next ih => exact ih _ hkeeps hs

/-- An object that no successful call has written stays as it is, with its version. -/
theorem stored?_run (h : api.Relays mesh) (p : Session α) {key : ObjectKey}
    (hspared : ∀ x ∈ p.exchanges api s, ¬ x.Wrote key) :
    (mesh (p.run api s).2).stored? key = (mesh s).stored? key := by
  refine h.run_preserves p (P := fun m => m.stored? key = (mesh s).stored? key) ?_ rfl
  intro x hx m hm hanswer
  have hkept : ¬ (MeshEvent.call x.call).Writes key m :=
    fun hwrites => hspared x hx (Exchange.wrote_of_writes hanswer hwrites)
  exact (Mesh.stored?_happen_of_not_writes hkept).trans hm

theorem spaces_run (h : api.Relays mesh) (p : Session α)
    (hkinds : ∀ x ∈ p.exchanges api s, x.call.kind ≠ .ensureSpace) :
    (mesh (p.run api s).2).store.spaces = (mesh s).store.spaces := by
  refine h.run_preserves p (P := fun m => m.store.spaces = (mesh s).store.spaces) ?_ rfl
  intro x hx m hm _
  exact ((Mesh.perform_effect x.call m).spaces_eq (hkinds x hx)).trans hm

end MeshApi.Relays

end MeshRegistry
