import MeshRegistry.Mesh.Apply
import MeshRegistry.Mesh.Faults
import MeshRegistry.Mesh.Reconcile
/-!
# Conversations that keep to a rule

A rule says which calls may be made, given the entries that have been fetched so far. It is kept by
a conversation if it is kept by every call, whatever the API answers: a conversation cannot tell
with whom it is held. The only thing that is relied on is that an entry fetched under a key has
that key.

A conversation is careful when every update in it carries the version of an entry that the
conversation itself has fetched before, under the same key. Nothing is said about when that was:
whether the version is still the stored one is for the store to judge.

## Main definitions

- `Session.Obeys`: every call of the conversation keeps to a rule.
- `Session.Careful`: every update goes back to a fetch.
- `Session.Spares`: no call writes the object under a key.

## Main results

- `Session.Obeys.bind`: conversations after each other.
- `obeys_applyEntry`, `obeys_removeEntry`: the calls that are made for a streamed entry.
- `Reconciler.careful_pass`: passes are careful.
-/

namespace MeshRegistry

namespace Call

/-- The entries that a result shows to the caller. -/
def learnt : (c : Call) → c.Result → List ServiceEntry
  | .get _, .ok (some read) => [read]
  | _, _ => []

/-- Fetched entries have the key under which they were fetched. -/
def Credible (c : Call) (result : c.Result) : Prop :=
  ∀ read ∈ c.learnt result, read.key = c.key

/-- An update carries the version of one of the known entries. -/
def Backed (known : List ServiceEntry) : Call → Prop
  | .update e => ∃ read ∈ known,
      read.key = e.key ∧ e.metadata.resourceVersion = read.metadata.resourceVersion
  | _ => True

/-- The call does not create, replace or remove the object under the key. -/
def Spares (key : ObjectKey) : Call → Prop
  | .create e => e.key ≠ key
  | .update e => e.key ≠ key
  | .delete k => k ≠ key
  | _ => True

theorem Backed.mono {known known' : List ServiceEntry} (h : known ⊆ known') :
    ∀ {c : Call}, c.Backed known → c.Backed known'
  | .update _, ⟨read, hread, hversion⟩ => ⟨read, h hread, hversion⟩
  | .get _, _ => trivial
  | .create _, _ => trivial
  | .delete _, _ => trivial
  | .ensureSpace _, _ => trivial

end Call

namespace Session

variable {α β : Type} {rule : List ServiceEntry → Call → Prop} {known known' : List ServiceEntry}

/-- Given the known entries, every call keeps to the rule. What a call shows is known from then
on. -/
def Obeys (rule : List ServiceEntry → Call → Prop) : List ServiceEntry → Session α → Prop
  | _, .done _ => True
  | known, .ask c next =>
    rule known c ∧
      ∀ result, c.Credible result → Obeys rule (c.learnt result ++ known) (next result)
  | known, .look next => ∀ model, Obeys rule known (next model)

/-- A rule that asks for known entries is kept when more of them are known. -/
theorem Obeys.mono {p : Session α}
    (hrule : ∀ known known' c, known ⊆ known' → rule known c → rule known' c)
    (h : p.Obeys rule known) (hknown : known ⊆ known') : p.Obeys rule known' := by
  -- Whoever knows more from the start knows more after each answer.
  induction p generalizing known known' with
  | done a => trivial
  | ask c next ih =>
    refine ⟨hrule _ _ c hknown h.1, fun result hresult => ?_⟩
    refine ih result (h.2 result hresult) fun e he => ?_
    exact List.mem_append.mpr ((List.mem_append.mp he).imp id fun he => hknown he)
  | look next ih => exact fun model => ih model (h model) hknown

/-- A conversation that starts from nothing may follow any other. -/
theorem Obeys.bind {p : Session α} {f : α → Session β}
    (hrule : ∀ known known' c, known ⊆ known' → rule known c → rule known' c)
    (hp : p.Obeys rule known) (hf : ∀ a, (f a).Obeys rule []) : (p >>= f).Obeys rule known := by
  show (p.andThen f).Obeys rule known
  induction p generalizing known with
  | done a => exact (hf a).mono hrule (List.nil_subset _)
  | ask c next ih => exact ⟨hp.1, fun result hresult => ih result (hp.2 result hresult)⟩
  | look next ih => exact fun model => ih model (hp model)

theorem obeys_call_bind {c : Call} {f : c.Result → Session β} (hcall : rule known c)
    (hnext : ∀ result, c.Credible result → (f result).Obeys rule (c.learnt result ++ known)) :
    (Session.call c >>= f).Obeys rule known :=
  ⟨hcall, hnext⟩

/-- With the known entries and those that it fetches, every update of the conversation is
backed. -/
def Careful (known : List ServiceEntry) (p : Session α) : Prop :=
  p.Obeys (fun known c => c.Backed known) known

theorem careful_bind {p : Session α} {f : α → Session β} (hp : p.Careful known)
    (hf : ∀ a, (f a).Careful []) : (p >>= f).Careful known :=
  hp.bind (fun _ _ _ hknown => Call.Backed.mono hknown) hf

/-- The conversation does not write the object under the key. -/
def Spares (key : ObjectKey) (p : Session α) : Prop := p.Obeys (fun _ c => c.Spares key) []

end Session

/-! ## Streamed entries -/

@[simp] theorem key_applied (existing entry : ServiceEntry) :
    (applied existing entry).key = existing.key := by
  unfold applied
  split <;> rfl

@[simp] theorem resourceVersion_applied (existing entry : ServiceEntry) :
    (applied existing entry).metadata.resourceVersion = existing.metadata.resourceVersion := by
  unfold applied
  split <;> rfl

section Streamed

variable {rule : List ServiceEntry → Call → Prop} (e : ServiceEntry)

/-- The calls that are made to apply an entry: it is created, or what was fetched is updated. -/
theorem obeys_applyEntry (hspace : rule [] (.ensureSpace e.space)) (hget : rule [] (.get e.key))
    (hcreate : rule [] (.create e))
    (hupdate : ∀ existing, existing.key = e.key →
      rule [existing] (.update (applied existing e))) :
    (applyEntry e).Obeys rule [] := by
  refine Session.obeys_call_bind hspace fun spaced _ => ?_
  cases spaced with
  | error err => trivial
  | ok _ =>
    refine Session.obeys_call_bind hget fun fetched hfetched => ?_
    cases fetched with
    | error err => trivial
    | ok found =>
      cases found with
      | none =>
        refine Session.obeys_call_bind hcreate fun result _ => ?_
        cases result <;> trivial
      | some existing =>
        have hkey : existing.key = e.key := hfetched existing (List.mem_singleton_self _)
        dsimp only
        split
        · trivial
        · refine Session.obeys_call_bind (hupdate existing hkey) fun result _ => ?_
          cases result <;> trivial

theorem obeys_removeEntry (hget : rule [] (.get e.key))
    (hdelete : ∀ existing, rule [existing] (.delete e.key)) :
    (removeEntry e).Obeys rule [] := by
  refine Session.obeys_call_bind hget fun fetched _ => ?_
  cases fetched with
  | error err => trivial
  | ok found =>
    cases found with
    | none => trivial
    | some existing =>
      refine Session.obeys_call_bind (hdelete existing) fun result _ => ?_
      cases result <;> trivial

/-- Applying an entry changes what was fetched, and keeps its key and its version. -/
theorem careful_applyEntry : (applyEntry e).Careful [] := by
  refine obeys_applyEntry e trivial trivial trivial fun existing _ => ?_
  exact ⟨existing, List.mem_singleton_self _, (key_applied existing e).symm,
    resourceVersion_applied existing e⟩

theorem careful_removeEntry : (removeEntry e).Careful [] :=
  obeys_removeEntry e trivial fun _ => trivial

/-- An operation writes only the object that its entry names. -/
theorem spares_apply {op : EntryOp} {key : ObjectKey} (h : op.entry.key ≠ key) :
    op.apply.Spares key := by
  cases op with
  | upsert e =>
    refine obeys_applyEntry e trivial trivial h fun existing hkey => ?_
    show (applied existing e).key ≠ key
    rwa [key_applied, hkey]
  | delete e => exact obeys_removeEntry e trivial fun _ => h

end Streamed

/-! ## Passes -/

namespace Reconciler

variable (r : Reconciler)

/-- The entry of a host is written with the version of the object that has its name. -/
theorem careful_writeHost (host : String) (endpoints : List Endpoint) :
    (r.writeHost host endpoints).Careful [] := by
  refine Session.obeys_call_bind trivial fun fetched hfetched => ?_
  cases fetched with
  | error err => trivial
  | ok found =>
    cases found with
    | none =>
      refine Session.obeys_call_bind trivial fun result _ => ?_
      cases result <;> trivial
    | some current =>
      -- The update is backed by what has just been fetched.
      have hmem : current ∈ (Call.get (r.keyOf host)).learnt (.ok (some current)) :=
        List.mem_singleton_self _
      refine Session.obeys_call_bind ⟨current, ?_, ?_, rfl⟩ fun result _ => ?_
      · exact List.mem_append_left _ hmem
      · exact hfetched current hmem
      · cases result <;> trivial

theorem careful_reconcileHost (host : String) (endpoints : List Endpoint)
    (owned : Option ServiceEntry) : (r.reconcileHost host endpoints owned).Careful [] := by
  cases owned with
  | some entry =>
    unfold reconcileHost
    dsimp only
    split
    · trivial
    · exact r.careful_writeHost host endpoints
  | none =>
    refine Session.careful_bind (fun _ => trivial) fun model => ?_
    split
    · trivial
    · exact r.careful_writeHost host endpoints

theorem careful_reconcileHosts (snapshot : Snapshot) (ours : SortedMap String ServiceEntry)
    (report : PassReport) (hosts : List String) :
    (r.reconcileHosts snapshot ours report hosts).Careful [] := by
  induction hosts generalizing report with
  | nil => trivial
  | cons host rest ih =>
    unfold reconcileHosts
    split
    · exact ih report
    · exact Session.careful_bind (r.careful_reconcileHost host _ _) fun result => ih _

theorem careful_collectEntry (e : ServiceEntry) : (r.collectEntry e).Careful [] := by
  refine Session.obeys_call_bind trivial fun fetched _ => ?_
  cases fetched with
  | error err => trivial
  | ok found =>
    cases found with
    | none => trivial
    | some current =>
      dsimp only
      split
      · trivial
      · refine Session.obeys_call_bind trivial fun result _ => ?_
        cases result <;> trivial

theorem careful_collectHosts (snapshot : Snapshot) (ours : SortedMap String ServiceEntry)
    (deleted : Nat) (hosts : List String) :
    (r.collectHosts snapshot ours deleted hosts).Careful [] := by
  induction hosts generalizing deleted with
  | nil => trivial
  | cons host rest ih =>
    unfold collectHosts
    split
    · exact ih deleted
    · split
      · exact Session.careful_bind (r.careful_collectEntry _) fun removed => ih _
      · exact ih deleted

/-- A pass updates nothing that it has not fetched. -/
theorem careful_pass (visit collect : Arrangement) (snapshot : Snapshot) :
    (r.pass visit collect snapshot).Careful [] := by
  refine Session.careful_bind (fun _ => trivial) fun before => ?_
  refine Session.careful_bind (r.careful_reconcileHosts snapshot _ _ _) fun report => ?_
  refine Session.careful_bind (fun _ => trivial) fun after => ?_
  exact Session.careful_bind (r.careful_collectHosts snapshot _ _ _) fun deleted => trivial

end Reconciler

end MeshRegistry
