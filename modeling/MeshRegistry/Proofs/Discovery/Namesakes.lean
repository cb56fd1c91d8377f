import MeshRegistry.Proofs.Discovery.Accounting
import MeshRegistry.Proofs.Discovery.Resend
import Mathlib.Data.List.Induction
/-!
# Names of resources and names of objects

Versions are noted under the names of resources as they are given, while the objects of the mesh
have the names in lower case. So several names may stand for one object, and each of them has a
note of its own that knows nothing of the others.

Of a resource that is passed over it is therefore certain that its name has asked for the version
last, and has been given what it asked for. Whether this is also the last thing that was done to
the object depends on whether another name has given rise to an operation on it since.

## Main definitions

- `Offer.lastAbout?`: the last operation on an object.
- `Pipeline.offered`, `Pipeline.entered`: the offers that are taken up along some steps, and the
  operations that are put into the queue.
- `Pipeline.PassesOver`: a resource that can be used gives rise to nothing.

## Main results

- `Pipeline.entered_append_held`: operations enter the queue as the offers tell, and none is lost.
- `Offer.exists_lastAbout?`: the last operation on the object of a noted name.
- `Pipeline.passed_over_written_iff`: when it is the one that the noted version stands for.
-/

namespace MeshRegistry

namespace Offer

/-! ## From names to objects -/

section Keys

variable {a a' : Any} {o o' : Offer}

/-- The object of an offer has the namespace in the name of the offer, and the name in lower
case. -/
theorem exists_key (h : of? a = some o) :
    ∃ key, resourceKey o.name = .ok key ∧
      o.entry.key = ⟨key.space, Text.lowercase key.name⟩ := by
  simp only [of?, Option.bind_eq_some_iff] at h
  obtain ⟨resource, -, m, hmetadata, hoffer⟩ := h
  cases htranslate : translate resource with
  | error e => simp [htranslate] at hoffer
  | ok entry =>
    obtain rfl : (⟨m.name, m.version, entry⟩ : Offer) = o := by simpa [htranslate] using hoffer
    obtain ⟨m', received, hmetadata', hname, rfl⟩ := exists_received_of_translate htranslate
    obtain rfl := Option.some.inj (hmetadata.symm.trans hmetadata')
    exact ⟨received.key, hname, rfl⟩

/-- Offers of the same name are about the same object. -/
theorem key_eq_of_name (h : of? a = some o) (h' : of? a' = some o') (hname : o.name = o'.name) :
    o.entry.key = o'.entry.key := by
  obtain ⟨key, hkey, hentry⟩ := exists_key h
  obtain ⟨key', hkey', hentry'⟩ := exists_key h'
  rw [hname] at hkey
  obtain rfl := Except.ok.inj (hkey.symm.trans hkey')
  rw [hentry, hentry']

end Keys

/-! ## The last operation on an object -/

theorem stemsAfter_concat (seen offers : List Offer) (o : Offer) :
    stemsAfter seen (offers ++ [o]) =
      stemsAfter seen offers ++
        (o.note (lastVersion o.name (seen ++ offers))).2.toList.map (o, ·) := by
  induction offers generalizing seen with
  | nil => simp [stemsAfter]
  | cons first offers ih => simp [stemsAfter, ih]

/-- The last operation on an object, with the offer that it stems from. -/
def lastAbout? (key : ObjectKey) (stems : List (Offer × EntryOp)) : Option (Offer × EntryOp) :=
  (stems.filter fun stem => stem.2.entry.key = key).getLast?

section LastAbout

variable {key : ObjectKey} {stems : List (Offer × EntryOp)} {stem : Offer × EntryOp}

theorem lastAbout?_concat (h : stem.2.entry.key = key) :
    lastAbout? key (stems ++ [stem]) = some stem := by
  simp [lastAbout?, h]

theorem lastAbout?_concat_of_ne (h : stem.2.entry.key ≠ key) :
    lastAbout? key (stems ++ [stem]) = lastAbout? key stems := by
  simp [lastAbout?, h]

/-- The offer of a last operation is one of those that have been made. -/
theorem mem_of_lastAbout? {seen offers : List Offer}
    (h : lastAbout? key (stemsAfter seen offers) = some stem) : stem.1 ∈ offers := by
  have hstem : stem ∈ stemsAfter seen offers :=
    (List.mem_filter.mp (List.mem_of_getLast? h)).1
  exact (stemsAfter_sublist seen offers).subset (List.mem_map_of_mem hstem)

end LastAbout

/-- Of a name with a noted version, the object has been written. If the last operation on the
object is due to an offer of this name, then it is the upsert that the note was made for. -/
theorem exists_lastAbout? {name version : String} {key : ObjectKey} (seen : List Offer)
    (hkey : ∀ o ∈ seen, o.name = name → o.entry.key = key)
    (h : lastVersion name seen = some version) :
    ∃ source op, lastAbout? key (stemsAfter [] seen) = some (source, op) ∧
      (source.name = name → source.version = version ∧ op = .upsert source.entry) := by
  -- The last offer overtakes what was last before it, or leaves it so.
  induction seen using List.reverseRecOn with
  | nil => cases h
  | append_singleton seen o ih =>
    have hseen : ∀ o ∈ seen, o.name = name → o.entry.key = key :=
      fun o ho => hkey o (List.mem_append_left _ ho)
    rw [stemsAfter_concat, List.nil_append]
    by_cases hname : o.name = name
    · have hown := hkey o (by simp) hname
      rw [lastVersion_of_name seen hname] at h
      rw [hname]
      unfold note at h ⊢
      split
      next hsame =>
        rw [if_pos hsame] at h
        simpa using ih hseen h
      next hnew =>
        rw [if_neg hnew] at h
        split
        next hempty =>
          rw [if_pos hempty] at h
          cases h
        next hendpoints =>
          rw [if_neg hendpoints] at h
          exact ⟨o, .upsert o.entry, lastAbout?_concat hown, fun _ => ⟨Option.some.inj h, rfl⟩⟩
    · rw [lastVersion_of_ne seen hname] at h
      obtain ⟨source, op, hlast, hsource⟩ := ih hseen h
      cases hop : (o.note (lastVersion o.name seen)).2 with
      | none => exact ⟨source, op, by simpa using hlast, hsource⟩
      | some last =>
        -- An offer of another name may be about the same object.
        by_cases habout : last.entry.key = key
        · exact ⟨o, last, lastAbout?_concat habout, fun hsame => absurd hsame hname⟩
        · exact ⟨source, op, (lastAbout?_concat_of_ne habout).trans hlast, hsource⟩

end Offer

namespace Pipeline

/-! ## What is taken up and what enters the queue -/

/-- The offer that a step takes up, if any. -/
def offer (s : Pipeline) : Step → List Offer
  | .answer _ => []
  | .receive =>
    match s.receiving with
    | .idle => []
    | .working _ [] => []
    | .working _ (a :: _) => (Offer.of? a).toList
    | .sending _ _ _ => []
  | .apply _ => []
  | .outage _ => []

/-- The offers that are taken up along some steps. -/
def offered (s : Pipeline) : List Step → List Offer
  | [] => []
  | first :: rest => s.offer first ++ (s.step first).offered rest

/-- The operation that a step puts into the queue, if any. -/
def enters (s : Pipeline) : Step → List EntryOp
  | .answer _ => []
  | .receive =>
    match s.receiving with
    | .idle => []
    | .working _ _ => []
    | .sending _ op _ =>
      match s.client.operations.room with
      | .free => [op]
      | .full => []
      | .gone => []
  | .apply _ => []
  | .outage _ => []

/-- The operations that are put into the queue along some steps, in their order. -/
def entered (s : Pipeline) : List Step → List EntryOp
  | [] => []
  | first :: rest => s.enters first ++ (s.step first).entered rest

section Steps

variable {s : Pipeline} {seen : List Offer}

theorem of?_of_mem_offer {step : Step} {o : Offer} (h : o ∈ s.offer step) :
    ∃ a, Offer.of? a = some o := by
  unfold offer at h
  split at h
  · cases h
  · split at h
    · cases h
    · cases h
    next a _ _ => exact ⟨a, Option.mem_toList.mp h⟩
    · cases h
  · cases h
  · cases h

theorem of?_of_mem_offered {steps : List Step} {o : Offer} (h : o ∈ s.offered steps) :
    ∃ a, Offer.of? a = some o := by
  induction steps generalizing s with
  | nil => cases h
  | cons first rest ih =>
    rcases List.mem_append.mp h with hfirst | hrest
    · exact of?_of_mem_offer hfirst
    · exact ih hrest

/-- A step notes what the offer that it takes up leaves, and an operation that the offer gives rise
to is held until it enters the queue. -/
theorem remembers_step (hopen : s.Open) (h : Remembers s.client seen) (step : Step) :
    Remembers (s.step step).client (seen ++ s.offer step) ∧
      s.receiving.held ++ Offer.opsAfter seen (s.offer step) =
        s.enters step ++ (s.step step).receiving.held := by
  -- Away from resources nothing is noted, and what is held stays held.
  have hquiet : ∀ next : Pipeline, next.client.resourceVersions = s.client.resourceVersions →
      next.receiving.held = s.receiving.held →
      Remembers next.client (seen ++ []) ∧
        s.receiving.held ++ Offer.opsAfter seen [] = [] ++ next.receiving.held := by
    intro next hversions hheld
    rw [List.append_nil, hheld]
    refine ⟨fun name => ?_, List.append_nil _⟩
    rw [hversions]
    exact h name
  cases step with
  | answer r => exact hquiet _ (sameEntries_takeIn s r).resourceVersions (held_takeIn s r)
  | receive =>
    show Remembers s.goOn.client (seen ++ s.offer .receive) ∧ _ = _ ++ s.goOn.receiving.held
    cases hreceiving : s.receiving with
    | idle => simpa [goOn, offer, enters, hreceiving, Offer.opsAfter, Offer.stemsAfter] using h
    | working r rest =>
      cases rest with
      | nil =>
        have hfinished := h.same (sameEntries_finish s.client r)
        simpa [goOn, offer, enters, hreceiving, Receiving.held, Offer.opsAfter,
          Offer.stemsAfter] using hfinished
      | cons a rest =>
        obtain ⟨hremembers, hop⟩ := h.consider a
        cases hconsider : s.client.consider a with
        | mk client op =>
          rw [hconsider] at hremembers hop
          cases op <;>
            simpa [goOn, offer, enters, hreceiving, hconsider, Receiving.held, ← hop]
              using hremembers
    | sending r op rest =>
      cases hroom : s.client.operations.room with
      | free =>
        have hpushed : Remembers { s.client with operations := s.client.operations.push op } seen :=
          h
        simpa [goOn, offer, enters, hreceiving, hroom, Receiving.held, Offer.opsAfter,
          Offer.stemsAfter] using hpushed
      | full =>
        simpa [goOn, offer, enters, hreceiving, hroom, Receiving.held, Offer.opsAfter,
          Offer.stemsAfter] using h
      | gone => exact absurd hroom hopen.room_ne_gone
  | apply faults =>
    have hversions : (s.applyOldest faults).client.resourceVersions = s.client.resourceVersions := by
      unfold applyOldest
      split <;> rfl
    have hreceiving : (s.applyOldest faults).receiving = s.receiving := by
      unfold applyOldest
      split <;> rfl
    exact hquiet _ hversions (congrArg Receiving.held hreceiving)
  | outage down => exact hquiet _ rfl rfl

/-- Operations enter the queue as the offers tell, and the last one may still be held. -/
theorem entered_append_held (hopen : s.Open) (h : Remembers s.client seen) (steps : List Step) :
    Remembers (s.run steps).client (seen ++ s.offered steps) ∧
      s.receiving.held ++ Offer.opsAfter seen (s.offered steps) =
        s.entered steps ++ (s.run steps).receiving.held := by
  induction steps generalizing s seen with
  | nil => simpa [offered, entered, Offer.opsAfter, Offer.stemsAfter] using h
  | cons first rest ih =>
    obtain ⟨hremembers, hfirst⟩ := remembers_step hopen h first
    obtain ⟨hrun, hrest⟩ := ih (hopen.step first) hremembers
    rw [offered, entered, run_cons, ← List.append_assoc, Offer.opsAfter_append]
    refine ⟨hrun, ?_⟩
    calc s.receiving.held ++ (Offer.opsAfter seen (s.offer first) ++
          Offer.opsAfter (seen ++ s.offer first) ((s.step first).offered rest))
        = s.enters first ++ ((s.step first).receiving.held ++
            Offer.opsAfter (seen ++ s.offer first) ((s.step first).offered rest)) := by
          rw [← List.append_assoc, hfirst, List.append_assoc]
      _ = s.enters first ++ (s.step first).entered rest ++
            ((s.step first).run rest).receiving.held := by
          rw [hrest, List.append_assoc]

end Steps

/-! ## Resources that are passed over -/

/-- The next resource to be taken up can be used, and gives rise to nothing. -/
def PassesOver (s : Pipeline) (o : Offer) : Prop :=
  ∃ r a rest, s.receiving = .working r (a :: rest) ∧ Offer.of? a = some o ∧
    (s.client.consider a).2 = none

/-- The only reason to pass over a resource that can be used is that its version is noted. -/
theorem PassesOver.noted {s : Pipeline} {o : Offer} (h : s.PassesOver o) :
    s.client.resourceVersions.get? o.name = some o.version := by
  obtain ⟨r, a, rest, -, hoffer, hnothing⟩ := h
  rw [(consider_of_offer s.client hoffer).1] at hnothing
  unfold Offer.note at hnothing
  split at hnothing
  next hnoted => exact hnoted
  · split at hnothing <;> cases hnothing

/-- When a resource that can be used is passed over, there is a last operation on its object among
those that have been put into the queue so far. It is the upsert of an earlier resource with the
same name and version exactly when it stems from a resource with this name at all, and not from one
with another name for the same object. -/
theorem passed_over_written_iff {config : ClientConfig} {files : Files} {client : DiscoveryClient}
    (hcreate : DiscoveryClient.create config files = .ok client) (mesh : Mesh)
    (steps : List Step) {o : Offer}
    (hover : ((Pipeline.mk client mesh .idle).run steps).PassesOver o) :
    let start := Pipeline.mk client mesh .idle
    let stems := Offer.stemsAfter [] (start.offered steps)
    start.entered steps = stems.map (·.2) ∧
      ∃ source ∈ start.offered steps, ∃ op,
        Offer.lastAbout? o.entry.key stems = some (source, op) ∧
          ((∃ earlier ∈ start.offered steps, earlier.name = o.name ∧ earlier.version = o.version ∧
              Offer.lastAbout? o.entry.key stems = some (earlier, .upsert earlier.entry)) ↔
            source.name = o.name) := by
  intro start stems
  obtain ⟨hremembers, hentered⟩ :=
    entered_append_held (open_of_create hcreate mesh) (Handover.remembers_of_create hcreate) steps
  have hnoted : Offer.lastVersion o.name (start.offered steps) = some o.version := by
    rw [← hover.noted]
    exact (hremembers o.name).symm
  obtain ⟨r, a, rest, hworking, hoffer, -⟩ := hover
  -- Between two resources nothing is held, so all operations so far are in the queue.
  have hqueued : start.entered steps = stems.map (·.2) := by
    have hheld : start.receiving.held = [] := rfl
    rw [hworking, hheld, Receiving.held, List.nil_append, List.append_nil] at hentered
    exact hentered.symm
  have hkey : ∀ other ∈ start.offered steps, other.name = o.name →
      other.entry.key = o.entry.key := by
    intro other hother hname
    obtain ⟨b, hb⟩ := of?_of_mem_offered hother
    exact Offer.key_eq_of_name hb hoffer hname
  obtain ⟨source, op, hlast, hsource⟩ := Offer.exists_lastAbout? (start.offered steps) hkey hnoted
  have hmem : source ∈ start.offered steps := Offer.mem_of_lastAbout? hlast
  refine ⟨hqueued, source, hmem, op, hlast, ?_, ?_⟩
  · rintro ⟨earlier, -, hname, -, hearlier⟩
    obtain ⟨rfl, rfl⟩ := Prod.mk.inj (Option.some.inj (hlast.symm.trans hearlier))
    exact hname
  · intro hname
    obtain ⟨hversion, rfl⟩ := hsource hname
    exact ⟨source, hmem, hname, hversion, hlast⟩

/-- A service that is sent twice is passed over the second time, and its upsert is the last
operation on its object. -/
theorem repeated_service_written :
    let steps := Sample.pushed ++ [.answer (Sample.answer "default/orders" ["10.0.0.1"])]
    let o : Offer := ⟨"default/orders", "1", Sample.entry⟩
    (Sample.start.run steps).PassesOver o ∧
      Sample.start.entered steps = [.upsert Sample.entry] ∧
      Offer.lastAbout? Sample.entry.key (Offer.stemsAfter [] (Sample.start.offered steps)) =
        some (o, .upsert Sample.entry) := by
  intro steps o
  have hover : (Sample.start.run steps).PassesOver o :=
    ⟨Sample.answer "default/orders" ["10.0.0.1"],
      { value := (Sample.resource "default/orders" ["10.0.0.1"]).encode }, [],
      by decide +kernel, by decide +kernel, by decide +kernel⟩
  -- There has been one offer only, so the last operation stems from it.
  have hoffered : ∀ other ∈ Sample.start.offered steps, other = o := by decide +kernel
  obtain ⟨-, source, hsource, op, -, hwritten⟩ :=
    passed_over_written_iff Sample.create_client _ steps hover
  obtain rfl := hoffered source hsource
  obtain ⟨earlier, hearlier, -, -, hlast⟩ := hwritten.mpr rfl
  obtain rfl := hoffered earlier hearlier
  exact ⟨hover, by decide +kernel, hlast⟩

/-- A name in capital letters takes the object away, and the version noted under the name in small
letters stays: the service is passed over, and the last operation on its object is a deletion. -/
theorem renamed_service_not_written :
    let steps := Sample.pushed ++
      [.answer (Sample.answer "default/Orders" []), .receive, .receive, .receive,
        .answer (Sample.answer "default/orders" ["10.0.0.1"])]
    let gone : ServiceEntry := { Sample.entry with spec := { hosts := ["orders"] } }
    (Sample.start.run steps).PassesOver ⟨"default/orders", "1", Sample.entry⟩ ∧
      Sample.start.entered steps = [.upsert Sample.entry, .delete gone] ∧
      gone.key = Sample.entry.key := by
  intro steps gone
  refine ⟨?_, by decide +kernel, by decide⟩
  exact ⟨Sample.answer "default/orders" ["10.0.0.1"],
    { value := (Sample.resource "default/orders" ["10.0.0.1"]).encode }, [],
    by decide +kernel, by decide +kernel, by decide +kernel⟩

end Pipeline

end MeshRegistry
