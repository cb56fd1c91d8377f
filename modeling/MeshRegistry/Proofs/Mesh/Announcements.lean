import MeshRegistry.Proofs.Mesh.Relist
/-!
# What an informer announces

An observer that hears only the changes that an informer announces can follow every object: the
changes of one key come in rounds, each of which begins with an appearance, goes on with
replacements and ends when the object goes. A round is running exactly while the informer has an
entry under the key. This takes one thing for granted: a deletion is reported of objects that the
informer knows. Listings, complete or broken off, need nothing.

## Main definitions

- `Change.IsRound`, `Change.IsBegun`, `Change.InRounds`: the changes of one object.
- `Informer.KnowsDeleted`: deletions are reported of known objects.
- `Informer.changesOf`: the announced changes of the object under a key.

## Main results

- `Informer.inRounds_handleAll`: what is announced of one object.
- `Informer.update_mem_handle_iff`: when a replacement is announced, and with which old entry.
- `Informer.get?_handle_of_shown`, `Informer.get?_handle_delete`: what is known after one event.
- `WatchedModel.known?_relisted`: what is known after a complete listing.
- `Informer.follows_watch`: all of this, for every row of events.
-/

namespace MeshRegistry

/-! ## Rounds -/

namespace Change

/-- The entry that has appeared, is the new one, or has gone. -/
def entry : Change → ServiceEntry
  | .add e => e
  | .update _ new => new
  | .delete e => e

/-- An entry has been replaced. -/
def isUpdate : Change → Bool
  | .update _ _ => true
  | _ => false

/-- An object appears and is replaced any number of times. -/
def IsBegun (changes : List Change) : Prop :=
  ∃ first updates, changes = .add first :: updates ∧ ∀ c ∈ updates, c.isUpdate = true

/-- An object appears, is replaced any number of times, and goes. -/
def IsRound (changes : List Change) : Prop :=
  ∃ begun last, changes = begun ++ [.delete last] ∧ IsBegun begun

/-- Complete rounds, and after them the beginning of another one if the object is there. -/
def InRounds (present : Bool) (changes : List Change) : Prop :=
  ∃ (rounds : List (List Change)) (current : List Change), changes = rounds.flatten ++ current ∧
    (∀ round ∈ rounds, IsRound round) ∧ if present then IsBegun current else current = []

section Rounds

variable {changes : List Change} {e old new : ServiceEntry}

theorem InRounds.nil : InRounds false [] := ⟨[], [], rfl, by simp, rfl⟩

theorem InRounds.add (h : InRounds false changes) (e : ServiceEntry) :
    InRounds true (changes ++ [.add e]) := by
  obtain ⟨rounds, current, rfl, hrounds, hcurrent⟩ := h
  obtain rfl : current = [] := hcurrent
  exact ⟨rounds, [.add e], by simp, hrounds, e, [], rfl, by simp⟩

theorem InRounds.update (h : InRounds true changes) (old new : ServiceEntry) :
    InRounds true (changes ++ [.update old new]) := by
  obtain ⟨rounds, current, rfl, hrounds, first, updates, rfl, hupdates⟩ := h
  refine ⟨rounds, .add first :: (updates ++ [.update old new]), by simp, hrounds,
    first, _, rfl, ?_⟩
  intro c hc
  rcases List.mem_append.mp hc with hc | hc
  · exact hupdates c hc
  · rw [List.mem_singleton.mp hc]
    rfl

theorem InRounds.delete (h : InRounds true changes) (e : ServiceEntry) :
    InRounds false (changes ++ [.delete e]) := by
  obtain ⟨rounds, current, rfl, hrounds, hbegun⟩ := h
  refine ⟨rounds ++ [current ++ [.delete e]], [], by simp, ?_, rfl⟩
  intro round hround
  rcases List.mem_append.mp hround with hround | hround
  · exact hrounds round hround
  · rw [List.mem_singleton.mp hround]
    exact ⟨current, e, rfl, hbegun⟩

end Rounds

end Change

/-- The entry that an event shows. -/
def WatchEvent.shown? : WatchEvent → Option ServiceEntry
  | .initApply e => some e
  | .apply e => some e
  | _ => none

namespace Informer

/-- The object is known if the event reports its deletion. -/
def KnowsDeletedOf (i : Informer) : WatchEvent → Prop
  | .delete e => i.store.contains (storeKey e) = true
  | _ => True

instance (i : Informer) (event : WatchEvent) : Decidable (i.KnowsDeletedOf event) :=
  match event with
  | .delete e => inferInstanceAs (Decidable (i.store.contains (storeKey e) = true))
  | .init | .initApply _ | .initDone | .apply _ => inferInstanceAs (Decidable True)

/-- Every deletion is reported of an object that is known when its turn comes. -/
def KnowsDeleted (i : Informer) : List WatchEvent → Prop
  | [] => True
  | event :: rest => i.KnowsDeletedOf event ∧ (i.handle event).1.KnowsDeleted rest

instance decidableKnowsDeleted (i : Informer) :
    (events : List WatchEvent) → Decidable (i.KnowsDeleted events)
  | [] => inferInstanceAs (Decidable True)
  | event :: rest =>
    have := decidableKnowsDeleted (i.handle event).1 rest
    inferInstanceAs (Decidable (_ ∧ _))

/-- The changes of the object under a key. -/
def changesOf (key : String) (changes : List Change) : List Change :=
  changes.filter fun c => storeKey c.entry == key

/-- Entries are known under their keys. -/
def Keyed (i : Informer) : Prop := ∀ key e, i.store.get? key = some e → storeKey e = key

section Handle

variable {i : Informer} {key : String} {e old new : ServiceEntry} {changes : List Change}

/-! ## One event -/

@[simp] theorem changesOf_nil : changesOf key [] = [] := rfl

@[simp] theorem changesOf_append (first second : List Change) :
    changesOf key (first ++ second) = changesOf key first ++ changesOf key second :=
  List.filter_append ..

theorem changesOf_singleton (c : Change) :
    changesOf key [c] = if storeKey c.entry = key then [c] else [] := by
  by_cases h : storeKey c.entry = key <;> simp [changesOf, h]

theorem contains_insert (key' : String) :
    (i.store.insert key' e).contains key = if key = key' then true else i.store.contains key := by
  by_cases h : key = key' <;> simp [SortedMap.contains, h]

theorem Keyed.handle (h : i.Keyed) (event : WatchEvent) : (i.handle event).1.Keyed := by
  have hinsert : ∀ e key other, (i.store.insert (storeKey e) e).get? key = some other →
      storeKey other = key := by
    intro e key other hother
    rw [SortedMap.get?_insert] at hother
    split at hother
    next hkey =>
      obtain rfl := Option.some.inj hother
      exact hkey.symm
    next => exact h key other hother
  intro key other hother
  cases event with
  | init => exact h key other hother
  | initApply e => exact hinsert e key other hother
  | apply e => exact hinsert e key other hother
  | initDone =>
    simp only [Informer.handle, SortedMap.get?_filter] at hother
    exact h key other (Option.filter_eq_some_iff.mp hother).1
  | delete e =>
    simp only [Informer.handle, SortedMap.get?_erase] at hother
    split at hother
    · cases hother
    · exact h key other hother

/-- Taking in an entry tells of its own object only. -/
theorem inRounds_applyEntry (h : Change.InRounds (i.store.contains key) changes)
    (e : ServiceEntry) :
    Change.InRounds ((i.applyEntry e).1.store.contains key)
      (changes ++ changesOf key (i.applyEntry e).2) := by
  have hstore : (i.applyEntry e).1.store.contains key =
      if key = storeKey e then true else i.store.contains key := contains_insert (storeKey e)
  rw [hstore]
  by_cases hkey : key = storeKey e
  · subst hkey
    rw [if_pos rfl]
    unfold applyEntry
    cases hold : i.store.get? (storeKey e) with
    | none =>
      have hcontains : i.store.contains (storeKey e) = false := by
        simp [SortedMap.contains, hold]
      rw [hcontains] at h
      simpa [changesOf_singleton, Change.entry] using h.add e
    | some old =>
      have hcontains : i.store.contains (storeKey e) = true := by
        simp [SortedMap.contains, hold]
      rw [hcontains] at h
      dsimp only
      split
      · simpa [changesOf_singleton, Change.entry] using h.update old e
      · simpa using h
  · rw [if_neg hkey]
    have hnone : changesOf key (i.applyEntry e).2 = [] := by
      unfold applyEntry
      cases i.store.get? (storeKey e) with
      | none => simp [changesOf_singleton, Change.entry, Ne.symm hkey]
      | some old =>
        dsimp only
        split
        · simp [changesOf_singleton, Change.entry, Ne.symm hkey]
        · rfl
    rw [hnone, List.append_nil]
    exact h

/-- An entry of a map is the only one with its key. -/
theorem filter_entries_eq {α : Type} (s : SortedMap String α) (key : String) :
    s.entries.filter (fun p => p.1 == key) = ((s.get? key).map fun v => (key, v)).toList := by
  have hentries : ∀ l : List (String × α), l.Pairwise (fun a b => compare a.1 b.1 = .lt) →
      l.filter (fun p => p.1 == key) =
        ((SortedMap.find? key l).map fun v => (key, v)).toList := by
    intro l hascending
    induction l with
    | nil => rfl
    | cons first rest ih =>
      obtain ⟨hfirst, hrest⟩ := List.pairwise_cons.mp hascending
      by_cases hkey : first.1 = key
      · subst hkey
        -- Later keys are larger.
        have hlater : rest.filter (fun p => p.1 == first.1) = [] := by
          refine List.filter_eq_nil_iff.mpr fun p hp heq => ?_
          have hlt := hfirst p hp
          rw [eq_of_beq heq] at hlt
          simp at hlt
        simp [SortedMap.find?, hlater]
      · have hne : compare key first.1 ≠ .eq := fun heq =>
          hkey (Std.LawfulEqCmp.eq_of_compare heq).symm
        simp [SortedMap.find?, hkey, hne, ih hrest]
  exact hentries s.entries s.ascending

/-- Of the entries that go, one at most has the key. -/
theorem Keyed.changesOf_delete (h : i.Keyed) (gone : String → ServiceEntry → Bool) :
    changesOf key ((i.store.filter gone).values.map .delete) =
      ((i.store.filter gone).get? key).toList.map .delete := by
  have hkeys : (i.store.filter gone).entries.filter (fun p => storeKey p.2 == key) =
      (i.store.filter gone).entries.filter (fun p => p.1 == key) := by
    refine List.filter_congr fun p hp => ?_
    have hp' : (p.1, p.2) ∈ i.store.entries := (List.mem_filter.mp hp).1
    rw [h p.1 p.2 (SortedMap.get?_eq_some_iff.mpr hp')]
  have hchanges : changesOf key ((i.store.filter gone).values.map .delete) =
      ((i.store.filter gone).entries.filter (fun p => storeKey p.2 == key)).map
        fun p => .delete p.2 := by
    simp [changesOf, SortedMap.values, List.filter_map, Function.comp_def, Change.entry]
  rw [hchanges, hkeys, filter_entries_eq]
  cases (i.store.filter gone).get? key <;> rfl

/-- What an event has the informer announce of one object continues its rounds. -/
theorem inRounds_handle (hkeyed : i.Keyed)
    (h : Change.InRounds (i.store.contains key) changes) (event : WatchEvent)
    (hknown : i.KnowsDeletedOf event) :
    Change.InRounds ((i.handle event).1.store.contains key)
      (changes ++ changesOf key (i.handle event).2) := by
  cases event with
  | init => simpa [Informer.handle] using h
  | initApply e =>
    exact inRounds_applyEntry (i := { i with listed := i.listed.map (storeKey e :: ·) }) h e
  | apply e => exact inRounds_applyEntry h e
  | delete e =>
    by_cases hkey : key = storeKey e
    · subst hkey
      have hcontains : i.store.contains (storeKey e) = true := hknown
      rw [hcontains] at h
      simpa [Informer.handle, SortedMap.contains, changesOf_singleton, Change.entry]
        using h.delete e
    · have hkept : (i.handle (.delete e)).1.store.contains key = i.store.contains key := by
        simp [Informer.handle, SortedMap.contains, hkey]
      rw [hkept]
      simpa [Informer.handle, changesOf_singleton, Change.entry, Ne.symm hkey] using h
  | initDone =>
    simp only [Informer.handle]
    rw [hkeyed.changesOf_delete]
    -- The known entry goes unless the listing has shown its key.
    simp only [SortedMap.contains, SortedMap.get?_filter] at h ⊢
    cases hold : i.store.get? key with
    | none => simpa [hold] using h
    | some old =>
      rw [hold] at h
      cases hlisted : i.wasListed key with
      | true => simpa [hlisted, Option.filter] using h
      | false => simpa [hlisted, Option.filter] using h.delete old

/-! ## Rows of events -/

theorem handleAll_append (i : Informer) (before after : List WatchEvent) :
    i.handleAll (before ++ after) =
      (((i.handleAll before).1.handleAll after).1,
        (i.handleAll before).2 ++ ((i.handleAll before).1.handleAll after).2) := by
  induction before generalizing i with
  | nil => rfl
  | cons event rest ih => simp [handleAll, ih]

theorem knowsDeleted_append {before later : List WatchEvent} :
    i.KnowsDeleted (before ++ later) ↔
      i.KnowsDeleted before ∧ (i.handleAll before).1.KnowsDeleted later := by
  induction before generalizing i with
  | nil => simp [KnowsDeleted, handleAll]
  | cons event rest ih => simp [KnowsDeleted, handleAll, ih, and_assoc]

/-- The changes of one object come in rounds, and one is running while the object is known. -/
theorem inRounds_handleAll (hkeyed : i.Keyed)
    (h : Change.InRounds (i.store.contains key) changes) (events : List WatchEvent)
    (hknown : i.KnowsDeleted events) :
    Change.InRounds ((i.handleAll events).1.store.contains key)
      (changes ++ changesOf key (i.handleAll events).2) := by
  induction events generalizing i changes with
  | nil => simpa [handleAll] using h
  | cons event rest ih =>
    obtain ⟨hfirst, hrest⟩ := hknown
    have hnext := ih (hkeyed.handle event) (inRounds_handle hkeyed h event hfirst) hrest
    simpa [handleAll] using hnext

/-! ## Replacements -/

theorem update_mem_applyEntry_iff :
    .update old new ∈ (i.applyEntry e).2 ↔
      e = new ∧ i.store.get? (storeKey new) = some old ∧
        (old.metadata.resourceVersion ≠ new.metadata.resourceVersion ∨ old.spec ≠ new.spec) := by
  unfold applyEntry
  cases hold : i.store.get? (storeKey e) with
  | none =>
    refine iff_of_false (by simp) ?_
    rintro ⟨rfl, hsome, -⟩
    rw [hold] at hsome
    cases hsome
  | some other =>
    dsimp only
    split
    next hnews =>
      simp only [List.mem_singleton, Change.update.injEq]
      constructor
      · rintro ⟨rfl, rfl⟩
        exact ⟨rfl, hold, hnews⟩
      · rintro ⟨rfl, hsome, -⟩
        exact ⟨Option.some.inj (hsome.symm.trans hold), rfl⟩
    next hknown =>
      refine iff_of_false (by simp) ?_
      rintro ⟨rfl, hsome, hnews⟩
      obtain rfl := Option.some.inj (hsome.symm.trans hold)
      exact hknown hnews

/-- A replacement is announced exactly if the entry that is shown differs from the known one, in
its version or in its specification. -/
theorem update_mem_handle_iff {event : WatchEvent} :
    .update old new ∈ (i.handle event).2 ↔
      event.shown? = some new ∧ i.store.get? (storeKey new) = some old ∧
        (old.metadata.resourceVersion ≠ new.metadata.resourceVersion ∨ old.spec ≠ new.spec) := by
  cases event with
  | init => simp [Informer.handle, WatchEvent.shown?]
  | initApply e =>
    simpa [Informer.handle, WatchEvent.shown?] using
      update_mem_applyEntry_iff (i := { i with listed := i.listed.map (storeKey e :: ·) })
  | initDone => simp [Informer.handle, WatchEvent.shown?]
  | apply e => simpa [Informer.handle, WatchEvent.shown?] using update_mem_applyEntry_iff
  | delete e => simp [Informer.handle, WatchEvent.shown?]

/-- No event has two replacements announced. -/
theorem countP_isUpdate_handle_le (i : Informer) (event : WatchEvent) :
    (i.handle event).2.countP Change.isUpdate ≤ 1 := by
  have happly : ∀ (i : Informer) e, (i.applyEntry e).2.countP Change.isUpdate ≤ 1 := by
    intro i e
    refine Nat.le_trans List.countP_le_length ?_
    unfold applyEntry
    split
    · split <;> simp
    · simp
  cases event with
  | init => simp [Informer.handle]
  | initApply e => exact happly _ e
  | initDone => simp [Informer.handle, List.countP_map, Function.comp_def, Change.isUpdate]
  | apply e => exact happly i e
  | delete e => simp [Informer.handle, Change.isUpdate]

/-! ## Known entries -/

/-- An entry that is shown is known from then on, and the other ones stay as they are. -/
theorem get?_handle_of_shown {event : WatchEvent} (h : event.shown? = some e) (key : String) :
    (i.handle event).1.store.get? key = if key = storeKey e then some e else i.store.get? key := by
  cases event with
  | initApply shown =>
    obtain rfl := Option.some.inj h
    exact SortedMap.get?_insert ..
  | apply shown =>
    obtain rfl := Option.some.inj h
    exact SortedMap.get?_insert ..
  | init => cases h
  | initDone => cases h
  | delete gone => cases h

/-- Of an entry that nothing is known about, it is announced that it has appeared. -/
theorem handle_of_shown_of_unknown {event : WatchEvent} (h : event.shown? = some e)
    (hnew : i.store.get? (storeKey e) = none) : (i.handle event).2 = [.add e] := by
  -- A listing notes the key of the entry besides, and no announcement depends on that.
  have happly : ∀ j : Informer, j.store = i.store → (j.applyEntry e).2 = [.add e] := by
    intro j hstore
    simp [applyEntry, hstore, hnew]
  cases event with
  | initApply shown =>
    obtain rfl := Option.some.inj h
    exact happly _ rfl
  | apply shown =>
    obtain rfl := Option.some.inj h
    exact happly _ rfl
  | init => cases h
  | initDone => cases h
  | delete gone => cases h

/-- An entry that is deleted is not known any longer, and the other ones stay as they are. -/
theorem get?_handle_delete (e : ServiceEntry) (key : String) :
    (i.handle (.delete e)).1.store.get? key =
      if key = storeKey e then none else i.store.get? key :=
  SortedMap.get?_erase ..

end Handle

end Informer

/-! ## Listings -/

namespace WatchedModel

variable {w : WatchedModel} {key : String}

/-- A listing leaves of each object what it has shown last. -/
theorem known?_shown (listed : List ServiceEntry) :
    (w.shown listed).known? key =
      ((listed.filter (Informer.storeKey · == key)).getLast?).or (w.known? key) := by
  induction listed generalizing w with
  | nil => rfl
  | cons x rest ih =>
    rw [shown_cons, ih, known?_initApply]
    by_cases hkey : Informer.storeKey x = key
    · rw [if_pos hkey.symm, List.filter_cons_of_pos (by simpa using hkey), List.getLast?_cons]
      cases (rest.filter (Informer.storeKey · == key)).getLast? <;> rfl
    · rw [if_neg (Ne.symm hkey), List.filter_cons_of_neg (by simpa using hkey)]

/-- After a complete listing exactly the listed objects are known, as they were shown last. -/
theorem known?_relisted (listed : List ServiceEntry) :
    (w.relisted listed).known? key =
      (listed.filter (Informer.storeKey · == key)).getLast? := by
  rw [relisted_eq, known?_initDone]
  split
  next hlisted =>
    rw [listing, known?_shown]
    -- The key was listed, so what was known before does not matter.
    obtain ⟨x, hx, hkey⟩ := List.mem_map.mp (wasListed_listing.mp hlisted)
    have hne : listed.filter (Informer.storeKey · == key) ≠ [] := by
      refine List.ne_nil_of_mem (a := x) (List.mem_filter.mpr ⟨hx, ?_⟩)
      simpa using hkey
    rw [List.getLast?_eq_some_getLast hne]
    rfl
  next hlisted =>
    have hnone : listed.filter (Informer.storeKey · == key) = [] := by
      refine List.filter_eq_nil_iff.mpr fun x hx hkey => hlisted ?_
      exact wasListed_listing.mpr (List.mem_map.mpr ⟨x, hx, eq_of_beq hkey⟩)
    rw [hnone]
    rfl

end WatchedModel

namespace Informer

/-- An informer that starts with nothing, on any row of events in which deletions are reported of
known objects. At every time the changes of each object have come in rounds, and one is running
exactly if the object is known. Each event announces at most one replacement, and does so exactly if
it shows an entry that differs in version or specification from the known one, which is handed over
with it. An entry that is shown is known from then on, and its appearance is all that is announced
if nothing was known about it. A deletion is announced as such and ends the knowledge of the object.
Neither touches another object. After a complete listing, whatever came before it, the known objects
are the listed ones, each as it was listed last. -/
theorem follows_watch (events : List WatchEvent)
    (hknown : ({} : Informer).KnowsDeleted events) :
    let after := ({} : Informer).handleAll
    (∀ before later, events = before ++ later →
      ∀ key, Change.InRounds ((after before).1.store.contains key)
        (changesOf key (after before).2)) ∧
    (∀ before event later, events = before ++ event :: later →
      let store := (after before).1.store
      let announced := ((after before).1.handle event).2
      (after (before ++ [event])).2 = (after before).2 ++ announced ∧
      announced.countP Change.isUpdate ≤ 1 ∧
      (∀ old new, .update old new ∈ announced ↔
        event.shown? = some new ∧ store.get? (storeKey new) = some old ∧
          (old.metadata.resourceVersion ≠ new.metadata.resourceVersion ∨ old.spec ≠ new.spec)) ∧
      (∀ e, event.shown? = some e →
        (store.get? (storeKey e) = none → announced = [.add e]) ∧
        ∀ key, (after (before ++ [event])).1.store.get? key =
          if key = storeKey e then some e else store.get? key) ∧
      ∀ e, event = .delete e →
        announced = [.delete e] ∧
        ∀ key, (after (before ++ [event])).1.store.get? key =
          if key = storeKey e then none else store.get? key) ∧
    (∀ (before : List WatchEvent) (listed : List ServiceEntry) (later : List WatchEvent),
      let relist := .init :: listed.map .initApply ++ [.initDone]
      events = before ++ relist ++ later →
        ∀ key, (after (before ++ relist)).1.store.get? key =
          (listed.filter (storeKey · == key)).getLast?) := by
  intro after
  refine ⟨?_, ?_, ?_⟩
  · rintro before later rfl key
    have hkeyed : ({} : Informer).Keyed := fun key e he => by cases he
    have hstart : Change.InRounds (({} : Informer).store.contains key) [] := Change.InRounds.nil
    exact inRounds_handleAll hkeyed hstart before (knowsDeleted_append.mp hknown).1
  · rintro before event later rfl
    have hstep : after (before ++ [event]) = (((after before).1.handle event).1,
        (after before).2 ++ ((after before).1.handle event).2) := by
      simp [after, handleAll_append, handleAll]
    rw [hstep]
    refine ⟨rfl, countP_isUpdate_handle_le _ event, fun old new => update_mem_handle_iff,
      fun e hshown => ⟨handle_of_shown_of_unknown hshown, get?_handle_of_shown hshown⟩, ?_⟩
    rintro e rfl
    exact ⟨rfl, get?_handle_delete e⟩
  · intro before listed later relist hevents key
    -- The informer is looked at together with a model, as it was for relists.
    have hwatched := WatchedModel.observeAll_eq_handleAll (.fresh {}) (before ++ relist)
    rw [WatchedModel.observeAll_append] at hwatched
    have hlisted : (((WatchedModel.fresh {}).observeAll before).relisted listed).known? key =
        (listed.filter (storeKey · == key)).getLast? := WatchedModel.known?_relisted listed
    rw [WatchedModel.relisted, hwatched] at hlisted
    exact hlisted

/-- A listing is broken off and started again, an object is deleted and comes back, and one goes
missing between two listings. -/
theorem follows_broken_off_listing :
    let entry (name version : String) : ServiceEntry :=
      { metadata := { name := some name, space := some "default", resourceVersion := some version }
        spec := { hosts := [name] } }
    let events : List WatchEvent :=
      [.init, .initApply (entry "cart" "1"), .initDone, .delete (entry "cart" "2"),
        .apply (entry "cart" "3"), .apply (entry "pay" "4"), .init, .initApply (entry "shop" "5"),
        .init, .initApply (entry "cart" "3"), .initApply (entry "cart" "6"), .initDone]
    ({} : Informer).KnowsDeleted events ∧
      Change.InRounds true (changesOf "default/cart" (({} : Informer).handleAll events).2) ∧
      Change.InRounds false (changesOf "default/shop" (({} : Informer).handleAll events).2) ∧
      (({} : Informer).handleAll events).1.store.get? "default/cart" = some (entry "cart" "6") := by
  intro entry events
  have hknown : ({} : Informer).KnowsDeleted events := by decide +kernel
  have hcart : (({} : Informer).handleAll events).1.store.contains "default/cart" = true := by
    decide +kernel
  have hshop : (({} : Informer).handleAll events).1.store.contains "default/shop" = false := by
    decide +kernel
  obtain ⟨hrounds, -, hlisted⟩ := follows_watch events hknown
  have hrounds := hrounds events [] (List.append_nil events).symm
  refine ⟨hknown, hcart ▸ hrounds "default/cart", hshop ▸ hrounds "default/shop", ?_⟩
  have hlast := hlisted (events.take 8) [entry "cart" "3", entry "cart" "6"] [] rfl "default/cart"
  exact hlast.trans (by decide +kernel)

end Informer

end MeshRegistry
