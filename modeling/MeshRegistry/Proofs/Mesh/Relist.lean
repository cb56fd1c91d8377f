import MeshRegistry.Proofs.Mesh.Watched
/-!
# Hosts after a relist

When a watch starts over, the entries that exist are listed anew, and what was known before and is
not listed is taken away at the end. Entries are taken away by their hosts. So a host that has
moved from one entry to another is lost if the old entry goes after the new one was shown: because
the listing shows the old entry later, with another specification, or does not show it any more.

## Main definitions

- `WatchedModel.listing`, `WatchedModel.relisted`: a listing that is running, and a complete one.
- `WatchedModel.LostTo`: a slot is cleared by an entry of before, once certain entries are listed.

## Main results

- `WatchedModel.relisted_keeps_host_iff`: exactly when a host of a listed entry is still known to
  the model after a relist.
- `WatchedModel.relisted_keeps_unmoved_host`: it is unless another entry had the host before.
-/

namespace MeshRegistry.WatchedModel

/-- Entries are shown by a running listing. -/
def shown (w : WatchedModel) (listed : List ServiceEntry) : WatchedModel :=
  w.observeAll (listed.map .initApply)

/-- A listing begins and shows some entries. -/
def listing (w : WatchedModel) (listed : List ServiceEntry) : WatchedModel :=
  (w.observe .init).shown listed

/-- A complete listing. -/
def relisted (w : WatchedModel) (listed : List ServiceEntry) : WatchedModel :=
  w.observeAll (.init :: listed.map .initApply ++ [.initDone])

def storeKeys (listed : List ServiceEntry) : List String := listed.map Informer.storeKey

/-- Once the first entries have been shown, the slot is cleared by an entry that was known before
the listing: the rest shows it with another specification first, or does not show it at all. -/
def LostTo (w : WatchedModel) (first rest : List ServiceEntry) (side : Side) (host : String) :
    Prop :=
  ∃ key old, w.known? key = some old ∧ old.Frees w.reference side host ∧
    key ∉ storeKeys first ∧
    ∀ x, rest.find? (Informer.storeKey · == key) = some x → old.spec ≠ x.spec

section Listing

variable {w : WatchedModel} {e : ServiceEntry} {listed before after : List ServiceEntry}
  {side : Side} {host key : String}

/-! ## What a listing shows -/

theorem shown_cons : w.shown (e :: listed) = (w.observe (.initApply e)).shown listed := rfl

theorem listing_append : w.listing (before ++ after) = (w.listing before).shown after := by
  simp [listing, shown]

theorem relisted_eq : w.relisted listed = (w.listing listed).observe .initDone := by
  simp [relisted, listing, shown]

theorem reference_shown : (w.shown listed).reference = w.reference :=
  reference_observeAll _

theorem known?_shown_of_not_mem (h : key ∉ storeKeys listed) :
    (w.shown listed).known? key = w.known? key := by
  induction listed generalizing w with
  | nil => rfl
  | cons x rest ih =>
    have hfirst : key ≠ Informer.storeKey x := fun hkey => h (hkey ▸ List.mem_cons_self ..)
    have hrest : key ∉ storeKeys rest := fun hmem => h (List.mem_cons_of_mem _ hmem)
    rw [shown_cons, ih hrest, known?_initApply, if_neg hfirst]

/-- What the listing has shown is known in the way it was shown. -/
theorem exists_of_mem_storeKeys (h : key ∈ storeKeys listed) :
    ∃ x ∈ listed, Informer.storeKey x = key ∧ (w.shown listed).known? key = some x := by
  induction listed generalizing w with
  | nil => cases h
  | cons x rest ih =>
    rw [shown_cons]
    by_cases hrest : key ∈ storeKeys rest
    · -- A later showing counts.
      obtain ⟨y, hmem, hkey, hknown⟩ := ih hrest (w := w.observe (.initApply x))
      exact ⟨y, List.mem_cons_of_mem _ hmem, hkey, hknown⟩
    · have hkey : key = Informer.storeKey x := (List.mem_cons.mp h).resolve_right hrest
      refine ⟨x, List.mem_cons_self .., hkey.symm, ?_⟩
      rw [known?_shown_of_not_mem hrest, known?_initApply, if_pos hkey]

theorem listed_shown (listed : List ServiceEntry) {keys : List String}
    (h : w.informer.listed = some keys) :
    (w.shown listed).informer.listed = some ((storeKeys listed).reverse ++ keys) := by
  -- A running listing notes each key as it is shown, so the keys are general in the induction.
  induction listed generalizing w keys with
  | nil => simpa [shown, storeKeys] using h
  | cons x rest ih =>
    have hfirst :
        (w.observe (.initApply x)).informer.listed = some (Informer.storeKey x :: keys) := by
      simp [observe, Informer.handle, Informer.applyEntry, h]
    rw [shown_cons, ih hfirst]
    simp [storeKeys]

theorem wasListed_listing :
    (w.listing listed).informer.wasListed key = true ↔ key ∈ storeKeys listed := by
  have hbegin : (w.observe .init).informer.listed = some [] := rfl
  have hlisted := listed_shown listed hbegin
  simp [listing, Informer.wasListed, hlisted]

theorem known?_listing_of_not_mem (h : key ∉ storeKeys listed) :
    (w.listing listed).known? key = w.known? key :=
  known?_shown_of_not_mem h

/-! ## What the rest of a listing does to a host that it does not show -/

/-- Only the first showing of an entry can clear the slot: the versions shown here do not list the
host themselves. -/
theorem occupied_shown_iff (hhost : ∀ x ∈ listed, host ∉ x.spec.hosts) :
    (w.shown listed).Occupied side host ↔
      w.Occupied side host ∧
        ¬ ∃ key old x, w.known? key = some old ∧ old.Frees w.reference side host ∧
          listed.find? (Informer.storeKey · == key) = some x ∧ old.spec ≠ x.spec := by
  -- Showing an entry changes what is known, so the state is general in the induction.
  induction listed generalizing w with
  | nil => simp [shown]
  | cons x rest ih =>
    have hfirst : host ∉ x.spec.hosts := hhost x (List.mem_cons_self ..)
    have hfills : ¬ (w.TakesIn x ∧ x.Fills w.reference side host) := fun h => hfirst h.2.1
    rw [shown_cons, ih fun y hy => hhost y (List.mem_cons_of_mem _ hy), occupied_initApply,
      or_iff_right hfills, and_assoc]
    refine and_congr_right fun _ => ?_
    -- The slot is cleared by the first entry or by one of the rest.
    rw [← not_or]
    refine not_congr ?_
    simp only [known?_initApply, reference_observe]
    constructor
    · rintro (⟨old, hknown, hspec, hfrees⟩ | ⟨key, old, y, hknown, hfrees, hfind, hspec⟩)
      · exact ⟨_, old, x, hknown, hfrees, by simp, hspec⟩
      · by_cases hkey : key = Informer.storeKey x
        · -- What is known under this key is the version just shown, which clears nothing here.
          rw [if_pos hkey] at hknown
          obtain rfl := Option.some.inj hknown
          exact absurd hfrees.1 hfirst
        · rw [if_neg hkey] at hknown
          refine ⟨key, old, y, hknown, hfrees, ?_, hspec⟩
          rw [List.find?_cons_of_neg (by simpa using Ne.symm hkey), hfind]
    · rintro ⟨key, old, y, hknown, hfrees, hfind, hspec⟩
      by_cases hkey : Informer.storeKey x = key
      · rw [List.find?_cons_of_pos (by simpa using hkey)] at hfind
        obtain rfl := Option.some.inj hfind
        exact .inl ⟨old, hkey ▸ hknown, hspec, hfrees⟩
      · rw [List.find?_cons_of_neg (by simpa using hkey)] at hfind
        refine .inr ⟨key, old, y, ?_, hfrees, hfind, hspec⟩
        rw [if_neg (Ne.symm hkey), hknown]

end Listing

/-! ## A complete listing -/

section Relist

variable {w : WatchedModel} {e : ServiceEntry} {listed before after : List ServiceEntry}
  {side : Side} {host : String}

theorem find?_eq_none_iff {key : String} :
    listed.find? (Informer.storeKey · == key) = none ↔ key ∉ storeKeys listed := by
  simp [storeKeys]

theorem storeKeys_append : storeKeys (before ++ after) = storeKeys before ++ storeKeys after :=
  List.map_append

/-- At the end of a listing, the entries that it has not shown are known as before. -/
theorem abandons_listing_iff :
    (w.listing listed).Abandons side host ↔
      ∃ key old, w.known? key = some old ∧ key ∉ storeKeys listed ∧
        old.Frees w.reference side host := by
  have hreference : (w.listing listed).reference = w.reference := reference_shown
  unfold Abandons
  rw [hreference]
  constructor
  · rintro ⟨key, old, hknown, hlisted, hfrees⟩
    have hkey : key ∉ storeKeys listed := by
      rw [← wasListed_listing (w := w), hlisted]
      exact Bool.false_ne_true
    rw [known?_listing_of_not_mem hkey] at hknown
    exact ⟨key, old, hknown, hkey, hfrees⟩
  · rintro ⟨key, old, hknown, hkey, hfrees⟩
    refine ⟨key, old, ?_, ?_, hfrees⟩
    · rw [known?_listing_of_not_mem hkey, hknown]
    · rw [← Bool.not_eq_true, wasListed_listing]
      exact hkey

/-- What is cleared after some entries have been shown: what the rest shows with another
specification first, and what is not shown at all. Known entries with the keys of the first ones do
not count if they do not list the host. -/
theorem lostTo_iff
    (hfirst : ∀ key old, (w.listing before).known? key = some old → host ∈ old.spec.hosts →
      key ∈ storeKeys before → key ∉ storeKeys after) :
    w.LostTo before after side host ↔
      (∃ key old x, (w.listing before).known? key = some old ∧
        old.Frees w.reference side host ∧
        after.find? (Informer.storeKey · == key) = some x ∧ old.spec ≠ x.spec) ∨
      (w.listing (before ++ after)).Abandons side host := by
  rw [abandons_listing_iff, storeKeys_append]
  constructor
  · rintro ⟨key, old, hknown, hfrees, hkey, hrest⟩
    cases hfind : after.find? (Informer.storeKey · == key) with
    | none =>
      refine .inr ⟨key, old, hknown, ?_, hfrees⟩
      exact fun hmem => (List.mem_append.mp hmem).elim hkey (find?_eq_none_iff.mp hfind)
    | some x =>
      refine .inl ⟨key, old, x, ?_, hfrees, hfind, hrest x hfind⟩
      rw [known?_listing_of_not_mem hkey, hknown]
  · rintro (⟨key, old, x, hknown, hfrees, hfind, hspec⟩ | ⟨key, old, hknown, hkey, hfrees⟩)
    · have hkey : key ∉ storeKeys before := by
        intro hmem
        have hnone := find?_eq_none_iff.mpr (hfirst key old hknown hfrees.1 hmem)
        rw [hnone] at hfind
        cases hfind
      rw [known?_listing_of_not_mem hkey] at hknown
      refine ⟨key, old, hknown, hfrees, hkey, fun y hy => ?_⟩
      obtain rfl := Option.some.inj (hfind.symm.trans hy)
      exact hspec
    · refine ⟨key, old, hknown, hfrees, fun hmem => hkey (List.mem_append_left _ hmem), ?_⟩
      intro y hy
      -- An entry that is not shown at all is not shown by the rest.
      have hnone := find?_eq_none_iff.mpr fun hmem => hkey (List.mem_append_right _ hmem)
      rw [hnone] at hy
      cases hy

/-- Entries that share a host are versions of one object. -/
def HostsApart (listed : List ServiceEntry) : Prop :=
  ∀ x ∈ listed, ∀ y ∈ listed, ∀ host, host ∈ x.spec.hosts → host ∈ y.spec.hosts →
    Informer.storeKey x = Informer.storeKey y

/-- A slot at a host of a listed entry is occupied after a relist if it was when the entry had been
shown, unless it is lost to an entry of before. -/
theorem occupied_relisted_iff (hhost : host ∈ e.spec.hosts)
    (hlast : ∀ x ∈ after, Informer.storeKey x ≠ Informer.storeKey e)
    (hapart : HostsApart (before ++ e :: after)) :
    (w.relisted (before ++ e :: after)).Occupied side host ↔
      (w.listing (before ++ [e])).Occupied side host ∧
        ¬ w.LostTo (before ++ [e]) after side host := by
  have hsplit : before ++ e :: after = (before ++ [e]) ++ after := by simp
  rw [hsplit] at hapart ⊢
  have hafter : ∀ x ∈ after, host ∉ x.spec.hosts := by
    intro x hx hmem
    exact hlast x hx (hapart x (by simp [hx]) e (by simp) host hmem hhost)
  -- What was shown with the host is a version of the entry itself, which is not shown again.
  have hfirst : ∀ key old, (w.listing (before ++ [e])).known? key = some old →
      host ∈ old.spec.hosts → key ∈ storeKeys (before ++ [e]) → key ∉ storeKeys after := by
    intro key old hknown hmem hkey hagain
    obtain ⟨x, hx, rfl, hx'⟩ := exists_of_mem_storeKeys (w := w.observe .init) hkey
    obtain rfl := Option.some.inj (hx'.symm.trans hknown)
    obtain ⟨y, hy, hkeys⟩ := List.mem_map.mp hagain
    exact hlast y hy (hkeys.trans
      (hapart x (List.mem_append_left _ hx) e (by simp) host hmem hhost))
  have hreference : (w.listing (before ++ [e])).reference = w.reference := reference_shown
  rw [lostTo_iff hfirst, relisted_eq, occupied_initDone, listing_append, occupied_shown_iff hafter,
    hreference, and_assoc, not_or]

theorem occupied_listing_concat_iff :
    (w.listing (before ++ [e])).Occupied side host ↔
      ((w.listing before).TakesIn e ∧ e.Fills w.reference side host) ∨
        ((w.listing before).Occupied side host ∧
          ¬ (w.listing before).Displaces e side host) := by
  have hreference : (w.listing before).reference = w.reference := reference_shown
  rw [← hreference, ← occupied_initApply, listing_append]
  rfl

/-- If listed objects share no hosts, a host of a listed entry is known to the model after the
relist exactly when one of its slots was occupied once the entry had been shown for the last time,
and is not lost to an entry that had the host before. -/
theorem relisted_keeps_host_iff (w : WatchedModel) (before after : List ServiceEntry)
    (e : ServiceEntry) (host : String) (hhost : host ∈ e.spec.hosts)
    (hlast : ∀ x ∈ after, Informer.storeKey x ≠ Informer.storeKey e)
    (hapart : HostsApart (before ++ e :: after)) :
    (w.relisted (before ++ e :: after)).model.classify host ≠ .none ↔
      ∃ side, (((w.listing before).TakesIn e ∧ e.Fills w.reference side host) ∨
          ((w.listing before).Occupied side host ∧ ¬ (w.listing before).Displaces e side host)) ∧
        ¬ w.LostTo (before ++ [e]) after side host := by
  rw [OwnershipModel.classify_ne_none]
  simp only [← occupied_listing_concat_iff]
  exact exists_congr fun side => occupied_relisted_iff hhost hlast hapart

/-- A new entry is listed before a known one that lists one more host now. -/
theorem relisted_keeps_new_host :
    let us : OwnerReference := { name := "registry" }
    let entry (name : String) (hosts : List String) : ServiceEntry :=
      { metadata := { name := some name, space := some "default" }, spec := { hosts } }
    let w := (fresh us).observeAll [.apply (entry "cart" ["cart"])]
    let shop := entry "shop" ["shop"]
    let cart := entry "cart" ["cart", "basket"]
    "shop" ∈ shop.spec.hosts ∧
      (∀ x ∈ [cart], Informer.storeKey x ≠ Informer.storeKey shop) ∧
      HostsApart [shop, cart] ∧ (w.relisted [shop, cart]).model.classify "shop" ≠ .none := by
  intro us entry w shop cart
  have hhost : "shop" ∈ shop.spec.hosts := List.mem_cons_self ..
  have hlast : ∀ x ∈ [cart], Informer.storeKey x ≠ Informer.storeKey shop := by decide +kernel
  have hapart : HostsApart [shop, cart] := by
    intro x hx y hy host hxhost hyhost
    simp only [List.mem_cons, List.not_mem_nil, or_false] at hx hy
    rcases hx with rfl | rfl <;> rcases hy with rfl | rfl
    · rfl
    · simp_all [shop, cart, entry]
    · simp_all [shop, cart, entry]
    · rfl
  refine ⟨hhost, hlast, hapart, ?_⟩
  refine (relisted_keeps_host_iff w [] [cart] shop "shop" hhost hlast hapart).mpr
    ⟨.ours, .inl ⟨?_, hhost, by decide⟩, ?_⟩
  · intro old hold
    have hnew : (w.listing []).known? (Informer.storeKey shop) = none := by decide +kernel
    rw [hnew] at hold
    cases hold
  · -- The only entry known before does not list the host.
    rintro ⟨key, old, hknown, hfrees, -⟩
    have hold : old = entry "cart" ["cart"] := by
      have happly : w.known? key =
          if key = Informer.storeKey (entry "cart" ["cart"]) then some (entry "cart" ["cart"])
          else none := known?_apply
      have hsome := happly.symm.trans hknown
      split at hsome
      · exact (Option.some.inj hsome).symm
      · cases hsome
    have hmem := hfrees.1
    rw [hold] at hmem
    simp [entry] at hmem

/-- A host that moved to a new entry while nobody watched is lost: the new entry is shown first, and
the old one is taken away at the end. -/
theorem moved_host_lost_by_relist :
    let us : OwnerReference := { name := "registry" }
    let entry (name : String) : ServiceEntry :=
      { metadata := { name := some name, space := some "default" }, spec := { hosts := ["pay"] } }
    let w := (fresh us).observeAll [.init, .initApply (entry "payments"), .initDone]
    let listed := [entry "billing"]
    w.model.classify "pay" = .us ∧ HostsApart listed ∧
      (w.relisted listed).known? (Informer.storeKey (entry "billing")) = some (entry "billing") ∧
      (w.relisted listed).model.classify "pay" = .none := by
  intro us entry w listed
  have hapart : HostsApart listed := by
    intro x hx y hy host _ _
    rw [List.mem_singleton.mp hx, List.mem_singleton.mp hy]
  exact ⟨by decide +kernel, hapart, by decide +kernel, by decide +kernel⟩

/-- A host stays known if the model takes the listed entry in and no other entry had the host
before. -/
theorem relisted_keeps_unmoved_host (hhost : host ∈ e.spec.hosts)
    (hlast : ∀ x ∈ after, Informer.storeKey x ≠ Informer.storeKey e)
    (hapart : HostsApart (before ++ e :: after)) (htaken : (w.listing before).TakesIn e)
    (hunmoved : ∀ key old, w.known? key = some old → host ∈ old.spec.hosts →
      key = Informer.storeKey e) :
    (w.relisted (before ++ e :: after)).model.classify host ≠ .none := by
  have hoccupied : (w.listing (before ++ [e])).Occupied (ownerOf w.reference e).side host :=
    occupied_listing_concat_iff.mpr (.inl ⟨htaken, hhost, rfl⟩)
  refine (OwnershipModel.classify_ne_none _ host).mpr
    ⟨_, (occupied_relisted_iff hhost hlast hapart).mpr ⟨hoccupied, ?_⟩⟩
  rintro ⟨key, old, hknown, hfrees, hkey, -⟩
  refine hkey ?_
  rw [hunmoved key old hknown hfrees.1]
  simp [storeKeys]

end Relist

end MeshRegistry.WatchedModel
