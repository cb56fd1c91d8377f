import MeshRegistry.Entry.Basic
/-!
# Who owns which host

The ownership model follows the changes of the mesh and keeps, for every host of every entry, the
entry that occupies it, on one of two sides: ours, which this controller may manage, and theirs,
which belong to somebody else. An entry without owner references may be adopted and counts as
ours.

## Main definitions

- `Owner`, `OwnershipModel.ownerOf`: the owner of an entry, judged by its owner references.
- `OwnershipModel.insert`, `update`, `delete`: the model after a change of the mesh.
- `OwnershipModel.classify`: the side on which a host is.
- `Change`, `OwnershipModel.receive`: changes as data.
-/

namespace MeshRegistry

/-- Who manages an entry. -/
inductive Owner where
  /-- This controller. -/
  | us
  /-- Another controller. -/
  | them
  /-- Nobody. -/
  | none
deriving DecidableEq, Repr

/-- A change of the mesh, as it is announced to observers. -/
inductive Change where
  /-- An entry has appeared. -/
  | add (entry : ServiceEntry)
  /-- An entry has been replaced. -/
  | update (old new : ServiceEntry)
  /-- An entry has gone. -/
  | delete (entry : ServiceEntry)
deriving DecidableEq

/-- The entries that occupy hosts, on our side and on theirs. -/
structure OwnershipModel where
  /-- The reference that marks our entries. -/
  reference : OwnerReference
  /-- The hosts that this controller may manage. -/
  ours : SortedMap String ServiceEntry := .empty
  /-- The hosts of other owners. -/
  theirs : SortedMap String ServiceEntry := .empty

/-- The owner of an entry, as seen by a controller with the given reference. -/
def ownerOf (reference : OwnerReference) (e : ServiceEntry) : Owner :=
  match e.metadata.ownerReferences with
  | none => .none
  | some [] => .none
  | some refs => if reference ∈ refs then .us else .them

/-- A side with an entry put at each of the given hosts. -/
def occupy (side : SortedMap String ServiceEntry) (hosts : List String) (e : ServiceEntry) :
    SortedMap String ServiceEntry :=
  hosts.foldl (fun m h => m.insert h e) side

/-- A side without the given hosts. -/
def vacate (side : SortedMap String ServiceEntry) (hosts : List String) :
    SortedMap String ServiceEntry :=
  hosts.foldl (fun m h => m.erase h) side

namespace OwnershipModel

/-- The owner of an entry. -/
def ownerOf (m : OwnershipModel) (e : ServiceEntry) : Owner := MeshRegistry.ownerOf m.reference e

/-- The model with an entry at its hosts, on the side of the given owner. -/
def place (m : OwnershipModel) (owner : Owner) (e : ServiceEntry) : OwnershipModel :=
  match owner with
  | .us => { m with ours := occupy m.ours e.spec.hosts e }
  | .none => { m with ours := occupy m.ours e.spec.hosts e }
  | .them => { m with theirs := occupy m.theirs e.spec.hosts e }

/-- The model without the hosts of an entry on the side of the given owner; the hosts of an entry
without owner are cleared on both sides. -/
def clear (m : OwnershipModel) (owner : Owner) (e : ServiceEntry) : OwnershipModel :=
  match owner with
  | .us => { m with ours := vacate m.ours e.spec.hosts }
  | .them => { m with theirs := vacate m.theirs e.spec.hosts }
  | .none => { m with ours := vacate m.ours e.spec.hosts, theirs := vacate m.theirs e.spec.hosts }

/-- The model after an entry has appeared. -/
def insert (m : OwnershipModel) (e : ServiceEntry) : OwnershipModel := m.place (m.ownerOf e) e

/-- The model after an entry has been replaced. Nothing happens when the specification is the
same. -/
def update (m : OwnershipModel) (old new : ServiceEntry) : OwnershipModel :=
  if old.spec = new.spec then m else (m.clear (m.ownerOf old) old).place (m.ownerOf new) new

/-- The model after an entry has gone. -/
def delete (m : OwnershipModel) (e : ServiceEntry) : OwnershipModel := m.clear (m.ownerOf e) e

/-- The model after a change. -/
def receive (m : OwnershipModel) : Change → OwnershipModel
  | .add e => m.insert e
  | .update old new => m.update old new
  | .delete e => m.delete e

/-- The model after a list of changes. -/
def receiveAll (m : OwnershipModel) (changes : List Change) : OwnershipModel :=
  changes.foldl receive m

/-- The side on which a host is; our side is looked at first. -/
def classify (m : OwnershipModel) (host : String) : Owner :=
  -- A host may be on both sides; it is ours then.
  if m.ours.contains host then .us
  else if m.theirs.contains host then .them
  else .none

end OwnershipModel

/-! ## What the operations do to look-ups -/

theorem get?_occupy (side : SortedMap String ServiceEntry) (hosts : List String)
    (e : ServiceEntry) (h : String) :
    (occupy side hosts e).get? h = if h ∈ hosts then some e else side.get? h := by
  induction hosts generalizing side with
  | nil => simp [occupy]
  | cons k rest ih =>
    have hstep : occupy side (k :: rest) e = occupy (side.insert k e) rest e := rfl
    rw [hstep, ih]
    by_cases hk : h = k <;> simp [hk]

theorem get?_vacate (side : SortedMap String ServiceEntry) (hosts : List String) (h : String) :
    (vacate side hosts).get? h = if h ∈ hosts then none else side.get? h := by
  induction hosts generalizing side with
  | nil => simp [vacate]
  | cons k rest ih =>
    have hstep : vacate side (k :: rest) = vacate (side.erase k) rest := rfl
    rw [hstep, ih]
    by_cases hk : h = k <;> simp [hk]

namespace OwnershipModel

@[simp] theorem reference_place (m : OwnershipModel) (o : Owner) (e : ServiceEntry) :
    (m.place o e).reference = m.reference := by
  cases o <;> rfl

@[simp] theorem reference_clear (m : OwnershipModel) (o : Owner) (e : ServiceEntry) :
    (m.clear o e).reference = m.reference := by
  cases o <;> rfl

/-- A model keeps its reference through every change. -/
@[simp] theorem reference_receive (m : OwnershipModel) (c : Change) :
    (m.receive c).reference = m.reference := by
  cases c with
  | add e => simp [receive, insert]
  | update old new =>
    simp only [receive, update]
    split <;> simp
  | delete e => simp [receive, delete]

end OwnershipModel

end MeshRegistry
