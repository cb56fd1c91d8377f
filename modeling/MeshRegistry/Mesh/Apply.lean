import MeshRegistry.Mesh.Session
/-!
# Applying a streamed entry

An entry that arrives from a stream is complete: it is created, or replaces the specification of
the existing object when it differs. An existing object that carries the `update` annotation is
merged instead: it keeps every endpoint whose weight is anything but one, and the wanted endpoints
come behind them, except those whose address a kept endpoint has.

## Main definitions

- `keptEndpoints`, `mergeEndpoints`: the endpoints that stay in a merge, and the merged list.
- `applyEntry`, `removeEntry`: the conversations that bring an entry into the mesh and out of it.
- `EntryOp`, `applyAll`: operations, applied one after the other.
-/

namespace MeshRegistry

/-! ## Merging endpoints -/

/-- The existing endpoints that a merge keeps. -/
def keptEndpoints (existing : List Endpoint) : List Endpoint :=
  existing.filter fun e => e.weight ≠ some 1

/-- The kept endpoints followed by the wanted ones whose address is not among them. -/
def mergeEndpoints (existing wanted : List Endpoint) : List Endpoint :=
  let kept := keptEndpoints existing
  kept ++ wanted.filter fun w => !kept.any fun k => k.address == w.address

/-! ## Applying and removing -/

/-- What applying or removing an entry did. -/
inductive ApplyOutcome where
  /-- The entry was created. -/
  | created
  /-- The object was replaced. -/
  | updated
  /-- The object had the wanted specification. -/
  | unchanged
  /-- The object was removed. -/
  | deleted
  /-- There was no object to remove. -/
  | absent
deriving DecidableEq, Repr

/-- The annotation that asks for a merge. -/
def mergeAnnotation : String := "update"

/-- The value of the annotation after a merge. -/
def mergeAnnotationValue : String := "nacos-mesh"

/-- The existing object with the annotation's value set, where it carries the annotation. -/
def markMerged (e : ServiceEntry) : ServiceEntry :=
  { e with
    metadata :=
      { e.metadata with
        annotations :=
          e.metadata.annotations.map fun a => a.insert mergeAnnotation mergeAnnotationValue } }

/-- What an existing object becomes when an entry is applied to it. -/
def applied (existing entry : ServiceEntry) : ServiceEntry :=
  if (existing.annotation? mergeAnnotation).isSome then
    (markMerged existing).withSpec
      { entry.spec with endpoints := mergeEndpoints existing.spec.endpoints entry.spec.endpoints }
  else existing.withSpec entry.spec

/-- Create an entry, or bring the existing object up to it. -/
def applyEntry (entry : ServiceEntry) : Session (Except MeshError ApplyOutcome) := do
  match ← Session.call (.ensureSpace entry.space) with
  | .error e => return .error e
  | .ok () =>
    match ← Session.call (.get entry.key) with
    | .error e => return .error e
    | .ok none =>
      match ← Session.call (.create entry) with
      | .error e => return .error e
      | .ok _ => return .ok .created
    | .ok (some existing) =>
      let wanted := applied existing entry
      -- An annotation alone is no reason to write.
      if existing.spec = wanted.spec then return .ok .unchanged
      else
        match ← Session.call (.update wanted) with
        | .error e => return .error e
        | .ok _ => return .ok .updated

/-- Remove an entry; it is no failure when there is none. -/
def removeEntry (entry : ServiceEntry) : Session (Except MeshError ApplyOutcome) := do
  match ← Session.call (.get entry.key) with
  | .error e => return .error e
  | .ok none => return .ok .absent
  | .ok (some _) =>
    match ← Session.call (.delete entry.key) with
    | .ok _ => return .ok .deleted
    -- The object may have gone since it was fetched.
    | .error e => return if e.isNotFound then .ok .absent else .error e

/-- A piece of work that a stream gives rise to. -/
inductive EntryOp where
  /-- Bring an entry into the mesh. -/
  | upsert (entry : ServiceEntry)
  /-- Take an entry out of the mesh. -/
  | delete (entry : ServiceEntry)
deriving DecidableEq

namespace EntryOp

/-- The entry that an operation is about. -/
def entry : EntryOp → ServiceEntry
  | .upsert e => e
  | .delete e => e

/-- Carry out an operation. -/
def apply : EntryOp → Session (Except MeshError ApplyOutcome)
  | .upsert e => applyEntry e
  | .delete e => removeEntry e

end EntryOp

/-- Carry out operations in their order. A failure does not stop the ones after it. -/
def applyAll : List EntryOp → Session (List (Except MeshError ApplyOutcome))
  | [] => return []
  | op :: rest => do
    let outcome ← op.apply
    let outcomes ← applyAll rest
    return outcome :: outcomes

end MeshRegistry
