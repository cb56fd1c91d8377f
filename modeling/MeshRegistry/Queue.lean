/-!
# Bounded queues

A queue between one side that sends and one that receives, with room for so many items. Either
side may go away: nothing is accepted any more then. What has been accepted stays until it is
received, unless the receiver is gone.

## Main definitions

- `Queue`: the queues.
- `Queue.greatestCapacity`: the room of the greatest queue there is.
- `Queue.room`: whether an item would be accepted.
- `Queue.roomForWaiting`: whether one would be whose sender already waits.
- `Queue.push`, `Queue.pop?`: sending and receiving.
-/

namespace MeshRegistry

/-- A bounded queue. -/
structure Queue (α : Type) where
  /-- How many items may wait. -/
  capacity : Nat
  /-- The waiting items, the oldest first. -/
  items : List α := []
  /-- Whether there is still a sender. -/
  hasSender : Bool := true
  /-- Whether there is still a receiver. -/
  hasReceiver : Bool := true
deriving DecidableEq

/-- Whether a queue accepts an item. -/
inductive Room where
  /-- There is room. -/
  | free
  /-- There will be room when an item has been received. -/
  | full
  /-- A side is gone. -/
  | gone
deriving DecidableEq, Repr

namespace Queue

variable {α : Type}

/-- No queue has room for more items: three of the 64 bits that count the room are taken. -/
def greatestCapacity : Nat := 0x1FFFFFFFFFFFFFFF

/-- Whether an item would be accepted. -/
def room (q : Queue α) : Room :=
  if q.hasSender && q.hasReceiver then if q.items.length < q.capacity then .free else .full
  else .gone

/-- Whether the item of a sender that waits would be accepted. Such a sender stays as long as it
waits, even if no other item may be sent any more. -/
def roomForWaiting (q : Queue α) : Room :=
  if q.hasReceiver then if q.items.length < q.capacity then .free else .full
  else .gone

theorem roomForWaiting_of_hasSender {q : Queue α} (h : q.hasSender = true) :
    q.roomForWaiting = q.room := by
  simp [roomForWaiting, room, h]

theorem room_eq_free_iff {q : Queue α} :
    q.room = .free ↔ q.hasSender = true ∧ q.hasReceiver = true ∧ q.items.length < q.capacity := by
  unfold room
  split
  · split <;> simp_all
  · simp_all

theorem roomForWaiting_eq_free_iff {q : Queue α} :
    q.roomForWaiting = .free ↔ q.hasReceiver = true ∧ q.items.length < q.capacity := by
  unfold roomForWaiting
  split
  · split <;> simp_all
  · simp_all

theorem roomForWaiting_eq_gone_iff {q : Queue α} :
    q.roomForWaiting = .gone ↔ q.hasReceiver = false := by
  unfold roomForWaiting
  split
  · split <;> simp_all
  · simp_all

theorem room_ne_gone {q : Queue α} (hsender : q.hasSender = true)
    (hreceiver : q.hasReceiver = true) : q.room ≠ .gone := by
  simp only [room, hsender, hreceiver, Bool.and_self, if_true]
  split <;> simp

/-- The queue with one more item at its end. -/
def push (q : Queue α) (a : α) : Queue α := { q with items := q.items ++ [a] }

/-- The queue with one more item where there is room, and as it was where there is none. -/
def offer (q : Queue α) (a : α) : Queue α :=
  match q.room with
  | .free => q.push a
  | .full => q
  | .gone => q

theorem items_offer {q : Queue α} (hsender : q.hasSender = true) (hreceiver : q.hasReceiver = true)
    (a : α) : (q.offer a).items = q.items ++ if q.items.length < q.capacity then [a] else [] := by
  by_cases hroom : q.items.length < q.capacity <;>
    simp [offer, room, hsender, hreceiver, hroom, push]

theorem sides_offer (q : Queue α) (a : α) :
    (q.offer a).hasSender = q.hasSender ∧ (q.offer a).hasReceiver = q.hasReceiver ∧
      (q.offer a).capacity = q.capacity := by
  unfold offer
  split <;> exact ⟨rfl, rfl, rfl⟩

/-- The oldest item, and the queue without it. -/
def pop? (q : Queue α) : Option (α × Queue α) :=
  match q.items with
  | [] => none
  | a :: rest => some (a, { q with items := rest })

theorem exists_items_of_pop? {q q' : Queue α} {a : α} (h : q.pop? = some (a, q')) :
    ∃ rest, q.items = a :: rest ∧ q' = { q with items := rest } := by
  unfold pop? at h
  split at h
  · cases h
  next first rest hitems =>
    cases h
    exact ⟨rest, hitems, rfl⟩

/-- The queue without its items. -/
def drained (q : Queue α) : Queue α := { q with items := [] }

/-- The queue after its sender has gone. -/
def dropSender (q : Queue α) : Queue α := { q with hasSender := false }

/-- The queue after its receiver has gone; nobody will see the waiting items. -/
def dropReceiver (q : Queue α) : Queue α := { q with items := [], hasReceiver := false }

end Queue

end MeshRegistry
