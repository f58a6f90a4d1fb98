import Custody.Tracking.Wrapper

/-!
# The pending queue

Releases wait in a queue until a drain takes all of them at once.  Every such
snapshot closes a generation; what arrives later belongs to the next one.  A
drain that stops early puts the items it did not get to back at the front.

The number of waiting items is kept beside them, so that it can be read on its
own.
-/

namespace Custody

/-- Waiting items, oldest first, their number, and the current generation. -/
structure PendingQueue (α : Type) where
  items : List α
  count : Nat
  generation : Nat
deriving Repr

namespace PendingQueue

variable {α : Type}

/-- The queue in which nothing waits. -/
def empty : PendingQueue α where
  items := []
  count := 0
  generation := 0

/-- Add an item at the back. -/
def push (queue : PendingQueue α) (item : α) : PendingQueue α :=
  { queue with
    items := queue.items ++ [item]
    count := queue.count + 1 }

/-- Take every item and open the next generation. -/
def takeSnapshot (queue : PendingQueue α) : List α × PendingQueue α :=
  (queue.items,
    { items := []
      count := queue.count - queue.items.length
      generation := queue.generation + 1 })

/-- Put items back at the front, in their order. -/
def requeueFront (queue : PendingQueue α) (items : List α) : PendingQueue α :=
  { queue with
    items := items ++ queue.items
    count := queue.count + items.length }

/-- Whether anything waits. -/
def hasPending (queue : PendingQueue α) : Bool :=
  decide (0 < queue.count)

@[simp]
theorem items_push
    (queue : PendingQueue α)
    (item : α) :
    (queue.push item).items = queue.items ++ [item] :=
  rfl

@[simp]
theorem items_requeueFront
    (queue : PendingQueue α)
    (items : List α) :
    (queue.requeueFront items).items = items ++ queue.items :=
  rfl

@[simp]
theorem items_takeSnapshot (queue : PendingQueue α) :
    queue.takeSnapshot.2.items = [] :=
  rfl

@[simp]
theorem generation_takeSnapshot (queue : PendingQueue α) :
    queue.takeSnapshot.2.generation = queue.generation + 1 :=
  rfl

/-- The diagnostic form of a queue. -/
def describe (queue : PendingQueue α) : String :=
  Text.braced "PendingQueue"
    [ ("pending_count", toString queue.count),
      ("generation", toString queue.generation) ]

end PendingQueue

/-- A record that waits for its release, with the hook to run first. -/
structure PendingRelease where
  record : RecordRef
  hook : Option Hook
deriving DecidableEq, Repr

end Custody
