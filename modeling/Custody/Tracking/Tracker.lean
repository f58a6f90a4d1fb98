import Custody.Tracking.Queue

/-!
# Trackers

A tracker keeps, for one runtime, the records that own a reference to each
object, and the queue of those that wait for their release.  Once it is closed
it takes neither registrations nor deferrals.

A tracker is there as long as its runtime, a wrapper or a hook holds it.
-/

namespace Custody

/-- For each object the records that own a reference to it, in the order of registration. -/
abbrev Owners := List (Handle × List RecordRef)

namespace Owners

/-- The records that own a reference to an object. -/
def of (owners : Owners) (handle : Handle) : List RecordRef :=
  (owners.lookup handle).getD []

/-- Add a record to the owners of an object. -/
def add
    (owners : Owners)
    (handle : Handle)
    (record : RecordRef) :
    Owners :=
  match owners with
  | [] => [(handle, [record])]
  | (key, records) :: rest =>
      if key = handle then
        (key, records ++ [record]) :: rest
      else
        (key, records) :: add rest handle record

/-- Keep only some owners of an object, and the object only if it has any left. -/
def restrict
    (owners : Owners)
    (handle : Handle)
    (keep : RecordRef → Bool) :
    Owners :=
  match owners with
  | [] => []
  | (key, records) :: rest =>
      if key = handle then
        match records.filter keep with
        | [] => rest
        | kept => (key, kept) :: rest
      else
        (key, records) :: restrict rest handle keep

/-- Every owner, object by object. -/
def all (owners : Owners) : List RecordRef :=
  owners.flatMap Prod.snd

@[simp]
theorem of_nil (handle : Handle) :
    of [] handle = [] :=
  rfl

theorem of_cons
    (key : Handle)
    (records : List RecordRef)
    (rest : Owners)
    (handle : Handle) :
    of ((key, records) :: rest) handle = if key = handle then records else of rest handle := by
  by_cases same : key = handle
  · simp [of, same]
  · have other : (handle == key) = false :=
      beq_eq_false_iff_ne.mpr fun equal => same equal.symm
    simp [of, List.lookup_cons, same, other]

@[simp]
theorem of_add_self
    (owners : Owners)
    (handle : Handle)
    (record : RecordRef) :
    (owners.add handle record).of handle = owners.of handle ++ [record] := by
  induction owners with
  | nil => simp [add, of_cons]
  | cons entry rest step =>
      obtain ⟨key, records⟩ := entry
      by_cases same : key = handle <;> simp [add, of_cons, same, step]

theorem of_add_of_ne
    {handle other : Handle}
    (owners : Owners)
    (record : RecordRef)
    (distinct : other ≠ handle) :
    (owners.add handle record).of other = owners.of other := by
  induction owners with
  | nil => simp [add, of_cons, distinct.symm]
  | cons entry rest step =>
      obtain ⟨key, records⟩ := entry
      by_cases same : key = handle
      · simp [add, of_cons, same, distinct.symm]
      · simp [add, of_cons, same, step]

theorem of_restrict_of_ne
    {handle other : Handle}
    (owners : Owners)
    (keep : RecordRef → Bool)
    (distinct : other ≠ handle) :
    (owners.restrict handle keep).of other = owners.of other := by
  induction owners with
  | nil => rfl
  | cons entry rest step =>
      obtain ⟨key, records⟩ := entry
      by_cases same : key = handle
      · cases kept : records.filter keep <;>
          simp [restrict, of_cons, same, distinct.symm, kept]
      · simp [restrict, of_cons, same, step]

end Owners

/-- The records and the queue of one runtime, and how many hold them. -/
structure Tracker where
  queue : PendingQueue PendingRelease
  owners : Owners
  nextId : Nat
  isOpen : Bool
  defers : Bool
  holders : Nat

namespace Tracker

/--
A tracker without records, held by its runtime; `defers` says whether dropped
wrappers are queued.
-/
def new (defers : Bool) : Tracker where
  queue := .empty
  owners := []
  nextId := 1
  isOpen := true
  defers
  holders := 1

/-- The number of records that own a reference. -/
def registered (tracker : Tracker) : Nat :=
  tracker.owners.all.length

/-- The diagnostic form of a tracker. -/
def describe (tracker : Tracker) : String :=
  Text.braced "ReferenceTracker"
    [ ("registered", toString tracker.registered),
      ("pending", toString tracker.queue.count),
      ("open", toString tracker.isOpen) ]

end Tracker

end Custody
