import Custody.Tracking.Journal
import Custody.Tracking.Tracker

/-!
# The registry

All records and trackers of the host, whichever runtime they belong to, and the
journal.  Deferring a release needs nothing else: it moves the record to
deferred and queues it, and leaves the interpreter alone.
-/

namespace Custody

/-- The records, the trackers, the journal, and the number of the next subscription. -/
structure Registry where
  records : Array Record
  trackers : Array Tracker
  journal : List Event
  nextSubscription : Nat

namespace Registry

/-- The registry without records or trackers. -/
def empty : Registry where
  records := #[]
  trackers := #[]
  journal := []
  nextSubscription := 1

/-! ## Parts -/

/-- The record at a position. -/
def record (registry : Registry) (ref : RecordRef) : Record :=
  registry.records.getD ref .absent

/-- The tracker at a position; where there is none, one without records. -/
def tracker (registry : Registry) (ref : TrackerRef) : Tracker :=
  registry.trackers.getD ref (.new false)

/-- Change the tracker at a position. -/
def updateTracker
    (registry : Registry)
    (ref : TrackerRef)
    (change : Tracker → Tracker) :
    Registry :=
  { registry with trackers := registry.trackers.modify ref change }

/-- Change the pending queue of a tracker. -/
def updateQueue
    (registry : Registry)
    (ref : TrackerRef)
    (change : PendingQueue PendingRelease → PendingQueue PendingRelease) :
    Registry :=
  registry.updateTracker ref fun tracker =>
    { tracker with queue := change tracker.queue }

/-- Move a record to a state. -/
def setState
    (registry : Registry)
    (ref : RecordRef)
    (state : RecordState) :
    Registry :=
  { registry with
    records := registry.records.modify ref fun record => { record with state } }

/-- Add an entry to the journal. -/
def enter (registry : Registry) (event : Event) : Registry :=
  { registry with journal := registry.journal ++ [event] }

/-- Add an announcement to the journal. -/
def announce (registry : Registry) (notice : Notice) : Registry :=
  registry.enter (.notice notice)

/-- Add a tracker. -/
def addTracker (registry : Registry) (defers : Bool) : TrackerRef × Registry :=
  (registry.trackers.size,
    { registry with trackers := registry.trackers.push (.new defers) })

/-- One more wrapper or hook holds a tracker. -/
def hold (registry : Registry) (ref : TrackerRef) : Registry :=
  registry.updateTracker ref fun tracker => { tracker with holders := tracker.holders + 1 }

/-- One runtime, wrapper or hook fewer holds a tracker. -/
def leave (registry : Registry) (ref : TrackerRef) : Registry :=
  registry.updateTracker ref fun tracker => { tracker with holders := tracker.holders - 1 }

/-- The number of records that are live. -/
def liveRecords (registry : Registry) : Nat :=
  registry.records.countP fun record => decide (record.state = .live)

/-! ## Owners -/

/-- The records of a tracker that own a reference to an object. -/
def ownersOf
    (registry : Registry)
    (ref : TrackerRef)
    (handle : Handle) :
    List RecordRef :=
  (registry.tracker ref).owners.of handle

/-- Strike a record from the owners that a tracker lists for its object. -/
def unregister
    (registry : Registry)
    (ref : TrackerRef)
    (record : RecordRef) :
    Registry :=
  let struck := registry.record record
  let keep := fun other => decide ((registry.record other).id ≠ struck.id)
  registry.updateTracker ref fun tracker =>
    { tracker with owners := tracker.owners.restrict struck.handle keep }

/-- Add a live record for one reference to an object. -/
def addRecord
    (registry : Registry)
    (ref : TrackerRef)
    (handle : Handle)
    (typeName : String) :
    RecordRef × Registry :=
  let tracker := registry.tracker ref
  let record : Record :=
    { id := tracker.nextId
      handle
      typeName
      generation := tracker.queue.generation
      state := .live
      collected := false }
  let position := registry.records.size
  let registry := { registry with records := registry.records.push record }
  (position,
    registry.updateTracker ref fun tracker =>
      { tracker with
        owners := tracker.owners.add handle position
        nextId := tracker.nextId + 1 })

/-! ## Leaving the registry -/

/-- Mark a record released by a drain, and strike it. -/
def completeRelease
    (registry : Registry)
    (ref : TrackerRef)
    (record : RecordRef) :
    Registry :=
  let change := fun entry : Record =>
    { entry with
      state := if entry.state = .deferred then .released else entry.state
      collected := true }
  { registry with records := registry.records.modify record change }.unregister ref record

/-- Detach a deferred record, leaving its reference alone, and strike it. -/
def quarantine
    (registry : Registry)
    (ref : TrackerRef)
    (record : RecordRef) :
    Registry :=
  let registry :=
    if (registry.record record).state = .deferred then
      registry.setState record .detached
    else
      registry
  registry.unregister ref record

@[simp]
theorem journal_quarantine
    (registry : Registry)
    (ref : TrackerRef)
    (record : RecordRef) :
    (registry.quarantine ref record).journal = registry.journal := by
  rw [quarantine]
  split
  · rfl
  · rfl

/-- Give up a live record without giving its reference back, and strike it. -/
def detach
    (registry : Registry)
    (ref : TrackerRef)
    (record : RecordRef) :
    Except BridgeError Handle × Registry :=
  let entry := registry.record record
  if entry.state = .live then
    (.ok entry.handle, (registry.setState record .detached).unregister ref record)
  else
    (.error (.misuse (.notLive "detach" entry.id entry.handle entry.state)), registry)

/-- Take neither registrations nor deferrals any more. -/
def close (registry : Registry) (ref : TrackerRef) : Registry :=
  registry.updateTracker ref fun tracker => { tracker with isOpen := false }

/-! ## Deferring -/

/--
Move a live record to deferred and queue it with its hook.  A closed tracker,
or one that does not defer, leaves the record out of the queue.  The hook comes
back unless it was queued.
-/
def offerRelease
    (registry : Registry)
    (ref : TrackerRef)
    (record : RecordRef)
    (hook : Option Hook) :
    Option Hook × Registry :=
  if (registry.record record).state = .live then
    let registry := registry.setState record .deferred
    let tracker := registry.tracker ref
    if tracker.isOpen && tracker.defers then
      (none,
        (registry.updateQueue ref fun queue => queue.push ⟨record, hook⟩).enter
          (.deferred record))
    else
      (hook, registry)
  else
    (hook, registry)

/-! ## Diagnostic forms -/

/-- The diagnostic form of waiting releases. -/
def describeBatch (registry : Registry) (batch : List PendingRelease) : String :=
  Text.bracketed <| batch.map fun item =>
    Text.braced "PendingRelease"
      [ ("record", (registry.record item.record).describe),
        ("has_hook", toString item.hook.isSome) ]

/-- The diagnostic form of a wrapper. -/
def describeWrapper (registry : Registry) (wrapper : Wrapper) : String :=
  let record := registry.record wrapper.record
  Text.braced "ForeignObject"
    [ ("handle", record.handle.describe),
      ("type_name", Text.quoted record.typeName),
      ("state", record.state.name) ]

end Registry

end Custody
