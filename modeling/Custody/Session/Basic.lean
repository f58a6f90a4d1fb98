import Custody.Finalizer.Basic
import Custody.Interpreter.ExceptionTable
import Custody.Interpreter.Pending
import Custody.Tracking.Holding

/-!
# Embeddings and sessions

An embedding is one interpreter with its table of exceptions, its tracker and
its finalizer.  A session is an embedding whose lock is held, together with the
registry: everything that an operation of the bridge can reach.
-/

namespace Custody

/-- One runtime of the bridge. -/
structure Embedding where
  number : Nat
  config : Config
  interp : Interpreter
  table : ExceptionTable
  tracker : TrackerRef
  finalizer : Finalizer
  isShutDown : Bool

/-- A runtime whose lock is held, with the registry. -/
structure Session extends Embedding where
  registry : Registry

/--
An operation of the bridge.  It changes the session and ends with a result, an
error or a panic; what it did before it ended early stays done.
-/
abbrev Op (α : Type) := ExceptT Abort (StateM Session) α

namespace Op

variable {α : Type}

/-- The operation that a function on sessions describes. -/
def of (step : Session → Except Abort α × Session) : Op α :=
  step

/-- Run an operation. -/
def on (op : Op α) (session : Session) : Except Abort α × Session :=
  op session

/-- End with an error. -/
def fail (error : BridgeError) : Op α :=
  of fun session => (.error (.error error), session)

/-- End with an error of the heap if there is one. -/
def ofHeap (result : Except HeapError α) : Op α :=
  match result with
  | .ok value => pure value
  | .error reason => fail (.heap reason)

end Op

namespace Session

/-! ## Parts -/

/-- Change the interpreter. -/
def updateInterp
    (session : Session)
    (change : Interpreter → Interpreter) :
    Session :=
  { session with interp := change session.interp }

/-- Change the finalizer. -/
def updateFinalizer
    (session : Session)
    (change : Finalizer → Finalizer) :
    Session :=
  { session with finalizer := change session.finalizer }

/-- Change the registry. -/
def updateRegistry
    (session : Session)
    (change : Registry → Registry) :
    Session :=
  { session with registry := change session.registry }

/-- Add an entry to the journal. -/
def enter (session : Session) (event : Event) : Session :=
  session.updateRegistry fun registry => registry.enter event

/-- Add an announcement to the journal. -/
def announce (session : Session) (notice : Notice) : Session :=
  session.enter (.notice notice)

/-- The tracker of the runtime. -/
def ownTracker (session : Session) : Tracker :=
  session.registry.tracker session.tracker

/-- The pending queue of the runtime. -/
def queue (session : Session) : PendingQueue PendingRelease :=
  session.ownTracker.queue

/-- A record, whichever runtime it belongs to. -/
def record (session : Session) (ref : RecordRef) : Record :=
  session.registry.record ref

/-- What the finalizer is doing. -/
def finalizerState (session : Session) : FinalizerState :=
  if session.finalizer.draining then
    .draining
  else if session.queue.hasPending then
    .accumulating
  else
    .idle

/-! ## Subscribing -/

/-- Draw the number of a new subscription. -/
def nextSubscription (session : Session) : SubscriptionId × Session :=
  (session.registry.nextSubscription,
    session.updateRegistry fun registry =>
      { registry with nextSubscription := registry.nextSubscription + 1 })

/-- Subscribe to finished drains. -/
def onCollect
    (session : Session)
    (handler : Handler) :
    SubscriptionId × Session :=
  let (id, session) := session.nextSubscription
  (id,
    session.updateFinalizer fun finalizer =>
      { finalizer with collectHandlers := finalizer.collectHandlers.add id handler })

/-- Subscribe to reported errors. -/
def onError
    (session : Session)
    (handler : Handler) :
    SubscriptionId × Session :=
  let (id, session) := session.nextSubscription
  (id,
    session.updateFinalizer fun finalizer =>
      { finalizer with errorHandlers := finalizer.errorHandlers.add id handler })

/-- Subscribe to mismatches. -/
def addResolver
    (session : Session)
    (resolver : Resolver) :
    SubscriptionId × Session :=
  let (id, session) := session.nextSubscription
  (id,
    session.updateFinalizer fun finalizer =>
      { finalizer with resolvers := finalizer.resolvers.add id resolver })

/-- End a subscription. -/
def unsubscribe
    (session : Session)
    (id : SubscriptionId) :
    Bool × Session :=
  let (found, finalizer) := session.finalizer.unsubscribe id
  (found, { session with finalizer })

/-! ## Records -/

/-- Take ownership of one reference to an object. -/
def register
    (session : Session)
    (handle : Handle) :
    Except BridgeError (RecordRef × Session) :=
  if handle.isNull then
    .error .nullHandle
  else if !session.ownTracker.isOpen then
    .error (.misuse (.registerClosed handle))
  else
    match session.interp.typeName handle with
    | .error reason => .error (.misuse (.registerStale handle reason))
    | .ok typeName =>
        let (record, registry) :=
          session.registry.addRecord session.tracker handle typeName
        .ok (record, { session with registry })

/-- Give back the reference of a live record now. -/
def releaseNow (session : Session) (ref : RecordRef) : Except Abort Unit × Session :=
  let record := session.record ref
  if record.state = .live then
    let session := session.updateRegistry fun registry =>
      (registry.setState ref .released).unregister session.tracker ref
    match session.interp.decref record.handle with
    | .ok (_, interp) => (.ok (), { session with interp }.enter (.dropped ref))
    | .error reason => (.error (.error (.heap reason)), session)
  else
    (.error <| .error <| .misuse <|
        .notLive "release_now" record.id record.handle record.state,
      session)

/-- Give up a live record without giving its reference back. -/
def detach
    (session : Session)
    (ref : RecordRef) :
    Except Abort Handle × Session :=
  let (result, registry) := session.registry.detach session.tracker ref
  (result.mapError Abort.error, { session with registry })

/-- Defer the release of a record on the runtime's tracker. -/
def deferRelease
    (session : Session)
    (ref : RecordRef)
    (hook : Option Hook) :
    Session :=
  session.updateRegistry fun registry =>
    registry.deferRelease session.tracker ref hook

/-- Drop a wrapper. -/
def dropWrapper (session : Session) (wrapper : Wrapper) : Session :=
  session.updateRegistry fun registry => registry.dropWrapper wrapper

/-- The end of a new hook, which holds the runtime's tracker. -/
def newHook (session : Session) : Hook × Session :=
  (.done session.tracker,
    session.updateRegistry fun registry => registry.hold session.tracker)

/-- Take everything from the pending queue; the first answer is its generation. -/
def takeSnapshot (session : Session) : Nat × List PendingRelease × Session :=
  let (items, queue) := session.queue.takeSnapshot
  (session.queue.generation, items,
    session.updateRegistry fun registry =>
      registry.updateQueue session.tracker fun _ => queue)

/-- Put releases back at the front of the pending queue. -/
def requeueFront (session : Session) (items : List PendingRelease) : Session :=
  session.updateRegistry fun registry =>
    registry.updateQueue session.tracker fun queue => queue.requeueFront items

/-- Add a release to the pending queue, whatever the state of its record. -/
def push (session : Session) (item : PendingRelease) : Session :=
  session.updateRegistry fun registry =>
    registry.updateQueue session.tracker fun queue => queue.push item

/-- Say whether dropped wrappers are queued. -/
def setDeferral (session : Session) (defers : Bool) : Session :=
  session.updateRegistry fun registry =>
    registry.updateTracker session.tracker fun tracker => { tracker with defers }

/--
Release a record at the end of its runtime, whether live or deferred.  The
answer counts the references given back: one, or none if the record owns none or
its object is gone.
-/
def releaseOwner (ref : RecordRef) (session : Session) : Nat × Session :=
  let record := session.record ref
  if record.state = .live ∨ record.state = .deferred then
    let session := session.updateRegistry fun registry => registry.setState ref .released
    match session.interp.decref record.handle with
    | .ok (_, interp) => (1, { session with interp }.enter (.dropped ref))
    | .error _ => (0, session)
  else
    (0, session)

/-- Release several records at the end of their runtime. -/
def releaseOwners : List RecordRef → Session → Nat × Session
  | [], session => (0, session)
  | ref :: rest, session =>
      let (first, session) := session.releaseOwner ref
      let (others, session) := releaseOwners rest session
      (first + others, session)

/--
Close the tracker, release every record that still owns its reference, and
discard what waits in the queue.  The number of references given back is
returned.
-/
def releaseAll (session : Session) : Nat × Session :=
  let session := session.updateRegistry fun registry => registry.close session.tracker
  let (_, discarded, session) := session.takeSnapshot
  let owners := session.ownTracker.owners.all
  let session := session.updateRegistry fun registry =>
    registry.updateTracker session.tracker fun tracker => { tracker with owners := [] }
  let (released, session) := releaseOwners owners session
  (released, session.updateRegistry fun registry => registry.discardBatch discarded)

end Session

end Custody
