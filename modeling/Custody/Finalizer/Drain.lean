import Custody.Finalizer.Delivery

/-!
# Drains

A drain takes a snapshot of the pending queue and releases its records one
after another.  For each it runs the dispose hook, checks that the object has
at least as many references as records that own one, gives one reference back,
and checks the count that remains.

* A hook that fails, a reference that cannot be given back and a remaining
  count that is too low are reported, and the drain goes on.
* A mismatch that no resolver settles stops the drain.  The record is
  quarantined, and the items not taken up return to the front of the queue.
* A panic stops the drain too.  The record in hand is quarantined if it still
  was deferred, and the items not taken up return to the front of the queue.

Only one drain runs at a time.  A drain asked for while another one runs does
nothing.
-/

namespace Custody.Session

/-- How the drain of one item ends. -/
inductive ItemEnd where
  /-- Nothing was released. -/
  | skipped
  /-- The record was released. -/
  | released (entry : CollectedObject)
  /-- The counts do not match. -/
  | stopped (mismatch : Mismatch)
  /-- A callback panicked. -/
  | panicked (panic : Panic)

/-- How the drain of a batch ends, with what it released. -/
inductive BatchEnd where
  | completed (log : List CollectedObject)
  | stopped (log : List CollectedObject) (mismatch : Mismatch)
  | panicked (panic : Panic)

/-! ## One item -/

/-- The records that own a reference to the object of a record. -/
def impacted (session : Session) (ref : RecordRef) : List RecordRef :=
  session.registry.ownersOf session.tracker (session.record ref).handle

/-- How many other records own a reference to the object of a record. -/
def otherOwners (session : Session) (ref : RecordRef) : Nat :=
  (session.impacted ref).countP fun other =>
    decide ((session.record other).id ≠ (session.record ref).id)

/--
The mismatch, if any, before a release: the object of the record has fewer
references than owners, counting the record itself.
-/
def mismatch? (session : Session) (ref : RecordRef) : Option Mismatch :=
  let handle := (session.record ref).handle
  let observed := (session.interp.heap.refcount? handle).getD 0
  let expected := session.otherOwners ref + 1
  if (expected : Int) ≤ observed then
    none
  else
    some ⟨handle, observed, expected, session.impacted ref⟩

/--
The mismatch, if any, after a release: fewer references remain than there are
other owners.
-/
def shortfall?
    (session : Session)
    (ref : RecordRef)
    (remaining : Int) :
    Option Mismatch :=
  let expected := session.otherOwners ref
  if (expected : Int) ≤ remaining then
    none
  else
    some ⟨(session.record ref).handle, remaining, expected, session.impacted ref⟩

/-- Run the hook of an item; a failure is reported. -/
def runHook
    (ref : RecordRef)
    (hook : Option Hook)
    (session : Session) :
    Except Panic Unit × Session :=
  match hook with
  | none => (.ok (), session)
  | some hook =>
      let session := session.enter (.hookRan ref)
      let (failure, registry) := hook.run ref session.registry
      let session := { session with registry }
      match failure with
      | none => (.ok (), session)
      | some text =>
          report (some ref) (.disposeHook text) (session.enter (.fault (.hookFailed ref)))

/-- Check the count of a record's object; `some` is a mismatch that nothing settled. -/
def validate
    (nested : Session → Except Abort Nat × Session)
    (ref : RecordRef)
    (session : Session) :
    Except Panic (Option Mismatch) × Session :=
  match session.mismatch? ref with
  | none => (.ok none, session)
  | some mismatch =>
      match offer nested mismatch session.finalizer.resolvers.callbacks session with
      | (.error panic, session) => (.error panic, session)
      | (.ok true, session) => (.ok none, session)
      | (.ok false, session) => (.ok (some mismatch), session)

/-- Check the count that remained after a release; too low a count is reported. -/
def checkRemaining
    (ref : RecordRef)
    (remaining : Int)
    (session : Session) :
    Except Panic Unit × Session :=
  match session.shortfall? ref remaining with
  | none => (.ok (), session)
  | some mismatch =>
      report (some ref) (.incorrectRefCount mismatch)
        (session.enter (.fault (.shortfall ref)))

/-- Mark a record released, and the entry for it in the log of the drain. -/
def complete
    (generation : Nat)
    (ref : RecordRef)
    (session : Session) :
    CollectedObject × Session :=
  let record := session.record ref
  (⟨record.id, record.handle, record.typeName, generation⟩,
    session.updateRegistry fun registry => registry.completeRelease session.tracker ref)

/-- Quarantine a record. -/
def quarantine (session : Session) (ref : RecordRef) : Session :=
  session.updateRegistry fun registry => registry.quarantine session.tracker ref

/-- Give back the reference of a record whose count was found to be in order. -/
def drainReference
    (validates : Bool)
    (generation : Nat)
    (ref : RecordRef)
    (session : Session) :
    ItemEnd × Session :=
  match session.interp.decref (session.record ref).handle with
  | .error reason =>
      let session := (session.quarantine ref).enter (.fault (.dropFailed ref))
      match report (some ref) (.heap reason) session with
      | (.error panic, session) => (.panicked panic, session)
      | (.ok (), session) => (.skipped, session)
  | .ok (remaining, interp) =>
      let session := { session with interp }.enter (.dropped ref)
      let (checked, session) :=
        if validates then checkRemaining ref remaining session else (.ok (), session)
      match checked with
      | .error panic => (.panicked panic, session)
      | .ok () =>
          let (entry, session) := session.complete generation ref
          (.released entry, session)

/-- Drain one item. -/
def drainItem
    (nested : Session → Except Abort Nat × Session)
    (validates : Bool)
    (generation : Nat)
    (item : PendingRelease)
    (session : Session) :
    ItemEnd × Session :=
  let ref := item.record
  match runHook ref item.hook (session.enter (.takenUp ref)) with
  | (.error panic, session) => (.panicked panic, session)
  | (.ok (), session) =>
      if (session.record ref).state ≠ .deferred then
        (.skipped, session)
      else
        let (checked, session) :=
          if validates then validate nested ref session else (.ok none, session)
        match checked with
        | .error panic => (.panicked panic, session)
        | .ok (some mismatch) =>
            (.stopped mismatch,
              (session.quarantine ref).enter (.fault (.mismatched ref)))
        | .ok none => drainReference validates generation ref session

/-! ## A batch -/

/-- Quarantine the record in hand after a panic, if it still was deferred. -/
def abandon (session : Session) (ref : RecordRef) : Session :=
  if (session.record ref).state = .deferred then session.quarantine ref else session

/-- Drain the items of a batch in order; `log` holds what was released before. -/
def drainBatch
    (nested : Session → Except Abort Nat × Session)
    (validates : Bool)
    (generation : Nat) :
    List PendingRelease → List CollectedObject → Session → BatchEnd × Session
  | [], log, session => (.completed log, session)
  | item :: rest, log, session =>
      match drainItem nested validates generation item session with
      | (.skipped, session) =>
          drainBatch nested validates generation rest log session
      | (.released entry, session) =>
          drainBatch nested validates generation rest (log ++ [entry]) session
      | (.stopped mismatch, session) =>
          (.stopped log mismatch, session.requeueFront rest)
      | (.panicked panic, session) =>
          (.panicked panic, (session.abandon item.record).requeueFront rest)

/-! ## The drain -/

/-- Mark a drain as running or not. -/
def setDraining (draining : Bool) (session : Session) : Session :=
  session.updateFinalizer fun finalizer => { finalizer with draining }

/-- Record the end of a drain. -/
def finish (log : List CollectedObject) (session : Session) : Session :=
  session.updateFinalizer fun finalizer => finalizer.finish log

/-- Drain the current generation; `nested` answers drains asked for meanwhile. -/
def drain
    (nested : Session → Except Abort Nat × Session)
    (session : Session) :
    Except Abort Nat × Session :=
  let (generation, batch, session) := (session.setDraining true).takeSnapshot
  let validates := session.finalizer.validates
  match drainBatch nested validates generation batch [] session with
  | (.panicked panic, session) =>
      (.error (.panic panic), session.setDraining false)
  | (.stopped log mismatch, session) =>
      (.error (.error (.incorrectRefCount mismatch)),
        ((session.finish log).updateFinalizer Finalizer.countError).setDraining false)
  | (.completed log, session) =>
      let session := session.finish log
      let (delivered, session) :=
        if log.isEmpty then
          (.ok (), session)
        else
          reportCollected log.length generation session
      match delivered with
      | .error panic => (.error (.panic panic), session.setDraining false)
      | .ok () => (.ok log.length, session.setDraining false)

/-- Drain unless a drain is running; drains may nest to the given depth. -/
def collectWithin : Nat → Session → Except Abort Nat × Session
  | 0, session => (.ok 0, session)
  | depth + 1, session =>
      if session.finalizer.draining then
        (.ok 0, session)
      else
        session.drain (collectWithin depth)

/--
Release what waits in the pending queue.  The number of released records is
returned.  A depth of two is enough: a drain that is asked for while this one
runs finds it running.
-/
def collect (session : Session) : Except Abort Nat × Session :=
  session.collectWithin 2

@[simp]
theorem collect_of_draining
    (session : Session)
    (draining : session.finalizer.draining = true) :
    session.collect = (.ok 0, session) := by
  simp [collect, collectWithin, draining]

/-- Whether enough waits for a registration to start a drain. -/
def shouldCollect (session : Session) : Bool :=
  decide (session.finalizer.threshold ≤ session.queue.count)

/-- Drain and report an error instead of returning it; a panic passes through. -/
def collectReporting (session : Session) : Except Panic Nat × Session :=
  match session.collect with
  | (.ok count, session) => (.ok count, session)
  | (.error (.panic panic), session) => (.error panic, session)
  | (.error (.error error), session) =>
      match report none error session with
      | (.ok (), session) => (.ok 0, session)
      | (.error panic, session) => (.error panic, session)

/-- Drain if enough waits. -/
def collectThrottled (session : Session) : Except Panic Nat × Session :=
  if session.shouldCollect then session.collectReporting else (.ok 0, session)

/-- Report an error on the host's own account. -/
def reportFault
    (record : Option RecordRef)
    (error : BridgeError)
    (session : Session) :
    Except Panic Unit × Session :=
  report record error (session.enter (.fault .reported))

end Custody.Session
