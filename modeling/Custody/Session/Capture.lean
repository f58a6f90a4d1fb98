import Custody.Interpreter.Items
import Custody.Interpreter.Report
import Custody.Session.Wrapping

/-!
# Capturing exceptions

Taking the pending error out of the interpreter as a captured exception, and
putting a captured exception back.  A capture normalizes the error first; if
that raises, the new error is captured in its place.
-/

namespace Custody

namespace CapturedException

/-- The traceback of a triple, or else of its value, of which it takes a reference. -/
def completeTraceback
    (interp : Interpreter)
    (value : Handle)
    (traceback : Option Handle) :
    Option Handle × Interpreter :=
  match traceback with
  | some entry => (some entry, interp)
  | none =>
      match interp.heap.tracebackOf value with
      | none => (none, interp)
      | some entry =>
          match interp.incref entry with
          | .ok interp => (some entry, interp)
          | .error _ => (none, interp)

/--
Wrap the components of a normalized triple, which takes over their references.
The wrappers made before one that fails are dropped, the latest first.
-/
def ofNormalized (triple : Triple) : Op CapturedException := do
  match triple.value with
  | none =>
      Op.changeInterp fun interp => interp.release triple.type
      Op.fail (.misuse .valueMissing)
  | some value =>
      let traceback ← Op.withInterp fun interp =>
        completeTraceback interp value triple.traceback
      let session ← Op.session
      let typeName := session.interp.heap.className triple.type
      let valueText := session.interp.heap.str value
      let typeWrapper ← Wrapper.ofOwned triple.type
      let valueWrapper ← (Wrapper.ofOwned value).orDrop [typeWrapper]
      match traceback with
      | none => return ⟨typeWrapper, valueWrapper, none, typeName, valueText⟩
      | some entry =>
          let tracebackWrapper ←
            (Wrapper.ofOwned entry).orDrop [valueWrapper, typeWrapper]
          return ⟨typeWrapper, valueWrapper, some tracebackWrapper, typeName, valueText⟩

/-- Normalize and wrap a triple, giving up after a number of attempts. -/
def ofTriple : Nat → Triple → Op CapturedException
  | 0, triple => do
      Op.changeInterp fun interp => interp.releaseTriple triple
      Op.fail (.misuse .normalizationEndless)
  | attempts + 1, triple => do
      match ← Op.withInterp fun interp => interp.normalize triple with
      | .ok triple => ofNormalized triple
      | .error _ =>
          Op.changeInterp fun interp => interp.releaseTriple triple
          let session ← Op.session
          match session.interp.fetch with
          | none => Op.fail (.misuse .errorMissing)
          | some (next, interp) =>
              Op.changeInterp fun _ => interp
              ofTriple attempts next

/-- The number of attempts at normalizing an error that keeps raising. -/
def normalizationAttempts : Nat :=
  8

/-- Capture the pending error, if there is one. -/
def fetch : Op (Option CapturedException) := do
  let session ← Op.session
  match session.interp.fetch with
  | none => return none
  | some (triple, interp) =>
      Op.changeInterp fun _ => interp
      return some (← ofTriple normalizationAttempts triple)

/-- Capture the error that a call has just raised, and end with it. -/
def raised {α : Type} : Op α := do
  match ← fetch with
  | some exception => Op.fail (.foreign exception)
  | none => Op.fail (.misuse .raisedNothing)

/-- End with the pending error, if there is one. -/
def checkPending : Op Unit := do
  match ← fetch with
  | some exception => Op.fail (.foreign exception)
  | none => return

/-! ## Reading -/

/-- Whether a captured exception matches a class, or any class of a list. -/
def isMatchedBy
    (exception : CapturedException)
    (pattern : Handle)
    (session : Session) :
    Bool :=
  session.interp.givenMatches (exception.type.handle session) pattern

/-- The report of a captured exception that has a traceback. -/
def report? (exception : CapturedException) (session : Session) : Option String :=
  exception.traceback.map fun traceback =>
    session.interp.report (exception.type.handle session)
      (some (exception.value.handle session)) (some (traceback.handle session))

/-- Capture the cause of a captured exception, if it has one. -/
def cause (exception : CapturedException) : Op (Option CapturedException) := do
  exception.value.requireOwn "cause"
  let session ← Op.session
  match session.interp.heap.causeOf (exception.value.handle session) with
  | none => return none
  | some cause =>
      let type ← Op.ofHeap (session.interp.typeOf cause)
      let traceback := session.interp.heap.tracebackOf cause
      Op.tryInterp fun interp => interp.incref type
      Op.tryInterp fun interp => interp.incref cause
      match traceback with
      | none => pure ()
      | some entry => Op.tryInterp fun interp => interp.incref entry
      return some (← ofNormalized ⟨type, some cause, traceback⟩)

/-! ## Putting back -/

/-- Make a captured exception pending, keeping its wrappers. -/
def restoreClone (exception : CapturedException) : Op Unit := do
  exception.value.requireOwn "restore"
  let session ← Op.session
  let type := exception.type.handle session
  let value := exception.value.handle session
  let traceback := exception.traceback.map fun wrapper => wrapper.handle session
  Op.tryInterp fun interp => interp.incref type
  Op.tryInterp fun interp => interp.incref value
  match traceback with
  | none => pure ()
  | some entry => Op.tryInterp fun interp => interp.incref entry
  Op.changeInterp fun interp => interp.restore ⟨type, some value, traceback⟩

/--
Make a captured exception pending, handing over its references.  If that fails,
the wrappers not yet given up are dropped.
-/
def restore (exception : CapturedException) : Op Unit := do
  let tracebacks := exception.traceback.toList
  (exception.value.requireOwn "restore").orDrop exception.wrappers
  let type ← exception.type.intoHandle.orDrop (exception.value :: tracebacks)
  let value ← exception.value.intoHandle.orDrop tracebacks
  let traceback ←
    match exception.traceback with
    | none => pure none
    | some wrapper => some <$> wrapper.intoHandle
  Op.changeInterp fun interp => interp.restore ⟨type, some value, traceback⟩

end CapturedException

namespace Wrapper

/-- Wrap the item of a container at an index. -/
def getItem (wrapper : Wrapper) (index : Int) : Op Wrapper := do
  wrapper.requireOwn "get_item"
  let session ← Op.session
  match ← Op.withInterp fun interp => interp.getItem (wrapper.handle session) index with
  | .ok item => ofOwned item
  | .error _ => CapturedException.raised

end Wrapper

end Custody
