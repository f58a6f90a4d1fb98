import Custody.Interpreter.Warnings
import Custody.Session.Capture

/-!
# The error indicator

Setting, chaining and normalizing the pending error from the host's side, and
emitting warnings.  An error that the interpreter raises on the way is captured
and returned.
-/

namespace Custody.Indicator

/-- Make a new text of the given type the pending error. -/
def setError (type : Handle) (message : String) : Op Unit :=
  Op.tryInterp fun interp => interp.setError type message

/-- Make a type and the object of a wrapper the pending error. -/
def setErrorObject (type : Handle) (value : Wrapper) : Op Unit := do
  value.requireOwn "set_error_object"
  let session ← Op.session
  Op.tryInterp fun interp => interp.setErrorObject type (some (value.handle session))

/-- Chain a captured exception to the pending error as its cause. -/
def setCause (cause : CapturedException) : Op Unit := do
  cause.value.requireOwn "set_cause"
  let session ← Op.session
  let causeValue := cause.value.handle session
  if session.interp.pending.isNone then
    Op.fail (.misuse .nothingPending)
  else
    Op.tryInterp fun interp => interp.incref causeValue
    let session ← Op.session
    match session.interp.fetch with
    | none => Op.fail (.misuse .nothingPending)
    | some (current, interp) =>
        Op.changeInterp fun _ => interp
        match ← Op.withInterp fun interp => interp.normalize current with
        | .error _ =>
            Op.changeInterp fun interp =>
              (interp.release causeValue).releaseTriple current
            CapturedException.raised
        | .ok current =>
            match current.value with
            | none => pure ()
            | some value =>
                Op.tryInterp fun interp => interp.setCause value (some causeValue)
            Op.changeInterp fun interp => interp.restore current

/--
Normalize a triple.  While an error is pending this is refused; if the
normalization raises, the triple stays with the caller.
-/
def normalize (triple : Triple) : Op Triple := do
  let session ← Op.session
  match session.interp.errorType with
  | some pending =>
      Op.fail (.misuse (.alreadyPending (session.interp.heap.className pending)))
  | none =>
      match ← Op.withInterp fun interp => interp.normalize triple with
      | .ok triple => return triple
      | .error _ => CapturedException.raised

/-- A class of the runtime's table, or else the built-in class of that name. -/
def wellKnown? (session : Session) (name : String) : Option Handle :=
  session.table.get? name <|> session.interp.lookup name

/-- A class of the runtime's table or a built-in class, or an error for `operation`. -/
def wellKnown (operation name : String) : Op Handle := do
  let session ← Op.session
  match wellKnown? session name with
  | some type => return type
  | none => Op.fail (.misuse (.undefinedClass operation name))

/--
Make the error that was pending the cause of an instance, as far as it can be
normalized, and give back its other references.
-/
def chainPending (value : Handle) (interp : Interpreter) : Interpreter :=
  match interp.fetch with
  | none => interp
  | some (prior, interp) =>
      match interp.normalize prior with
      | (.error _, interp) => interp.clear.releaseTriple prior
      | (.ok prior, interp) =>
          let interp :=
            match prior.value with
            | none => interp
            | some cause => (interp.setCause value (some cause)).toOption.getD interp
          interp.releaseTriple { prior with value := none }

/-- Make a `TypeError` the pending error, with the error before it as its cause. -/
def raiseTypeError (message : String) : Op Unit := do
  let type ← wellKnown "raise_type_error" "TypeError"
  let session ← Op.session
  let (value, interp) ← Op.ofHeap (session.interp.newException type (some message))
  Op.changeInterp fun _ => chainPending value interp
  (Op.tryInterp fun interp => interp.setErrorObject type (some value)).onError
    fun interp => interp.release value
  Op.changeInterp fun interp => interp.release value

/-- Whether a handle names a class of warnings. -/
def isWarningClass (session : Session) (category : Handle) : Bool :=
  match wellKnown? session "Warning" with
  | some warning =>
      session.interp.heap.isType category &&
        session.interp.heap.isSubclass category warning
  | none => false

/-- Emit a warning; a category that is no class of warnings is a `TypeError`. -/
def warn
    (category : Handle)
    (message : String)
    (level : Nat) :
    Op Unit := do
  let session ← Op.session
  if isWarningClass session category then
    match ← Op.withInterp fun interp => interp.warn category message level with
    | .ok () => return
    | .error _ => CapturedException.raised
  else
    raiseTypeError
      ("category must be a Warning subclass, not '" ++
        session.interp.nameOfMisfit category ++ "'")
    CapturedException.raised

/-- Emit a warning about something deprecated. -/
def deprecation (message : String) (level : Nat) : Op Unit := do
  let category ← wellKnown "deprecation" "DeprecationWarning"
  warn category message level

end Custody.Indicator
