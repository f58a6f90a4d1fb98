import Custody.Heap.Basic
import Custody.Tracking.Wrapper

/-!
# Errors of the bridge

An exception of the interpreter, a broken count, a failed hook, a misuse, and
the errors of the heap.  Misuse names its cause; the wording stands in one
function per type.
-/

namespace Custody

/-- A use of the bridge that cannot succeed. -/
inductive Misuse where
  /-- Registering with a tracker that is closed. -/
  | registerClosed (handle : Handle)
  /-- Registering an object that is not there. -/
  | registerStale (handle : Handle) (reason : HeapError)
  /-- Giving up a record that is not live. -/
  | notLive (operation : String) (id : Nat) (handle : Handle) (state : RecordState)
  /-- Using a wrapper with a runtime other than its own. -/
  | foreignWrapper (operation : String) (handle : Handle)
  /-- Chaining a cause to no error. -/
  | nothingPending
  /-- Normalizing a triple while an error is pending. -/
  | alreadyPending (typeName : String)
  /-- Shutting a runtime down for a second time. -/
  | alreadyShutDown (number : Nat)
  /-- Capturing a triple that has no value. -/
  | valueMissing
  /-- A normalization that failed and left no error behind. -/
  | errorMissing
  /-- A normalization that failed again and again. -/
  | normalizationEndless
  /-- A call that raised and left no error behind. -/
  | raisedNothing
  /-- Using a class that the interpreter does not define. -/
  | undefinedClass (operation typeName : String)
deriving DecidableEq, Repr

/-- The text of a misuse, led by the operation. -/
def Misuse.message : Misuse → String
  | .registerClosed handle =>
      "register: runtime is shut down, cannot wrap " ++ handle.render
  | .registerStale handle reason =>
      "register: cannot wrap " ++ handle.render ++ ": " ++ reason.message
  | .notLive operation id handle state =>
      operation ++ ": record " ++ toString id ++ " for " ++ handle.render ++ " is " ++
        state.name
  | .foreignWrapper operation handle =>
      operation ++ ": " ++ handle.render ++ " belongs to another runtime"
  | .nothingPending => "set_cause: no error is pending"
  | .alreadyPending typeName => "normalize: " ++ typeName ++ " is already pending"
  | .alreadyShutDown number =>
      "shutdown: runtime #" ++ toString number ++ " is already shut down"
  | .valueMissing => "fetch: normalized exception has no value"
  | .errorMissing => "fetch: normalization failed without setting an error"
  | .normalizationEndless => "fetch: exception normalization kept raising"
  | .raisedNothing => "fetch: call raised without setting an error"
  | .undefinedClass operation typeName =>
      operation ++ ": " ++ typeName ++ " is not defined"

/--
An object with fewer references than records that own one; `impacted` lists
those records in the order of registration.
-/
structure Mismatch where
  handle : Handle
  observed : Int
  expected : Nat
  impacted : List RecordRef
deriving DecidableEq, Repr

/-- The text of a mismatch. -/
def Mismatch.message (mismatch : Mismatch) : String :=
  "incorrect refcount for " ++ mismatch.handle.render ++ ": observed " ++
    toString mismatch.observed ++ ", expected at least " ++
    toString mismatch.expected ++ " (" ++ toString mismatch.impacted.length ++
    " records impacted)"

/-- Why an operation of the bridge failed. -/
inductive BridgeError where
  | foreign (exception : CapturedException)
  | incorrectRefCount (mismatch : Mismatch)
  | disposeHook (text : String)
  | misuse (cause : Misuse)
  | nullHandle
  | heap (reason : HeapError)
deriving DecidableEq, Repr

namespace BridgeError

/-- The text of an error. -/
def message : BridgeError → String
  | .foreign exception => exception.message
  | .incorrectRefCount mismatch => mismatch.message
  | .disposeHook text => text
  | .misuse cause => cause.message
  | .nullHandle => "cannot wrap a null foreign handle"
  | .heap reason => reason.message

/-- Whether an error points at a mistake in the host rather than a failure. -/
def isMisuse : BridgeError → Bool
  | .misuse _ => true
  | .nullHandle => true
  | _ => false

end BridgeError

/-- A panic that left a callback, with its text. -/
structure Panic where
  text : String
deriving DecidableEq, Repr

/-- How an operation of the bridge can end other than with a result. -/
inductive Abort where
  | error (error : BridgeError)
  | panic (panic : Panic)
deriving DecidableEq, Repr

end Custody
