import Custody.Heap.Display
import Custody.Interpreter.Builtins
import Custody.Text.Quoted

/-!
# The interpreter

An interpreter is a reference-counted heap together with everything that holds
references on its own account: the names of the built-in classes, the `None`
object, the classes that stand for host errors, the pending error and the
warning filters.  The active calls and the recorded warnings hold none.

References change hands by three conventions.  A function that returns a *new*
reference leaves the caller to give it back; a *borrowed* one must not be given
back; a function that *takes over* an argument's reference gives it back itself.
-/

namespace Custody

/-- An exception type with an optional value and an optional traceback. -/
structure Triple where
  type : Handle
  value : Option Handle
  traceback : Option Handle
deriving DecidableEq, Repr

/-- The diagnostic form of a triple. -/
def Triple.describe (triple : Triple) : String :=
  Text.braced "ExceptionTriple"
    [ ("ptype", triple.type.describe),
      ("pvalue", Text.optional (triple.value.map Handle.describe)),
      ("ptraceback", Text.optional (triple.traceback.map Handle.describe)) ]

/-- What happens to a warning that a filter applies to. -/
inductive WarningAction where
  | record
  | ignore
  | raise
deriving DecidableEq, Repr

/-- A warning that was recorded, with the place it points at. -/
structure WarningRecord where
  category : String
  message : String
  file : String
  line : Nat
deriving DecidableEq, Repr

/-- The sign that a call has raised: an error is pending. -/
structure Raised where
deriving DecidableEq, Repr

/--
The state of an interpreter.  Frames stand innermost first, filters newest
first, and recorded warnings oldest first.
-/
structure Interpreter where
  heap : Heap
  builtins : Namespace
  hostClasses : List (String × Handle)
  noneObject : Handle
  pending : Option Triple
  frames : List Frame
  filters : List (Handle × WarningAction)
  warnings : List WarningRecord

namespace Interpreter

/-- A fresh interpreter: the built-in classes, then the `None` object. -/
def initial : Interpreter :=
  let (heap, builtins) := Namespace.bootstrap
  let (noneObject, heap) := heap.allocate .none
  { heap
    builtins
    hostClasses := []
    noneObject
    pending := none
    frames := []
    filters := []
    warnings := [] }

/-! ## References -/

/-- Take one more reference to an object. -/
def incref
    (interp : Interpreter)
    (handle : Handle) :
    Except HeapError Interpreter := do
  let heap ← interp.heap.incref handle
  return { interp with heap }

/-- Give back one reference to an object; the count that remains is returned. -/
def decref
    (interp : Interpreter)
    (handle : Handle) :
    Except HeapError (Int × Interpreter) := do
  let (remaining, heap) ← interp.heap.decref handle
  return (remaining, { interp with heap })

/-- Take one more reference to an object, if it is still there. -/
def retain (interp : Interpreter) (handle : Handle) : Interpreter :=
  match interp.incref handle with
  | .ok interp => interp
  | .error _ => interp

/-- Give back one reference to an object, if it is still there. -/
def release (interp : Interpreter) (handle : Handle) : Interpreter :=
  match interp.decref handle with
  | .ok (_, interp) => interp
  | .error _ => interp

/-- Give back a reference that may be absent. -/
def release? (interp : Interpreter) (handle : Option Handle) : Interpreter :=
  match handle with
  | some handle => interp.release handle
  | none => interp

/-- Give back every reference of a triple. -/
def releaseTriple (interp : Interpreter) (triple : Triple) : Interpreter :=
  ((interp.release triple.type).release? triple.value).release? triple.traceback

/-! ## Making objects -/

/-- Place a payload on the heap.  Returns a new reference. -/
def allocate
    (interp : Interpreter)
    (payload : Payload) :
    Handle × Interpreter :=
  let (handle, heap) := interp.heap.allocate payload
  (handle, { interp with heap })

/-- A new reference to the `None` object. -/
def newNone (interp : Interpreter) : Handle × Interpreter :=
  (interp.noneObject, interp.retain interp.noneObject)

/-- Put an object into a new list, that list into a new one, and so on `depth` times. -/
def nest (interp : Interpreter) (handle : Handle) : Nat → Handle × Interpreter
  | 0 => (handle, interp)
  | depth + 1 =>
      let (handle, interp) := interp.allocate (.list [handle])
      interp.nest handle depth

/-! ## Active calls -/

/-- Enter a call. -/
def pushFrame (interp : Interpreter) (frame : Frame) : Interpreter :=
  { interp with frames := frame :: interp.frames }

/-- Leave the innermost call. -/
def popFrame (interp : Interpreter) : Interpreter :=
  { interp with frames := interp.frames.tail }

end Interpreter

end Custody
