import Custody.Interpreter.Basic

/-!
# Classes and exception instances

Which class an object belongs to, which classes match which, and how classes
and exception instances are made and linked.
-/

namespace Custody.Interpreter

/-- The built-in class called `name`, borrowed. -/
def lookup (interp : Interpreter) (name : String) : Option Handle :=
  interp.builtins.lookup name

/-- The built-in class called `name`, or the null handle. -/
def builtin (interp : Interpreter) (name : String) : Handle :=
  (interp.lookup name).getD .null

/-- The class of an object, borrowed. -/
def typeOf
    (interp : Interpreter)
    (handle : Handle) :
    Except HeapError Handle := do
  match ← interp.heap.payload handle with
  | .exception info => return info.type
  | payload =>
      let name := payload.builtinName.getD "object"
      return (interp.lookup name).getD (interp.builtin "object")

/-- The name of the class of an object. -/
def typeName
    (interp : Interpreter)
    (handle : Handle) :
    Except HeapError String := do
  return interp.heap.className (← interp.typeOf handle)

/-- Whether an object belongs to a class or to one that derives from it. -/
def isInstance
    (interp : Interpreter)
    (handle type : Handle) :
    Bool :=
  match interp.typeOf handle with
  | .ok own => interp.heap.isSubclass own type
  | .error _ => false

/-- Whether a handle names a class of exceptions. -/
def isExceptionClass (interp : Interpreter) (handle : Handle) : Bool :=
  match interp.lookup "BaseException" with
  | some base => interp.heap.isType handle && interp.heap.isSubclass handle base
  | none => false

/--
How a message names something that had to be a class and was not acceptable:
the name of the class, or of the class of the object that is none.
-/
def nameOfMisfit (interp : Interpreter) (handle : Handle) : String :=
  if interp.heap.isType handle then
    interp.heap.className handle
  else
    match interp.typeName handle with
    | .ok name => name
    | .error _ => Heap.freedText

/-! ## Making classes -/

/-- A new class that derives from `base`.  Returns a new reference. -/
def newClass
    (interp : Interpreter)
    (name : String)
    (home : Option String)
    (base : Handle) :
    Except HeapError (Handle × Interpreter) := do
  let interp ← interp.incref base
  return interp.allocate (.type ⟨name, home, some base⟩)

/-- The module of the classes that stand for host errors. -/
def hostModule : String :=
  "host"

/-- What follows the rightmost double colon, or `rest` if there is none. -/
def afterLastColons : List Char → List Char → List Char
  | rest, [] => rest
  | rest, [_] => rest
  | rest, first :: second :: tail =>
      if first = ':' ∧ second = ':' then
        afterLastColons tail (second :: tail)
      else
        afterLastColons rest (second :: tail)

/-- The last segment of a path, without its parameters. -/
def lastSegment (path : String) : String :=
  let chars := path.toList.takeWhile (· ≠ '<')
  String.ofList (afterLastColons chars chars)

/--
The class that stands for a kind of host error, borrowed.  It is made on first
use, and again if it has been freed since.
-/
def hostClass
    (interp : Interpreter)
    (key : String) :
    Handle × Interpreter :=
  match (interp.hostClasses.lookup key).filter interp.heap.isLive with
  | some type => (type, interp)
  | none =>
      let base := interp.builtin "Exception"
      let (type, interp) :=
        (interp.retain base).allocate
          (.type ⟨lastSegment key, some hostModule, some base⟩)
      (type,
        { interp with
          hostClasses :=
            (key, type) :: interp.hostClasses.filter (·.1 ≠ key) })

/-! ## Exception instances -/

/-- A new instance of an exception class.  Returns a new reference. -/
def newException
    (interp : Interpreter)
    (type : Handle)
    (message : Option String) :
    Except HeapError (Handle × Interpreter) := do
  let interp ← interp.incref type
  match message with
  | some message =>
      let (text, interp) := interp.allocate (.str message)
      return interp.allocate (.exception ⟨type, [text], none, none⟩)
  | none =>
      return interp.allocate (.exception ⟨type, [], none, none⟩)

/--
Replace a link of an exception instance and give back the reference of the link
it had; `change` yields the old link and the changed instance.  An object that
is no exception instance has no links, and the new one is given back instead.
-/
def replaceLink
    (interp : Interpreter)
    (handle : Handle)
    (link : Option Handle)
    (change : ExceptionInfo → Option Handle × ExceptionInfo) :
    Except HeapError Interpreter := do
  match ← interp.heap.payload handle with
  | .exception info =>
      let (old, info) := change info
      let heap ← interp.heap.setPayload handle (.exception info)
      return ({ interp with heap } : Interpreter).release? old
  | _ => return interp.release? link

/-- Attach a cause to an exception instance, taking over its reference. -/
def setCause
    (interp : Interpreter)
    (handle : Handle)
    (cause : Option Handle) :
    Except HeapError Interpreter :=
  interp.replaceLink handle cause fun info => (info.cause, { info with cause })

/-- Attach a traceback to an exception instance, taking over its reference. -/
def setTraceback
    (interp : Interpreter)
    (handle : Handle)
    (traceback : Option Handle) :
    Except HeapError Interpreter :=
  interp.replaceLink handle traceback fun info =>
    (info.traceback, { info with traceback })

end Custody.Interpreter
