import Custody.Interpreter.Classes

/-!
# The pending error

At most one error is pending.  It is set by name and message, by an object, by
putting a triple back, or by raising; it is taken as a triple.  Whatever was
pending before gives back its references.

Normalization turns the value of a triple into an instance of its type.
-/

namespace Custody.Interpreter

/-- Replace the pending error and give back the references of the old one. -/
def replacePending
    (interp : Interpreter)
    (pending : Option Triple) :
    Interpreter :=
  match interp.pending with
  | some old => { interp with pending }.releaseTriple old
  | none => { interp with pending }

/-- Make a new text of the given type the pending error. -/
def setError
    (interp : Interpreter)
    (type : Handle)
    (message : String) :
    Except HeapError Interpreter := do
  let interp ← interp.incref type
  let (value, interp) := interp.allocate (.str message)
  return interp.replacePending (some ⟨type, some value, none⟩)

/-- Make a type and a value, both borrowed, the pending error. -/
def setErrorObject
    (interp : Interpreter)
    (type : Handle)
    (value : Option Handle) :
    Except HeapError Interpreter := do
  let held ← interp.incref type
  match value with
  | none => return held.replacePending (some ⟨type, none, none⟩)
  | some value =>
      let held ← held.incref value
      return held.replacePending (some ⟨type, some value, none⟩)

/-- Take the pending error, with all its references. -/
def fetch (interp : Interpreter) : Option (Triple × Interpreter) :=
  interp.pending.map fun triple => (triple, { interp with pending := none })

/--
Make a triple the pending error, taking over its references.  Under the null
type nothing is pending afterwards.
-/
def restore (interp : Interpreter) (triple : Triple) : Interpreter :=
  if triple.type.isNull then
    ((interp.release? triple.value).release? triple.traceback).replacePending none
  else
    interp.replacePending (some triple)

/-- Drop the pending error. -/
def clear (interp : Interpreter) : Interpreter :=
  interp.replacePending none

/-- The type of the pending error, borrowed. -/
def errorType (interp : Interpreter) : Option Handle :=
  interp.pending.map Triple.type

/-! ## Matching -/

/-- The class of a class is itself here; of any other object, its type. -/
def classGiven (interp : Interpreter) (handle : Handle) : Option Handle :=
  if interp.heap.isType handle then
    some handle
  else
    (interp.typeOf handle).toOption

/--
Whether a class or instance matches a pattern.  Lists are entered at most
`depth` deep, and not searched any further once an item matches.
-/
def matchesWithin
    (interp : Interpreter)
    (given : Handle) :
    Nat → Handle → Option Bool
  | 0, _ => none
  | depth + 1, pattern =>
      if given.isNull || pattern.isNull then
        some false
      else
        match interp.heap.payload? pattern with
        | some (.list items) => items.anyM (interp.matchesWithin given depth)
        | some (.type _) =>
            some <| match interp.classGiven given with
              | some type => interp.heap.isSubclass type pattern
              | none => false
        | _ => some (interp.classGiven given == some pattern)

/--
Whether a class or instance matches a pattern.  A list matches if any of its
items does, a class if it is met along the base links, and anything else only
by being the class itself.
-/
def givenMatches
    (interp : Interpreter)
    (given pattern : Handle) :
    Bool :=
  (interp.matchesWithin given interp.heap.reach pattern).getD false

/-- Whether the pending error matches a pattern. -/
def errorMatches (interp : Interpreter) (pattern : Handle) : Bool :=
  match interp.errorType with
  | some type => interp.givenMatches type pattern
  | none => false

/-! ## Raising -/

/-- Put an entry for each frame, innermost first, in front of a traceback chain. -/
def chainFrames
    (interp : Interpreter) :
    List Frame → Option Handle → Option Handle × Interpreter
  | [], chain => (chain, interp)
  | frame :: outer, chain =>
      let (entry, interp) := interp.allocate (.traceback ⟨frame, chain⟩)
      interp.chainFrames outer (some entry)

/-- A new traceback chain with one entry for each active call, outermost first. -/
def newTraceback (interp : Interpreter) : Option Handle × Interpreter :=
  interp.chainFrames interp.frames none

/--
Raise a new instance of a class, with a traceback of the active calls.  Nothing
happens if the class is not there.
-/
def raiseInstance
    (interp : Interpreter)
    (type : Handle)
    (message : String) :
    Interpreter :=
  match interp.newException type (some message) with
  | .error _ => interp
  | .ok (value, interp) =>
      let (traceback, interp) := interp.newTraceback
      let interp :=
        match traceback with
        | none => interp
        | some entry =>
            let held := interp.retain entry
            (held.setTraceback value (some entry)).toOption.getD held
      (interp.retain type).replacePending (some ⟨type, some value, traceback⟩)

/-- Raise a new instance of a built-in class. -/
def raise
    (interp : Interpreter)
    (name message : String) :
    Interpreter :=
  let type := (interp.lookup name).getD (interp.builtin "SystemError")
  interp.raiseInstance type message

/-! ## Normalization -/

/-- Attach a borrowed traceback to an exception instance that has none. -/
def attachTraceback
    (interp : Interpreter)
    (value : Handle)
    (traceback : Option Handle) :
    Interpreter :=
  match traceback, interp.heap.tracebackOf value with
  | some entry, none =>
      match interp.incref entry with
      | .ok held => (held.setTraceback value (some entry)).toOption.getD held
      | .error _ => interp
  | _, _ => interp

/--
The arguments that a value stands for when an instance is made of it, with a
reference to each: nothing for an absent value or `None`, the items of a list,
and any other value itself.  The reference to the value is used up.
-/
def argumentsOf
    (interp : Interpreter)
    (value : Option Handle) :
    List Handle × Interpreter :=
  match value with
  | none => ([], interp)
  | some value =>
      match interp.heap.payload? value with
      | some .none => ([], interp.release value)
      | some (.list items) => (items, (items.foldl retain interp).release value)
      | _ => ([value], interp)

/-- The class of a value that already is an instance of a type or of a subclass of it. -/
def instanceClass?
    (interp : Interpreter)
    (type : Handle)
    (value : Option Handle) :
    Option Handle :=
  match value.bind interp.heap.payload? with
  | some (.exception info) =>
      if interp.heap.isSubclass info.type type then some info.type else none
  | _ => none

/--
Turn the value of a triple into an instance of its type.  A value that already
is one is kept and narrows the type to its own class; otherwise an instance is
made.  Either way the triple's traceback is attached to the value if the value
had none.

If the type is no class of exceptions, a `TypeError` is raised and the triple
stays with the caller.
-/
def normalize
    (interp : Interpreter)
    (triple : Triple) :
    Except Raised Triple × Interpreter :=
  if !interp.isExceptionClass triple.type then
    (.error {},
      interp.raise "TypeError"
        ("exceptions must derive from BaseException, not '" ++
          interp.nameOfMisfit triple.type ++ "'"))
  else
    match triple.value, interp.instanceClass? triple.type triple.value with
    | some value, some type =>
        let interp :=
          if type = triple.type then
            interp
          else
            (interp.retain type).release triple.type
        (.ok { triple with type }, interp.attachTraceback value triple.traceback)
    | _, _ =>
        let (args, interp) := interp.argumentsOf triple.value
        let (value, interp) :=
          (interp.retain triple.type).allocate
            (.exception ⟨triple.type, args, none, none⟩)
        (.ok { triple with value := some value },
          interp.attachTraceback value triple.traceback)

end Custody.Interpreter
