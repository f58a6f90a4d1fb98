import Custody.Tracking.Record

/-!
# Wrappers and dispose hooks

A wrapper is the host's side of a record.  It may carry a dispose hook: a short
program that runs once, when the reference is given back.  A hook may own
further wrappers, which it drops when it gets to them; if it ends early, or is
discarded without running, it drops those that are left.

A wrapper holds the tracker of its record, and a hook the tracker that it was
made for.
-/

namespace Custody

/--
A dispose hook, as a sequence of steps.  A step that fails or panics is still
followed by the rest of the hook, which is then not run.
-/
inductive Hook where
  /-- The end, where the hook lets go of the tracker that it was made for. -/
  | done (home : TrackerRef)
  /-- Announce a text. -/
  | log (text : String) (rest : Hook)
  /-- Defer the release of a record. -/
  | defer (tracker : TrackerRef) (record : RecordRef) (rest : Hook)
  /-- Drop an owned wrapper that carries no hook. -/
  | drop (tracker : TrackerRef) (record : RecordRef) (rest : Hook)
  /-- Drop an owned wrapper together with the hook that it carries. -/
  | dropHooked (tracker : TrackerRef) (record : RecordRef) (carried rest : Hook)
  /-- End with an error. -/
  | fail (text : String) (rest : Hook)
  /-- Panic; the payload need not be a text. -/
  | panic (text : Option String) (rest : Hook)
deriving DecidableEq, Repr

/-- The owner of a record's reference, with the hook to run when it is given back. -/
structure Wrapper where
  tracker : TrackerRef
  record : RecordRef
  hook : Option Hook
deriving DecidableEq, Repr

/-- A hook that drops a wrapper first. -/
def Hook.dropping
    (wrapper : Wrapper)
    (rest : Hook) :
    Hook :=
  match wrapper.hook with
  | none => .drop wrapper.tracker wrapper.record rest
  | some carried => .dropHooked wrapper.tracker wrapper.record carried rest

/--
An exception taken out of the interpreter: a wrapper for each component that is
present, and the class name and text it had at that time.
-/
structure CapturedException where
  type : Wrapper
  value : Wrapper
  traceback : Option Wrapper
  typeName : String
  valueText : String
deriving DecidableEq, Repr

namespace CapturedException

/-- The message of a captured exception. -/
def message (exception : CapturedException) : String :=
  exception.typeName ++ " : " ++ exception.valueText

/-- The wrappers of a captured exception, in the order in which they are dropped. -/
def wrappers (exception : CapturedException) : List Wrapper :=
  exception.type :: exception.value :: exception.traceback.toList

/-- The diagnostic form of a captured exception. -/
def describe (exception : CapturedException) : String :=
  Text.braced "ForeignException"
    [ ("type_name", Text.quoted exception.typeName),
      ("value", Text.quoted exception.valueText),
      ("has_traceback", toString exception.traceback.isSome) ]

end CapturedException

end Custody
