import Custody.Error

/-!
# The journal

What happened to records, in the order in which it happened, together with what
callbacks announced while they ran.
-/

namespace Custody

/-- What a finalizer is doing: nothing, waiting with items queued, or draining. -/
inductive FinalizerState where
  | idle
  | accumulating
  | draining
deriving DecidableEq, Repr

/-- The name of a finalizer state. -/
def FinalizerState.name : FinalizerState → String
  | .idle => "Idle"
  | .accumulating => "Accumulating"
  | .draining => "Draining"

/-- What a callback announces. -/
inductive Notice where
  /-- A hook announced a text; the record is shown as it was then. -/
  | hook (text : String) (record : Record)
  /-- A drain released something. -/
  | collected (handler : String) (count generation : Nat) (state : FinalizerState)
  /-- An error was reported. -/
  | reported (handler : String) (record : Option RecordRef) (error : BridgeError)
  /-- A mismatch was offered to a resolver, which may have asked for a drain of its own. -/
  | offered (resolver : String) (mismatch : Mismatch) (nested : Option Nat)
  /-- The lock was held while a collector waited. -/
  | held (passes released : Nat)
deriving DecidableEq, Repr

/-- What went wrong with a record during a drain, or what the host reported. -/
inductive Fault where
  | hookFailed (record : RecordRef)
  | dropFailed (record : RecordRef)
  | shortfall (record : RecordRef)
  | mismatched (record : RecordRef)
  | reported
deriving DecidableEq, Repr

/-- An entry of the journal. -/
inductive Event where
  | notice (notice : Notice)
  | fault (fault : Fault)
  /-- The record was queued when its wrapper was dropped. -/
  | deferred (record : RecordRef)
  /-- A drain took the record up. -/
  | takenUp (record : RecordRef)
  /-- The hook of the record ran. -/
  | hookRan (record : RecordRef)
  /-- One reference was given back on behalf of the record. -/
  | dropped (record : RecordRef)
deriving DecidableEq, Repr

/-- The announcement in a journal entry, if it is one. -/
def Event.notice? : Event → Option Notice
  | .notice announcement => some announcement
  | _ => none

end Custody
