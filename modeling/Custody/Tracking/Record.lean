import Custody.Heap.Handle
import Custody.Text.Quoted

/-!
# Ownership records

A record stands for one reference to a heap object that the host owns.  Its
state says who is to give the reference back: while the record is live its
wrapper, once it is deferred a later drain, and after that nobody.
-/

namespace Custody

/-- The position of a record among all records. -/
abbrev RecordRef := Nat

/-- The position of a tracker among all trackers. -/
abbrev TrackerRef := Nat

/-- Where the reference of a record stands. -/
inductive RecordState where
  /-- A wrapper owns it. -/
  | live
  /-- The wrapper is gone; a drain is to give it back. -/
  | deferred
  /-- It was given back. -/
  | released
  /-- It left the record's care without being given back. -/
  | detached
deriving DecidableEq, Repr

/-- The name of a record state. -/
def RecordState.name : RecordState → String
  | .live => "Live"
  | .deferred => "Deferred"
  | .released => "Released"
  | .detached => "Detached"

/--
One owned reference: its number within its tracker, the object, the name of the
object's class and the queue generation at the time of registration, the state,
and whether a drain gave the reference back.
-/
structure Record where
  id : Nat
  handle : Handle
  typeName : String
  generation : Nat
  state : RecordState
  collected : Bool
deriving DecidableEq, Repr

namespace Record

/-- The record that stands in for one that does not exist: it owns nothing. -/
def absent : Record where
  id := 0
  handle := .null
  typeName := ""
  generation := 0
  state := .detached
  collected := false

/-- The diagnostic form of a record. -/
def describe (record : Record) : String :=
  Text.braced "WrapperRecord"
    [ ("id", toString record.id),
      ("handle", record.handle.describe),
      ("type_name", Text.quoted record.typeName),
      ("generation", toString record.generation),
      ("state", record.state.name) ]

end Record

end Custody
