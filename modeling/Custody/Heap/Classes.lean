import Custody.Heap.Basic

/-!
# Classes on the heap

A class is a heap object whose payload names its base class.  Deriving from a
class means reaching it along base links.

The walk along base links is bounded by the number of slots: a longer walk
would have met some class twice.  `subclassWithin` answers `none` when its
bound is too small, which keeps "not a subclass" apart from "not decided".
-/

namespace Custody.Heap

/-- One more than the number of slots: no walk without repetition is longer. -/
def reach (heap : Heap) : Nat :=
  heap.slots.size + 1

/-- Whether a handle names a class. -/
def isType (heap : Heap) (handle : Handle) : Bool :=
  match heap.payload? handle with
  | some (.type _) => true
  | _ => false

/-- The base of a class. -/
def baseOf (heap : Heap) (handle : Handle) : Option Handle :=
  match heap.payload? handle with
  | some (.type info) => info.base
  | _ => none

/-- The name of a class, or a stand-in for what is not a class. -/
def className (heap : Heap) (handle : Handle) : String :=
  match heap.payload? handle with
  | some (.type info) => info.name
  | _ => "<unknown>"

/-- The name of a class as reports show it, or a stand-in for what is not a class. -/
def qualifiedName (heap : Heap) (handle : Handle) : String :=
  match heap.payload? handle with
  | some (.type info) => info.qualifiedName
  | _ => "<unknown>"

/-- Whether `super` is met within `bound` steps along the base links from `sub`. -/
def subclassWithin (heap : Heap) (super : Handle) : Nat → Handle → Option Bool
  | 0, _ => none
  | bound + 1, sub =>
      if sub = super then
        some true
      else
        match heap.baseOf sub with
        | some base => heap.subclassWithin super bound base
        | none => some false

/-- Whether `sub` is `super` or derives from it. -/
def isSubclass
    (heap : Heap)
    (sub super : Handle) :
    Bool :=
  (heap.subclassWithin super heap.reach sub).getD false

/-- The cause attached to an exception instance. -/
def causeOf (heap : Heap) (handle : Handle) : Option Handle :=
  match heap.payload? handle with
  | some (.exception info) => info.cause
  | _ => none

/-- The traceback attached to an exception instance. -/
def tracebackOf (heap : Heap) (handle : Handle) : Option Handle :=
  match heap.payload? handle with
  | some (.exception info) => info.traceback
  | _ => none

end Custody.Heap
