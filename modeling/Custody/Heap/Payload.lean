import Custody.Heap.Handle

/-!
# Payloads

What a heap object holds.  A payload owns one reference to every handle listed
by `Payload.children`; the heap gives those references back when the object is
freed.
-/

namespace Custody

/-- The place in a program that one active call is executing. -/
structure Frame where
  name : String
  file : String
  line : Nat
  source : Option String
deriving DecidableEq, Repr

/-- A class: its name, the module it was defined in, and its base class. -/
structure ClassInfo where
  name : String
  home : Option String
  base : Option Handle
deriving DecidableEq, Repr

/-- The name of a class as reports show it, led by its module if it has one. -/
def ClassInfo.qualifiedName (info : ClassInfo) : String :=
  match info.home with
  | some home => home ++ "." ++ info.name
  | none => info.name

/-- An exception instance. -/
structure ExceptionInfo where
  type : Handle
  args : List Handle
  cause : Option Handle
  traceback : Option Handle
deriving DecidableEq, Repr

/-- One entry of a traceback chain, pointing inwards to the next one. -/
structure TracebackInfo where
  frame : Frame
  next : Option Handle
deriving DecidableEq, Repr

/-- The contents of a heap object. -/
inductive Payload where
  | none
  | bool (value : Bool)
  | int (value : Int)
  | str (value : String)
  | list (items : List Handle)
  | type (info : ClassInfo)
  | exception (info : ExceptionInfo)
  | traceback (info : TracebackInfo)
deriving DecidableEq, Repr

namespace Payload

/-- The references a payload owns, in the order in which they are given back. -/
def children : Payload → List Handle
  | .none => []
  | .bool _ => []
  | .int _ => []
  | .str _ => []
  | .list items => items
  | .type info => info.base.toList
  | .exception info =>
      info.type :: info.args ++ info.cause.toList ++ info.traceback.toList
  | .traceback info => info.next.toList

/-- The name of the built-in class of a payload that carries no class of its own. -/
def builtinName : Payload → Option String
  | .none => some "NoneType"
  | .bool _ => some "bool"
  | .int _ => some "int"
  | .str _ => some "str"
  | .list _ => some "list"
  | .type _ => some "type"
  | .traceback _ => some "traceback"
  | .exception _ => Option.none

end Payload

end Custody
