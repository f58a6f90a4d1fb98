import Custody.Interpreter.Pending

/-!
# Items of a container

Subscripting a list or a text.  A negative index counts from the end; an index
that is out of range, and a container that has no items, raise.
-/

namespace Custody.Interpreter

/-- The position that an index stands for in a container of a given size. -/
def position? (index : Int) (size : Nat) : Option Nat :=
  let shifted := if index < 0 then index + size else index
  if 0 ≤ shifted ∧ shifted < size then some shifted.toNat else none

/-- The item of a container at an index.  Returns a new reference. -/
def getItem
    (interp : Interpreter)
    (container : Handle)
    (index : Int) :
    Except Raised Handle × Interpreter :=
  match interp.heap.payload container with
  | .error reason => (.error {}, interp.raise "SystemError" reason.message)
  | .ok (.list items) =>
      match (position? index items.length).bind (items[·]?) with
      | some item => (.ok item, interp.retain item)
      | none => (.error {}, interp.raise "IndexError" "list index out of range")
  | .ok (.str text) =>
      let chars := text.toList
      match (position? index chars.length).bind (chars[·]?) with
      | some char =>
          let (item, interp) := interp.allocate (.str char.toString)
          (.ok item, interp)
      | none => (.error {}, interp.raise "IndexError" "string index out of range")
  | .ok _ =>
      let name := (interp.typeName container).toOption.getD ""
      (.error {},
        interp.raise "TypeError" ("'" ++ name ++ "' object is not subscriptable"))

end Custody.Interpreter
