import Custody.Heap.Classes
import Custody.Text.Literal

/-!
# The text of an object

`repr` writes an object out as a literal, with lists and exceptions written
element by element; `str` is the text an object carries, or its literal if it
carries none.  A handle that no longer resolves is written `<freed>`.

Both follow the references of lists and exception arguments to a bounded depth
and answer `none` beyond it.  The number of slots bounds every depth that can
occur without a cycle.
-/

namespace Custody.Heap

open Custody.Text

/-- What stands for an object that is no longer there. -/
def freedText : String :=
  "<freed>"

/-- Parts in sequence, with commas between them. -/
def commaSeparated (parts : List String) : String :=
  ", ".intercalate parts

/-- The literal of an object whose references are at most `depth` deep. -/
def reprWithin (heap : Heap) : Nat → Handle → Option String
  | 0, _ => none
  | depth + 1, handle =>
      match heap.payload? handle with
      | none => some freedText
      | some .none => some "None"
      | some (.bool true) => some "True"
      | some (.bool false) => some "False"
      | some (.int value) => some (toString value)
      | some (.str value) => some (literal value)
      | some (.list items) =>
          (items.mapM (heap.reprWithin depth)).map fun parts =>
            "[" ++ commaSeparated parts ++ "]"
      | some (.type info) => some ("<class '" ++ info.qualifiedName ++ "'>")
      | some (.exception info) =>
          (info.args.mapM (heap.reprWithin depth)).map fun parts =>
            heap.className info.type ++ "(" ++ commaSeparated parts ++ ")"
      | some (.traceback _) => some "<traceback object>"

/-- The text of an object whose references are at most `depth` deep. -/
def strWithin (heap : Heap) : Nat → Handle → Option String
  | 0, _ => none
  | depth + 1, handle =>
      match heap.payload? handle with
      | none => some freedText
      | some (.str value) => some value
      | some (.exception info) =>
          match info.args with
          | [] => some ""
          | [arg] => heap.strWithin depth arg
          | args =>
              (args.mapM (heap.reprWithin depth)).map fun parts =>
                "(" ++ commaSeparated parts ++ ")"
      | some _ => heap.reprWithin (depth + 1) handle

/-- The literal of an object. -/
def repr (heap : Heap) (handle : Handle) : String :=
  (heap.reprWithin heap.reach handle).getD ""

/-- The text of an object. -/
def str (heap : Heap) (handle : Handle) : String :=
  (heap.strWithin heap.reach handle).getD ""

end Custody.Heap
