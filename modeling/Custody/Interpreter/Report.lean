import Custody.Interpreter.Classes
import Custody.Text.Blank

/-!
# Exception reports

The report of an exception is its traceback, if it has one, and a last line
with its type and message.  The report of its cause stands before it, and so on
along the chain of causes until a cause is missing, gone, or already reported.

Both chains are followed to a bounded length, and the answer is `none` beyond it.
The number of slots bounds every chain whose entries differ.
-/

namespace Custody.Interpreter

open Custody.Text

/-- The lines of one traceback entry; a source line is shown unless it is blank. -/
def frameText (frame : Frame) : String :=
  let place :=
    "  File \"" ++ frame.file ++ "\", line " ++ toString frame.line ++ ", in " ++
      frame.name ++ "\n"
  match frame.source.map trim with
  | none => place
  | some line => if line.isEmpty then place else place ++ "    " ++ line ++ "\n"

/--
The lines of a traceback chain from an entry on, leaving out what was seen
before, if the chain has fewer than `bound` entries.
-/
def chainTextWithin (heap : Heap) : Nat → List Handle → Handle → Option String
  | 0, _, _ => none
  | bound + 1, seen, handle =>
      if handle ∈ seen then
        some ""
      else
        match heap.payload? handle with
        | some (.traceback info) =>
            match info.next with
            | some next =>
                (chainTextWithin heap bound (handle :: seen) next).map fun lines =>
                  frameText info.frame ++ lines
            | none => some (frameText info.frame)
        | _ => some ""

/-- The lines of a traceback, outermost call first. -/
def tracebackText (interp : Interpreter) (traceback : Handle) : String :=
  (chainTextWithin interp.heap interp.heap.reach [] traceback).getD ""

/-- The last line of a report: the type, and the message unless it is empty. -/
def summary
    (interp : Interpreter)
    (type : Handle)
    (value : Option Handle) :
    String :=
  let name := interp.heap.qualifiedName type
  match value.map interp.heap.str with
  | none => name
  | some message => if message.isEmpty then name else name ++ ": " ++ message

/-- The line above a traceback. -/
def tracebackHeader : String :=
  "Traceback (most recent call last):\n"

/-- The lines between the report of a cause and the report of what it caused. -/
def causeSeparator : String :=
  "\nThe above exception was the direct cause of the following exception:\n\n"

/-- The report of one exception without its causes. -/
def ownReport
    (interp : Interpreter)
    (type : Handle)
    (value traceback : Option Handle) :
    String :=
  let lines :=
    match traceback <|> value.bind interp.heap.tracebackOf with
    | some entry => tracebackHeader ++ interp.tracebackText entry
    | none => ""
  lines ++ interp.summary type value ++ "\n"

/--
The report of an exception after the reports of the causes not seen before, if
there are fewer than `bound` of these.
-/
def chainedReportWithin (interp : Interpreter) :
    Nat → List Handle → Handle → Option Handle → Option Handle → Option String
  | 0, _, _, _, _ => none
  | bound + 1, seen, type, value, traceback =>
      let before :=
        match value.bind interp.heap.causeOf with
        | none => some ""
        | some cause =>
            if cause ∈ seen then
              some ""
            else
              match interp.typeOf cause with
              | .error _ => some ""
              | .ok causeType =>
                  (interp.chainedReportWithin bound (cause :: seen) causeType (some cause)
                      (interp.heap.tracebackOf cause)).map fun report =>
                    report ++ causeSeparator
      before.map fun reports => reports ++ interp.ownReport type value traceback

/-- The full report of an exception, causes first. -/
def report
    (interp : Interpreter)
    (type : Handle)
    (value traceback : Option Handle) :
    String :=
  (interp.chainedReportWithin interp.heap.reach value.toList type value traceback).getD ""

end Custody.Interpreter
