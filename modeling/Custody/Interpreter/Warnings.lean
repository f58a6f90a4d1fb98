import Custody.Interpreter.Pending

/-!
# Warnings

The newest filter whose category covers a warning decides what happens to it; a
warning that no filter covers is recorded.
-/

namespace Custody.Interpreter

/-- What the filters say about a category. -/
def warningAction (interp : Interpreter) (category : Handle) : WarningAction :=
  match interp.filters.find? fun filter => interp.heap.isSubclass category filter.1 with
  | some (_, action) => action
  | none => .record

/--
The place a warning points at: the active call at a level counted from the
innermost, which is level 1, or a stand-in if there are fewer.
-/
def warningPlace (interp : Interpreter) (level : Nat) : String × Nat :=
  match interp.frames[level - 1]? with
  | some frame => (frame.file, frame.line)
  | none => ("sys", 1)

/-- Emit a warning. -/
def warn
    (interp : Interpreter)
    (category : Handle)
    (message : String)
    (level : Nat) :
    Except Raised Unit × Interpreter :=
  match interp.warningAction category with
  | .ignore => (.ok (), interp)
  | .raise => (.error {}, interp.raiseInstance category message)
  | .record =>
      let (file, line) := interp.warningPlace level
      let entry := ⟨interp.heap.className category, message, file, line⟩
      (.ok (), { interp with warnings := interp.warnings ++ [entry] })

/-- Install a filter, taking a reference to its category. -/
def addFilter
    (interp : Interpreter)
    (category : Handle)
    (action : WarningAction) :
    Except HeapError Interpreter := do
  let interp ← interp.incref category
  return { interp with filters := (category, action) :: interp.filters }

/-- Remove every filter and give back its reference. -/
def resetFilters (interp : Interpreter) : Interpreter :=
  interp.filters.foldl (fun interp filter => interp.release filter.1)
    { interp with filters := [] }

/-- Take the recorded warnings. -/
def takeWarnings (interp : Interpreter) : List WarningRecord × Interpreter :=
  (interp.warnings, { interp with warnings := [] })

end Custody.Interpreter
