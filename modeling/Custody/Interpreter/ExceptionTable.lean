import Custody.Interpreter.Classes

/-!
# The table of well-known exceptions

A fixed list of exception and warning classes, looked up by name once.  The
table owns one reference to each class it found; names that the interpreter
does not define stay empty.
-/

namespace Custody

/-- Names in a fixed order, each with the class found under it. -/
structure ExceptionTable where
  entries : List (String × Option Handle)

namespace ExceptionTable

/-- The names a table asks for. -/
def names : List String :=
  [ "BaseException", "Exception", "ArithmeticError", "AssertionError",
    "AttributeError", "BufferError", "EOFError", "EnvironmentError",
    "FloatingPointError", "IOError", "ImportError", "IndentationError",
    "IndexError", "KeyError", "KeyboardInterrupt", "LookupError", "MemoryError",
    "NameError", "NotImplementedError", "OSError", "OverflowError",
    "RecursionError", "ReferenceError", "RuntimeError", "StopIteration",
    "SyntaxError", "SystemError", "SystemExit", "TabError", "TimeoutError",
    "TypeError", "UnboundLocalError", "UnicodeDecodeError", "UnicodeEncodeError",
    "UnicodeError", "UnicodeTranslateError", "ValueError", "WindowsError",
    "ZeroDivisionError", "Warning", "BytesWarning", "DeprecationWarning",
    "FutureWarning", "ImportWarning", "PendingDeprecationWarning",
    "ResourceWarning", "RuntimeWarning", "SyntaxWarning", "UnicodeWarning",
    "UserWarning" ]

/-- The table that holds nothing. -/
def empty : ExceptionTable :=
  ⟨names.map (·, none)⟩

/-- Look up one name, taking a reference to the exception class found under it. -/
def find
    (interp : Interpreter)
    (name : String) :
    Option Handle × Interpreter :=
  match interp.lookup name with
  | none => (none, interp)
  | some type =>
      if interp.isExceptionClass type then
        match interp.incref type with
        | .ok interp => (some type, interp)
        | .error _ => (none, interp)
      else
        (none, interp)

/-- Look up several names in order. -/
def findAll :
    List String → Interpreter → List (String × Option Handle) × Interpreter
  | [], interp => ([], interp)
  | name :: rest, interp =>
      let (type, interp) := find interp name
      let (entries, interp) := findAll rest interp
      ((name, type) :: entries, interp)

/-- Look up every name of the table. -/
def resolve (interp : Interpreter) : ExceptionTable × Interpreter :=
  let (entries, interp) := findAll names interp
  (⟨entries⟩, interp)

/-- The class found under a name, borrowed. -/
def get? (table : ExceptionTable) (name : String) : Option Handle :=
  (table.entries.lookup name).join

/-- The number of names under which a class was found. -/
def resolved (table : ExceptionTable) : Nat :=
  table.entries.countP (·.2.isSome)

/-- Give back every reference of a table, which is empty afterwards. -/
def release
    (table : ExceptionTable)
    (interp : Interpreter) :
    ExceptionTable × Interpreter :=
  (⟨table.entries.map fun entry => (entry.1, none)⟩,
    table.entries.foldl (fun interp entry => interp.release? entry.2) interp)

end ExceptionTable

end Custody
