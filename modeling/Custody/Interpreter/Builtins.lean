import Custody.Heap.Basic

/-!
# Built-in classes

The classes an interpreter starts with, in the order in which they are
allocated, and the names under which they are found.  Every name owns one
reference to its class, and so does every class to its base.
-/

namespace Custody

/-- The built-in classes other than exceptions; all of them derive from `object`. -/
def builtinTypes : List String :=
  ["type", "NoneType", "bool", "int", "str", "list", "traceback"]

/-- The built-in exception and warning classes, each after its base. -/
def exceptionHierarchy : List (String × String) :=
  [ ("BaseException", "object"),
    ("SystemExit", "BaseException"),
    ("KeyboardInterrupt", "BaseException"),
    ("GeneratorExit", "BaseException"),
    ("Exception", "BaseException"),
    ("StopIteration", "Exception"),
    ("ArithmeticError", "Exception"),
    ("FloatingPointError", "ArithmeticError"),
    ("OverflowError", "ArithmeticError"),
    ("ZeroDivisionError", "ArithmeticError"),
    ("AssertionError", "Exception"),
    ("AttributeError", "Exception"),
    ("BufferError", "Exception"),
    ("EOFError", "Exception"),
    ("ImportError", "Exception"),
    ("ModuleNotFoundError", "ImportError"),
    ("LookupError", "Exception"),
    ("IndexError", "LookupError"),
    ("KeyError", "LookupError"),
    ("MemoryError", "Exception"),
    ("NameError", "Exception"),
    ("UnboundLocalError", "NameError"),
    ("OSError", "Exception"),
    ("TimeoutError", "OSError"),
    ("ReferenceError", "Exception"),
    ("RuntimeError", "Exception"),
    ("NotImplementedError", "RuntimeError"),
    ("RecursionError", "RuntimeError"),
    ("SyntaxError", "Exception"),
    ("SystemError", "Exception"),
    ("TypeError", "Exception"),
    ("ValueError", "Exception"),
    ("UnicodeError", "ValueError"),
    ("Warning", "Exception"),
    ("UserWarning", "Warning"),
    ("DeprecationWarning", "Warning"),
    ("PendingDeprecationWarning", "Warning"),
    ("SyntaxWarning", "Warning"),
    ("RuntimeWarning", "Warning"),
    ("FutureWarning", "Warning"),
    ("ImportWarning", "Warning"),
    ("UnicodeWarning", "Warning"),
    ("BytesWarning", "Warning"),
    ("ResourceWarning", "Warning") ]

/-- Further names for classes that are already there. -/
def builtinAliases : List (String × String) :=
  [("EnvironmentError", "OSError"), ("IOError", "OSError")]

/-- Names and the classes they stand for, in the order of definition. -/
abbrev Namespace := List (String × Handle)

namespace Namespace

/-- Name a new class that derives from the class called `base`, if there is one. -/
def define
    (state : Heap × Namespace)
    (entry : String × String) :
    Heap × Namespace :=
  let (heap, names) := state
  let (name, baseName) := entry
  let base := names.lookup baseName
  let heap :=
    match base with
    | some handle => (heap.incref handle).toOption.getD heap
    | none => heap
  let (handle, heap) := heap.allocate (.type ⟨name, none, base⟩)
  (heap, names ++ [(name, handle)])

/-- Give the class called `target` a further name. -/
def defineAlias
    (state : Heap × Namespace)
    (entry : String × String) :
    Heap × Namespace :=
  let (heap, names) := state
  let (name, target) := entry
  match names.lookup target with
  | none => state
  | some handle =>
      match heap.incref handle with
      | .ok heap => (heap, names ++ [(name, handle)])
      | .error _ => state

/-- A heap that holds the built-in classes, and their names. -/
def bootstrap : Heap × Namespace :=
  let definitions :=
    ("object", "") :: builtinTypes.map (·, "object") ++ exceptionHierarchy
  builtinAliases.foldl defineAlias (definitions.foldl define (Heap.empty, []))

end Namespace

end Custody
