import Custody.Session.Capture

/-!
# Host errors

An error of the host, as far as the interpreter is concerned: either a captured
exception, or a text with a key that selects the class to raise, perhaps caused
by another host error.
-/

namespace Custody

/-- An error of the host. -/
inductive HostError where
  | plain (key text : String)
  | captured (exception : CapturedException)
  | wrapped (key text : String) (source : HostError)

namespace HostError

/-- The first captured exception along the chain of sources. -/
def exception? : HostError → Option CapturedException
  | .plain _ _ => none
  | .captured exception => some exception
  | .wrapped _ _ source => source.exception?

/-- The key and the text under which an error is raised as a class of its own. -/
def description : HostError → String × String
  | .plain key text => (key, text)
  | .captured exception => ("", exception.message)
  | .wrapped key text _ => (key, text)

/--
Raise a host error inside the interpreter.  A captured exception among its
sources becomes pending again as it was; otherwise an instance of the class for
the key is raised.
-/
def raise (error : HostError) : Op Unit := do
  match error.exception? with
  | some exception => exception.restoreClone
  | none =>
      let (key, text) := error.description
      let type ← Op.withInterp fun interp => interp.hostClass key
      let session ← Op.session
      let (value, interp) ← Op.ofHeap (session.interp.newException type (some text))
      Op.changeInterp fun _ => interp
      (Op.tryInterp fun interp => interp.setErrorObject type (some value)).onError
        fun interp => interp.release value
      Op.changeInterp fun interp => interp.release value

end HostError

end Custody
