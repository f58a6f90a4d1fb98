import Custody.Interpreter.Warnings
import Custody.Session.Wrapping

/-!
# Shutting down

A shutdown drains what waits, a bounded number of times since hooks may keep
deferring, then releases every record that still owns a reference, and then
what the runtime itself holds.
-/

namespace Custody

/-- How many records the drains of a shutdown released, and how many it released itself. -/
structure ShutdownReport where
  drained : Nat
  released : Nat
deriving DecidableEq, Repr

namespace Op

/-- Drain while anything waits, at most `passes` times; errors are reported. -/
def drainPasses : Nat → Nat → Op Nat
  | 0, drained => return drained
  | passes + 1, drained => do
      let session ← session
      if session.queue.hasPending then
        let count ← ofPanicking Session.collectReporting
        drainPasses passes (drained + count)
      else
        return drained

/-- The number of drains that a shutdown attempts. -/
def shutdownPasses : Nat :=
  16

/--
Shut the runtime down.  It counts as shut down from the start, even if a
callback panics on the way.
-/
def shutDown : Op ShutdownReport := do
  let session ← session
  if session.isShutDown then
    fail (.misuse (.alreadyShutDown session.number))
  else
    change fun session => { session with isShutDown := true }
    let drained ← drainPasses shutdownPasses 0
    let released ← of fun session =>
      let (released, session) := session.releaseAll
      (.ok released, session)
    change fun session =>
      let (table, interp) := session.table.release session.interp
      { session with table, interp := interp.clear.resetFilters }
    return ⟨drained, released⟩

end Op

end Custody
