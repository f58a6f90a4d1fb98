/-!
# Configuration

What a runtime is started with.
-/

namespace Custody

/--
How many waiting releases let a registration start a drain, whether drains check
counts against records, whether dropped wrappers are queued at all, and after
how many milliseconds a collector wakes up (never, if 0).
-/
structure Config where
  threshold : Nat
  validates : Bool
  defers : Bool
  interval : Nat
deriving DecidableEq, Repr

/-- The configuration of a runtime that asks for nothing special. -/
def Config.standard : Config where
  threshold := 200
  validates := true
  defers := true
  interval := 0

end Custody
