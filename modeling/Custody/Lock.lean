/-!
# The interpreter lock

A runtime's lock is held by at most one thread.  It does not nest: a thread
that holds it and asks for it again panics, while one that only tries is
refused.
-/

namespace Custody

/-- The number of a thread. -/
abbrev ThreadId := Nat

/-- The lock of a runtime and the thread that holds it. -/
structure InterpreterLock where
  runtime : Nat
  holder : Option ThreadId
deriving DecidableEq, Repr

namespace InterpreterLock

/-- The lock of a runtime while nobody holds it. -/
def free (runtime : Nat) : InterpreterLock :=
  ⟨runtime, none⟩

/-- Whether a thread holds the lock. -/
def isHeldBy (lock : InterpreterLock) (thread : ThreadId) : Bool :=
  decide (lock.holder = some thread)

/-- Take the lock if nobody holds it. -/
def tryAcquire
    (lock : InterpreterLock)
    (thread : ThreadId) :
    Option InterpreterLock :=
  match lock.holder with
  | none => some { lock with holder := some thread }
  | some _ => none

/-- The panic of a thread that asks for a lock which it holds. -/
def reentryPanic (lock : InterpreterLock) (thread : ThreadId) : Option String :=
  if lock.isHeldBy thread then
    some <|
      "interpreter lock of runtime #" ++ toString lock.runtime ++
        " is already held by this thread"
  else
    none

/-- Give the lock up. -/
def release (lock : InterpreterLock) : InterpreterLock :=
  { lock with holder := none }

/-- The diagnostic form of a lock that is held. -/
def describe (lock : InterpreterLock) : String :=
  "InterpLock \x7b runtime: #" ++ toString lock.runtime ++ " \x7d"

/-- What two threads see of a lock that one of them takes and gives up again. -/
structure Survey where
  heldBefore : Bool
  acquired : Bool
  held : Bool
  acquiredAgain : Bool
  reentry : Option String
  heldElsewhere : Bool
  acquiredElsewhere : Bool
  heldAfter : Bool
deriving DecidableEq, Repr

/-- Take a lock with one thread, look at it with both, and give it up. -/
def survey
    (lock : InterpreterLock)
    (thread other : ThreadId) :
    Survey :=
  let taken := (lock.tryAcquire thread).getD lock
  { heldBefore := lock.isHeldBy thread
    acquired := (lock.tryAcquire thread).isSome
    held := taken.isHeldBy thread
    acquiredAgain := (taken.tryAcquire thread).isSome
    reentry := taken.reentryPanic thread
    heldElsewhere := taken.isHeldBy other
    acquiredElsewhere := (taken.tryAcquire other).isSome
    heldAfter := taken.release.isHeldBy thread }

end InterpreterLock

end Custody
