import Custody.Finalizer.Drain

/-!
# Background collection

A collector wakes up at intervals and drains whenever something waits and the
lock is free.  It reports the error of a drain; a panic ends it.

Only the end of its work is described here: the state in which nothing waits
any more.  Every pass takes at least one item up, and whatever it queues was
live before, so the passes end.
-/

namespace Custody

/-- The passes of a collector, and the records they released. -/
structure CollectorTotals where
  passes : Nat
  released : Nat
deriving DecidableEq, Repr

/-- Whether a collector was running, and its totals. -/
structure CollectorReport where
  isActive : Bool
  totals : CollectorTotals
deriving DecidableEq, Repr

namespace Session

/-- Drain until nothing waits, at most `bound` times. -/
def collectorPasses : Nat → CollectorTotals → Session → CollectorTotals × Session
  | 0, totals, session => (totals, session)
  | bound + 1, totals, session =>
      if session.queue.hasPending then
        let entered := { totals with passes := totals.passes + 1 }
        match session.collectReporting with
        | (.ok count, session) =>
            collectorPasses bound { entered with released := totals.released + count }
              session
        | (.error _, session) => (entered, session)
      else
        (totals, session)

/-- What a collector does until nothing waits any more. -/
def runCollector (session : Session) : CollectorTotals × Session :=
  session.collectorPasses (session.queue.count + session.registry.liveRecords) ⟨0, 0⟩

/--
Start a collector, at the runtime's own interval if none is given, let it work
until nothing waits, and stop it.  Without an interval none is started; one with
the interval zero does nothing.  If the lock is held at first, the totals of
that time are announced.
-/
def collectInBackground
    (interval : Option Nat)
    (isHeld : Bool)
    (session : Session) :
    Option CollectorReport × Session :=
  if interval.isNone ∧ session.config.interval = 0 then
    (none, session)
  else
    let isActive := decide (interval.getD session.config.interval ≠ 0)
    let session := if isHeld then session.announce (.held 0 0) else session
    if isActive then
      let (totals, session) := session.runCollector
      (some ⟨true, totals⟩, session)
    else
      (some ⟨false, ⟨0, 0⟩⟩, session)

/-- What a drain keeps true is true when a collector has done its work. -/
theorem collectorPasses_keeps
    (kept : Session → Prop)
    (collected : ∀ session, kept session → kept session.collectReporting.2)
    (bound : Nat)
    (totals : CollectorTotals)
    {session : Session}
    (before : kept session) :
    kept (collectorPasses bound totals session).2 := by
  induction bound generalizing totals session with
  | zero => exact before
  | succ bound step =>
      have after := collected session before
      rw [collectorPasses]
      split
      · simp only
        split
        · next collected' =>
            rw [collected'] at after
            exact step _ after
        · next collected' =>
            rw [collected'] at after
            exact after
      · exact before

/-- As for its passes, whether it finds the lock free at first or waits for it. -/
theorem collectInBackground_keeps
    (kept : Session → Prop)
    (collected : ∀ session, kept session → kept session.collectReporting.2)
    (waited : ∀ session, kept session → kept (session.announce (.held 0 0)))
    (interval : Option Nat)
    (isHeld : Bool)
    {session : Session}
    (before : kept session) :
    kept (session.collectInBackground interval isHeld).2 := by
  have announced : kept (if isHeld then session.announce (.held 0 0) else session) := by
    split
    · exact waited session before
    · exact before
  rw [collectInBackground]
  split
  · exact before
  · simp only
    split
    · exact collectorPasses_keeps kept collected _ _ announced
    · exact announced

end Session

end Custody
