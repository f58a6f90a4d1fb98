import Custody.Proofs.Finalizer.Delivery

/-!
# The phases of a drain

A drain takes a snapshot of the queue, deals with the items of the batch one after
another, puts back what it did not take up, and tells of its end.  An item passes its
hook, the check of its count, the drop of its reference, and the check of what remains;
it ends in any of these phases.

What can happen in each phase is said here once.  A property of drains is proved by
showing that the phases keep it.
-/

namespace Custody.Session

variable {nested : Session → Except Abort Nat × Session} {validates : Bool} {generation : Nat}
variable {session session' session'' hooked between last : Session}
variable {item : PendingRelease} {ref : RecordRef}

/-! ## One item -/

/-- How giving a reference back ends, by the phase in which it does. -/
inductive ReferenceRun
    (validates : Bool)
    (generation : Nat)
    (ref : RecordRef)
    (session : Session) :
    ItemEnd × Session → Prop where
  /-- The object is gone, and that was reported. -/
  | bereft {reason : HeapError} {last : Session}
      (gone : session.interp.decref (session.record ref).handle = .error reason)
      (reported :
        report (some ref) (.heap reason)
            ((session.quarantine ref).enter (.fault (.dropFailed ref))) =
          (.ok (), last)) :
      ReferenceRun validates generation ref session (.skipped, last)
  /-- The object is gone, and a callback that was told so panicked. -/
  | unheard {reason : HeapError} {panic : Panic} {last : Session}
      (gone : session.interp.decref (session.record ref).handle = .error reason)
      (reported :
        report (some ref) (.heap reason)
            ((session.quarantine ref).enter (.fault (.dropFailed ref))) =
          (.error panic, last)) :
      ReferenceRun validates generation ref session (.panicked panic, last)
  /-- Too few references remained, and a callback that was told so panicked. -/
  | exposed {remaining : Int} {interp : Interpreter} {panic : Panic} {last : Session}
      (gaveBack :
        session.interp.decref (session.record ref).handle = .ok (remaining, interp))
      (checked :
        (if validates then
            checkRemaining ref remaining ({ session with interp }.enter (.dropped ref))
          else
            (.ok (), { session with interp }.enter (.dropped ref))) =
          (.error panic, last)) :
      ReferenceRun validates generation ref session (.panicked panic, last)
  /-- The reference was given back, and the record is released. -/
  | released {remaining : Int} {interp : Interpreter} {last : Session}
      (gaveBack :
        session.interp.decref (session.record ref).handle = .ok (remaining, interp))
      (checked :
        (if validates then
            checkRemaining ref remaining ({ session with interp }.enter (.dropped ref))
          else
            (.ok (), { session with interp }.enter (.dropped ref))) =
          (.ok (), last)) :
      ReferenceRun validates generation ref session
        (.released (last.complete generation ref).1, (last.complete generation ref).2)

theorem referenceRun_drainReference
    (validates : Bool)
    (generation : Nat)
    (ref : RecordRef)
    (session : Session) :
    ReferenceRun validates generation ref session
      (session.drainReference validates generation ref) := by
  simp only [drainReference]
  split
  · next reason gone =>
      cases reported : report (some ref) (.heap reason)
          ((session.quarantine ref).enter (.fault (.dropFailed ref))) with
      | mk outcome last =>
          cases outcome with
          | error panic => exact .unheard gone reported
          | ok _ => exact .bereft gone reported
  · next remaining interp gaveBack =>
      cases checked : (if validates then
            checkRemaining ref remaining ({ session with interp }.enter (.dropped ref))
          else
            (.ok (), { session with interp }.enter (.dropped ref))) with
      | mk outcome last =>
          cases outcome with
          | error panic => exact .exposed gaveBack checked
          | ok _ => exact .released gaveBack checked

/-- How the drain of an item ends, by the phase in which it does. -/
inductive ItemRun
    (nested : Session → Except Abort Nat × Session)
    (validates : Bool)
    (generation : Nat)
    (item : PendingRelease)
    (session : Session) :
    ItemEnd × Session → Prop where
  /-- Its hook failed, and a callback that was told so panicked. -/
  | interrupted {panic : Panic} {last : Session}
      (ran :
        runHook item.record item.hook (session.enter (.takenUp item.record)) =
          (.error panic, last)) :
      ItemRun nested validates generation item session (.panicked panic, last)
  /-- After its hook its record is not deferred. -/
  | passed {last : Session}
      (ran :
        runHook item.record item.hook (session.enter (.takenUp item.record)) = (.ok (), last))
      (settled : (last.record item.record).state ≠ .deferred) :
      ItemRun nested validates generation item session (.skipped, last)
  /-- A resolver that was asked about its count panicked. -/
  | unresolved {hooked last : Session} {panic : Panic}
      (ran :
        runHook item.record item.hook (session.enter (.takenUp item.record)) = (.ok (), hooked))
      (deferred : (hooked.record item.record).state = .deferred)
      (checked :
        (if validates then validate nested item.record hooked else (.ok none, hooked)) =
          (.error panic, last)) :
      ItemRun nested validates generation item session (.panicked panic, last)
  /-- Its count is too low, and no resolver settled it. -/
  | stopped {hooked between : Session} {mismatch : Mismatch}
      (ran :
        runHook item.record item.hook (session.enter (.takenUp item.record)) = (.ok (), hooked))
      (deferred : (hooked.record item.record).state = .deferred)
      (checked :
        (if validates then validate nested item.record hooked else (.ok none, hooked)) =
          (.ok (some mismatch), between)) :
      ItemRun nested validates generation item session
        (.stopped mismatch,
          (between.quarantine item.record).enter (.fault (.mismatched item.record)))
  /-- Its count is in order, and its reference is due. -/
  | cleared {hooked between : Session} {result : ItemEnd × Session}
      (ran :
        runHook item.record item.hook (session.enter (.takenUp item.record)) = (.ok (), hooked))
      (deferred : (hooked.record item.record).state = .deferred)
      (checked :
        (if validates then validate nested item.record hooked else (.ok none, hooked)) =
          (.ok none, between))
      (run : ReferenceRun validates generation item.record between result) :
      ItemRun nested validates generation item session result

theorem itemRun_drainItem
    (nested : Session → Except Abort Nat × Session)
    (validates : Bool)
    (generation : Nat)
    (item : PendingRelease)
    (session : Session) :
    ItemRun nested validates generation item session
      (drainItem nested validates generation item session) := by
  simp only [drainItem]
  cases ran : runHook item.record item.hook (session.enter (.takenUp item.record)) with
  | mk outcome hooked =>
      cases outcome with
      | error panic => exact .interrupted ran
      | ok _ =>
          simp only
          split
          · next settled => exact .passed ran settled
          · next pending =>
              have deferred : (hooked.record item.record).state = .deferred := Decidable.not_not.mp pending
              cases checked : (if validates then validate nested item.record hooked
                  else (.ok none, hooked)) with
              | mk outcome between =>
                  rcases outcome with panic | _ | mismatch
                  · exact .unresolved ran deferred checked
                  · exact .cleared ran deferred checked
                      (referenceRun_drainReference validates generation item.record between)
                  · exact .stopped ran deferred checked

/-! ### What a phase does -/

theorem Spares.of_hook
    {outcome : Except Panic Unit}
    (ran :
      Session.runHook item.record item.hook (session.enter (.takenUp item.record)) = (outcome, hooked)) :
    session.Spares hooked := by
  have taken := (Spares.enter session (.takenUp item.record) (by simp)).trans
    (.runHook item.record item.hook _)
  rwa [ran] at taken

theorem Spares.of_report
    {record : Option RecordRef}
    {error : BridgeError}
    {outcome : Except Panic Unit}
    (reported : Session.report record error session = (outcome, last)) :
    session.Spares last := by
  have told := Spares.report record error session
  rwa [reported] at told

theorem Incidental.of_report
    {R : Session → Session → Prop}
    {allows : Event → Prop}
    [Incidental R allows]
    {fault : Fault}
    {record : Option RecordRef}
    {error : BridgeError}
    {outcome : Except Panic Unit}
    (reported : Session.report record error (session.enter (.fault fault)) = (outcome, last))
    (allowed : allows (.fault fault))
    (heard : ∀ label record error, allows (.notice (.reported label record error))) :
    R session last := by
  have told : R session _ := Incidental.report allowed heard record error session
  rwa [reported] at told

theorem Incidental.of_recheck
    {R : Session → Session → Prop}
    {allows : Event → Prop}
    [Incidental R allows]
    {remaining : Int}
    {outcome : Except Panic Unit}
    (checked :
      (if validates then checkRemaining ref remaining session else (.ok (), session)) =
        (outcome, last))
    (allowed : allows (.fault (.shortfall ref)))
    (heard : ∀ label record error, allows (.notice (.reported label record error))) :
    R session last := by
  have told : R session _ :=
    Incidental.checkRemaining_ite allowed heard validates remaining session
  rwa [checked] at told

theorem Resolving.of_check
    {R : Session → Session → Prop}
    {allows : Event → Prop}
    [Resolving R allows]
    {outcome : Except Panic (Option Mismatch)}
    (checked :
      (if validates then Session.validate nested ref session else (.ok none, session)) =
        (outcome, between))
    (heard : ∀ label mismatch asked, allows (.notice (.offered label mismatch asked)))
    (idles : Idles nested)
    (running : session.finalizer.draining = true) :
    R session between := by
  have asked : R session _ := Resolving.validate_ite heard idles validates ref session running
  rwa [checked] at asked

theorem Notifies.of_check
    {outcome : Except Panic (Option Mismatch)}
    (checked :
      (if validates then Session.validate nested ref session else (.ok none, session)) =
        (outcome, between))
    (idles : Idles nested)
    (running : session.finalizer.draining = true) :
    session.Notifies between :=
  Resolving.of_check checked (by simp) idles running

theorem Notifies.of_recheck
    {remaining : Int}
    {outcome : Except Panic Unit}
    (checked :
      (if validates then checkRemaining ref remaining session else (.ok (), session)) =
        (outcome, last)) :
    session.Notifies last :=
  Incidental.of_recheck checked (by simp) (by simp)

/-- Too few references may remain, but that does not reach the interpreter. -/
theorem interp_of_recheck
    {remaining : Int}
    {outcome : Except Panic Unit}
    (checked :
      (if validates then checkRemaining ref remaining session else (.ok (), session)) =
        (outcome, last)) :
    last.interp = session.interp := by
  have same := interp_checkRemaining_ite validates ref remaining session
  rwa [checked] at same

/-! ### What an item leaves alone -/

/-- The runtime is the same, but for its interpreter and for subscriptions that ended. -/
structure Retains (session session' : Session) : Prop where
  config : session'.config = session.config
  table : session'.table = session.table
  tracker : session'.tracker = session.tracker
  isShutDown : session'.isShutDown = session.isShutDown
  finalizer : session.finalizer.Trims session'.finalizer

namespace Retains

theorem refl (session : Session) : session.Retains session :=
  ⟨rfl, rfl, rfl, rfl, .refl _⟩

theorem trans
    (first : session.Retains session')
    (second : session'.Retains session'') :
    session.Retains session'' where
  config := second.config.trans first.config
  table := second.table.trans first.table
  tracker := second.tracker.trans first.tracker
  isShutDown := second.isShutDown.trans first.isShutDown
  finalizer := first.finalizer.trans second.finalizer

theorem of_notifies (notifies : session.Notifies session') : session.Retains session' :=
  ⟨notifies.config, notifies.table, notifies.tracker, notifies.isShutDown, notifies.finalizer⟩

/-- The interpreter and the registry may have changed in any way. -/
theorem alter
    (session : Session)
    (interp : Interpreter)
    (registry : Registry) :
    session.Retains { session with interp, registry } :=
  ⟨rfl, rfl, rfl, rfl, .refl _⟩

theorem abandon
    (session : Session)
    (ref : RecordRef) :
    session.Retains (session.abandon ref) := by
  rw [Session.abandon]
  split
  · exact alter session _ _
  · exact refl session

theorem of_referenceRun
    {result : ItemEnd × Session}
    (run : ReferenceRun validates generation ref session result) :
    session.Retains result.2 := by
  have quarantined :
      session.Retains ((session.quarantine ref).enter (.fault (.dropFailed ref))) :=
    alter session _ _
  have dropped (interp : Interpreter) :
      session.Retains ({ session with interp }.enter (.dropped ref)) :=
    alter session _ _
  cases run with
  | bereft gone reported =>
      exact quarantined.trans (of_notifies (Spares.of_report reported).toNotifies)
  | unheard gone reported =>
      exact quarantined.trans (of_notifies (Spares.of_report reported).toNotifies)
  | exposed gaveBack checked =>
      exact (dropped _).trans (of_notifies (.of_recheck checked))
  | @released _ _ last gaveBack checked =>
      exact ((dropped _).trans (of_notifies (.of_recheck checked))).trans (alter last _ _)

theorem of_itemRun
    {result : ItemEnd × Session}
    (run : ItemRun nested validates generation item session result)
    (idles : Idles nested)
    (running : session.finalizer.draining = true) :
    session.Retains result.2 := by
  cases run with
  | interrupted ran => exact of_notifies (Spares.of_hook ran).toNotifies
  | passed ran settled => exact of_notifies (Spares.of_hook ran).toNotifies
  | unresolved ran deferred checked =>
      have notifies := (Spares.of_hook ran).toNotifies
      exact of_notifies (notifies.trans (.of_check checked idles (notifies.draining running)))
  | @stopped _ between _ ran deferred checked =>
      have notifies := (Spares.of_hook ran).toNotifies
      have asked := notifies.trans (.of_check checked idles (notifies.draining running))
      exact (of_notifies asked).trans (alter between _ _)
  | cleared ran deferred checked run =>
      have notifies := (Spares.of_hook ran).toNotifies
      have asked := notifies.trans (.of_check checked idles (notifies.draining running))
      exact (of_notifies asked).trans (of_referenceRun run)

end Retains

theorem retains_drainItem
    (idles : Idles nested)
    (validates : Bool)
    (generation : Nat)
    (item : PendingRelease)
    (session : Session)
    (running : session.finalizer.draining = true) :
    session.Retains (drainItem nested validates generation item session).2 :=
  .of_itemRun (itemRun_drainItem nested validates generation item session) idles running

/-- How far a drain got with an item; what a panic interrupted is abandoned. -/
def concluded (ref : RecordRef) (outcome : ItemEnd × Session) : Session :=
  match outcome with
  | (.panicked _, session) => session.abandon ref
  | (_, session) => session

theorem Retains.concluded
    {result : ItemEnd × Session}
    (retains : session.Retains result.2)
    (ref : RecordRef) :
    session.Retains (concluded ref result) := by
  rcases result with ⟨_ | _ | _ | _, last⟩
  · exact retains
  · exact retains
  · exact retains
  · exact retains.trans (.abandon last ref)

/-! ## Whole drains -/

/-- The session in which a drain took everything from the queue. -/
def started (session : Session) : Session :=
  (session.setDraining true).takeSnapshot.2.2

/-- What a drain does once its batch has come to an end. -/
def drainEnd (generation : Nat) : BatchEnd × Session → Except Abort Nat × Session
  | (.panicked panic, session) => (.error (.panic panic), session.setDraining false)
  | (.stopped log mismatch, session) =>
      (.error (.error (.incorrectRefCount mismatch)),
        ((session.finish log).updateFinalizer Finalizer.countError).setDraining false)
  | (.completed log, session) =>
      match (if log.isEmpty then (.ok (), session.finish log)
        else reportCollected log.length generation (session.finish log) :
          Except Panic Unit × Session) with
      | (.error panic, session) => (.error (.panic panic), session.setDraining false)
      | (.ok (), session) => (.ok log.length, session.setDraining false)

theorem drain_eq
    (nested : Session → Except Abort Nat × Session)
    (session : Session) :
    session.drain nested =
      drainEnd session.queue.generation
        (drainBatch nested session.finalizer.validates session.queue.generation
          session.queue.items [] session.started) := by
  simp only [drain]
  change _ = drainEnd _ (drainBatch nested
    (session.setDraining true).takeSnapshot.2.2.finalizer.validates
    (session.setDraining true).takeSnapshot.1 (session.setDraining true).takeSnapshot.2.1 []
    (session.setDraining true).takeSnapshot.2.2)
  generalize drainBatch _ _ _ _ _ _ = result
  rcases result with ⟨log | ⟨log, mismatch⟩ | panic, last⟩
  · simp only [drainEnd]
    have same : (session.setDraining true).takeSnapshot.1 = session.queue.generation := rfl
    rw [same]
    generalize (if log.isEmpty then (.ok (), last.finish log)
      else reportCollected log.length _ (last.finish log)) = result
    rcases result with ⟨_ | _, session'⟩
    · rfl
    · rfl
  · rfl
  · rfl

theorem idles_collectWithin (depth : Nat) :
    Idles (collectWithin depth) := by
  intro session draining
  cases depth with
  | zero => rfl
  | succ depth => simp [collectWithin, draining]

/-- What is true of a session and of the items not taken up yet, while a batch is drained. -/
structure SustainedByItems
    (nested : Session → Except Abort Nat × Session)
    (validates : Bool)
    (during : List PendingRelease → Session → Prop) :
    Prop where
  item {session : Session} {item : PendingRelease} {rest : List PendingRelease}
    (generation : Nat) :
    session.finalizer.draining = true → during (item :: rest) session →
      during rest (concluded item.record (drainItem nested validates generation item session))
  requeueFront {session : Session} {rest : List PendingRelease} :
    during rest session → during [] (session.requeueFront rest)

/-- What every phase of a drain keeps true: while it runs, and before and after it. -/
structure Sustained
    (nested : Session → Except Abort Nat × Session)
    (during : Bool → List PendingRelease → Session → Prop)
    (around : Session → Prop) :
    Prop where
  items (validates : Bool) : SustainedByItems nested validates (during validates)
  start {session : Session} :
    session.finalizer.draining = false → around session →
      during session.finalizer.validates session.queue.items session.started
  finish {validates : Bool} {session : Session} (log : List CollectedObject) :
    during validates [] session → during validates [] (session.finish log)
  countError {validates : Bool} {session : Session} :
    during validates [] session →
      during validates [] (session.updateFinalizer Finalizer.countError)
  reportCollected {validates : Bool} {session : Session}
    (log : List CollectedObject) (generation : Nat) :
    session.finalizer.draining = true → log ≠ [] → during validates [] session →
      during validates [] (reportCollected log.length generation session).2
  stop {validates : Bool} {session : Session} :
    during validates [] session → around (session.setDraining false)
  report {session : Session} (error : BridgeError) :
    around session → around (report none error session).2

theorem SustainedByItems.drainBatch
    {during : List PendingRelease → Session → Prop}
    (sustained : SustainedByItems nested validates during)
    (idles : Idles nested)
    (batch : List PendingRelease)
    (log : List CollectedObject)
    (generation : Nat)
    (running : session.finalizer.draining = true)
    (before : during batch session) :
    during [] (drainBatch nested validates generation batch log session).2 ∧
      (drainBatch nested validates generation batch log session).2.finalizer.draining = true := by
  induction batch generalizing log session with
  | nil => exact ⟨before, running⟩
  | cons item rest step =>
      have dealt := sustained.item generation running before
      have retains := (retains_drainItem idles validates generation item session running).concluded
        item.record
      have still := retains.finalizer.draining.trans running
      simp only [Session.drainBatch]
      generalize drainItem nested validates generation item session = result at dealt still ⊢
      rcases result with ⟨_ | entry | mismatch | panic, session'⟩
      · exact step _ still dealt
      · exact step _ still dealt
      · exact ⟨sustained.requeueFront dealt, still⟩
      · exact ⟨sustained.requeueFront dealt, still⟩

namespace Sustained

variable {during : Bool → List PendingRelease → Session → Prop} {around : Session → Prop}

/-- However a drain ends, what its phases keep true is true after it. -/
theorem drain
    (sustained : Sustained nested during around)
    (idles : Idles nested)
    (idle : session.finalizer.draining = false)
    (before : around session) :
    around (session.drain nested).2 := by
  have running : session.started.finalizer.draining = true := rfl
  have drained := (sustained.items session.finalizer.validates).drainBatch idles
    session.queue.items [] session.queue.generation running (sustained.start idle before)
  rw [drain_eq]
  generalize Session.drainBatch nested _ _ _ _ _ = result at drained ⊢
  rcases result with ⟨log | ⟨log, mismatch⟩ | panic, last⟩
  · have finished := sustained.finish log drained.1
    have delivered : during session.finalizer.validates []
        (if log.isEmpty then (.ok (), last.finish log)
          else Session.reportCollected log.length session.queue.generation
            (last.finish log)).2 := by
      split
      · exact finished
      · next filled =>
          exact sustained.reportCollected log _ drained.2
            (fun empty => filled (List.isEmpty_iff.mpr empty)) finished
    simp only [drainEnd]
    generalize (if log.isEmpty then (.ok (), last.finish log)
      else Session.reportCollected log.length _ (last.finish log)) = result at delivered ⊢
    rcases result with ⟨_ | _, session'⟩
    · exact sustained.stop delivered
    · exact sustained.stop delivered
  · exact sustained.stop (sustained.countError (sustained.finish log drained.1))
  · exact sustained.stop drained.1

theorem collect
    (sustained : Sustained (collectWithin 1) during around)
    (before : around session) :
    around session.collect.2 := by
  unfold Session.collect collectWithin
  split
  · exact before
  · next running =>
      have idle : session.finalizer.draining = false := by simpa using running
      exact sustained.drain (idles_collectWithin 1) idle before

theorem collectReporting
    (sustained : Sustained (collectWithin 1) during around)
    (before : around session) :
    around session.collectReporting.2 := by
  have collected := sustained.collect before
  rw [Session.collectReporting]
  generalize session.collect = result at collected ⊢
  rcases result with ⟨(error | panic) | count, session'⟩
  · have reported := sustained.report error collected
    simp only
    generalize Session.report none error session' = result at reported ⊢
    rcases result with ⟨_ | _, session''⟩
    · exact reported
    · exact reported
  · exact collected
  · exact collected

theorem collectThrottled
    (sustained : Sustained (collectWithin 1) during around)
    (before : around session) :
    around session.collectThrottled.2 := by
  rw [Session.collectThrottled]
  split
  · exact sustained.collectReporting before
  · exact before

end Sustained

end Custody.Session
