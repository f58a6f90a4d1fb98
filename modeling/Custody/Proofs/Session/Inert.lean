import Custody.Proofs.Session.Bookkeeping
import Custody.Proofs.Tracking.Inert

/-!
# Runtimes that were shut down

A runtime that was shut down stays so, whatever is done with it afterwards.  Its
wrappers are inert: disposing of them, dropping them and draining what is queued
by hand leave the interpreter alone.
-/

namespace Custody.Session

/--
The runtime counts as shut down, its tracker is closed, no record owns a
reference, and the table of exceptions is empty.
-/
structure Inert (session : Session) : Prop where
  isShutDown : session.isShutDown = true
  registry : session.registry.Inert session.tracker
  table : ∀ entry ∈ session.table.entries, entry.2 = none

variable {session session' : Session}
variable {nested : Session → Except Abort Nat × Session}

/-- A runtime is not shut down twice. -/
theorem shutDown_refused (isShutDown : session.isShutDown = true) :
    Op.shutDown.on session =
      (.error (.error (.misuse (.alreadyShutDown session.number))), session) := by
  have ends : Op.shutDown.Ends session fun outcome session' =>
      (outcome, session') =
        (.error (.error (.misuse (.alreadyShutDown session.number))), session) := by
    simp only [Op.shutDown, Op.ends_bind, Op.ends_session, Op.andThen_ok, isShutDown, if_true]
    rfl
  exact ends

namespace Inert

theorem state_ne
    (inert : session.Inert)
    {state : RecordState}
    (owns : state.owns = true)
    (ref : RecordRef) :
    (session.record ref).state ≠ state := by
  rintro rfl
  exact Bool.false_ne_true ((inert.registry.spent ref).symm.trans owns)

/-! ## Whatever is done -/

theorem of_leads
    {hand hand' : Nat}
    (inert : session.Inert)
    (leads : session.Leads hand [] session' hand' []) :
    session'.Inert where
  isShutDown := leads.isShutDown.trans inert.isShutDown
  registry := leads.tracker ▸ leads.moves.inert inert.registry
  table := leads.table ▸ inert.table

theorem of_notifies
    (inert : session.Inert)
    (notifies : session.Notifies session') :
    session'.Inert where
  isShutDown := notifies.isShutDown.trans inert.isShutDown
  registry := notifies.tracker ▸ inert.registry.of_defers notifies.registry
  table := notifies.table ▸ inert.table

theorem of_serves
    {asked : List RecordRef}
    {hand hand' : Nat}
    (inert : session.Inert)
    (serves : session.Serves asked hand session' hand') :
    session'.Inert := by
  cases serves with
  | leads leads => exact inert.of_leads leads
  | hooked ref hook _ _ _ leads =>
      exact (inert.of_notifies (Spares.ranHook ref hook session).toNotifies).of_leads leads

theorem request
    {request : Request}
    (inert : session.Inert)
    (isOwn : request.IsOwn session) :
    (request.perform session).2.Inert := by
  by_cases stops : request = .act .shutDown
  · subst stops
    show (Op.shutDown.on session).2.Inert
    rw [shutDown_refused inert.isShutDown]
    exact inert
  · by_cases isManual : request.IsManual
    · cases request with
      | act action => exact inert.of_notifies (spares_manual isManual session).toNotifies
      | _ => exact isManual.elim
    · exact inert.of_serves (serves_perform isManual isOwn stops 0)

theorem turns
    (inert : session.Inert)
    (turns : session.Turns session') :
    session'.Inert := by
  induction turns with
  | refl => exact inert
  | tail _ step before =>
      cases step with
      | request _ isOwn => exact before.request isOwn
      | useInterp change => exact ⟨before.isShutDown, before.registry, before.table⟩
      | abandon => exact before.of_leads (leads_abandoned _ 0)

/-! ## What does not reach the interpreter -/

/-- Nothing can be registered any more. -/
theorem register
    (inert : session.Inert)
    (handle : Handle) :
    session.register handle =
      .error (if handle.isNull then .nullHandle else .misuse (.registerClosed handle)) := by
  have isClosed : session.ownTracker.isOpen = false := inert.registry.isClosed
  rw [Session.register, isClosed]
  split
  · rfl
  · rfl

theorem releaseNow
    (inert : session.Inert)
    (ref : RecordRef) :
    (session.releaseNow ref).2 = session := by
  rw [Session.releaseNow, if_neg (inert.state_ne rfl ref)]

/-- A wrapper that is disposed of has nothing to give back. -/
theorem interp_dispose
    (inert : session.Inert)
    (wrapper : Wrapper) :
    (wrapper.dispose.on session).2.interp = session.interp := by
  by_cases own : wrapper.tracker = session.tracker
  · have hooked : session.Spares (wrapper.hooked session) := by
      rw [Wrapper.hooked]
      cases wrapper.hook with
      | none => exact .refl session
      | some hook => exact .ranHook wrapper.record hook session
    rw [Wrapper.dispose_of_own own, (inert.of_notifies hooked.toNotifies).releaseNow]
    exact hooked.interp
  · rw [Wrapper.dispose_of_foreign own]
    rfl

/-- An item whose record owns nothing is skipped after its hook ran. -/
theorem spares_drainItem
    (inert : session.Inert)
    (validates : Bool)
    (generation : Nat)
    (item : PendingRelease) :
    session.Spares (drainItem nested validates generation item session).2 := by
  have ran := (Spares.enter session (.takenUp item.record) (by simp)).trans
    (.runHook item.record item.hook _)
  simp only [drainItem]
  generalize runHook item.record item.hook (session.enter (.takenUp item.record)) = result at ran ⊢
  rcases result with ⟨_ | _, hooked⟩
  · exact ran
  · have settled := (inert.of_notifies ran.toNotifies).state_ne
      (show RecordState.deferred.owns = true from rfl) item.record
    simp only [if_pos settled]
    exact ran

/-- No phase of a drain reaches the interpreter. -/
theorem sustained
    (nested : Session → Except Abort Nat × Session)
    (interp : Interpreter) :
    Sustained nested (fun _ _ session => session.Inert ∧ session.interp = interp)
      fun session => session.Inert ∧ session.interp = interp where
  items := fun validates =>
    { item := by
        rintro session item rest generation - ⟨inert, same⟩
        have drained := @spares_drainItem session nested inert validates generation item
        generalize drainItem nested validates generation item session = result at drained ⊢
        have after := inert.of_notifies drained.toNotifies
        have settled := after.state_ne (show RecordState.deferred.owns = true from rfl) item.record
        rcases result with ⟨_ | entry | mismatch | panic, session'⟩
        · exact ⟨after, drained.interp.trans same⟩
        · exact ⟨after, drained.interp.trans same⟩
        · exact ⟨after, drained.interp.trans same⟩
        · simp only [concluded, abandon, if_neg settled]
          exact ⟨after, drained.interp.trans same⟩
      requeueFront := fun before =>
        ⟨before.1.of_notifies (Spares.requeueFront _ _).toNotifies, before.2⟩ }
  start := by
    intro session _ before
    have flagged : (session.setDraining true).Inert :=
      ⟨before.1.isShutDown, before.1.registry, before.1.table⟩
    exact ⟨flagged.of_notifies (Spares.takeSnapshot _).toNotifies, before.2⟩
  finish := fun _ before => ⟨⟨before.1.isShutDown, before.1.registry, before.1.table⟩, before.2⟩
  countError := fun before => ⟨⟨before.1.isShutDown, before.1.registry, before.1.table⟩, before.2⟩
  reportCollected := by
    intro _ session log generation _ _ before
    have spares := Spares.reportCollected log.length generation session
    exact ⟨before.1.of_notifies spares.toNotifies, spares.interp.trans before.2⟩
  stop := fun before => ⟨⟨before.1.isShutDown, before.1.registry, before.1.table⟩, before.2⟩
  report := by
    intro session error before
    have spares := Spares.report none error session
    exact ⟨before.1.of_notifies spares.toNotifies, spares.interp.trans before.2⟩

theorem interp_collect (inert : session.Inert) : session.collect.2.interp = session.interp :=
  ((sustained _ session.interp).collect ⟨inert, rfl⟩).2

theorem interp_collectThrottled (inert : session.Inert) :
    session.collectThrottled.2.interp = session.interp :=
  ((sustained _ session.interp).collectThrottled ⟨inert, rfl⟩).2

theorem interp_collectInBackground
    (inert : session.Inert)
    (interval : Option Nat)
    (isHeld : Bool) :
    (session.collectInBackground interval isHeld).2.interp = session.interp :=
  (collectInBackground_keeps (fun between => between.Inert ∧ between.interp = session.interp)
    (fun _ before => (sustained _ session.interp).collectReporting before)
    (fun _ before => ⟨before.1.of_notifies (.announce _ _), before.2⟩) interval isHeld
      ⟨inert, rfl⟩).2

end Inert

/--
Dropping and disposing of wrappers, draining and shutting down do not reach the
interpreter, and nothing can be registered.
-/
structure Disarmed (session : Session) : Prop where
  dropWrapper : ∀ wrapper, (session.dropWrapper wrapper).interp = session.interp
  dispose : ∀ wrapper : Wrapper, (wrapper.dispose.on session).2.interp = session.interp
  collect : session.collect.2.interp = session.interp
  collectThrottled : session.collectThrottled.2.interp = session.interp
  collectInBackground :
    ∀ interval isHeld,
      (session.collectInBackground interval isHeld).2.interp = session.interp
  shutDown :
    Op.shutDown.on session =
      (.error (.error (.misuse (.alreadyShutDown session.number))), session)
  register :
    ∀ handle,
      session.register handle =
        .error (if handle.isNull then .nullHandle else .misuse (.registerClosed handle))

theorem Inert.disarmed (inert : session.Inert) : session.Disarmed where
  dropWrapper := fun _ => rfl
  dispose := inert.interp_dispose
  collect := inert.interp_collect
  collectThrottled := inert.interp_collectThrottled
  collectInBackground := inert.interp_collectInBackground
  shutDown := shutDown_refused inert.isShutDown
  register := inert.register

end Custody.Session
