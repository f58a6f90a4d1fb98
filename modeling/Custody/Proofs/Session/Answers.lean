import Custody.Proofs.Session.Moves
import Custody.Proofs.Session.Requests

/-!
# Answers

What a runtime answers to a request, in full: the result or the error that the
operation ended with.  Requests use up wrappers and hooks that the caller hands
over, and answers come with new ones, within results as well as errors.
-/

namespace Custody.Session

/-- What a request returns to the caller. -/
inductive Answer where
  | nothing
  | references (handles : List Handle)
  | hook (hook : Hook)
  | batch (generation : Nat) (items : List PendingRelease)
  | subscription (id : SubscriptionId)
  | found (isFound : Bool)
  | delivered (outcome : Except Panic Unit)
  | drained (outcome : Except Panic Nat)
  | collector (report : Option CollectorReport)
  | record (outcome : Except BridgeError RecordRef)
  | ended (outcome : Except Abort Unit)
  | handle (outcome : Except Abort Handle)
  | count (outcome : Except Abort Nat)
  | wrapper (outcome : Except Abort Wrapper)
  | exception (outcome : Except Abort (Option CapturedException))
  | triple (outcome : Except Abort Triple)
  | shutDown (outcome : Except Abort ShutdownReport)
deriving DecidableEq

/-- How often the wrappers and hooks of an answer hold trackers. -/
def Answer.holds : Answer → Nat
  | .hook made => made.holds
  | .batch _ items => PendingRelease.holdsOf items
  | .record outcome => Op.heldBy Op.nothing (outcome.mapError Abort.error)
  | .ended outcome => Op.heldBy Op.nothing outcome
  | .handle outcome => Op.heldBy Op.nothing outcome
  | .count outcome => Op.heldBy Op.nothing outcome
  | .wrapper outcome => Op.heldBy Wrapper.holds outcome
  | .exception outcome => Op.heldBy CapturedException.holdsOf outcome
  | .triple outcome => Op.heldBy Op.nothing outcome
  | .shutDown outcome => Op.heldBy Op.nothing outcome
  | _ => 0

namespace Action

/-- What an operation on the tracker or the finalizer returns. -/
def answer (session : Session) : Action → Answer
  | register handle => .record ((session.register handle).map Prod.fst)
  | releaseNow ref => .ended (session.releaseNow ref).1
  | deferRelease _ _ => .nothing
  | detach ref => .handle (session.detach ref).1
  | newHook => .hook session.newHook.1
  | discardHook _ => .nothing
  | dropWrapper _ => .nothing
  | dispose wrapper => .ended (wrapper.dispose.on session).1
  | intoHandle wrapper => .handle (wrapper.intoHandle.on session).1
  | push _ => .nothing
  | takeSnapshot => .batch session.takeSnapshot.1 session.takeSnapshot.2.1
  | requeueFront _ => .nothing
  | collect => .count session.collect.1
  | collectThrottled => .drained session.collectThrottled.1
  | onCollect handler => .subscription (session.onCollect handler).1
  | onError handler => .subscription (session.onError handler).1
  | addResolver resolver => .subscription (session.addResolver resolver).1
  | unsubscribe id => .found (session.unsubscribe id).1
  | setThreshold _ => .nothing
  | setValidation _ => .nothing
  | setDeferral _ => .nothing
  | reportFault record error => .delivered (session.reportFault record error).1
  | shutDown => .shutDown (Op.shutDown.on session).1

/-- How often the wrappers and hooks that an operation uses up hold trackers. -/
def spent : Action → Nat
  | deferRelease _ hook => Hook.holdsOf hook
  | discardHook hook => Hook.holdsOf hook
  | dropWrapper wrapper => wrapper.holds
  | dispose wrapper => wrapper.holds
  | intoHandle wrapper => wrapper.holds
  | _ => 0

/-- The queue is filled and emptied by hand. -/
def IsManual : Action → Prop
  | push _ => True
  | takeSnapshot => True
  | requeueFront _ => True
  | _ => False

/-- A wrapper that is given up belongs to the runtime. -/
def IsOwn (session : Session) : Action → Prop
  | intoHandle wrapper => wrapper.tracker = session.tracker
  | _ => True

end Action

namespace Request

/-- What a request returns. -/
def answer (session : Session) : Request → Answer
  | .interpret call => .references (call.perform session.interp).1
  | .act action => action.answer session
  | .collectInBackground interval isHeld =>
      .collector (session.collectInBackground interval isHeld).1
  | .wrapNone => .wrapper (Wrapper.ofNone.on session).1
  | .wrapPayload payload => .wrapper ((Wrapper.ofPayload payload).on session).1
  | .wrapList items => .wrapper ((Wrapper.ofList items).on session).1
  | .wrapOwned handle => .wrapper ((Wrapper.ofOwned handle).on session).1
  | .wrapBorrowed handle => .wrapper ((Wrapper.ofBorrowed handle).on session).1
  | .clone wrapper => .wrapper (wrapper.clone.on session).1
  | .getItem wrapper index => .wrapper ((wrapper.getItem index).on session).1
  | .fetch => .exception (CapturedException.fetch.on session).1
  | .checkPending => .ended (CapturedException.checkPending.on session).1
  | .cause exception => .exception (exception.cause.on session).1
  | .restoreClone exception => .ended (exception.restoreClone.on session).1
  | .restore exception => .ended (exception.restore.on session).1
  | .raiseError error => .ended (error.raise.on session).1
  | .setError type message => .ended ((Indicator.setError type message).on session).1
  | .setErrorObject type value => .ended ((Indicator.setErrorObject type value).on session).1
  | .setCause exception => .ended ((Indicator.setCause exception).on session).1
  | .normalize triple => .triple ((Indicator.normalize triple).on session).1
  | .raiseTypeError message => .ended ((Indicator.raiseTypeError message).on session).1
  | .warn category message level => .ended ((Indicator.warn category message level).on session).1
  | .deprecation message level => .ended ((Indicator.deprecation message level).on session).1

/-- How often the wrappers and hooks that a request uses up hold trackers. -/
def spent : Request → Nat
  | .act action => action.spent
  | .restore exception => exception.holds
  | _ => 0

/-- The records whose hooks run because the caller disposes of their wrappers. -/
def disposed : Request → List RecordRef
  | .act (.dispose wrapper) => wrapper.disposed
  | _ => []

/-- The queue is filled and emptied by hand. -/
def IsManual : Request → Prop
  | .act action => action.IsManual
  | _ => False

/-- Wrappers that are given up belong to the runtime. -/
def IsOwn (session : Session) : Request → Prop
  | .act action => action.IsOwn session
  | .restore exception => ∀ wrapper ∈ exception.wrappers, wrapper.tracker = session.tracker
  | _ => True

end Request

theorem Request.session_wrapped
    (handle : Handle)
    (result : Except Abort Wrapper × Session) :
    (Request.wrapped handle result).2 = result.2 := by
  rcases result with ⟨(error | panic) | wrapper, session⟩
  · rfl
  · rfl
  · rfl

/-! ## What requests do -/

variable {session : Session}

/-- Neither result of a registration holds a tracker. -/
theorem heldBy_register
    (session : Session)
    (handle : Handle) :
    Op.heldBy Op.nothing (((session.register handle).map Prod.fst).mapError Abort.error) = 0 := by
  rw [register]
  split
  · rfl
  · split
    · rfl
    · split
      · rfl
      · rfl

/-- Neither result of a drain holds a tracker. -/
theorem heldBy_collect (session : Session) :
    Op.heldBy Op.nothing session.collect.1 = 0 := by
  unfold collect collectWithin
  split
  · rfl
  · simp only [drain]
    generalize drainBatch _ _ _ _ _ _ = result
    rcases result with ⟨log | ⟨log, mismatch⟩ | panic, session'⟩
    · simp only
      split
      · rfl
      · rfl
    · rfl
    · rfl

/-- Neither result of disposing of a wrapper holds a tracker. -/
theorem heldBy_dispose
    (wrapper : Wrapper)
    (session : Session) :
    Op.heldBy Op.nothing (wrapper.dispose.on session).1 = 0 := by
  have ends : wrapper.dispose.Ends session fun outcome _ => Op.heldBy Op.nothing outcome = 0 := by
    by_cases own : wrapper.tracker = session.tracker
    · exact (Wrapper.ends_dispose own).2
    · rw [Wrapper.dispose, Op.ends_bind, Op.ends_orDrop]
      exact Wrapper.ends_requireOwn (fun same => absurd same own) fun _ => rfl
  exact ends

namespace Leads

/--
An operation other than a shutdown, other than on the queue itself and other than
disposing of a wrapper is made of moves.
-/
theorem act
    {action : Action}
    (isDeferring : ¬ action.IsManual)
    (isOwn : action.IsOwn session)
    (stays : action ≠ .shutDown)
    (spares : ∀ wrapper, action ≠ .dispose wrapper)
    (hand : Nat) :
    session.Leads (action.spent + hand) [] (action.perform session)
      ((action.answer session).holds + hand) [] := by
  have plain {session' : Session} (leads : session.Leads hand [] session' hand []) :
      session.Leads (0 + hand) [] session' (0 + hand) [] := by
    simpa only [Nat.zero_add] using leads
  have used {spent : Nat} {session' : Session}
      (leads : session.Leads (spent + hand) [] session' hand []) :
      session.Leads (spent + hand) [] session' (0 + hand) [] := by
    simpa only [Nat.zero_add] using leads
  cases action with
  | register handle =>
      simp only [Action.answer, Answer.holds, heldBy_register]
      cases registered : session.register handle with
      | ok result =>
          simp only [Action.perform, registered]
          exact plain (.register registered)
      | error error =>
          simp only [Action.perform, registered]
          exact plain (.refl _ _ _)
  | releaseNow ref =>
      simp only [Action.answer, Answer.holds, Wrapper.heldBy_releaseNow]
      exact plain (.releaseNow session hand ref)
  | deferRelease ref hook => exact used (.move (.deferRelease _ _ _ _ _))
  | detach ref =>
      simp only [Action.answer, Answer.holds, Session.detach, Wrapper.heldBy_detach]
      exact plain (.detach session hand ref)
  | newHook =>
      simp only [Action.answer, Answer.holds, Session.newHook, Hook.holds, Action.spent,
        Nat.zero_add, Nat.add_comm 1]
      exact .hold session hand
  | discardHook hook => exact used (.move (.discardHook _ _ _ _))
  | dropWrapper wrapper => exact used (.move (.dropWrapper _ _ _ _))
  | dispose wrapper => exact absurd rfl (spares wrapper)
  | intoHandle wrapper => exact Wrapper.leads_intoHandle wrapper isOwn hand
  | push item => exact absurd trivial isDeferring
  | takeSnapshot => exact absurd trivial isDeferring
  | requeueFront items => exact absurd trivial isDeferring
  | collect =>
      simp only [Action.answer, Answer.holds, heldBy_collect]
      exact plain (leads_collect hand session)
  | collectThrottled => exact plain (leads_collectThrottled hand session)
  | onCollect handler => exact plain ⟨⟨rfl, rfl, rfl, rfl⟩, .single (.subscribe _ _ _ _)⟩
  | onError handler => exact plain ⟨⟨rfl, rfl, rfl, rfl⟩, .single (.subscribe _ _ _ _)⟩
  | addResolver resolver => exact plain ⟨⟨rfl, rfl, rfl, rfl⟩, .single (.subscribe _ _ _ _)⟩
  | unsubscribe id =>
      exact plain (.of_same (Finalizer.Trims.unsubscribe session.finalizer id).draining)
  | setThreshold threshold => exact plain (.of_same rfl)
  | setValidation validates => exact plain (.of_same rfl)
  | setDeferral defers =>
      exact plain (.move (.adjust _ _ _ _ fun tracker => ⟨tracker.isOpen, defers, rfl, id⟩))
  | reportFault record error =>
      have told : session.Leads hand [] (session.enter (.fault .reported)) hand [] :=
        .move (.enter _ _ _ _ trivial)
      exact plain (told.trans (leads_report record error hand _))
  | shutDown => exact absurd rfl stays

/-- As `act`, for requests. -/
theorem perform
    {request : Request}
    (isDeferring : ¬ request.IsManual)
    (isOwn : request.IsOwn session)
    (stays : request ≠ .act .shutDown)
    (spares : ∀ wrapper, request ≠ .act (.dispose wrapper))
    (hand : Nat) :
    session.Leads (request.spent + hand) [] (request.perform session).2
      ((request.answer session).holds + hand) [] := by
  have plain {session' : Session} (leads : session.Leads hand [] session' hand []) :
      session.Leads (0 + hand) [] session' (0 + hand) [] := by
    simpa only [Nat.zero_add] using leads
  cases request with
  | interpret call => exact plain (.of_same rfl)
  | act action =>
      exact act isDeferring isOwn (fun same => stays (congrArg _ same))
        (fun wrapper same => spares wrapper (congrArg _ same)) hand
  | collectInBackground interval isHeld =>
      exact plain (leads_collectInBackground interval isHeld hand session)
  | wrapNone => exact Wrapper.leads_ofNone hand
  | wrapPayload payload => exact Wrapper.leads_ofPayload payload hand
  | wrapList items => exact Wrapper.leads_ofList items hand
  | wrapOwned handle =>
      have leads := @Wrapper.leads_ofOwned session handle hand
      rw [Request.perform, Request.session_wrapped]
      exact leads
  | wrapBorrowed handle => exact Wrapper.leads_ofBorrowed handle hand
  | clone wrapper => exact Wrapper.leads_clone wrapper hand
  | getItem wrapper index => exact Wrapper.leads_getItem wrapper index hand
  | fetch => exact CapturedException.leads_fetch hand
  | checkPending => exact CapturedException.leads_checkPending hand
  | cause exception => exact CapturedException.leads_cause exception hand
  | restoreClone exception => exact CapturedException.leads_restoreClone exception hand
  | restore exception => exact CapturedException.leads_restore exception isOwn hand
  | raiseError error => exact HostError.leads_raise error hand
  | setError type message => exact Indicator.leads_setError type message hand
  | setErrorObject type value => exact Indicator.leads_setErrorObject type value hand
  | setCause exception => exact Indicator.leads_setCause exception hand
  | normalize triple => exact Indicator.leads_normalize triple hand
  | raiseTypeError message => exact Indicator.leads_raiseTypeError message hand
  | warn category message level => exact Indicator.leads_warn category message level hand
  | deprecation message level => exact Indicator.leads_deprecation message level hand

end Leads

/-- A request other than a shutdown and other than on the queue itself is served. -/
theorem serves_perform
    {request : Request}
    (isDeferring : ¬ request.IsManual)
    (isOwn : request.IsOwn session)
    (stays : request ≠ .act .shutDown)
    (hand : Nat) :
    session.Serves request.disposed (request.spent + hand) (request.perform session).2
      ((request.answer session).holds + hand) := by
  by_cases disposes : ∃ wrapper, request = .act (.dispose wrapper)
  · rcases disposes with ⟨wrapper, rfl⟩
    have served := Wrapper.serves_dispose wrapper session hand
    have none_held := heldBy_dispose wrapper session
    change session.Serves wrapper.disposed (wrapper.holds + hand) (wrapper.dispose.on session).2
      (Op.heldBy Op.nothing (wrapper.dispose.on session).1 + hand)
    rwa [none_held, Nat.zero_add]
  · exact .leads (.perform isDeferring isOwn stays
      (fun wrapper same => disposes ⟨wrapper, same⟩) hand)

end Custody.Session
