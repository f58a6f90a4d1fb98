import Custody.Proofs.Interpreter.Calls
import Custody.Proofs.Session.Closing
import Custody.Proofs.Session.Indicating
import Custody.Proofs.Session.Lifecycle
import Custody.Session.Collector

/-!
# Requests to a runtime

The host uses a runtime request by request: calls of the interpreter, operations
on the tracker and the finalizer, wrappers, captured exceptions, the error
indicator.  A request takes some references over from the caller and returns
others.  A permitted request keeps a runtime sound, whether it succeeds or not.
-/

namespace Custody

namespace Session

/-- What a caller can ask of a runtime in use. -/
inductive Request where
  | interpret (call : Interpreter.Call)
  | act (action : Action)
  | collectInBackground (interval : Option Nat) (isHeld : Bool)
  | wrapNone
  | wrapPayload (payload : Payload)
  | wrapList (items : List Wrapper)
  | wrapOwned (handle : Handle)
  | wrapBorrowed (handle : Handle)
  | clone (wrapper : Wrapper)
  | getItem (wrapper : Wrapper) (index : Int)
  | fetch
  | checkPending
  | cause (exception : CapturedException)
  | restoreClone (exception : CapturedException)
  | restore (exception : CapturedException)
  | raiseError (error : HostError)
  | setError (type : Handle) (message : String)
  | setErrorObject (type : Handle) (value : Wrapper)
  | setCause (exception : CapturedException)
  | normalize (triple : Triple)
  | raiseTypeError (message : String)
  | warn (category : Handle) (message : String) (level : Nat)
  | deprecation (message : String) (level : Nat)

namespace Action

/-- The reference that an operation takes over from the caller. -/
def taken : Action → Multiset Handle
  | register handle => {handle}
  | _ => 0

/-- The references that the caller owns from an operation on. -/
def received (session : Session) : Action → List Handle
  | register handle =>
      match session.register handle with
      | .ok _ => []
      | .error _ => [handle]
  | detach ref => (session.detach ref).1.toOption.toList
  | intoHandle wrapper => (wrapper.intoHandle.on session).1.toOption.toList
  | _ => []

/--
Wrappers belong to the runtime, handlers do not panic, and resolvers do nothing
to an interpreter that cannot be done to one.  A shutdown ends the use of a
runtime.
-/
def Permitted (session : Session) : Action → Prop
  | intoHandle wrapper => wrapper.tracker = session.tracker
  | onCollect handler => handler.IsQuiet
  | onError handler => handler.IsQuiet
  | addResolver resolver => resolver.IsHonest
  | shutDown => False
  | _ => True

/-- As `Permitted`, but handlers may panic, and the runtime may be shut down. -/
def Tolerated (session : Session) : Action → Prop
  | onCollect _ => True
  | onError _ => True
  | shutDown => True
  | action => action.Permitted session

theorem Permitted.tolerated
    {session : Session}
    {action : Action}
    (permitted : action.Permitted session) :
    action.Tolerated session := by
  cases action with
  | onCollect _ => trivial
  | onError _ => trivial
  | shutDown => trivial
  | _ => exact permitted

end Action

namespace Request

/-- The references that a request takes over from the caller. -/
def taken : Request → Multiset Handle
  | .interpret call => call.taken
  | .act action => action.taken
  | .wrapPayload payload => payload.children
  | .wrapOwned handle => {handle}
  | .normalize triple => triple.type ::ₘ triple.value.toList
  | _ => 0

/--
The caller owns nothing that it did not own before, unless a reference could not
be wrapped.
-/
def wrapped
    (handle : Handle)
    (result : Except Abort Wrapper × Session) :
    List Handle × Session :=
  match result with
  | (.error (.error _), session) => ([handle], session)
  | (_, session) => ([], session)

/-- Do what is asked.  The references that the caller owns from now on are returned. -/
def perform (session : Session) : Request → List Handle × Session
  | .interpret call =>
      ((call.perform session.interp).1,
        { session with interp := (call.perform session.interp).2 })
  | .act action => (action.received session, action.perform session)
  | .collectInBackground interval isHeld => ([], (session.collectInBackground interval isHeld).2)
  | .wrapNone => ([], (Wrapper.ofNone.on session).2)
  | .wrapPayload payload => ([], ((Wrapper.ofPayload payload).on session).2)
  | .wrapList items => ([], ((Wrapper.ofList items).on session).2)
  | .wrapOwned handle => wrapped handle ((Wrapper.ofOwned handle).on session)
  | .wrapBorrowed handle => ([], ((Wrapper.ofBorrowed handle).on session).2)
  | .clone wrapper => ([], (wrapper.clone.on session).2)
  | .getItem wrapper index => ([], ((wrapper.getItem index).on session).2)
  | .fetch => ([], (CapturedException.fetch.on session).2)
  | .checkPending => ([], (CapturedException.checkPending.on session).2)
  | .cause exception => ([], (exception.cause.on session).2)
  | .restoreClone exception => ([], (exception.restoreClone.on session).2)
  | .restore exception => ([], (exception.restore.on session).2)
  | .raiseError error => ([], (error.raise.on session).2)
  | .setError type message => ([], ((Indicator.setError type message).on session).2)
  | .setErrorObject type value => ([], ((Indicator.setErrorObject type value).on session).2)
  | .setCause exception => ([], ((Indicator.setCause exception).on session).2)
  | .normalize triple =>
      let (outcome, session) := (Indicator.normalize triple).on session
      let kept := outcome.toOption.getD triple
      (kept.type :: kept.value.toList, session)
  | .raiseTypeError message => ([], ((Indicator.raiseTypeError message).on session).2)
  | .warn category message level => ([], ((Indicator.warn category message level).on session).2)
  | .deprecation message level => ([], ((Indicator.deprecation message level).on session).2)

/-- What a request borrows is there: objects, and wrappers that belong to the runtime. -/
def Permitted (session : Session) : Request → Prop
  | .interpret call => ∀ handle ∈ call.borrowed, session.interp.heap.isLive handle = true
  | .act action => action.Permitted session
  | .wrapList items => Wrapper.AreUsable items session
  | .restoreClone exception => Wrapper.AreUsable exception.wrappers session
  | .restore exception => Wrapper.AreIntact exception.wrappers session
  | .raiseError error =>
      ∀ exception,
        error.exception? = some exception → Wrapper.AreUsable exception.wrappers session
  | .normalize triple =>
      ∀ entry, triple.traceback = some entry → session.interp.heap.isLive entry = true
  | _ => True

/-- As `Permitted`, but handlers may panic, and the runtime may be shut down. -/
def Tolerated (session : Session) : Request → Prop
  | .act action => action.Tolerated session
  | request => request.Permitted session

theorem Permitted.tolerated
    {session : Session}
    {request : Request}
    (permitted : request.Permitted session) :
    request.Tolerated session := by
  cases request with
  | act action => exact Action.Permitted.tolerated permitted
  | _ => exact permitted

/-- No assignment of a cause or a traceback on the way closes a cycle. -/
def OpenEnded (session : Session) : Request → Prop
  | .interpret call => call.OpenEnded session.interp
  | .fetch => session.interp.PendingOpenEnded
  | .checkPending => session.interp.PendingOpenEnded
  | .setCause exception => Indicator.CauseOpenEnded session exception
  | .normalize triple => session.interp.errorType = none → session.interp.OpenEnded triple
  | .raiseTypeError message => Indicator.ChainsOpenEnded session message
  | .warn category _ _ => Indicator.WarnsOpenEnded session category
  | .deprecation _ _ =>
      ∀ category,
        Indicator.wellKnown? session "DeprecationWarning" = some category →
          Indicator.WarnsOpenEnded session category
  | _ => True

end Request

end Session

/-! ## Operations -/

namespace Session

namespace Sound

variable {quiet acyclic : Prop} {session : Session} {owned : Multiset Handle}

/-- What a request does without any reference changing hands. -/
private theorem nothing
    (sound : session.Sound quiet acyclic owned) :
    session.Sound quiet acyclic (([] : List Handle) + owned) :=
  sound.congr _ (by simp)

/-- A subscription draws a number and adds a callback. -/
private theorem subscribe
    (change : Finalizer → Finalizer)
    (sound : session.Sound quiet acyclic owned)
    (calm : (change session.finalizer).Calm quiet) :
    (session.nextSubscription.2.updateFinalizer change).Sound quiet acyclic owned :=
  ⟨⟨sound.accurate.congr rfl fun _ => rfl, calm, sound.isOpen⟩, sound.accounts, sound.untroubled⟩

/-- What is true of all callbacks and of a new one is true of all of them together. -/
private theorem forall_mem_add
    {α : Type}
    {property : α → Prop}
    {subscriptions : Subscriptions α}
    {callback : α}
    (id : SubscriptionId)
    (old : ∀ entry ∈ subscriptions, property entry.2)
    (new : property callback) :
    ∀ entry ∈ subscriptions.add id callback, property entry.2 := by
  intro entry member
  rcases List.mem_append.mp member with before | added
  · exact old entry before
  · rw [List.mem_singleton.mp added]
    exact new

theorem onCollect
    {handler : Handler}
    (sound : session.Sound quiet acyclic owned)
    (isQuiet : quiet → handler.IsQuiet) :
    (session.onCollect handler).2.Sound quiet acyclic owned := by
  apply sound.subscribe fun finalizer =>
    { finalizer with
      collectHandlers := finalizer.collectHandlers.add session.nextSubscription.1 handler }
  exact ⟨fun calm => forall_mem_add _ (sound.calm.collectHandlers calm) (isQuiet calm),
    sound.calm.errorHandlers, sound.calm.resolvers⟩

theorem onError
    {handler : Handler}
    (sound : session.Sound quiet acyclic owned)
    (isQuiet : quiet → handler.IsQuiet) :
    (session.onError handler).2.Sound quiet acyclic owned := by
  apply sound.subscribe fun finalizer =>
    { finalizer with
      errorHandlers := finalizer.errorHandlers.add session.nextSubscription.1 handler }
  exact ⟨sound.calm.collectHandlers,
    fun calm => forall_mem_add _ (sound.calm.errorHandlers calm) (isQuiet calm),
    sound.calm.resolvers⟩

theorem addResolver
    {resolver : Resolver}
    (sound : session.Sound quiet acyclic owned)
    (honest : resolver.IsHonest) :
    (session.addResolver resolver).2.Sound quiet acyclic owned := by
  apply sound.subscribe fun finalizer =>
    { finalizer with
      resolvers := finalizer.resolvers.add session.nextSubscription.1 resolver }
  exact ⟨sound.calm.collectHandlers, sound.calm.errorHandlers,
    forall_mem_add _ sound.calm.resolvers honest⟩

theorem setThreshold
    (sound : session.Sound quiet acyclic owned)
    (threshold : Nat) :
    (session.updateFinalizer fun finalizer => finalizer.setThreshold threshold).Sound
      quiet acyclic owned :=
  sound.updateFinalizer
    ⟨sound.calm.collectHandlers, sound.calm.errorHandlers, sound.calm.resolvers⟩

theorem setValidation
    (sound : session.Sound quiet acyclic owned)
    (validates : Bool) :
    (session.updateFinalizer fun finalizer => finalizer.setValidation validates).Sound
      quiet acyclic owned :=
  sound.updateFinalizer
    ⟨sound.calm.collectHandlers, sound.calm.errorHandlers, sound.calm.resolvers⟩

theorem setDeferral
    (sound : session.Sound quiet acyclic owned)
    (defers : Bool) :
    (session.setDeferral defers).Sound quiet acyclic owned := by
  refine ⟨⟨sound.accurate.congr ?_ fun _ => rfl, sound.calm, ?_⟩, sound.accounts,
    sound.untroubled⟩
  · show ((session.registry.updateTracker session.tracker _).tracker session.tracker).owners = _
    rw [Registry.tracker_updateTracker]
    split
    · rfl
    · rfl
  · intro isQuiet
    refine Eq.trans ?_ (sound.isOpen isQuiet)
    exact Registry.read_updateTracker Tracker.isOpen _ _ _ fun _ => rfl

theorem collectInBackground
    (interval : Option Nat)
    (isHeld : Bool)
    (sound : session.Sound quiet acyclic owned) :
    (session.collectInBackground interval isHeld).2.Sound quiet acyclic owned :=
  collectInBackground_keeps (·.Sound quiet acyclic owned)
    (fun _ before => before.collectReporting.sound)
    (fun _ before => before.of_spares (.announce _ _ (by simp))) interval isHeld sound

/-- A tolerated operation on the tracker or the finalizer keeps a runtime sound. -/
theorem act
    {action : Action}
    (sound : session.Sound quiet acyclic (action.taken + owned))
    (tolerated : action.Tolerated session)
    (permitted : quiet → action.Permitted session) :
    (action.perform session).Sound quiet acyclic (action.received session + owned) := by
  have plain (nothing : action.taken = 0) : session.Sound quiet acyclic owned :=
    sound.congr _ (by simp [nothing])
  cases action with
  | register handle =>
      have before := sound.congr (handle ::ₘ owned) (by simp [Action.taken])
      cases registered : session.register handle with
      | ok result =>
          simpa [Action.perform, Action.received, registered] using before.register registered
      | error error =>
          simpa [Action.perform, Action.received, registered] using before
  | releaseNow ref => exact ((plain rfl).releaseNow ref).nothing
  | deferRelease ref hook =>
      exact ((plain rfl).of_spares (.deferRelease session ref hook)).nothing
  | detach ref => exact (plain rfl).detach ref
  | newHook => exact ((plain rfl).of_spares (.newHook session)).nothing
  | discardHook hook => exact ((plain rfl).of_spares (.discardHook session hook)).nothing
  | dropWrapper wrapper => exact ((plain rfl).of_spares (.dropWrapper session wrapper)).nothing
  | dispose wrapper => exact nothing (Wrapper.sound_dispose wrapper (plain rfl))
  | intoHandle wrapper => exact Wrapper.sound_intoHandle tolerated (plain rfl)
  | push item => exact ((plain rfl).of_spares (.push session item)).nothing
  | takeSnapshot => exact ((plain rfl).of_spares (.takeSnapshot session)).nothing
  | requeueFront items => exact ((plain rfl).of_spares (.requeueFront session items)).nothing
  | collect => exact (plain rfl).collect.sound.nothing
  | collectThrottled => exact (plain rfl).collectThrottled.sound.nothing
  | onCollect handler => exact ((plain rfl).onCollect permitted).nothing
  | onError handler => exact ((plain rfl).onError permitted).nothing
  | addResolver resolver => exact ((plain rfl).addResolver tolerated).nothing
  | unsubscribe id => exact ((plain rfl).of_spares (.unsubscribe session id)).nothing
  | setThreshold threshold => exact ((plain rfl).setThreshold threshold).nothing
  | setValidation validates => exact ((plain rfl).setValidation validates).nothing
  | setDeferral defers => exact ((plain rfl).setDeferral defers).nothing
  | reportFault record error =>
      exact ((plain rfl).of_spares (.reportFault record error session)).nothing
  | shutDown => exact nothing (Op.sound_shutDown permitted (plain rfl))

/-! ## Requests -/

/-- A reference that could not be wrapped stays with the caller. -/
private theorem wrapped
    {handle : Handle}
    (sound : session.Sound quiet acyclic (handle ::ₘ owned)) :
    (Request.wrapped handle ((Wrapper.ofOwned handle).on session)).2.Sound quiet acyclic
      ((Request.wrapped handle ((Wrapper.ofOwned handle).on session)).1 + owned) := by
  have ends := Wrapper.ofOwned_ends sound
  rw [Op.Ends] at ends
  generalize (Wrapper.ofOwned handle).on session = result at ends ⊢
  rcases result with ⟨(error | panic) | wrapper, session'⟩
  · exact (ends.2 error rfl).congr _ (Multiset.singleton_add _ _)
  · exact ends.1.sound.nothing
  · exact ends.1.sound.nothing

/-- A tolerated request keeps a runtime sound. -/
theorem perform
    {request : Request}
    (sound : session.Sound quiet acyclic (request.taken + owned))
    (tolerated : request.Tolerated session)
    (permitted : quiet → request.Permitted session)
    (open_ended : acyclic → request.OpenEnded session) :
    (request.perform session).2.Sound quiet acyclic ((request.perform session).1 + owned) := by
  have plain (nothing : request.taken = 0) : session.Sound quiet acyclic owned :=
    sound.congr _ (by simp [nothing])
  cases request with
  | interpret call =>
      refine sound.useInterp fun rest ledger => ?_
      have called := Interpreter.Ledger.perform call (ledger.congr _ (add_assoc _ _ _).symm)
        (fun _ handle written =>
          tolerated handle (Interpreter.Call.mem_borrowed_of_written written))
        (fun _ _ => tolerated) (fun isAcyclic _ => open_ended isAcyclic)
      exact called.congr _ (add_assoc _ _ _)
  | act action => exact sound.act tolerated permitted
  | collectInBackground interval isHeld =>
      exact ((plain rfl).collectInBackground interval isHeld).nothing
  | wrapNone => exact nothing (Wrapper.sound_ofNone (plain rfl))
  | wrapPayload payload => exact nothing (Wrapper.sound_ofPayload sound)
  | wrapList items => exact nothing (Wrapper.sound_ofList tolerated (plain rfl))
  | wrapOwned handle => exact wrapped (sound.congr _ (by simp [Request.taken]))
  | wrapBorrowed handle => exact nothing (Wrapper.sound_ofBorrowed handle (plain rfl))
  | clone wrapper => exact nothing (Wrapper.sound_clone wrapper (plain rfl))
  | getItem wrapper index => exact nothing (Wrapper.sound_getItem wrapper index (plain rfl))
  | fetch =>
      exact nothing
        (CapturedException.sound_fetch (plain rfl) fun isAcyclic _ => open_ended isAcyclic)
  | checkPending =>
      exact nothing
        (CapturedException.sound_checkPending (plain rfl) fun isAcyclic _ => open_ended isAcyclic)
  | cause exception => exact nothing (CapturedException.sound_cause exception (plain rfl))
  | restoreClone exception =>
      exact nothing (CapturedException.sound_restoreClone tolerated (plain rfl))
  | restore exception => exact nothing (CapturedException.sound_restore tolerated (plain rfl))
  | raiseError error => exact nothing (HostError.sound_raise tolerated (plain rfl))
  | setError type message => exact nothing (Indicator.sound_setError type message (plain rfl))
  | setErrorObject type value =>
      exact nothing (Indicator.sound_setErrorObject type value (plain rfl))
  | setCause exception =>
      exact nothing (Indicator.sound_setCause exception (plain rfl) open_ended)
  | normalize triple =>
      have before := sound.congr (triple.type ::ₘ (triple.value.toList + owned))
        (by rw [Request.taken, Multiset.cons_add])
      refine Sound.congr _ (Indicator.sound_normalize before (fun _ _ => tolerated) open_ended) ?_
      simp only [Request.perform]
      rw [← Multiset.cons_coe, Multiset.cons_add]
  | raiseTypeError message =>
      exact nothing (Indicator.sound_raiseTypeError message (plain rfl) open_ended).1
  | warn category message level =>
      exact nothing (Indicator.sound_warn category message level (plain rfl) open_ended)
  | deprecation message level =>
      exact nothing (Indicator.sound_deprecation message level (plain rfl) open_ended)

end Sound

end Session

end Custody
