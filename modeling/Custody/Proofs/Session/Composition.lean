import Custody.Proofs.Interpreter.Evolution
import Custody.Proofs.Session.Bookkeeping

/-!
# What requests are made of

Whatever a host asks of a runtime is made of a few things: the interpreter is used,
hooks run and wrappers are dropped, a record is registered, released, given up or, at
the end of the runtime, released with all others, a drain runs, or the host changes
settings, subscriptions or the queue by hand.  A relation that holds of each of these
holds of every request, whether it succeeds, fails or panics.

Drains that a request starts report the error with which they end.  Only the host
itself can ask for a drain that returns it.
-/

namespace Custody

namespace Session

/-- Whether the host changes settings, subscriptions or the queue by hand, or reports an error. -/
def Action.IsBasic : Action → Prop
  | push _ => True
  | takeSnapshot => True
  | requeueFront _ => True
  | onCollect _ => True
  | onError _ => True
  | addResolver _ => True
  | unsubscribe _ => True
  | setThreshold _ => True
  | setValidation _ => True
  | setDeferral _ => True
  | reportFault _ _ => True
  | _ => False

/--
A relation between a session and a later one that holds of whatever requests are made
of, and of one after another.
-/
class Pervasive (R : Session → Session → Prop) : Prop where
  refl (session : Session) : R session session
  trans {session session' session'' : Session} (first : R session session')
    (second : R session' session'') :
    R session session''
  useInterp {session : Session} {interp : Interpreter} (table : ExceptionTable)
    (evolves : session.interp.Evolves interp) :
    R session { session with table, interp }
  defer {session : Session} {registry : Registry}
    (defers : session.registry.Defers Event.IsOfHook registry) :
    R session { session with registry }
  ranHook (ref : RecordRef) (session : Session) : R session (session.enter (.hookRan ref))
  waited (session : Session) : R session (session.announce (.held 0 0))
  register {handle : Handle} {ref : RecordRef} {session session' : Session}
    (registered : session.register handle = .ok (ref, session')) :
    R session session'
  releaseNow (ref : RecordRef) (session : Session) : R session (session.releaseNow ref).2
  detach (tracker : TrackerRef) (ref : RecordRef) (session : Session) :
    R session { session with registry := (session.registry.detach tracker ref).2 }
  shutDown (session : Session) : R session { session with isShutDown := true }
  close (session : Session) :
    R session { session with registry := session.registry.close session.tracker }
  releaseAll (session : Session) : R session session.releaseAll.2
  collectReporting (session : Session) : R session session.collectReporting.2
  act {action : Action} (isBasic : action.IsBasic) (session : Session) :
    R session (action.perform session)

namespace Pervasive

variable {R : Session → Session → Prop} [Pervasive R]

/-- The interpreter was used, but not the table of exceptions. -/
theorem interp
    {session : Session}
    {interp : Interpreter}
    (evolves : session.interp.Evolves interp) :
    R session { session with interp } :=
  useInterp session.table evolves

theorem collectThrottled (session : Session) : R session session.collectThrottled.2 := by
  rw [Session.collectThrottled]
  split
  · exact collectReporting session
  · exact refl session

theorem collectInBackground
    (interval : Option Nat)
    (isHeld : Bool)
    (session : Session) :
    R session (session.collectInBackground interval isHeld).2 :=
  collectInBackground_keeps (R session)
    (fun between before => trans before (collectReporting between))
    (fun between before => trans before (waited between)) interval isHeld (refl session)

end Pervasive

end Session

/-! ## Putting operations together -/

namespace Op

open Session (Pervasive)

variable {R : Session → Session → Prop} {α β : Type} {op : Op α} {session : Session}

/-- However the operation ends, the session before and the one after are related. -/
def Relates (R : Session → Session → Prop) (op : Op α) (session : Session) : Prop :=
  op.Ends session fun _ session' => R session session'

namespace Relates

theorem bind_session
    {next : Session → Op β}
    (later : (next session).Relates R session) :
    (Op.session >>= next).Relates R session := by
  rw [Relates, ends_bind, ends_session, andThen_ok]
  exact later

theorem of
    {step : Session → Except Abort α × Session}
    (related : R session (step session).2) :
    (Op.of step).Relates R session :=
  related

theorem change
    {step : Session → Session}
    (related : R session (step session)) :
    (Op.change step).Relates R session :=
  related

theorem ofPanicking
    {step : Session → Except Panic α × Session}
    (related : R session (step session).2) :
    (Op.ofPanicking step).Relates R session :=
  ends_ofPanicking (fun _ _ => related) fun _ _ => related

variable [Pervasive R]

theorem pure (value : α) : (Pure.pure value : Op α).Relates R session :=
  Pervasive.refl session

theorem fail (error : BridgeError) : (Op.fail error : Op α).Relates R session :=
  Pervasive.refl session

theorem bind
    {next : α → Op β}
    (first : op.Relates R session)
    (later : ∀ value session', (next value).Relates R session') :
    (op >>= next).Relates R session := by
  apply Ends.bind first
  · intro value session' reached
    apply (later value session').mono
    exact fun _ _ after => Pervasive.trans reached after
  · exact fun _ _ reached => reached

theorem map
    {change : α → β}
    (first : op.Relates R session) :
    (change <$> op).Relates R session :=
  first.bind fun value _ => pure (change value)

theorem orDrop
    (related : op.Relates R session)
    (wrappers : List Wrapper) :
    (op.orDrop wrappers).Relates R session := by
  rw [Relates, ends_orDrop]
  apply Ends.mono related
  intro outcome session' reached
  cases outcome with
  | ok value => exact reached
  | error abort =>
      exact Pervasive.trans reached (Pervasive.defer (.dropWrappers _ wrappers))

theorem onError
    {repair : Interpreter → Interpreter}
    (related : op.Relates R session)
    (evolves : ∀ interp : Interpreter, interp.Evolves (repair interp)) :
    (op.onError repair).Relates R session := by
  rw [Relates, ends_onError]
  apply Ends.mono related
  intro outcome session' reached
  rcases outcome with (error | panic) | value
  · exact Pervasive.trans reached (Pervasive.interp (evolves _))
  · exact reached
  · exact reached

/-! ### The interpreter -/

theorem changeInterp
    {step : Interpreter → Interpreter}
    (evolves : session.interp.Evolves (step session.interp)) :
    (Op.changeInterp step).Relates R session :=
  Pervasive.interp evolves

theorem withInterp
    {step : Interpreter → α × Interpreter}
    (evolves : session.interp.Evolves (step session.interp).2) :
    (Op.withInterp step).Relates R session :=
  Pervasive.interp evolves

theorem tryInterp
    {step : Interpreter → Except HeapError Interpreter}
    (evolves : ∀ interp, step session.interp = .ok interp → session.interp.Evolves interp) :
    (Op.tryInterp step).Relates R session := by
  apply ends_tryInterp
  · exact fun interp result => Pervasive.interp (evolves interp result)
  · exact fun _ _ => Pervasive.refl session

theorem incref (handle : Handle) :
    (Op.tryInterp fun interp => interp.incref handle).Relates R session :=
  tryInterp fun _ => .incref

/-- What follows may rely on the result. -/
theorem bind_ofHeap
    {result : Except HeapError α}
    {next : α → Op β}
    (later : ∀ value, result = .ok value → (next value).Relates R session) :
    (Op.ofHeap result >>= next).Relates R session := by
  rw [Relates, ends_bind]
  apply ends_ofHeap
  · exact later
  · exact fun _ _ => Pervasive.refl session

/-! ### Registering and draining -/

theorem requireOwn
    (wrapper : Wrapper)
    (operation : String) :
    (wrapper.requireOwn operation).Relates R session :=
  Wrapper.ends_requireOwn (fun _ => Pervasive.refl session) fun _ => Pervasive.refl session

theorem register (handle : Handle) : (Op.register handle).Relates R session := by
  apply bind_session
  split
  · exact fail _
  · next record session' registered =>
      refine bind (change (Pervasive.register registered)) fun _ session'' => ?_
      exact (ofPanicking (Pervasive.collectThrottled session'')).bind fun _ _ => pure record

theorem drainPasses
    (passes drained : Nat)
    (session : Session) :
    (Op.drainPasses passes drained).Relates R session := by
  induction passes generalizing drained session with
  | zero => exact pure _
  | succ passes step =>
      apply bind_session
      split
      · exact (ofPanicking (Pervasive.collectReporting session)).bind fun count session' =>
          step (drained + count) session'
      · exact pure _

theorem shutDown (session : Session) : Op.shutDown.Relates R session := by
  apply bind_session
  split
  · exact fail _
  · refine bind (change ?_) fun _ _ => (drainPasses _ _ _).bind fun _ session' => ?_
    · exact Pervasive.shutDown session
    · refine bind (of (Pervasive.releaseAll _)) fun _ session'' => ?_
      have dismantled := ((Interpreter.Evolves.releaseTable session''.table session''.interp).trans
        (.clear _)).trans (.resetFilters _)
      refine bind (change ?_) fun _ _ => pure _
      exact Pervasive.useInterp _ dismantled

end Relates

end Op

/-! ## Wrappers -/

namespace Wrapper

open Op.Relates (bind_session)
open Session (Pervasive)

variable {R : Session → Session → Prop} [Pervasive R] {session : Session}

theorem relates_ofOwned (handle : Handle) : (ofOwned handle).Relates R session :=
  (Op.Relates.register handle).bind fun _ _ => bind_session
    ((Op.Relates.change (Pervasive.defer (.hold _ _))).bind fun _ _ => .pure _)

theorem relates_ofBorrowed (handle : Handle) : (ofBorrowed handle).Relates R session := by
  rw [ofBorrowed]
  split
  · exact .fail _
  · exact (Op.Relates.incref handle).bind fun _ _ =>
      (relates_ofOwned handle).onError fun interp => .release interp handle

theorem relates_ofNone : ofNone.Relates R session :=
  (Op.Relates.withInterp (.newNone _)).bind fun _ _ => relates_ofOwned _

theorem relates_ofPayload (payload : Payload) : (ofPayload payload).Relates R session :=
  (Op.Relates.withInterp (.allocate _ payload)).bind fun _ _ => relates_ofOwned _

theorem relates_retainAll (wrappers : List Wrapper) : (retainAll wrappers).Relates R session := by
  induction wrappers generalizing session with
  | nil => exact .pure _
  | cons wrapper rest step =>
      refine (Op.Relates.requireOwn wrapper "list").bind fun _ _ => bind_session ?_
      exact (Op.Relates.incref _).bind fun _ _ => step.bind fun _ _ => .pure _

theorem relates_ofList (items : List Wrapper) : (ofList items).Relates R session :=
  (relates_retainAll items).bind fun _ _ => relates_ofPayload _

theorem relates_clone (wrapper : Wrapper) : wrapper.clone.Relates R session :=
  (Op.Relates.requireOwn wrapper "clone_ref").bind fun _ _ =>
    bind_session (relates_ofBorrowed _)

theorem relates_dispose (wrapper : Wrapper) : wrapper.dispose.Relates R session := by
  refine ((Op.Relates.requireOwn _ _).orDrop [wrapper]).bind fun _ session' => ?_
  refine Op.Relates.bind ?_ fun failure session'' => Op.Relates.bind ?_ fun _ _ => ?_
  · cases wrapper.hook with
    | none => exact .pure none
    | some hook =>
        exact .of (Pervasive.trans (Pervasive.ranHook wrapper.record session')
          (Pervasive.defer (.run hook wrapper.record _)))
  · exact .of (Pervasive.trans (Pervasive.releaseNow wrapper.record session'')
      (Pervasive.defer (.letGo wrapper.tracker _)))
  · cases failure with
    | none => exact .pure _
    | some text => exact .fail _

theorem relates_intoHandle (wrapper : Wrapper) : wrapper.intoHandle.Relates R session := by
  have discarded : R session
      { session with registry := session.registry.discardHook wrapper.hook } :=
    Pervasive.defer (.discardHook _ _)
  have detached := Pervasive.trans discarded
    (Pervasive.detach wrapper.tracker wrapper.record _)
  have left := Pervasive.trans detached (Pervasive.defer (.letGo wrapper.tracker _))
  exact .of left

end Wrapper

/-! ## Captured exceptions -/

namespace CapturedException

open Op.Relates (bind_session)
open Session (Pervasive)

variable {R : Session → Session → Prop} [Pervasive R] {session : Session}

theorem evolves_completeTraceback
    (interp : Interpreter)
    (value : Handle)
    (traceback : Option Handle) :
    interp.Evolves (completeTraceback interp value traceback).2 := by
  unfold completeTraceback
  split
  · exact .refl interp
  · split
    · exact .refl interp
    · split
      · next taken => exact .incref taken
      · exact .refl interp

theorem relates_ofNormalized (triple : Triple) : (ofNormalized triple).Relates R session := by
  rw [ofNormalized]
  cases triple.value with
  | none => exact (Op.Relates.changeInterp (.release _ _)).bind fun _ _ => .fail _
  | some value =>
      refine (Op.Relates.withInterp (evolves_completeTraceback _ _ _)).bind fun traceback _ =>
        bind_session ?_
      refine (Wrapper.relates_ofOwned _).bind fun typeWrapper _ => ?_
      refine ((Wrapper.relates_ofOwned value).orDrop _).bind fun valueWrapper _ => ?_
      cases traceback with
      | none => exact .pure _
      | some entry => exact ((Wrapper.relates_ofOwned entry).orDrop _).bind fun _ _ => .pure _

theorem relates_ofTriple
    (attempts : Nat)
    (triple : Triple) :
    (ofTriple attempts triple).Relates R session := by
  induction attempts generalizing triple session with
  | zero => exact (Op.Relates.changeInterp (.releaseTriple _ _)).bind fun _ _ => .fail _
  | succ attempts step =>
      refine (Op.Relates.withInterp (.normalize _ triple)).bind fun outcome _ => ?_
      cases outcome with
      | ok triple => exact relates_ofNormalized triple
      | error raised =>
          refine (Op.Relates.changeInterp (.releaseTriple _ _)).bind fun _ _ => bind_session ?_
          split
          · exact .fail _
          · next fetched =>
              exact (Op.Relates.changeInterp (.fetch fetched)).bind fun _ _ => step _

theorem relates_fetch : fetch.Relates R session := by
  apply bind_session
  split
  · exact .pure _
  · next fetched =>
      refine (Op.Relates.changeInterp (.fetch fetched)).bind fun _ _ => ?_
      exact (relates_ofTriple _ _).bind fun _ _ => .pure _

theorem relates_raised {α : Type} : (raised : Op α).Relates R session := by
  refine relates_fetch.bind fun exception _ => ?_
  cases exception with
  | none => exact .fail _
  | some exception => exact .fail _

theorem relates_checkPending : checkPending.Relates R session := by
  refine relates_fetch.bind fun exception _ => ?_
  cases exception with
  | none => exact .pure _
  | some exception => exact .fail _

theorem relates_retaining
    {α : Type}
    {next : Op α}
    {type value : Handle}
    {traceback : Option Handle}
    (later : ∀ session, next.Relates R session) :
    (do
      Op.tryInterp fun interp => interp.incref type
      Op.tryInterp fun interp => interp.incref value
      match traceback with
      | none => next
      | some entry =>
          Op.tryInterp fun interp => interp.incref entry
          next : Op α).Relates R session := by
  refine (Op.Relates.incref type).bind fun _ _ => (Op.Relates.incref value).bind fun _ _ => ?_
  cases traceback with
  | none => exact later _
  | some entry => exact (Op.Relates.incref entry).bind fun _ _ => later _

theorem relates_cause (exception : CapturedException) : exception.cause.Relates R session := by
  refine (Op.Relates.requireOwn _ _).bind fun _ _ => bind_session ?_
  split
  · exact .pure _
  · refine Op.Relates.bind_ofHeap fun _ _ => relates_retaining fun _ => ?_
    exact (relates_ofNormalized _).bind fun _ _ => .pure _

theorem relates_restoreClone (exception : CapturedException) :
    exception.restoreClone.Relates R session :=
  (Op.Relates.requireOwn _ _).bind fun _ _ => bind_session
    (relates_retaining fun _ => .changeInterp (.restore _ _))

theorem relates_restore (exception : CapturedException) : exception.restore.Relates R session := by
  refine ((Op.Relates.requireOwn _ _).orDrop _).bind fun _ _ => ?_
  refine ((Wrapper.relates_intoHandle _).orDrop _).bind fun type _ => ?_
  refine ((Wrapper.relates_intoHandle _).orDrop _).bind fun value _ => ?_
  cases exception.traceback with
  | none => exact Op.Relates.bind (.pure none) fun _ _ => .changeInterp (.restore _ _)
  | some wrapper =>
      exact ((Wrapper.relates_intoHandle wrapper).map).bind fun _ _ =>
        .changeInterp (.restore _ _)

end CapturedException

theorem Wrapper.relates_getItem
    {R : Session → Session → Prop}
    [Session.Pervasive R]
    {session : Session}
    (wrapper : Wrapper)
    (index : Int) :
    (wrapper.getItem index).Relates R session := by
  refine (Op.Relates.requireOwn _ _).bind fun _ _ => Op.Relates.bind_session ?_
  refine (Op.Relates.withInterp (.getItem _ _ index)).bind fun outcome _ => ?_
  cases outcome with
  | ok item => exact relates_ofOwned item
  | error raised => exact CapturedException.relates_raised

/-! ## The error indicator -/

namespace Indicator

open Op.Relates (bind_session)
open Session (Pervasive)

variable {R : Session → Session → Prop} [Pervasive R] {session : Session}

theorem relates_setError
    (type : Handle)
    (message : String) :
    (setError type message).Relates R session :=
  .tryInterp fun _ => .setError

theorem relates_setErrorObject
    (type : Handle)
    (value : Wrapper) :
    (setErrorObject type value).Relates R session :=
  (Op.Relates.requireOwn _ _).bind fun _ _ => bind_session (.tryInterp fun _ => .setErrorObject)

theorem relates_setCause (cause : CapturedException) : (setCause cause).Relates R session := by
  refine (Op.Relates.requireOwn _ _).bind fun _ _ => bind_session ?_
  split
  · exact .fail _
  · refine (Op.Relates.incref _).bind fun _ _ => bind_session ?_
    split
    · exact .fail _
    · next current interp fetched =>
        refine (Op.Relates.changeInterp (.fetch fetched)).bind fun _ _ =>
          (Op.Relates.withInterp (.normalize _ current)).bind fun outcome _ => ?_
        cases outcome with
        | error raised =>
            refine Op.Relates.bind (.changeInterp ?_) fun _ _ => CapturedException.relates_raised
            exact (Interpreter.Evolves.release _ _).trans (.releaseTriple _ _)
        | ok current =>
            simp only
            split
            · exact .changeInterp (.restore _ _)
            · exact (Op.Relates.tryInterp fun _ => .setCause).bind fun _ _ =>
                .changeInterp (.restore _ _)

theorem relates_normalize (triple : Triple) : (normalize triple).Relates R session := by
  apply bind_session
  split
  · exact .fail _
  · refine (Op.Relates.withInterp (.normalize _ triple)).bind fun outcome _ => ?_
    cases outcome with
    | ok triple => exact .pure _
    | error raised => exact CapturedException.relates_raised

theorem relates_wellKnown (operation name : String) :
    (wellKnown operation name).Relates R session := by
  apply bind_session
  split
  · exact .pure _
  · exact .fail _

theorem evolves_chainPending
    (value : Handle)
    (interp : Interpreter) :
    interp.Evolves (chainPending value interp) := by
  unfold chainPending
  split
  · exact .refl interp
  · next prior interp' fetched =>
      have normalized := (Interpreter.Evolves.fetch fetched).trans (.normalize interp' prior)
      split
      · next normalized' =>
          rw [normalized'] at normalized
          exact (normalized.trans (.clear _)).trans (.releaseTriple _ _)
      · next prior' interp'' normalized' =>
          rw [normalized'] at normalized
          refine Interpreter.Evolves.trans ?_ (.releaseTriple _ _)
          split
          · exact normalized
          · next cause _ =>
              cases linked : interp''.setCause value (some cause) with
              | ok interp => exact normalized.trans (.setCause linked)
              | error reason => exact normalized

theorem relates_raiseTypeError (message : String) :
    (raiseTypeError message).Relates R session := by
  refine (relates_wellKnown _ _).bind fun type _ => bind_session ?_
  refine Op.Relates.bind_ofHeap fun made newly => ?_
  refine Op.Relates.bind (.changeInterp ?_) fun _ _ => ?_
  · exact (Interpreter.Evolves.newException newly).trans (evolves_chainPending _ _)
  · refine Op.Relates.bind ?_ fun _ _ => .changeInterp (.release _ _)
    exact (Op.Relates.tryInterp fun _ => .setErrorObject).onError fun interp => .release interp _

theorem relates_warn
    (category : Handle)
    (message : String)
    (level : Nat) :
    (warn category message level).Relates R session := by
  apply bind_session
  split
  · refine (Op.Relates.withInterp (.warn _ category message level)).bind fun outcome _ => ?_
    cases outcome with
    | ok done => exact .pure _
    | error raised => exact CapturedException.relates_raised
  · exact (relates_raiseTypeError _).bind fun _ _ => CapturedException.relates_raised

theorem relates_deprecation
    (message : String)
    (level : Nat) :
    (deprecation message level).Relates R session :=
  (relates_wellKnown _ _).bind fun _ _ => relates_warn _ _ _

end Indicator

theorem HostError.relates_raise
    {R : Session → Session → Prop}
    [Session.Pervasive R]
    {session : Session}
    (error : HostError) :
    error.raise.Relates R session := by
  rw [raise]
  cases error.exception? with
  | some exception => exact CapturedException.relates_restoreClone exception
  | none =>
      refine (Op.Relates.withInterp (.hostClass _ _)).bind fun _ _ => Op.Relates.bind_session ?_
      refine Op.Relates.bind_ofHeap fun made newly => ?_
      refine Op.Relates.bind (.changeInterp (.newException newly)) fun _ _ => ?_
      refine Op.Relates.bind ?_ fun _ _ => .changeInterp (.release _ _)
      exact (Op.Relates.tryInterp fun _ => .setErrorObject).onError fun interp =>
        .release interp _

/-! ## Requests -/

namespace Session

variable {R : Session → Session → Prop} [Pervasive R] {session session' : Session}

theorem relates_act
    {action : Action}
    (throughout : action ≠ .collect) :
    R session (action.perform session) := by
  cases action with
  | register handle =>
      cases registered : session.register handle with
      | ok result =>
          simp only [Action.perform, registered]
          exact Pervasive.register registered
      | error error =>
          simp only [Action.perform, registered]
          exact Pervasive.refl session
  | releaseNow ref => exact Pervasive.releaseNow ref session
  | deferRelease ref hook => exact Pervasive.defer (.deferRelease _ session.tracker ref hook)
  | detach ref => exact Pervasive.detach session.tracker ref session
  | newHook => exact Pervasive.defer (.hold _ session.tracker)
  | discardHook hook => exact Pervasive.defer (.discardHook _ hook)
  | dropWrapper wrapper => exact Pervasive.defer (.dropWrapper _ wrapper)
  | dispose wrapper => exact Wrapper.relates_dispose wrapper
  | intoHandle wrapper => exact Wrapper.relates_intoHandle wrapper
  | collect => exact absurd rfl throughout
  | collectThrottled => exact Pervasive.collectThrottled session
  | shutDown => exact Op.Relates.shutDown session
  | _ => exact Pervasive.act (by trivial) session

/-- Every request is made of these things, except a drain whose error is returned. -/
theorem relates_perform
    {request : Request}
    (throughout : request ≠ .act .collect) :
    R session (request.perform session).2 := by
  cases request with
  | interpret call => exact Pervasive.interp (.perform call session.interp)
  | act action => exact relates_act fun same => throughout (congrArg _ same)
  | collectInBackground interval isHeld =>
      exact Pervasive.collectInBackground interval isHeld session
  | wrapNone => exact Wrapper.relates_ofNone
  | wrapPayload payload => exact Wrapper.relates_ofPayload payload
  | wrapList items => exact Wrapper.relates_ofList items
  | wrapOwned handle =>
      rw [Request.perform, Request.session_wrapped]
      exact Wrapper.relates_ofOwned handle
  | wrapBorrowed handle => exact Wrapper.relates_ofBorrowed handle
  | clone wrapper => exact Wrapper.relates_clone wrapper
  | getItem wrapper index => exact Wrapper.relates_getItem wrapper index
  | fetch => exact CapturedException.relates_fetch
  | checkPending => exact CapturedException.relates_checkPending
  | cause exception => exact CapturedException.relates_cause exception
  | restoreClone exception => exact CapturedException.relates_restoreClone exception
  | restore exception => exact CapturedException.relates_restore exception
  | raiseError error => exact HostError.relates_raise error
  | setError type message => exact Indicator.relates_setError type message
  | setErrorObject type value => exact Indicator.relates_setErrorObject type value
  | setCause exception => exact Indicator.relates_setCause exception
  | normalize triple => exact Indicator.relates_normalize triple
  | raiseTypeError message => exact Indicator.relates_raiseTypeError message
  | warn category message level => exact Indicator.relates_warn category message level
  | deprecation message level => exact Indicator.relates_deprecation message level

theorem relates_abandoned (session : Session) : R session session.abandoned := by
  have closing :
      R session
        { session with
          registry :=
            if session.isShutDown then
              session.registry
            else
              session.registry.close session.tracker } := by
    split
    · exact Pervasive.refl session
    · exact Pervasive.close session
  have left := Pervasive.trans closing (Pervasive.defer (.letGo session.tracker _))
  exact left

end Session

end Custody
