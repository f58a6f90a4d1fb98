import Custody.Finalizer.Drain
import Custody.Proofs.Tracking.Deferral

/-!
# What callbacks and hooks can do

A callback only announces and ends subscriptions, and a hook only defers.
Neither of them touches the interpreter.  A resolver may, and it may ask for a
drain, which does nothing while another one runs.
-/

namespace Custody

/-! ## Subscriptions -/

/-- Subscriptions ended, and nothing else happened but that errors were counted. -/
structure Finalizer.Trims (finalizer finalizer' : Finalizer) : Prop where
  threshold : finalizer'.threshold = finalizer.threshold
  validates : finalizer'.validates = finalizer.validates
  draining : finalizer'.draining = finalizer.draining
  collectHandlers : finalizer'.collectHandlers.Sublist finalizer.collectHandlers
  errorHandlers : finalizer'.errorHandlers.Sublist finalizer.errorHandlers
  resolvers : finalizer'.resolvers.Sublist finalizer.resolvers

namespace Finalizer.Trims

variable {finalizer finalizer' finalizer'' : Finalizer}

theorem refl (finalizer : Finalizer) : finalizer.Trims finalizer where
  threshold := rfl
  validates := rfl
  draining := rfl
  collectHandlers := .refl _
  errorHandlers := .refl _
  resolvers := .refl _

theorem trans
    (first : finalizer.Trims finalizer')
    (second : finalizer'.Trims finalizer'') :
    finalizer.Trims finalizer'' where
  threshold := second.threshold.trans first.threshold
  validates := second.validates.trans first.validates
  draining := second.draining.trans first.draining
  collectHandlers := second.collectHandlers.trans first.collectHandlers
  errorHandlers := second.errorHandlers.trans first.errorHandlers
  resolvers := second.resolvers.trans first.resolvers

theorem countError (finalizer : Finalizer) : finalizer.Trims finalizer.countError where
  threshold := rfl
  validates := rfl
  draining := rfl
  collectHandlers := .refl _
  errorHandlers := .refl _
  resolvers := .refl _

theorem unsubscribe
    (finalizer : Finalizer)
    (id : SubscriptionId) :
    finalizer.Trims (finalizer.unsubscribe id).2 := by
  have same := refl finalizer
  rw [Finalizer.unsubscribe]
  split
  · exact { same with collectHandlers := List.filter_sublist }
  · split
    · exact { same with errorHandlers := List.filter_sublist }
    · split
      · exact { same with resolvers := List.filter_sublist }
      · exact same

end Finalizer.Trims

namespace Session

/-! ## What callbacks do -/

/--
A relation between a session and a later one that holds of whatever callbacks do, as
long as the journal is told only what is allowed, and of one after another.
-/
class Incidental (R : Session → Session → Prop) (allows : outParam (Event → Prop)) : Prop where
  refl (session : Session) : R session session
  trans {session session' session'' : Session} (first : R session session')
    (second : R session' session'') :
    R session session''
  unsubscribe (session : Session) (id : SubscriptionId) : R session (session.unsubscribe id).2
  announce {notice : Notice} (allowed : allows (.notice notice)) (session : Session) :
    R session (session.announce notice)
  fault {fault : Fault} (allowed : allows (.fault fault)) (session : Session) :
    R session ((session.enter (.fault fault)).updateFinalizer Finalizer.countError)

/--
As `Incidental`, and it holds of what resolvers do before they announce a mismatch; no
drain begins or ends meanwhile.
-/
class Resolving (R : Session → Session → Prop) (allows : outParam (Event → Prop)) : Prop
    extends Incidental R allows where
  updateInterp (session : Session) (change : Interpreter → Interpreter) :
    R session (session.updateInterp change)
  draining {session session' : Session} (related : R session session') :
    session'.finalizer.draining = session.finalizer.draining

/-- A drain asked for while one runs does nothing. -/
def Idles (nested : Session → Except Abort Nat × Session) : Prop :=
  ∀ session : Session, session.finalizer.draining = true → nested session = (.ok 0, session)

namespace Incidental

variable {R : Session → Session → Prop} {allows : Event → Prop}

theorem takeSteps
    [Incidental R allows]
    (steps : List HandlerStep)
    (session : Session) :
    R session (takeSteps steps session).2 := by
  induction steps generalizing session with
  | nil => exact refl session
  | cons step rest later =>
      cases step with
      | unsubscribe id => exact trans (unsubscribe session id) (later _)
      | panic text => exact refl session

variable [Incidental R allows]

theorem deliver
    {notice : Handler → Session → Notice}
    (allowed : ∀ handler session, allows (.notice (notice handler session)))
    (handlers : List Handler)
    (session : Session) :
    R session (deliver notice handlers session).2 := by
  induction handlers generalizing session with
  | nil => exact refl session
  | cons handler rest later =>
      have taken : R session _ :=
        trans (announce (allowed handler session) session) (takeSteps handler.steps _)
      rw [Session.deliver]
      split
      · next taken' =>
          rw [taken'] at taken
          exact trans taken (later _)
      · next taken' =>
          rw [taken'] at taken
          exact taken

/-- An error is told, counted and delivered. -/
theorem report
    {fault : Fault}
    (allowed : allows (.fault fault))
    (heard : ∀ label record error, allows (.notice (.reported label record error)))
    (record : Option RecordRef)
    (error : BridgeError)
    (session : Session) :
    R session (report record error (session.enter (.fault fault))).2 :=
  trans (Incidental.fault allowed session)
    (deliver (fun handler _ => heard handler.label record error) _ _)

theorem reportCollected_ite
    (heard :
      ∀ label count generation state, allows (.notice (.collected label count generation state)))
    (isEmpty : Bool)
    (count generation : Nat)
    (session : Session) :
    R session
      (if isEmpty then (.ok (), session)
        else Session.reportCollected count generation session).2 := by
  split
  · exact refl session
  · exact deliver (fun _ _ => heard _ _ _ _) _ session

theorem checkRemaining_ite
    {ref : RecordRef}
    (allowed : allows (.fault (.shortfall ref)))
    (heard : ∀ label record error, allows (.notice (.reported label record error)))
    (validates : Bool)
    (remaining : Int)
    (session : Session) :
    R session
      (if validates then checkRemaining ref remaining session else (.ok (), session)).2 := by
  split
  · rw [checkRemaining]
    split
    · exact refl session
    · exact report allowed heard _ _ session
  · exact refl session

/-- A hook runs, which the journal tells, and its failure is reported. -/
theorem runHook
    {ref : RecordRef}
    {session : Session}
    (ran :
      ∀ hook : Hook,
        R session
          { session.enter (.hookRan ref) with
            registry := (hook.run ref (session.enter (.hookRan ref)).registry).2 })
    (allowed : allows (.fault (.hookFailed ref)))
    (heard : ∀ label record error, allows (.notice (.reported label record error)))
    (hook : Option Hook) :
    R session (runHook ref hook session).2 := by
  cases hook with
  | none => exact refl session
  | some hook =>
      simp only [Session.runHook]
      split
      · exact ran hook
      · exact trans (ran hook) (report allowed heard _ _ _)

end Incidental

namespace Resolving

variable {R : Session → Session → Prop} {allows : Event → Prop}
variable {nested : Session → Except Abort Nat × Session}

theorem prepare
    [Resolving R allows]
    (idles : Idles nested)
    (mismatch : Mismatch)
    (steps : List ResolverStep)
    (drained : Option Nat)
    (session : Session)
    (running : session.finalizer.draining = true) :
    R session (prepare nested mismatch steps drained session).2 := by
  induction steps generalizing drained session with
  | nil => exact Incidental.refl session
  | cons step rest later =>
      cases step with
      | adjust change =>
          exact Incidental.trans (updateInterp session (change mismatch)) (later _ _ running)
      | collect =>
          simp only [Session.prepare, idles session running]
          exact later _ _ running

variable [Resolving R allows]

theorem offer
    (heard : ∀ label mismatch asked, allows (.notice (.offered label mismatch asked)))
    (idles : Idles nested)
    (mismatch : Mismatch)
    (resolvers : List Resolver)
    (session : Session)
    (running : session.finalizer.draining = true) :
    R session (offer nested mismatch resolvers session).2 := by
  induction resolvers generalizing session with
  | nil => exact Incidental.refl session
  | cons resolver rest later =>
      have prepared : R session _ :=
        prepare idles mismatch resolver.before none session running
      rw [Session.offer]
      generalize Session.prepare nested mismatch resolver.before none session = result
        at prepared ⊢
      rcases result with ⟨drained, asked⟩
      have announced : R session _ :=
        Incidental.trans prepared
          (Incidental.announce (heard resolver.label mismatch drained) asked)
      have after : R session _ :=
        Incidental.trans announced (Incidental.takeSteps resolver.steps _)
      simp only
      split
      · next taken' =>
          rw [taken'] at after
          exact after
      · next taken' =>
          rw [taken'] at after
          split
          · exact after
          · exact Incidental.trans after (later _ ((draining after).trans running))

theorem validate
    (heard : ∀ label mismatch asked, allows (.notice (.offered label mismatch asked)))
    (idles : Idles nested)
    (ref : RecordRef)
    (session : Session)
    (running : session.finalizer.draining = true) :
    R session (validate nested ref session).2 := by
  rw [Session.validate]
  split
  · exact Incidental.refl session
  · next mismatch _ =>
      have offered : R session _ :=
        offer heard idles mismatch session.finalizer.resolvers.callbacks session running
      split
      all_goals
        next offered' =>
          rw [offered'] at offered
          exact offered

theorem validate_ite
    (heard : ∀ label mismatch asked, allows (.notice (.offered label mismatch asked)))
    (idles : Idles nested)
    (validates : Bool)
    (ref : RecordRef)
    (session : Session)
    (running : session.finalizer.draining = true) :
    R session
      (if validates then Session.validate nested ref session else (.ok none, session)).2 := by
  split
  · exact validate heard idles ref session running
  · exact Incidental.refl session

end Resolving

/-! ## Notifications -/

/--
Subscriptions ended, records were deferred, and the interpreter may have been
used; the rest stayed as it was.
-/
structure Notifies (session session' : Session) : Prop where
  config : session'.config = session.config
  table : session'.table = session.table
  tracker : session'.tracker = session.tracker
  isShutDown : session'.isShutDown = session.isShutDown
  finalizer : session.finalizer.Trims session'.finalizer
  registry : session.registry.Defers Event.IsSafe session'.registry

/-- As `Notifies`, and the interpreter was left alone and no alarm raised. -/
structure Spares (session session' : Session) : Prop extends Notifies session session' where
  interp : session'.interp = session.interp
  untroubled : session.registry.Untroubled → session'.registry.Untroubled

variable {session session' session'' : Session}

theorem Notifies.refl (session : Session) : session.Notifies session where
  config := rfl
  table := rfl
  tracker := rfl
  isShutDown := rfl
  finalizer := .refl _
  registry := .refl _

theorem Notifies.trans
    (first : session.Notifies session')
    (second : session'.Notifies session'') :
    session.Notifies session'' where
  config := second.config.trans first.config
  table := second.table.trans first.table
  tracker := second.tracker.trans first.tracker
  isShutDown := second.isShutDown.trans first.isShutDown
  finalizer := first.finalizer.trans second.finalizer
  registry := first.registry.trans second.registry

theorem Notifies.updateInterp
    (session : Session)
    (change : Interpreter → Interpreter) :
    session.Notifies (session.updateInterp change) :=
  { refl session with }

theorem Notifies.enter
    (session : Session)
    (event : Event)
    (safe : event.IsSafe) :
    session.Notifies (session.enter event) :=
  { refl session with registry := .enter _ safe }

theorem Notifies.announce
    (session : Session)
    (notice : Notice) :
    session.Notifies (session.announce notice) :=
  enter session _ (by simp)

instance : Resolving Notifies Event.IsSafe where
  refl := .refl
  trans := .trans
  unsubscribe := fun session id => { Notifies.refl session with finalizer := .unsubscribe _ id }
  announce := fun _ session => .announce session _
  fault := fun safe session =>
    (Notifies.enter session _ safe).trans
      { Notifies.refl _ with finalizer := Finalizer.Trims.countError _ }
  updateInterp := .updateInterp
  draining := fun notifies => notifies.finalizer.draining

/-- A record that was deferred still is. -/
theorem Notifies.deferred
    {ref : RecordRef}
    (notifies : session.Notifies session')
    (deferred : (session.record ref).state = .deferred) :
    (session'.record ref).state = .deferred := by
  rcases notifies.registry.record ref with same | ⟨live, -⟩
  · exact (congrArg Record.state same).trans deferred
  · exact absurd (live.symm.trans deferred) (by simp)

namespace Spares

theorem refl (session : Session) : session.Spares session :=
  { Notifies.refl session with
    interp := rfl
    untroubled := id }

theorem trans
    (first : session.Spares session')
    (second : session'.Spares session'') :
    session.Spares session'' :=
  { first.toNotifies.trans second.toNotifies with
    interp := second.interp.trans first.interp
    untroubled := fun before => second.untroubled (first.untroubled before) }

theorem updateFinalizer
    {change : Finalizer → Finalizer}
    (trims : session.finalizer.Trims (change session.finalizer)) :
    session.Spares (session.updateFinalizer change) :=
  { refl session with finalizer := trims }

theorem of_registry
    {registry : Registry}
    (defers : session.registry.Defers Event.IsMild registry) :
    session.Spares { session with registry } :=
  { refl session with
    registry := defers.mono fun _ mild => mild.1
    untroubled := defers.untroubled }

theorem updateRegistry
    {change : Registry → Registry}
    (defers : session.registry.Defers Event.IsMild (change session.registry)) :
    session.Spares (session.updateRegistry change) :=
  of_registry defers

theorem enter
    (session : Session)
    (event : Event)
    (mild : event.IsMild) :
    session.Spares (session.enter event) :=
  updateRegistry (.enter _ mild)

theorem announce
    (session : Session)
    (notice : Notice)
    (mild : (Event.notice notice).IsMild) :
    session.Spares (session.announce notice) :=
  enter session _ mild

theorem unsubscribe
    (session : Session)
    (id : SubscriptionId) :
    session.Spares (session.unsubscribe id).2 :=
  { refl session with finalizer := .unsubscribe _ id }

instance : Incidental Spares Event.IsMild where
  refl := refl
  trans := trans
  unsubscribe := unsubscribe
  announce := fun mild session => announce session _ mild
  fault := fun mild session => (enter session _ mild).trans (updateFinalizer (.countError _))

/-! ### Callbacks -/

theorem takeSteps
    (steps : List HandlerStep)
    (session : Session) :
    session.Spares (takeSteps steps session).2 :=
  Incidental.takeSteps steps session

theorem report
    (record : Option RecordRef)
    (error : BridgeError)
    (session : Session) :
    session.Spares (report record error session).2 :=
  (updateFinalizer (.countError _)).trans (Incidental.deliver (by simp) _ _)

theorem reportCollected
    (count generation : Nat)
    (session : Session) :
    session.Spares (reportCollected count generation session).2 :=
  Incidental.deliver (by simp) _ session

theorem reportFault
    (record : Option RecordRef)
    (error : BridgeError)
    (session : Session) :
    session.Spares (reportFault record error session).2 :=
  (enter session _ (by simp)).trans (report record error _)

/-! ### Hooks and queues -/

/-- A hook ran, which the journal tells. -/
theorem ranHook
    (ref : RecordRef)
    (hook : Hook)
    (session : Session) :
    session.Spares
      { session.enter (.hookRan ref) with
        registry := (hook.run ref (session.enter (.hookRan ref)).registry).2 } :=
  (enter session _ (by simp)).trans (of_registry (Registry.Defers.run hook ref _).mild)

theorem runHook
    (ref : RecordRef)
    (hook : Option Hook)
    (session : Session) :
    session.Spares (runHook ref hook session).2 :=
  Incidental.runHook (fun hook => ranHook ref hook session) (by simp) (by simp) hook

theorem takeSnapshot (session : Session) : session.Spares session.takeSnapshot.2.2 := by
  have emptied :
      session.takeSnapshot.2.2 =
        session.updateRegistry fun registry =>
          registry.updateQueue session.tracker fun _ => session.queue.takeSnapshot.2 :=
    rfl
  rw [emptied]
  exact updateRegistry (.updateQueue _ _ fun counted => counted.takeSnapshot)

theorem requeueFront
    (session : Session)
    (items : List PendingRelease) :
    session.Spares (session.requeueFront items) :=
  updateRegistry (.updateQueue _ _ fun counted => counted.requeueFront items)

theorem push
    (session : Session)
    (item : PendingRelease) :
    session.Spares (session.push item) :=
  updateRegistry (.updateQueue _ _ fun counted => counted.push item)

theorem deferRelease
    (session : Session)
    (ref : RecordRef)
    (hook : Option Hook) :
    session.Spares (session.deferRelease ref hook) :=
  updateRegistry (Registry.Defers.deferRelease _ _ _ _).mild

theorem dropWrapper
    (session : Session)
    (wrapper : Wrapper) :
    session.Spares (session.dropWrapper wrapper) :=
  updateRegistry (Registry.Defers.dropWrapper _ _).mild

theorem newHook (session : Session) : session.Spares session.newHook.2 :=
  of_registry (.hold _ _)

theorem discardHook
    (session : Session)
    (hook : Option Hook) :
    session.Spares (session.updateRegistry fun registry => registry.discardHook hook) :=
  updateRegistry (Registry.Defers.discardHook _ _).mild

theorem reportCollected_ite
    (isEmpty : Bool)
    (count generation : Nat)
    (session : Session) :
    session.Spares
      (if isEmpty then (.ok (), session)
        else Session.reportCollected count generation session).2 :=
  Incidental.reportCollected_ite (by simp) isEmpty count generation session

end Spares

/-! ## Checking what remained -/

theorem interp_checkRemaining_ite
    (validates : Bool)
    (ref : RecordRef)
    (remaining : Int)
    (session : Session) :
    (if validates then checkRemaining ref remaining session else (.ok (), session)).2.interp =
      session.interp := by
  split
  · rw [checkRemaining]
    split
    · rfl
    · exact (Spares.report _ _ _).interp
  · rfl

namespace Notifies

variable {nested : Session → Except Abort Nat × Session}

theorem draining
    (notifies : session.Notifies session')
    (draining : session.finalizer.draining = true) :
    session'.finalizer.draining = true :=
  notifies.finalizer.draining.trans draining

theorem prepare
    (idles : Idles nested)
    (mismatch : Mismatch)
    (steps : List ResolverStep)
    (drained : Option Nat)
    (session : Session)
    (draining : session.finalizer.draining = true) :
    session.Notifies (prepare nested mismatch steps drained session).2 :=
  Resolving.prepare idles mismatch steps drained session draining

end Notifies

end Session

end Custody
