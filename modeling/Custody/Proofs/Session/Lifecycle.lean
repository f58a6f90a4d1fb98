import Custody.Host
import Custody.Proofs.Finalizer.Progress
import Custody.Proofs.Session.Operations
import Custody.Session.Shutdown

/-!
# The life of a record

A runtime is opened and then used in any order: references are registered,
released, deferred and detached, the queue is filled and emptied by hand, drains
run, callbacks come and go, and in the end the runtime may be shut down.  What
the interpreter does meanwhile, hooks and callbacks included, is not
restricted.

Whatever happens, records only move forward, and no record gives its reference
back twice.
-/

namespace Custody

namespace Session

/-- A runtime that was just started, on a host without any other. -/
def opened (config : Config) (hasTable : Bool) : Session :=
  let (tracker, registry) := Registry.empty.addTracker config.defers
  let bare := Embedding.bare 0 config tracker
  { (if hasTable then bare.withTable else bare) with registry }

/-- The table of exceptions comes from the interpreter alone. -/
theorem withTable_eq (embedding : Embedding) :
    embedding.withTable =
      { embedding with
        table := (ExceptionTable.resolve embedding.interp).1
        interp := (ExceptionTable.resolve embedding.interp).2 } := by
  rw [Embedding.withTable]

/-- A runtime that was just started differs from a bare one in its interpreter and its table. -/
theorem opened_eq_bare
    (config : Config)
    (hasTable : Bool) :
    ∃ table interp,
      opened config hasTable =
        { Embedding.bare 0 config 0 with
          table
          interp
          registry := (Registry.empty.addTracker config.defers).2 } := by
  -- Of a runtime in general, so that no table is ever looked up.
  have general (embedding : Embedding) (registry : Registry) :
      ∃ table interp,
        ({ (if hasTable then embedding.withTable else embedding) with registry } : Session) =
          { embedding with table, interp, registry } := by
    cases hasTable with
    | false => exact ⟨_, _, rfl⟩
    | true =>
        rw [if_pos rfl, withTable_eq]
        exact ⟨_, _, rfl⟩
  exact general _ _

theorem session?_add_empty
    (config : Config)
    (hasTable : Bool) :
    (Host.empty.add config hasTable).2.session? 0 = some (opened config hasTable) :=
  rfl

/-- An operation on the tracker or the finalizer of a runtime. -/
inductive Action where
  | register (handle : Handle)
  | releaseNow (ref : RecordRef)
  | deferRelease (ref : RecordRef) (hook : Option Hook)
  | detach (ref : RecordRef)
  | newHook
  | discardHook (hook : Option Hook)
  | dropWrapper (wrapper : Wrapper)
  | dispose (wrapper : Wrapper)
  | intoHandle (wrapper : Wrapper)
  | push (item : PendingRelease)
  | takeSnapshot
  | requeueFront (items : List PendingRelease)
  | collect
  | collectThrottled
  | onCollect (handler : Handler)
  | onError (handler : Handler)
  | addResolver (resolver : Resolver)
  | unsubscribe (id : SubscriptionId)
  | setThreshold (threshold : Nat)
  | setValidation (validates : Bool)
  | setDeferral (defers : Bool)
  | reportFault (record : Option RecordRef) (error : BridgeError)
  | shutDown

namespace Action

/-- The session after an operation, whether it succeeds, fails or panics. -/
def perform (session : Session) : Action → Session
  | register handle =>
      match session.register handle with
      | .ok (_, session) => session
      | .error _ => session
  | releaseNow ref => (session.releaseNow ref).2
  | deferRelease ref hook => session.deferRelease ref hook
  | detach ref => (session.detach ref).2
  | newHook => session.newHook.2
  | discardHook hook => session.updateRegistry fun registry => registry.discardHook hook
  | dropWrapper wrapper => session.dropWrapper wrapper
  | dispose wrapper => (wrapper.dispose.on session).2
  | intoHandle wrapper => (wrapper.intoHandle.on session).2
  | push item => session.push item
  | takeSnapshot => session.takeSnapshot.2.2
  | requeueFront items => session.requeueFront items
  | collect => session.collect.2
  | collectThrottled => session.collectThrottled.2
  | onCollect handler => (session.onCollect handler).2
  | onError handler => (session.onError handler).2
  | addResolver resolver => (session.addResolver resolver).2
  | unsubscribe id => (session.unsubscribe id).2
  | setThreshold threshold =>
      session.updateFinalizer fun finalizer => finalizer.setThreshold threshold
  | setValidation validates =>
      session.updateFinalizer fun finalizer => finalizer.setValidation validates
  | setDeferral defers => session.setDeferral defers
  | reportFault record error => (session.reportFault record error).2
  | shutDown => (Op.shutDown.on session).2

end Action

end Session

/-! ## Operations -/

namespace Op

variable {α β : Type}

/-- However the operation ends, the records make progress and no budget is exceeded. -/
def Progresses (op : Op α) : Prop :=
  ∀ session, op.Ends session fun _ session' => session.registry.Advances session'.registry

namespace Progresses

theorem of
    {step : Session → Except Abort α × Session}
    (advances : ∀ session : Session, session.registry.Advances (step session).2.registry) :
    (Op.of step).Progresses :=
  advances

theorem pure (value : α) : (Pure.pure value : Op α).Progresses :=
  fun _ => .refl _

theorem fail (error : BridgeError) : (Op.fail error : Op α).Progresses :=
  fun _ => .refl _

theorem session : Op.session.Progresses :=
  fun _ => .refl _

theorem change
    {step : Session → Session}
    (advances : ∀ session : Session, session.registry.Advances (step session).registry) :
    (Op.change step).Progresses :=
  advances

theorem bind
    {op : Op α}
    {next : α → Op β}
    (first : op.Progresses)
    (later : ∀ value, (next value).Progresses) :
    (op >>= next).Progresses := by
  intro session
  rw [ends_bind]
  apply (first session).mono
  intro outcome session' advances
  cases outcome with
  | error _ => exact advances
  | ok value => exact (later value session').mono fun _ _ => advances.trans

theorem orDrop
    {op : Op α}
    (progresses : op.Progresses)
    (wrappers : List Wrapper) :
    (op.orDrop wrappers).Progresses := by
  intro session
  rw [ends_orDrop]
  apply (progresses session).mono
  intro outcome session' advances
  cases outcome with
  | error _ => exact advances.trans (.of_defers (.dropWrappers _ _))
  | ok _ => exact advances

theorem ofPanicking
    {step : Session → Except Panic α × Session}
    (advances : ∀ session : Session, session.registry.Advances (step session).2.registry) :
    (Op.ofPanicking step).Progresses := by
  intro session
  apply ends_ofPanicking
  · exact fun _ _ => advances session
  · exact fun _ _ => advances session

theorem requireOwn
    (wrapper : Wrapper)
    (operation : String) :
    (wrapper.requireOwn operation).Progresses :=
  fun _ => Wrapper.ends_requireOwn (fun _ => .refl _) (fun _ => .refl _)

theorem drainPasses (passes drained : Nat) : (drainPasses passes drained).Progresses := by
  induction passes generalizing drained with
  | zero => exact pure drained
  | succ passes step =>
      refine bind session fun session => ?_
      split
      · exact bind (ofPanicking Session.advances_collectReporting) fun count => step _
      · exact pure drained

theorem shutDown : shutDown.Progresses := by
  refine bind session fun session => ?_
  split
  · exact fail _
  · refine bind (change fun _ => .refl _) fun _ => ?_
    refine bind (drainPasses _ _) fun drained => ?_
    refine bind (of Session.advances_releaseAll) fun released => ?_
    exact bind (change fun _ => .refl _) fun _ => pure _

/-- The hook runs, the reference is given back, and the tracker is let go. -/
theorem dispose (wrapper : Wrapper) : wrapper.dispose.Progresses := by
  refine bind (orDrop (requireOwn wrapper "dispose") [wrapper]) fun _ => ?_
  refine bind (of fun session => ?_) fun failure => ?_
  · cases wrapper.hook with
    | none => exact .refl _
    | some hook =>
        exact (Session.Spares.ranHook wrapper.record hook session).toNotifies.advances
  · refine bind (of fun session => ?_) fun _ => ?_
    · exact (session.advances_releaseNow wrapper.record).trans
        (.of_defers (.letGo wrapper.tracker _))
    · cases failure with
      | none => exact pure ()
      | some text => exact fail _

theorem intoHandle (wrapper : Wrapper) : wrapper.intoHandle.Progresses :=
  of fun session =>
    ((Registry.Advances.of_defers (.discardHook session.registry wrapper.hook)).trans
      (.detach _ wrapper.tracker wrapper.record)).trans (.of_defers (.letGo wrapper.tracker _))

end Progresses

end Op

/-! ## Runs -/

namespace Session

theorem Action.advances
    (action : Action)
    (session : Session) :
    session.registry.Advances (action.perform session).registry := by
  cases action with
  | register handle =>
      simp only [perform]
      split
      · next registered => exact advances_register registered
      · exact .refl _
  | releaseNow ref => exact session.advances_releaseNow ref
  | deferRelease ref hook => exact (Spares.deferRelease session ref hook).toNotifies.advances
  | detach ref => exact session.advances_detach ref
  | newHook => exact (Spares.newHook session).toNotifies.advances
  | discardHook hook => exact (Spares.discardHook session hook).toNotifies.advances
  | dropWrapper wrapper => exact (Spares.dropWrapper session wrapper).toNotifies.advances
  | dispose wrapper => exact Op.Progresses.dispose wrapper session
  | intoHandle wrapper => exact Op.Progresses.intoHandle wrapper session
  | push item => exact (Spares.push session item).toNotifies.advances
  | takeSnapshot => exact (Spares.takeSnapshot session).toNotifies.advances
  | requeueFront items => exact (Spares.requeueFront session items).toNotifies.advances
  | collect => exact session.advances_collect
  | collectThrottled => exact session.advances_collectThrottled
  | onCollect handler => exact .of_eq rfl rfl
  | onError handler => exact .of_eq rfl rfl
  | addResolver resolver => exact .of_eq rfl rfl
  | unsubscribe id => exact (Spares.unsubscribe session id).toNotifies.advances
  | setThreshold threshold => exact .refl _
  | setValidation validates => exact .refl _
  | setDeferral defers => exact .updateTracker _ _ _
  | reportFault record error => exact (Spares.reportFault record error session).toNotifies.advances
  | shutDown => exact Op.Progresses.shutDown session

/-- One operation, or any use of the interpreter. -/
inductive Step (session : Session) : Session → Prop where
  | act (action : Action) : session.Step (action.perform session)
  | useInterp (change : Interpreter → Interpreter) : session.Step (session.updateInterp change)

/-- Any number of operations in any order. -/
def LeadsTo : Session → Session → Prop :=
  Relation.ReflTransGen Step

theorem Step.advances
    {session session' : Session}
    (step : session.Step session') :
    session.registry.Advances session'.registry := by
  cases step with
  | act action => exact action.advances session
  | useInterp change => exact .refl _

theorem LeadsTo.advances
    {session session' : Session}
    (run : session.LeadsTo session') :
    session.registry.Advances session'.registry := by
  induction run with
  | refl => exact .refl _
  | tail _ step before => exact before.trans step.advances

theorem leadsTo_foldl_perform
    (actions : List Action)
    (session : Session) :
    session.LeadsTo (actions.foldl Action.perform session) := by
  induction actions generalizing session with
  | nil => exact .refl
  | cons action rest step => exact .head (.act action) (step _)

/-! ## No double release -/

/-- What becomes of requests to give up a record that is not live. -/
structure Refuses (session : Session) (ref : RecordRef) : Prop where
  releaseNow :
    session.releaseNow ref =
      (.error <| .error <| .misuse <| .notLive "release_now" (session.record ref).id
          (session.record ref).handle (session.record ref).state,
        session)
  detach :
    session.detach ref =
      (.error <| .error <| .misuse <| .notLive "detach" (session.record ref).id
          (session.record ref).handle (session.record ref).state,
        session)
  deferRelease :
    ∀ hook,
      session.deferRelease ref hook =
        session.updateRegistry fun registry => registry.discardHook hook
  deferRelease_none : session.deferRelease ref none = session
  record : ∀ hook, (session.deferRelease ref hook).record ref = session.record ref

theorem refuses_of_ne_live
    {session : Session}
    {ref : RecordRef}
    (spent : (session.record ref).state ≠ .live) :
    session.Refuses ref := by
  have spent' : (session.registry.record ref).state ≠ .live := spent
  have deferred (hook : Option Hook) :
      session.deferRelease ref hook =
        session.updateRegistry fun registry => registry.discardHook hook := by
    simp [Session.deferRelease, Registry.deferRelease, Registry.offerRelease, updateRegistry,
      spent']
  refine ⟨?_, ?_, deferred, deferred none, ?_⟩
  · simp [Session.releaseNow, spent]
  · simp [Session.detach, Registry.detach, spent', Except.mapError, Session.record]
  · intro hook
    rcases (Registry.Defers.deferRelease session.registry session.tracker ref hook).record ref with
      same | ⟨live, -⟩
    · exact same
    · exact absurd live spent'

/-- On a runtime that was just started nothing was given back yet. -/
theorem budget_opened
    (config : Config)
    (hasTable : Bool)
    (ref : RecordRef) :
    (opened config hasTable).registry.budget ref = 1 := by
  rfl

/--
Whatever is done with a runtime, in whatever order and with whatever callbacks,
every record only moves forward, its final states are never left, and its
reference is given back at most once: not while the record still owns it, and
never again after that.  A record that is not live refuses to be given up.
-/
theorem released_at_most_once
    {config : Config}
    {hasTable : Bool}
    {session : Session}
    (run : (opened config hasTable).LeadsTo session)
    (ref : RecordRef) :
    (∀ session', session.LeadsTo session' →
      ref < session.registry.records.size →
        (session.record ref).state.Follows (session'.record ref).state ∧
          ((session.record ref).state.owns = false →
            (session'.record ref).state = (session.record ref).state)) ∧
      session.registry.drops ref ≤ 1 ∧
      ((session.record ref).state.owns = true → session.registry.drops ref = 0) ∧
      ((session.record ref).state ≠ .live → session.Refuses ref) := by
  have budget := run.advances.bounded ref
  rw [budget_opened, Registry.budget] at budget
  refine ⟨?_, by omega, ?_, refuses_of_ne_live⟩
  · intro session' later inside
    have follows := later.advances.moves ref inside
    exact ⟨follows, RecordState.eq_of_follows follows⟩
  · intro owned
    have owned' : (session.registry.record ref).state.owns = true := owned
    have owed : session.registry.owed ref = 1 := by simp [Registry.owed, owned']
    omega

/-- A runtime in which a record was deferred, queued a second time, and drained. -/
def drainedTwice : Session :=
  [Action.register Interpreter.initial.noneObject, .deferRelease 0 none, .push ⟨0, none⟩,
    .collect].foldl Action.perform (opened .standard true)

theorem released_at_most_once_drainedTwice :
    (drainedTwice.record 0).state = .released ∧
      drainedTwice.registry.drops 0 = 1 ∧
      (∀ session', drainedTwice.LeadsTo session' → (session'.record 0).state = .released) ∧
      drainedTwice.Refuses 0 := by
  have run : (opened .standard true).LeadsTo drainedTwice := leadsTo_foldl_perform _ _
  have released : (drainedTwice.record 0).state = .released := by decide +kernel
  have dropped : drainedTwice.registry.drops 0 = 1 := by decide +kernel
  have inside : 0 < drainedTwice.registry.records.size := by decide +kernel
  rcases released_at_most_once run 0 with ⟨moves, -, -, refuses⟩
  refine ⟨released, dropped, ?_, refuses (by rw [released]; decide)⟩
  intro session' later
  rw [← released]
  exact (moves session' later inside).2 (by rw [released]; rfl)

end Session

end Custody
