import Custody.Proofs.Finalizer.Transparency
import Custody.Proofs.Session.Bookkeeping

/-!
# Operations without checks

No operation looks at whether drains check counts, other than by draining.  So
as long as the journal tells of no count that was found too low, each operation
does the same in a runtime that makes no checks.
-/

namespace Custody

theorem Registry.journal_detach
    (registry : Registry)
    (tracker : TrackerRef)
    (ref : RecordRef) :
    (registry.detach tracker ref).2.journal = registry.journal := by
  rw [detach]
  split
  · rfl
  · rfl

theorem Session.releaseNow_unchecked
    (session : Session)
    (ref : RecordRef) :
    session.unchecked.releaseNow ref =
      ((session.releaseNow ref).1, (session.releaseNow ref).2.unchecked) := by
  simp only [releaseNow]
  rw [show session.unchecked.record ref = session.record ref from rfl,
    show (session.unchecked.updateRegistry fun registry =>
        (registry.setState ref .released).unregister session.unchecked.tracker ref).interp =
      session.interp from rfl,
    show (session.updateRegistry fun registry =>
        (registry.setState ref .released).unregister session.tracker ref).interp =
      session.interp from rfl]
  split
  · split
    · rfl
    · rfl
  · rfl

theorem Session.register_unchecked
    (session : Session)
    (handle : Handle) :
    session.unchecked.register handle =
      (session.register handle).map fun result => (result.1, result.2.unchecked) := by
  simp only [register]
  rw [show session.unchecked.ownTracker = session.ownTracker from rfl,
    show session.unchecked.interp = session.interp from rfl]
  split
  · rfl
  · split
    · rfl
    · split
      · rfl
      · rfl

namespace Op

/-- The first half of a registration: the record is entered, but nothing drained yet. -/
def enroll (handle : Handle) : Op RecordRef :=
  of fun session =>
    match session.register handle with
    | .error error => (.error (.error error), session)
    | .ok (ref, session) => (.ok ref, session)

theorem register_eq_enroll (handle : Handle) :
    register handle = do
      let ref ← enroll handle
      let _ ← ofPanicking Session.collectThrottled
      return ref := by
  funext session
  show (register handle).on session = Op.on _ session
  rw [register, on_bind, on_bind]
  show (match session.register handle with
    | .error error => fail error
    | .ok (record, session) => do
        change fun _ => session
        let _ ← ofPanicking Session.collectThrottled
        return record : Op RecordRef).on session = _
  simp only [enroll, of, on]
  rcases session.register handle with error | ⟨ref, session'⟩
  · rfl
  · rfl

/--
The operation forgets no alarm, and unless one is raised it does the same in a
runtime without checks.
-/
structure Transparent {α : Type} (op : Op α) : Prop where
  untroubled :
    ∀ session, (op.on session).2.registry.Untroubled → session.registry.Untroubled
  unchecked :
    ∀ session,
      (op.on session).2.registry.Untroubled →
        op.on session.unchecked = ((op.on session).1, (op.on session).2.unchecked)

namespace Transparent

variable {α β : Type} {op : Op α}

/-! ## Putting operations together -/

theorem pure (value : α) : (Pure.pure value : Op α).Transparent :=
  ⟨fun _ untroubled => untroubled, fun _ _ => rfl⟩

theorem fail (error : BridgeError) : (Op.fail error : Op α).Transparent :=
  ⟨fun _ untroubled => untroubled, fun _ _ => rfl⟩

theorem bind
    {next : α → Op β}
    (first : op.Transparent)
    (later : ∀ value, (next value).Transparent) :
    (op >>= next).Transparent := by
  have between (session : Session)
      (untroubled : ((op >>= next).on session).2.registry.Untroubled) :
      (op.on session).2.registry.Untroubled := by
    rw [on_bind] at untroubled
    generalize op.on session = result at untroubled ⊢
    rcases result with ⟨abort | value, session'⟩
    · exact untroubled
    · exact (later value).untroubled session' untroubled
  refine ⟨fun session untroubled => first.untroubled session (between session untroubled),
    fun session untroubled => ?_⟩
  have same := first.unchecked session (between session untroubled)
  rw [on_bind] at untroubled
  rw [on_bind, on_bind, same]
  generalize op.on session = result at untroubled ⊢
  rcases result with ⟨abort | value, session'⟩
  · rfl
  · exact (later value).unchecked session' untroubled

/-- What an operation reads of the runtime does not depend on whether it makes checks. -/
theorem bind_session
    {next : Session → Op β}
    (same : ∀ session, next session.unchecked = next session)
    (later : ∀ session, (next session).Transparent) :
    (Op.session >>= next).Transparent := by
  refine ⟨fun session untroubled => (later session).untroubled session untroubled,
    fun session untroubled => ?_⟩
  show (next session.unchecked).on session.unchecked = _
  rw [same]
  exact (later session).unchecked session untroubled

theorem map
    (first : op.Transparent)
    (change : α → β) :
    (change <$> op).Transparent :=
  first.bind fun value => pure (change value)

theorem of
    {step : Session → Except Abort α × Session}
    (untroubled : ∀ session, (step session).2.registry.Untroubled → session.registry.Untroubled)
    (same : ∀ session, step session.unchecked = ((step session).1, (step session).2.unchecked)) :
    (Op.of step).Transparent :=
  ⟨untroubled, fun session _ => same session⟩

theorem change
    {step : Session → Session}
    (untroubled : ∀ session, (step session).registry.Untroubled → session.registry.Untroubled)
    (same : ∀ session, step session.unchecked = (step session).unchecked) :
    (Op.change step).Transparent :=
  .of untroubled fun session => by rw [same]

theorem ofPanicking
    {step : Session → Except Panic α × Session}
    (untroubled : ∀ session, (step session).2.registry.Untroubled → session.registry.Untroubled)
    (unchecked :
      ∀ session,
        (step session).2.registry.Untroubled →
          step session.unchecked = ((step session).1, (step session).2.unchecked)) :
    (Op.ofPanicking step).Transparent := by
  have ended (session : Session) :
      ((Op.ofPanicking step).on session).2 = (step session).2 := by
    simp only [Op.ofPanicking, Op.of, on]
    rcases step session with ⟨panic | value, session'⟩
    · rfl
    · rfl
  refine ⟨fun session quiet => untroubled session (ended session ▸ quiet), fun session quiet => ?_⟩
  have same := unchecked session (ended session ▸ quiet)
  simp only [Op.ofPanicking, Op.of, on, same]
  rcases step session with ⟨panic | value, session'⟩
  · rfl
  · rfl

theorem orDrop
    (transparent : op.Transparent)
    (wrappers : List Wrapper) :
    (op.orDrop wrappers).Transparent := by
  have inner (session : Session)
      (untroubled : ((op.orDrop wrappers).on session).2.registry.Untroubled) :
      (op.on session).2.registry.Untroubled := by
    simp only [Op.orDrop, Op.of, on] at untroubled ⊢
    generalize op session = result at untroubled ⊢
    rcases result with ⟨abort | value, session'⟩
    · exact (Session.Leads.dropWrappers session' 0 wrappers).untroubled untroubled
    · exact untroubled
  refine ⟨fun session untroubled => transparent.untroubled session (inner session untroubled),
    fun session untroubled => ?_⟩
  have same := transparent.unchecked session (inner session untroubled)
  simp only [on] at same
  simp only [Op.orDrop, Op.of, on, same]
  rcases op session with ⟨abort | value, session'⟩
  · rfl
  · rfl

theorem onError
    (transparent : op.Transparent)
    (repair : Interpreter → Interpreter) :
    (op.onError repair).Transparent := by
  have inner (session : Session)
      (untroubled : ((op.onError repair).on session).2.registry.Untroubled) :
      (op.on session).2.registry.Untroubled := by
    simp only [Op.onError, Op.of, on] at untroubled ⊢
    generalize op session = result at untroubled ⊢
    rcases result with ⟨(error | panic) | value, session'⟩
    · exact untroubled
    · exact untroubled
    · exact untroubled
  refine ⟨fun session untroubled => transparent.untroubled session (inner session untroubled),
    fun session untroubled => ?_⟩
  have same := transparent.unchecked session (inner session untroubled)
  simp only [on] at same
  simp only [Op.onError, Op.of, on, same]
  rcases op session with ⟨(error | panic) | value, session'⟩
  · rfl
  · rfl
  · rfl

/-! ### The interpreter -/

theorem changeInterp (step : Interpreter → Interpreter) : (Op.changeInterp step).Transparent :=
  .change (fun _ untroubled => untroubled) fun _ => rfl

theorem withInterp (step : Interpreter → α × Interpreter) : (Op.withInterp step).Transparent :=
  .of (fun _ untroubled => untroubled) fun _ => rfl

theorem tryInterp (step : Interpreter → Except HeapError Interpreter) :
    (Op.tryInterp step).Transparent := by
  refine .of (fun session => ?_) fun session => ?_
  · split
    · exact id
    · exact id
  · rw [show session.unchecked.interp = session.interp from rfl]
    split
    · rfl
    · rfl

theorem ofHeap (result : Except HeapError α) : (Op.ofHeap result).Transparent := by
  cases result with
  | ok value => exact pure value
  | error reason => exact fail _

/-! ### Registering and draining -/

theorem requireOwn
    (wrapper : Wrapper)
    (operation : String) :
    (wrapper.requireOwn operation).Transparent := by
  refine bind_session (fun _ => rfl) fun session => ?_
  split
  · exact pure ()
  · exact fail _

theorem collectThrottled : (Op.ofPanicking Session.collectThrottled).Transparent :=
  .ofPanicking (fun session => (Session.leads_collectThrottled 0 session).untroubled)
    fun _ => Session.collectThrottled_unchecked

theorem enroll (handle : Handle) : (Op.enroll handle).Transparent := by
  refine .of (fun session => ?_) fun session => ?_
  · split
    · exact id
    · next session' registered =>
        have leads : session.Leads 0 [] session' 0 [] := .register registered
        exact leads.untroubled
  · rw [Session.register_unchecked]
    rcases session.register handle with error | ⟨ref, session'⟩
    · rfl
    · rfl

theorem register (handle : Handle) : (Op.register handle).Transparent := by
  rw [register_eq_enroll]
  exact (enroll handle).bind fun ref => collectThrottled.bind fun _ => pure ref

theorem drainPasses (passes drained : Nat) : (Op.drainPasses passes drained).Transparent := by
  induction passes generalizing drained with
  | zero => exact pure drained
  | succ passes step =>
      refine bind_session (fun _ => rfl) fun session => ?_
      split
      · refine bind (.ofPanicking (fun session => ?_) fun _ => Session.collectReporting_unchecked)
          fun count => step _
        exact (Session.leads_collectReporting 0 session).untroubled
      · exact pure drained

end Transparent

end Op

/-! ## Wrappers -/

namespace Wrapper

open Op.Transparent (bind_session)

theorem transparent_ofOwned (handle : Handle) : (ofOwned handle).Transparent := by
  refine (Op.Transparent.register handle).bind fun ref => bind_session (fun _ => rfl)
    fun session => ?_
  refine Op.Transparent.bind ?_ fun _ => .pure _
  exact .change (fun session => (Session.Leads.hold session 0).untroubled) fun _ => rfl

theorem transparent_ofBorrowed (handle : Handle) : (ofBorrowed handle).Transparent := by
  rw [ofBorrowed]
  split
  · exact .fail _
  · exact (Op.Transparent.tryInterp _).bind fun _ => (transparent_ofOwned handle).onError _

theorem transparent_ofNone : ofNone.Transparent :=
  (Op.Transparent.withInterp _).bind transparent_ofOwned

theorem transparent_ofPayload (payload : Payload) : (ofPayload payload).Transparent :=
  (Op.Transparent.withInterp _).bind transparent_ofOwned

theorem transparent_retainAll (wrappers : List Wrapper) : (retainAll wrappers).Transparent := by
  induction wrappers with
  | nil => exact .pure _
  | cons wrapper rest step =>
      refine (Op.Transparent.requireOwn _ _).bind fun _ => bind_session (fun _ => rfl)
        fun session => ?_
      exact (Op.Transparent.tryInterp _).bind fun _ => step.bind fun _ => .pure _

theorem transparent_ofList (items : List Wrapper) : (ofList items).Transparent :=
  (transparent_retainAll items).bind fun handles => transparent_ofPayload (.list handles)

theorem transparent_clone (wrapper : Wrapper) : wrapper.clone.Transparent :=
  (Op.Transparent.requireOwn _ _).bind fun _ => bind_session (fun _ => rfl) fun _ =>
    transparent_ofBorrowed _

theorem transparent_dispose (wrapper : Wrapper) : wrapper.dispose.Transparent := by
  refine ((Op.Transparent.requireOwn _ _).orDrop [wrapper]).bind fun _ => ?_
  refine Op.Transparent.bind ?_ fun failure => Op.Transparent.bind ?_ fun _ => ?_
  · cases wrapper.hook with
    | none => exact .pure none
    | some hook =>
        refine .of (fun session => ?_) fun _ => rfl
        exact fun untroubled => untroubled.of_told fun _ =>
          (Session.Spares.ranHook wrapper.record hook session).registry.told
  · refine .of (fun session => ?_) fun session => ?_
    · exact ((Session.Leads.releaseNow session 1 wrapper.record).trans
        (.letGo _ 0 wrapper.tracker)).untroubled
    · rw [Session.releaseNow_unchecked]
      rfl
  · cases failure with
    | none => exact .pure _
    | some text => exact .fail _

theorem transparent_intoHandle (wrapper : Wrapper) : wrapper.intoHandle.Transparent := by
  refine .of (fun session untroubled => ?_) fun _ => rfl
  refine untroubled.of_told fun event before => ?_
  have told : event ∈ ((session.registry.discardHook wrapper.hook).detach wrapper.tracker
      wrapper.record).2.journal := by
    rw [Registry.journal_detach]
    exact (Registry.Defers.discardHook session.registry wrapper.hook).told before
  exact (Registry.Defers.letGo wrapper.tracker _).told told

end Wrapper

/-! ## Captured exceptions -/

namespace CapturedException

open Op.Transparent (bind_session)

theorem transparent_ofNormalized (triple : Triple) : (ofNormalized triple).Transparent := by
  rw [ofNormalized]
  cases triple.value with
  | none => exact (Op.Transparent.changeInterp _).bind fun _ => .fail _
  | some value =>
      refine (Op.Transparent.withInterp _).bind fun traceback => bind_session (fun _ => rfl)
        fun session => ?_
      refine (Wrapper.transparent_ofOwned _).bind fun typeWrapper => ?_
      refine ((Wrapper.transparent_ofOwned value).orDrop _).bind fun valueWrapper => ?_
      cases traceback with
      | none => exact .pure _
      | some entry =>
          exact ((Wrapper.transparent_ofOwned entry).orDrop _).bind fun tracebackWrapper => .pure _

theorem transparent_ofTriple
    (attempts : Nat)
    (triple : Triple) :
    (ofTriple attempts triple).Transparent := by
  induction attempts generalizing triple with
  | zero => exact (Op.Transparent.changeInterp _).bind fun _ => .fail _
  | succ attempts step =>
      refine (Op.Transparent.withInterp _).bind fun outcome => ?_
      cases outcome with
      | ok triple => exact transparent_ofNormalized triple
      | error raised =>
          refine (Op.Transparent.changeInterp _).bind fun _ => bind_session (fun _ => rfl)
            fun session => ?_
          split
          · exact .fail _
          · exact (Op.Transparent.changeInterp _).bind fun _ => step _

theorem transparent_fetch : fetch.Transparent := by
  refine bind_session (fun _ => rfl) fun session => ?_
  split
  · exact .pure _
  · refine (Op.Transparent.changeInterp _).bind fun _ => ?_
    exact (transparent_ofTriple _ _).bind fun exception => .pure _

theorem transparent_raised {α : Type} : (raised : Op α).Transparent := by
  refine transparent_fetch.bind fun exception => ?_
  cases exception with
  | none => exact .fail _
  | some exception => exact .fail _

theorem transparent_checkPending : checkPending.Transparent := by
  refine transparent_fetch.bind fun exception => ?_
  cases exception with
  | none => exact .pure _
  | some exception => exact .fail _

theorem transparent_retaining
    {α : Type}
    {next : Op α}
    {type value : Handle}
    {traceback : Option Handle}
    (later : next.Transparent) :
    (do
      Op.tryInterp fun interp => interp.incref type
      Op.tryInterp fun interp => interp.incref value
      match traceback with
      | none => next
      | some entry =>
          Op.tryInterp fun interp => interp.incref entry
          next : Op α).Transparent := by
  refine (Op.Transparent.tryInterp _).bind fun _ => (Op.Transparent.tryInterp _).bind fun _ => ?_
  cases traceback with
  | none => exact later
  | some entry => exact (Op.Transparent.tryInterp _).bind fun _ => later

theorem transparent_cause (exception : CapturedException) : exception.cause.Transparent := by
  refine (Op.Transparent.requireOwn _ _).bind fun _ => bind_session (fun _ => rfl)
    fun session => ?_
  split
  · exact .pure _
  · refine (Op.Transparent.ofHeap _).bind fun _ => transparent_retaining ?_
    exact (transparent_ofNormalized _).bind fun exception => .pure _

theorem transparent_restoreClone (exception : CapturedException) :
    exception.restoreClone.Transparent :=
  (Op.Transparent.requireOwn _ _).bind fun _ => bind_session (fun _ => rfl) fun _ =>
    transparent_retaining (.changeInterp _)

theorem transparent_restore (exception : CapturedException) : exception.restore.Transparent := by
  refine ((Op.Transparent.requireOwn _ _).orDrop _).bind fun _ => ?_
  refine ((Wrapper.transparent_intoHandle _).orDrop _).bind fun type => ?_
  refine ((Wrapper.transparent_intoHandle _).orDrop _).bind fun value => ?_
  cases exception.traceback with
  | none => exact Op.Transparent.bind (.pure none) fun _ => .changeInterp _
  | some wrapper =>
      exact ((Wrapper.transparent_intoHandle wrapper).map some).bind fun _ => .changeInterp _

end CapturedException

theorem Wrapper.transparent_getItem
    (wrapper : Wrapper)
    (index : Int) :
    (wrapper.getItem index).Transparent := by
  refine (Op.Transparent.requireOwn _ _).bind fun _ => Op.Transparent.bind_session (fun _ => rfl)
    fun session => (Op.Transparent.withInterp _).bind fun outcome => ?_
  cases outcome with
  | ok item => exact transparent_ofOwned item
  | error raised => exact CapturedException.transparent_raised

/-! ## The error indicator -/

namespace Indicator

open Op.Transparent (bind_session)

theorem transparent_setError
    (type : Handle)
    (message : String) :
    (setError type message).Transparent :=
  .tryInterp _

theorem transparent_setErrorObject
    (type : Handle)
    (value : Wrapper) :
    (setErrorObject type value).Transparent :=
  (Op.Transparent.requireOwn _ _).bind fun _ => bind_session (fun _ => rfl) fun _ => .tryInterp _

theorem transparent_setCause (cause : CapturedException) : (setCause cause).Transparent := by
  refine (Op.Transparent.requireOwn _ _).bind fun _ => bind_session (fun _ => rfl)
    fun session => ?_
  split
  · exact .fail _
  · refine (Op.Transparent.tryInterp _).bind fun _ => bind_session (fun _ => rfl)
      fun session => ?_
    split
    · exact .fail _
    · refine (Op.Transparent.changeInterp _).bind fun _ => (Op.Transparent.withInterp _).bind
        fun outcome => ?_
      cases outcome with
      | error raised =>
          exact (Op.Transparent.changeInterp _).bind fun _ => CapturedException.transparent_raised
      | ok current =>
          simp only
          split
          · exact .changeInterp _
          · exact (Op.Transparent.tryInterp _).bind fun _ => .changeInterp _

theorem transparent_normalize (triple : Triple) : (normalize triple).Transparent := by
  refine bind_session (fun _ => rfl) fun session => ?_
  split
  · exact .fail _
  · refine (Op.Transparent.withInterp _).bind fun outcome => ?_
    cases outcome with
    | ok triple => exact .pure _
    | error raised => exact CapturedException.transparent_raised

theorem transparent_wellKnown (operation name : String) :
    (wellKnown operation name).Transparent := by
  refine bind_session (fun _ => rfl) fun session => ?_
  split
  · exact .pure _
  · exact .fail _

theorem transparent_raiseTypeError (message : String) :
    (raiseTypeError message).Transparent := by
  refine (transparent_wellKnown _ _).bind fun type => bind_session (fun _ => rfl)
    fun session => (Op.Transparent.ofHeap _).bind fun made => ?_
  refine (Op.Transparent.changeInterp _).bind fun _ => ?_
  exact ((Op.Transparent.tryInterp _).onError _).bind fun _ => .changeInterp _

theorem transparent_warn
    (category : Handle)
    (message : String)
    (level : Nat) :
    (warn category message level).Transparent := by
  refine bind_session (fun _ => rfl) fun session => ?_
  split
  · refine (Op.Transparent.withInterp _).bind fun outcome => ?_
    cases outcome with
    | ok done => exact .pure _
    | error raised => exact CapturedException.transparent_raised
  · exact (transparent_raiseTypeError _).bind fun _ => CapturedException.transparent_raised

theorem transparent_deprecation
    (message : String)
    (level : Nat) :
    (deprecation message level).Transparent :=
  (transparent_wellKnown _ _).bind fun _ => transparent_warn _ _ _

end Indicator

theorem HostError.transparent_raise (error : HostError) : error.raise.Transparent := by
  rw [raise]
  cases error.exception? with
  | some exception => exact CapturedException.transparent_restoreClone exception
  | none =>
      refine (Op.Transparent.withInterp _).bind fun _ => Op.Transparent.bind_session
        (fun _ => rfl) fun session => (Op.Transparent.ofHeap _).bind fun _ => ?_
      refine (Op.Transparent.changeInterp _).bind fun _ => ?_
      exact ((Op.Transparent.tryInterp _).onError _).bind fun _ => .changeInterp _

/-! ## The end of a runtime -/

namespace Session

theorem releaseOwner_unchecked
    (ref : RecordRef)
    (session : Session) :
    releaseOwner ref session.unchecked =
      ((releaseOwner ref session).1, (releaseOwner ref session).2.unchecked) := by
  simp only [releaseOwner]
  rw [show session.unchecked.record ref = session.record ref from rfl,
    show (session.unchecked.updateRegistry fun registry =>
        registry.setState ref .released).interp = session.interp from rfl,
    show (session.updateRegistry fun registry =>
        registry.setState ref .released).interp = session.interp from rfl]
  split
  · split
    · rfl
    · rfl
  · rfl

theorem releaseOwners_unchecked
    (refs : List RecordRef)
    (session : Session) :
    releaseOwners refs session.unchecked =
      ((releaseOwners refs session).1, (releaseOwners refs session).2.unchecked) := by
  induction refs generalizing session with
  | nil => rfl
  | cons ref rest step => simp only [releaseOwners, releaseOwner_unchecked, step]

theorem releaseAll_unchecked (session : Session) :
    session.unchecked.releaseAll =
      (session.releaseAll.1, session.releaseAll.2.unchecked) := by
  rw [releaseAll_eq_emptied, releaseAll_eq_emptied,
    show session.unchecked.emptied = session.emptied.unchecked from rfl,
    show session.unchecked.closed.takeSnapshot.2.1 = session.closed.takeSnapshot.2.1 from rfl,
    show session.unchecked.closed.takeSnapshot.2.2.ownTracker =
      session.closed.takeSnapshot.2.2.ownTracker from rfl,
    releaseOwners_unchecked]
  generalize session.emptied.releaseOwners _ = result
  rfl

end Session

theorem Op.transparent_shutDown : shutDown.Transparent := by
  refine Op.Transparent.bind_session (fun _ => rfl) fun session => ?_
  split
  · exact .fail _
  · refine Op.Transparent.bind (.change (fun _ untroubled => untroubled) fun _ => rfl) fun _ => ?_
    refine (Op.Transparent.drainPasses _ _).bind fun drained => ?_
    refine Op.Transparent.bind (.of (fun session untroubled => ?_) fun session => ?_)
      fun released => ?_
    · exact untroubled.of_told fun _ => Session.told_releaseAll
    · simp only [Session.releaseAll_unchecked]
    · exact Op.Transparent.bind (.change (fun _ untroubled => untroubled) fun _ => rfl)
        fun _ => .pure _

/-! ## The collector -/

namespace Session

theorem collectorPasses_unchecked
    {bound : Nat}
    {totals : CollectorTotals}
    {session : Session}
    (untroubled : (collectorPasses bound totals session).2.registry.Untroubled) :
    collectorPasses bound totals session.unchecked =
      ((collectorPasses bound totals session).1,
        (collectorPasses bound totals session).2.unchecked) := by
  induction bound generalizing totals session with
  | zero => rfl
  | succ bound step =>
      have collected := @collectReporting_unchecked session
      revert untroubled
      simp only [collectorPasses]
      rw [show session.unchecked.queue = session.queue from rfl]
      split
      · generalize session.collectReporting = result at collected ⊢
        rcases result with ⟨panic | count, session'⟩
        · intro untroubled
          rw [collected untroubled]
        · intro untroubled
          rw [collected ((leads_collectorPasses _ _ 0 session').untroubled untroubled)]
          exact step untroubled
      · exact fun _ => rfl

theorem collectInBackground_unchecked
    {interval : Option Nat}
    {isHeld : Bool}
    {session : Session}
    (untroubled : (session.collectInBackground interval isHeld).2.registry.Untroubled) :
    session.unchecked.collectInBackground interval isHeld =
      ((session.collectInBackground interval isHeld).1,
        (session.collectInBackground interval isHeld).2.unchecked) := by
  revert untroubled
  simp only [collectInBackground]
  rw [show session.unchecked.config.interval = session.config.interval from rfl]
  split
  · exact fun _ => rfl
  · have announced :
        (if isHeld then session.unchecked.announce (.held 0 0) else session.unchecked) =
          (if isHeld then session.announce (.held 0 0) else session).unchecked := by
      split
      · rfl
      · rfl
    rw [announced]
    generalize (if isHeld then session.announce (.held 0 0) else session) = session'
    split
    · intro untroubled
      have ran : session'.unchecked.runCollector =
          (session'.runCollector.1, session'.runCollector.2.unchecked) :=
        collectorPasses_unchecked untroubled
      simp only [ran]
    · exact fun _ => rfl

end Session

end Custody
