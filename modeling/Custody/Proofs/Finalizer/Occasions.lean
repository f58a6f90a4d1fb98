import Custody.Proofs.Finalizer.Snapshots

/-!
# Occasions

What callbacks are told of, and who is told.  A stretch of work on a runtime is
described by its occasions, each with the session in which it arose: between them
nothing is announced, and only the host adds or ends subscriptions.  A drain is such a
stretch, however its hooks, handlers and resolvers interfere.
-/

namespace Custody

/-! ## Announcements -/

/-- Whether a callback of a finalizer announces this. -/
def Notice.isDelivered : Notice → Bool
  | .collected _ _ _ _ => true
  | .reported _ _ _ => true
  | .offered _ _ _ => true
  | _ => false

/-- What callbacks of finalizers announced, among other events. -/
def deliveredIn (events : List Event) : List Notice :=
  (events.filterMap Event.notice?).filter Notice.isDelivered

theorem deliveredIn_append (events events' : List Event) :
    deliveredIn (events ++ events') = deliveredIn events ++ deliveredIn events' := by
  simp [deliveredIn]

theorem deliveredIn_notices
    {notices : List Notice}
    (areDelivered : ∀ notice ∈ notices, notice.isDelivered = true) :
    deliveredIn (notices.map .notice) = notices := by
  have announced : (notices.map Event.notice).filterMap Event.notice? = notices := by
    simp [List.filterMap_map, Function.comp_def, Event.notice?]
  rw [deliveredIn, announced, List.filter_eq_self.mpr areDelivered]

theorem deliveredIn_of_hook
    {events : List Event}
    (areOfHook : ∀ event ∈ events, event.IsOfHook) :
    deliveredIn events = [] := by
  induction events with
  | nil => rfl
  | cons event rest step =>
      rw [List.forall_mem_cons] at areOfHook
      rw [← List.singleton_append, deliveredIn_append, step areOfHook.2, List.append_nil]
      cases event with
      | notice notice =>
          cases notice with
          | hook _ _ => rfl
          | _ => exact areOfHook.1.elim
      | _ => rfl

/-- What callbacks of finalizers announced so far. -/
def Session.delivered (session : Session) : List Notice :=
  deliveredIn session.registry.journal

/-! ## Occasions -/

/-- What callbacks are told of. -/
inductive Occasion where
  /-- A drain released something. -/
  | drained (count generation : Nat)
  /-- Something went wrong. -/
  | failed (record : Option RecordRef) (error : BridgeError)
  /-- An object has fewer references than owners. -/
  | mismatched (mismatch : Mismatch)

namespace Occasion

/-- Whether the occasion can arise: only a drain comes to an end or finds a mismatch. -/
def IsDue (session : Session) : Occasion → Prop
  | drained count _ => 0 < count ∧ session.finalizer.draining = true
  | failed _ _ => True
  | mismatched mismatch =>
      session.finalizer.draining = true ∧ ∃ ref, session.mismatch? ref = some mismatch

/--
Who should announce what: the callbacks that are subscribed, in the order of
subscription, up to and including the first that panics or settles a mismatch.
-/
def announced (session : Session) : Occasion → List Notice
  | drained count generation =>
      (upTo Handler.stops session.finalizer.collectHandlers.callbacks).map fun handler =>
        .collected handler.label count generation session.finalizerState
  | failed record error =>
      (upTo Handler.stops session.finalizer.errorHandlers.callbacks).map fun handler =>
        .reported handler.label record error
  | mismatched mismatch =>
      (upTo Resolver.stops session.finalizer.resolvers.callbacks).map fun resolver =>
        .offered resolver.label mismatch resolver.idleDrains

theorem isDelivered_of_announced
    {occasion : Occasion}
    {session : Session}
    {notice : Notice}
    (among : notice ∈ occasion.announced session) :
    notice.isDelivered = true := by
  cases occasion with
  | drained count generation =>
      rcases List.mem_map.mp among with ⟨handler, -, rfl⟩
      rfl
  | failed record error =>
      rcases List.mem_map.mp among with ⟨handler, -, rfl⟩
      rfl
  | mismatched mismatch =>
      rcases List.mem_map.mp among with ⟨resolver, -, rfl⟩
      rfl

end Occasion

namespace Session

variable {start session session' session'' : Session}

/-- Tell the callbacks of an occasion, as drains and reports do. -/
def notify (session : Session) : Occasion → Session
  | .drained count generation => (reportCollected count generation session).2
  | .failed record error => (report record error session).2
  | .mismatched mismatch =>
      (offer (collectWithin 1) mismatch session.finalizer.resolvers.callbacks session).2

/-- Of an occasion exactly those are told who are subscribed when it arises. -/
theorem registry_notify
    {occasion : Occasion}
    (isDue : occasion.IsDue session) :
    (session.notify occasion).registry =
      { session.registry with
        journal :=
          session.registry.journal ++ (occasion.announced session).map .notice } := by
  cases occasion with
  | drained count generation =>
      have told := registry_deliver session.finalizer.collectHandlers.callbacks session
        (fun handler session' same =>
          congrArg (Notice.collected handler.label count generation) same)
      rw [notify, reportCollected, told, Occasion.announced, List.map_map]
      rfl
  | failed record error =>
      have told := registry_deliver session.finalizer.errorHandlers.callbacks
        (session.updateFinalizer Finalizer.countError)
        (fun handler _ _ => rfl : ∀ handler session', _ →
          (fun (handler : Handler) (_ : Session) =>
            Notice.reported handler.label record error) handler session' =
              .reported handler.label record error)
      rw [notify, report, told, Occasion.announced, List.map_map]
      rfl
  | mismatched mismatch =>
      have told := registry_offer (idles_collectWithin 1) mismatch
        session.finalizer.resolvers.callbacks session isDue.1
      rw [notify, told, Occasion.announced, List.map_map]
      rfl

theorem delivered_notify
    {occasion : Occasion}
    (isDue : occasion.IsDue session) :
    (session.notify occasion).delivered = session.delivered ++ occasion.announced session := by
  rw [delivered, registry_notify isDue, deliveredIn_append,
    deliveredIn_notices fun _ => Occasion.isDelivered_of_announced, delivered]

theorem notifies_notify
    {occasion : Occasion}
    (isDue : occasion.IsDue session) :
    session.Notifies (session.notify occasion) := by
  cases occasion with
  | drained count generation => exact (Spares.reportCollected count generation session).toNotifies
  | failed record error => exact (Spares.report record error session).toNotifies
  | mismatched mismatch =>
      exact Resolving.offer (by simp) (idles_collectWithin 1) mismatch _ session isDue.1

/-! ## Between occasions -/

/-- Subscriptions are as they were, and callbacks announced nothing. -/
structure Still (session session' : Session) : Prop where
  collectHandlers : session'.finalizer.collectHandlers = session.finalizer.collectHandlers
  errorHandlers : session'.finalizer.errorHandlers = session.finalizer.errorHandlers
  resolvers : session'.finalizer.resolvers = session.finalizer.resolvers
  nextSubscription : session'.registry.nextSubscription = session.registry.nextSubscription
  delivered : session'.delivered = session.delivered

namespace Still

/-- The finalizer and the supply of numbers are the same, and so is the journal. -/
theorem of_eq
    (finalizer : session'.finalizer = session.finalizer)
    (nextSubscription : session'.registry.nextSubscription = session.registry.nextSubscription)
    (journal : session'.registry.journal = session.registry.journal) :
    session.Still session' where
  collectHandlers := congrArg _ finalizer
  errorHandlers := congrArg _ finalizer
  resolvers := congrArg _ finalizer
  nextSubscription := nextSubscription
  delivered := congrArg deliveredIn journal

theorem of_defers
    {registry : Registry}
    (defers : session.registry.Defers Event.IsOfHook registry) :
    session.Still { session with registry } := by
  refine ⟨rfl, rfl, rfl, defers.nextSubscription, ?_⟩
  rcases defers.journal with ⟨events, journal, areOfHook⟩
  rw [Session.delivered, Session.delivered]
  rw [journal, deliveredIn_append, deliveredIn_of_hook areOfHook, List.append_nil]

theorem enter
    (session : Session)
    {event : Event}
    (silent : deliveredIn [event] = []) :
    session.Still (session.enter event) := by
  refine ⟨rfl, rfl, rfl, rfl, ?_⟩
  exact (deliveredIn_append _ _).trans ((congrArg _ silent).trans (List.append_nil _))

end Still

/-! ## Stretches of work -/

/--
What happened to the subscriptions of a runtime from a session on: the host added or
ended some, and callbacks were told of occasions, which are listed with the sessions
in which they arose.
-/
inductive Chronicle (start : Session) : List (Session × Occasion) → Session → Prop where
  | refl : Chronicle start [] start
  | still {log : List (Session × Occasion)} {session session' : Session}
      (chronicle : Chronicle start log session)
      (still : session.Still session') :
      Chronicle start log session'
  | onCollect {log : List (Session × Occasion)} {session : Session}
      (chronicle : Chronicle start log session)
      (handler : Handler) :
      Chronicle start log (session.onCollect handler).2
  | onError {log : List (Session × Occasion)} {session : Session}
      (chronicle : Chronicle start log session)
      (handler : Handler) :
      Chronicle start log (session.onError handler).2
  | addResolver {log : List (Session × Occasion)} {session : Session}
      (chronicle : Chronicle start log session)
      (resolver : Resolver) :
      Chronicle start log (session.addResolver resolver).2
  | unsubscribe {log : List (Session × Occasion)} {session : Session}
      (chronicle : Chronicle start log session)
      (id : SubscriptionId) :
      Chronicle start log (session.unsubscribe id).2
  | notify {log : List (Session × Occasion)} {session : Session}
      (chronicle : Chronicle start log session)
      (occasion : Occasion)
      (isDue : occasion.IsDue session) :
      Chronicle start (log ++ [(session, occasion)]) (session.notify occasion)

namespace Chronicle

variable {log log' : List (Session × Occasion)}

theorem trans
    (first : Chronicle start log session)
    (second : Chronicle session log' session') :
    Chronicle start (log ++ log') session' := by
  induction second with
  | refl => rwa [List.append_nil]
  | still _ still step => exact step.still still
  | onCollect _ handler step => exact step.onCollect handler
  | onError _ handler step => exact step.onError handler
  | addResolver _ resolver step => exact step.addResolver resolver
  | unsubscribe _ id step => exact step.unsubscribe id
  | notify _ occasion isDue step =>
      rw [← List.append_assoc]
      exact step.notify occasion isDue

/-- What was announced is what the occasions called for, one after another. -/
theorem delivered (chronicle : Chronicle start log session) :
    session.delivered =
      start.delivered ++ log.flatMap fun (moment, occasion) => occasion.announced moment := by
  induction chronicle with
  | refl => exact (List.append_nil _).symm
  | still _ still step => exact still.delivered.trans step
  | onCollect _ handler step => exact step
  | onError _ handler step => exact step
  | addResolver _ resolver step => exact step
  | unsubscribe _ id step => exact step
  | notify _ occasion isDue step =>
      rw [delivered_notify isDue, step, List.flatMap_append, List.append_assoc]
      simp

theorem isDue
    (chronicle : Chronicle start log session)
    {entry : Session × Occasion}
    (among : entry ∈ log) :
    entry.2.IsDue entry.1 := by
  induction chronicle with
  | refl => cases among
  | still _ _ step => exact step among
  | onCollect _ _ step => exact step among
  | onError _ _ step => exact step among
  | addResolver _ _ step => exact step among
  | unsubscribe _ _ step => exact step among
  | notify _ occasion isDue step =>
      rcases List.mem_append.mp among with before | newest
      · exact step before
      · rw [List.mem_singleton.mp newest]
        exact isDue

/-- No number is given out twice, however callbacks end subscriptions. -/
theorem numbered
    (chronicle : Chronicle start log session)
    (numbered : start.finalizer.Numbered start.registry.nextSubscription) :
    (∀ entry ∈ log, entry.1.finalizer.Numbered entry.1.registry.nextSubscription) ∧
      session.finalizer.Numbered session.registry.nextSubscription := by
  induction chronicle with
  | refl => exact ⟨by simp, numbered⟩
  | still _ still step =>
      refine ⟨step.1, ?_⟩
      rw [still.nextSubscription]
      exact step.2.of_fewer (still.collectHandlers ▸ .refl _) (still.errorHandlers ▸ .refl _)
        (still.resolvers ▸ .refl _)
  | onCollect _ handler step => exact ⟨step.1, step.2.onCollect handler⟩
  | onError _ handler step => exact ⟨step.1, step.2.onError handler⟩
  | addResolver _ resolver step => exact ⟨step.1, step.2.addResolver resolver⟩
  | unsubscribe _ id step => exact ⟨step.1, step.2.of_trims (.unsubscribe _ id)⟩
  | notify _ occasion isDue step =>
      constructor
      · intro entry among
        rcases List.mem_append.mp among with before | newest
        · exact step.1 entry before
        · rw [List.mem_singleton.mp newest]
          exact step.2
      · have notifies := notifies_notify isDue
        rw [notifies.registry.nextSubscription]
        exact step.2.of_trims notifies.finalizer

end Chronicle

/-- A session leads to another by such a stretch. -/
def Announces (session session' : Session) : Prop :=
  ∃ log, Chronicle session log session'

namespace Announces

theorem refl (session : Session) : session.Announces session :=
  ⟨[], .refl⟩

theorem trans
    (first : session.Announces session')
    (second : session'.Announces session'') :
    session.Announces session'' := by
  rcases first with ⟨log, first⟩
  rcases second with ⟨log', second⟩
  exact ⟨log ++ log', first.trans second⟩

theorem of_still (still : session.Still session') : session.Announces session' :=
  ⟨[], .still .refl still⟩

theorem notify
    (occasion : Occasion)
    (isDue : occasion.IsDue session) :
    session.Announces (session.notify occasion) :=
  ⟨_, .notify .refl occasion isDue⟩

theorem enter
    (session : Session)
    {event : Event}
    (silent : deliveredIn [event] = []) :
    session.Announces (session.enter event) :=
  of_still (.enter session silent)

theorem report
    (record : Option RecordRef)
    (error : BridgeError)
    (session : Session) :
    session.Announces (report record error session).2 :=
  notify (.failed record error) trivial

theorem quarantine
    (session : Session)
    (ref : RecordRef) :
    session.Announces (session.quarantine ref) := by
  refine of_still (.of_eq rfl ?_ (Registry.journal_quarantine _ _ _))
  rw [Session.quarantine, updateRegistry, Registry.quarantine]
  split
  · rfl
  · rfl

theorem abandon
    (session : Session)
    (ref : RecordRef) :
    session.Announces (session.abandon ref) := by
  rw [Session.abandon]
  split
  · exact quarantine session ref
  · exact refl session

/-! ## One item -/

theorem ranHook
    (ref : RecordRef)
    (hook : Hook)
    (session : Session) :
    session.Announces
      { session.enter (.hookRan ref) with
        registry := (hook.run ref (session.enter (.hookRan ref)).registry).2 } :=
  (enter session rfl).trans (of_still (.of_defers (.run hook ref _)))

variable {validates : Bool} {item : PendingRelease} {ref : RecordRef} {between last : Session}

theorem of_report
    {fault : Fault}
    {record : Option RecordRef}
    {error : BridgeError}
    {outcome : Except Panic Unit}
    (reported : Session.report record error (session.enter (.fault fault)) = (outcome, last)) :
    session.Announces last := by
  have told := (enter session rfl).trans (report record error (session.enter (.fault fault)))
  rwa [reported] at told

theorem of_hook
    {outcome : Except Panic Unit}
    (ran :
      Session.runHook item.record item.hook (session.enter (.takenUp item.record)) =
        (outcome, last)) :
    session.Announces last := by
  have taken : session.Announces (session.enter (.takenUp item.record)) := enter session rfl
  cases hook : item.hook with
  | none =>
      rw [hook, Session.runHook] at ran
      cases ran
      exact taken
  | some hook' =>
      have told := taken.trans (ranHook item.record hook' (session.enter (.takenUp item.record)))
      simp only [hook, Session.runHook] at ran
      split at ran
      · cases ran
        exact told
      · exact told.trans (of_report ran)

theorem of_check
    {outcome : Except Panic (Option Mismatch)}
    (checked :
      (if validates then validate (collectWithin 1) ref session else (.ok none, session)) =
        (outcome, between))
    (draining : session.finalizer.draining = true) :
    session.Announces between := by
  split at checked
  · rw [validate] at checked
    split at checked
    · cases checked
      exact refl session
    · next mismatch found =>
        have offered : session.Announces
            (offer (collectWithin 1) mismatch session.finalizer.resolvers.callbacks session).2 :=
          notify (.mismatched mismatch) ⟨draining, ref, found⟩
        split at checked
        all_goals
          next offered' =>
            cases checked
            rw [offered'] at offered
            exact offered
  · cases checked
    exact refl session

theorem of_recheck
    {remaining : Int}
    {outcome : Except Panic Unit}
    (checked :
      (if validates then checkRemaining ref remaining session else (.ok (), session)) =
        (outcome, last)) :
    session.Announces last := by
  split at checked
  · rw [checkRemaining] at checked
    split at checked
    · cases checked
      exact refl session
    · exact of_report checked
  · cases checked
    exact refl session

theorem of_referenceRun
    {generation : Nat}
    {result : ItemEnd × Session}
    (run : ReferenceRun validates generation ref session result) :
    session.Announces result.2 := by
  have dropped (interp : Interpreter) :
      session.Announces ({ session with interp }.enter (.dropped ref)) := by
    have given : session.Announces { session with interp } := of_still (.of_eq rfl rfl rfl)
    exact given.trans (enter _ rfl)
  cases run with
  | bereft gone reported => exact (quarantine session ref).trans (of_report reported)
  | unheard gone reported => exact (quarantine session ref).trans (of_report reported)
  | exposed gaveBack checked => exact (dropped _).trans (of_recheck checked)
  | released gaveBack checked =>
      exact ((dropped _).trans (of_recheck checked)).trans (of_still (.of_eq rfl rfl rfl))

theorem drainItem
    (validates : Bool)
    (generation : Nat)
    (item : PendingRelease)
    (session : Session)
    (draining : session.finalizer.draining = true) :
    session.Announces (drainItem (collectWithin 1) validates generation item session).2 := by
  have run := itemRun_drainItem (collectWithin 1) validates generation item session
  generalize Session.drainItem (collectWithin 1) validates generation item session = result
    at run ⊢
  cases run with
  | interrupted ran => exact of_hook ran
  | passed ran settled => exact of_hook ran
  | unresolved ran deferred checked =>
      have running := (Spares.of_hook ran).toNotifies.draining draining
      exact (of_hook ran).trans (of_check checked running)
  | stopped ran deferred checked =>
      have running := (Spares.of_hook ran).toNotifies.draining draining
      have asked := (of_hook ran).trans (of_check checked running)
      exact (asked.trans (quarantine _ item.record)).trans (enter _ rfl)
  | cleared ran deferred checked run =>
      have running := (Spares.of_hook ran).toNotifies.draining draining
      exact ((of_hook ran).trans (of_check checked running)).trans (of_referenceRun run)

/-! ## Whole drains -/

/-- Every phase of a drain is such a stretch. -/
theorem sustained (start : Session) :
    Sustained (collectWithin 1) (fun _ _ session => start.Announces session)
      fun session => start.Announces session where
  items := fun validates =>
    { item := by
        intro session item rest generation running before
        have drained := before.trans (drainItem validates generation item session running)
        generalize Session.drainItem (collectWithin 1) validates generation item session = result
          at drained ⊢
        rcases result with ⟨_ | entry | mismatch | panic, session'⟩
        · exact drained
        · exact drained
        · exact drained
        · exact drained.trans (abandon session' item.record)
      requeueFront := fun before => before.trans (of_still (.of_eq rfl rfl rfl)) }
  start := fun _ before => before.trans (of_still ⟨rfl, rfl, rfl, rfl, rfl⟩)
  finish := fun _ before => before.trans (of_still ⟨rfl, rfl, rfl, rfl, rfl⟩)
  countError := fun before => before.trans (of_still ⟨rfl, rfl, rfl, rfl, rfl⟩)
  reportCollected := fun log generation running filled before =>
    before.trans (notify (.drained log.length generation) ⟨List.length_pos_iff.mpr filled, running⟩)
  stop := fun before => before.trans (of_still ⟨rfl, rfl, rfl, rfl, rfl⟩)
  report := fun error before => before.trans (report none error _)

theorem collect (session : Session) : session.Announces session.collect.2 :=
  (sustained session).collect (refl session)

theorem collectReporting (session : Session) : session.Announces session.collectReporting.2 :=
  (sustained session).collectReporting (refl session)

end Announces

end Session

end Custody
