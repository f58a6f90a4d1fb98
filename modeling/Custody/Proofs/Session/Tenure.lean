import Custody.Proofs.Finalizer.Batches
import Custody.Proofs.Session.Waiting

/-!
# Who holds the tracker

A runtime is used in any way, with callbacks and hooks that may panic.  The
caller has the runtime, wrappers, hooks, and perhaps items that were taken from
the queue by hand; each of them holds the tracker, and each is handed over once.
As long as the caller keeps one, the tracker is held by more than the hooks that
wait, so the queue is never given up.
-/

namespace Custody.Session

variable {session session' : Session} {hand hand' : Nat}

/-! ## Operations -/

theorem Leads.held
    (leads : session.Leads hand [] session' hand' [])
    (before : session.Held hand []) :
    session'.Held hand' [] := by
  have after := leads.moves.held before
  rwa [← leads.tracker] at after

theorem Serves.held
    {asked : List RecordRef}
    (serves : session.Serves asked hand session' hand')
    (before : session.Held hand []) :
    session'.Held hand' [] := by
  cases serves with
  | leads leads => exact leads.held before
  | hooked ref hook rest _ total leads =>
      subst total
      have entered : (⟨session.registry.enter (.hookRan ref), hook.holds + rest, []⟩ :
          Registry.Scene).Held session.tracker :=
        before.congr rfl le_rfl le_rfl
      exact leads.held (entered.runWith ref).held

/-- What waited is in the hands of the shutdown until it is discarded. -/
theorem held_settled (before : session.Held hand []) :
    (⟨session.settled.registry, PendingRelease.holdsOf session.queue.items + hand, []⟩ :
      Registry.Scene).Held session.tracker := by
  have size := size_settled session
  refine ⟨size ▸ before.there, fun other distinct => size ▸ before.sole other distinct, ?_⟩
  have held := before.held
  simp only [Registry.Scene.waiting, tracker_settled before.there, List.nil_append,
    PendingQueue.items_takeSnapshot, PendingRelease.holdsOf_nil] at held ⊢
  rw [Nat.add_zero, Nat.add_comm]
  exact held

theorem held_releaseAll (before : session.Held hand []) : session.releaseAll.2.Held hand [] := by
  rw [Held, tracker_releaseAll, releaseAll_eq before.there]
  exact (held_settled before).discardBatch.held

theorem held_shutDown
    (before : session.Held hand []) :
    (Op.shutDown.on session).2.Held hand [] := by
  have kept := @Op.shutDown_keeps session hand fun session => session.Held hand []
  exact kept (fun _ => id) (fun _ _ before leads => leads.held before)
    (fun _ => held_releaseAll) (fun _ _ _ => id) before

theorem held_abandoned
    (before : session.Held (hand + 1) []) :
    session.abandoned.Held hand [] :=
  (leads_abandoned session hand).held before

/-! ## Where drains start -/

/--
The sessions in which a request may start a drain: the session itself, one that a
shutdown has flagged, one in which a reference was just registered or wrapped,
one in which the interpreter was used, and one that another drain has left.
-/
inductive Underway (session : Session) : Session → Prop where
  | here : session.Underway session
  | flagged {within : Session} (before : session.Underway within) :
      session.Underway { within with isShutDown := true }
  | registered {within within' : Session} {handle : Handle} {ref : RecordRef}
      (before : session.Underway within)
      (registered : within.register handle = .ok (ref, within')) :
      session.Underway within'
  | wrapped {within : Session} (before : session.Underway within) :
      session.Underway (within.updateRegistry fun registry => registry.hold within.tracker)
  | useInterp {within : Session} (change : Interpreter → Interpreter)
      (before : session.Underway within) :
      session.Underway (within.updateInterp change)
  | drained {within : Session} (before : session.Underway within) :
      session.Underway within.collectReporting.2

/-- What a flag, the interpreter and moves keep is so wherever a drain may start. -/
theorem Underway.rule
    {within : Session}
    {property : Nat → Session → Prop}
    (underway : session.Underway within)
    (flagged :
      ∀ hand session, property hand session → property hand { session with isShutDown := true })
    (led :
      ∀ hand hand' session session', property hand session →
        session.Leads hand [] session' hand' [] → property hand' session')
    (before : property hand session) :
    ∃ hand', property hand' within := by
  induction underway with
  | here => exact ⟨hand, before⟩
  | flagged _ step =>
      rcases step with ⟨hand', reached⟩
      exact ⟨hand', flagged hand' _ reached⟩
  | registered _ registered step =>
      rcases step with ⟨hand', reached⟩
      exact ⟨hand', led hand' hand' _ _ reached (.register registered)⟩
  | wrapped _ step =>
      rcases step with ⟨hand', reached⟩
      exact ⟨hand' + 1, led hand' (hand' + 1) _ _ reached (.hold _ hand')⟩
  | useInterp change _ step =>
      rcases step with ⟨hand', reached⟩
      exact ⟨hand', led hand' hand' _ _ reached (.of_same rfl)⟩
  | drained _ step =>
      rcases step with ⟨hand', reached⟩
      exact ⟨hand', led hand' hand' _ _ reached (leads_collectReporting hand' _)⟩

/-! ## Requests -/

/--
How often what a request uses up holds trackers; items that are queued by hand
come from the caller.
-/
def Request.consumed : Request → Nat
  | .act (.push item) => Hook.holdsOf item.hook
  | .act (.requeueFront items) => PendingRelease.holdsOf items
  | request => request.spent

theorem Request.consumed_of_not_isManual
    {request : Request}
    (isDeferring : ¬ request.IsManual) :
    request.consumed = request.spent := by
  cases request with
  | act action =>
      cases action with
      | push _ => exact absurd trivial isDeferring
      | requeueFront _ => exact absurd trivial isDeferring
      | _ => rfl
  | _ => rfl

/-- Items that are queued by hand, or taken from the queue, are in the caller's hands otherwise. -/
theorem held_manual
    {action : Action}
    (isManual : action.IsManual)
    (before : session.Held ((Request.act action).consumed + hand) []) :
    (action.perform session).Held ((action.answer session).holds + hand) [] := by
  cases action with
  | push item =>
      have queued : (⟨session.registry.updateQueue session.tracker fun queue => queue.push item,
          0 + hand, []⟩ : Registry.Scene).Held session.tracker := by
        refine Registry.Scene.Held.updateQueue before ?_
        simp only [Request.consumed, List.nil_append, PendingQueue.items_push,
          PendingRelease.holdsOf_append, PendingRelease.holdsOf_cons, PendingRelease.holdsOf_nil]
        omega
      exact queued
  | takeSnapshot =>
      have taken : (⟨session.registry.updateQueue session.tracker
          fun _ => session.queue.takeSnapshot.2,
            PendingRelease.holdsOf session.queue.items + hand, []⟩ :
              Registry.Scene).Held session.tracker := by
        refine Registry.Scene.Held.updateQueue before ?_
        simp only [Request.consumed, Request.spent, Action.spent, List.nil_append,
          PendingQueue.items_takeSnapshot, PendingRelease.holdsOf_nil, queue, ownTracker]
        omega
      exact taken
  | requeueFront items =>
      have queued : (⟨session.registry.updateQueue session.tracker
          fun queue => queue.requeueFront items, 0 + hand, []⟩ :
            Registry.Scene).Held session.tracker := by
        refine Registry.Scene.Held.updateQueue before ?_
        simp only [Request.consumed, List.nil_append, PendingQueue.items_requeueFront,
          PendingRelease.holdsOf_append]
        omega
      exact queued
  | _ => exact isManual.elim

theorem held_request
    {request : Request}
    (isOwn : request.IsOwn session)
    (before : session.Held (request.consumed + hand) []) :
    (request.perform session).2.Held ((request.answer session).holds + hand) [] := by
  by_cases isManual : request.IsManual
  · cases request with
    | act action => exact held_manual isManual before
    | _ => exact isManual.elim
  · rw [request.consumed_of_not_isManual isManual] at before
    by_cases stops : request = .act .shutDown
    · subst stops
      rw [show (Request.act .shutDown).spent + hand = hand from Nat.zero_add hand] at before
      have nothing := Op.heldBy_shutDown session
      change (Op.shutDown.on session).2.Held
        (Op.heldBy Op.nothing (Op.shutDown.on session).1 + hand) []
      rw [nothing, Nat.zero_add]
      exact held_shutDown before
    · exact (serves_perform isManual isOwn stops hand).held before

/-! ## Use by those who hold -/

/--
The use of a runtime, request by request, with the number of holders of the
tracker that are in the caller's hands, of which the caller keeps one, and the
records whose wrappers the caller disposed of with their hooks.  Only if `byHand`
holds may the queue be filled and emptied by hand.
-/
inductive Tenure
    (byHand : Prop)
    (config : Config)
    (hasTable : Bool) :
    Session → Nat → List RecordRef → Prop where
  | opened : Tenure byHand config hasTable (opened config hasTable) 1 []
  | request {session : Session} {hand : Nat} {disposed : List RecordRef} (request : Request)
      (before : Tenure byHand config hasTable session (request.consumed + hand) disposed)
      (held : 0 < hand)
      (allowed : request.IsManual → byHand)
      (isOwn : request.IsOwn session) :
      Tenure byHand config hasTable (request.perform session).2
        ((request.answer session).holds + hand) (disposed ++ request.disposed)
  | useInterp {session : Session} {hand : Nat} {disposed : List RecordRef}
      (change : Interpreter → Interpreter)
      (before : Tenure byHand config hasTable session hand disposed) :
      Tenure byHand config hasTable (session.updateInterp change) hand disposed
  | abandon {session : Session} {hand : Nat} {disposed : List RecordRef}
      (before : Tenure byHand config hasTable session (hand + 1) disposed)
      (held : 0 < hand) :
      Tenure byHand config hasTable session.abandoned hand disposed

/--
The runtime in which a callback for errors is about to panic: two records wait,
of which the first carries a hook that defers a third and then panics itself.
-/
def threatened : Session :=
  [Request.act (.onError ⟨"stopping", [.panic "no"]⟩),
    .act (.register Interpreter.initial.noneObject),
    .act (.register Interpreter.initial.noneObject),
    .act (.register Interpreter.initial.noneObject), .act .newHook,
    .act (.deferRelease 0 (some (.defer 0 2 (.panic none (.done 0))))),
    .act (.deferRelease 1 none)].foldl
      (fun session request => (request.perform session).2) (opened .standard false)

namespace Tenure

variable {byHand : Prop} {config : Config} {hasTable : Bool} {disposed : List RecordRef}

theorem turns (tenure : Tenure byHand config hasTable session hand disposed) :
    (Session.opened config hasTable).Turns session := by
  induction tenure with
  | opened => exact .refl
  | request request _ _ _ isOwn before => exact .tail before (.request request isOwn)
  | useInterp change _ before => exact .tail before (.useInterp change)
  | abandon _ _ before => exact .tail before .abandon

theorem life (tenure : Tenure False config hasTable session hand disposed) :
    Life config hasTable session hand := by
  induction tenure with
  | opened => exact .opened
  | request request _ held allowed isOwn before =>
      rw [request.consumed_of_not_isManual allowed] at before
      exact .request request before held allowed isOwn
  | useInterp change _ before => exact .useInterp change before
  | abandon _ held before => exact .abandon before held

/-- The caller keeps one holder that the hooks do not account for. -/
theorem held (tenure : Tenure byHand config hasTable session hand disposed) :
    ∃ others, hand = others + 1 ∧ session.Held others [] := by
  induction tenure with
  | opened => exact ⟨0, rfl, (unstranded_opened config hasTable).toHeld⟩
  | @request session hand disposed request _ held _ isOwn step =>
      rcases step with ⟨others, size, before⟩
      obtain ⟨hand, rfl⟩ := Nat.exists_eq_succ_of_ne_zero held.ne'
      have same : others = request.consumed + hand := by omega
      subst same
      exact ⟨_, rfl, held_request isOwn before⟩
  | useInterp change _ step => exact step
  | @abandon session hand disposed _ held step =>
      rcases step with ⟨others, size, before⟩
      obtain ⟨hand, rfl⟩ := Nat.exists_eq_succ_of_ne_zero held.ne'
      have same : others = hand + 1 := by omega
      subst same
      exact ⟨hand, rfl, held_abandoned before⟩

/-- A request after which the caller holds the tracker a known number of times. -/
theorem follow
    (before : Tenure byHand config hasTable session hand disposed)
    (request : Request)
    (rest : Nat)
    (taken : hand = request.consumed + (rest + 1))
    (received : hand' = (request.answer session).holds + (rest + 1))
    (allowed : request.IsManual → byHand)
    (isOwn : request.IsOwn session)
    (spares : request.disposed = []) :
    Tenure byHand config hasTable (request.perform session).2 hand' disposed := by
  subst taken received
  have after := before.request request rest.succ_pos allowed isOwn
  rwa [spares, List.append_nil] at after

/-- A registration, after which the caller holds the tracker as often as before. -/
theorem register
    (before : Tenure byHand config hasTable session (hand + 1) disposed)
    (handle : Handle) :
    Tenure byHand config hasTable ((Request.act (.register handle)).perform session).2 (hand + 1)
      disposed :=
  before.follow _ hand (Nat.zero_add _).symm
    ((congrArg (· + (hand + 1)) (heldBy_register session handle)).trans (Nat.zero_add _)).symm
    nofun trivial rfl

/-- A drain, after which the caller holds the tracker as often as before. -/
theorem collect (before : Tenure byHand config hasTable session (hand + 1) disposed) :
    Tenure byHand config hasTable ((Request.act .collect).perform session).2 (hand + 1)
      disposed :=
  before.follow _ hand (Nat.zero_add _).symm
    ((congrArg (· + (hand + 1)) (heldBy_collect session)).trans (Nat.zero_add _)).symm
    nofun trivial rfl

theorem threatened : Tenure byHand .standard false threatened 1 [] := by
  have registers {session : Session} (before : Tenure byHand .standard false session 1 []) :=
    before.register Interpreter.initial.noneObject
  have listens : Tenure byHand .standard false _ 1 [] :=
    Tenure.opened.follow (.act (.onError ⟨"stopping", [.panic "no"]⟩)) 0 rfl rfl nofun trivial rfl
  have hooked : Tenure byHand .standard false _ 2 [] :=
    (registers (registers (registers listens))).follow (.act .newHook) 0 rfl rfl nofun trivial rfl
  have first : Tenure byHand .standard false _ 1 [] :=
    hooked.follow (.act (.deferRelease 0 (some (.defer 0 2 (.panic none (.done 0)))))) 0 rfl rfl
      nofun trivial rfl
  exact first.follow (.act (.deferRelease 1 none)) 0 rfl rfl nofun trivial rfl

/-- The runtime whose drain was stopped by a callback for errors. -/
theorem stopped : Tenure byHand .standard false stopped 1 [] :=
  Tenure.threatened.collect

end Tenure

end Custody.Session
