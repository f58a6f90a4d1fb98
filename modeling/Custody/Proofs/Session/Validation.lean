import Custody.Proofs.Session.Runs
import Custody.Proofs.Session.Transparency

/-!
# Checks are transparent

A caller gives up only references that it owns and borrows only what is there.
Then no drain finds a count too low, so that nobody can tell whether drains
check counts: the same requests are answered in the same way, and lead to the
same runtime but for the flag itself.
-/

namespace Custody

/-! ## Single requests -/

namespace Session

/-- The same operation, but the checks stay off. -/
def Action.unchecked : Action → Action
  | .setValidation _ => .setValidation false
  | action => action

/-- The same request, but the checks stay off. -/
def Request.unchecked : Request → Request
  | .act action => .act action.unchecked
  | request => request

/--
The request forgets no alarm, and unless one is raised it is answered in the
same way, and does the same, in a runtime without checks.
-/
structure Request.Transparent (request : Request) : Prop where
  untroubled :
    ∀ session, (request.perform session).2.registry.Untroubled → session.registry.Untroubled
  perform :
    ∀ session,
      (request.perform session).2.registry.Untroubled →
        request.unchecked.perform session.unchecked =
          ((request.perform session).1, (request.perform session).2.unchecked)
  answer :
    ∀ session,
      (request.perform session).2.registry.Untroubled →
        request.unchecked.answer session.unchecked = request.answer session

namespace Request.Transparent

/-- What is done, received and answered is what one function on sessions says. -/
theorem of_step
    {β : Type}
    {request : Request}
    {step : Session → β × Session}
    (untroubled : ∀ session, (step session).2.registry.Untroubled → session.registry.Untroubled)
    (unchecked :
      ∀ session,
        (step session).2.registry.Untroubled →
          step session.unchecked = ((step session).1, (step session).2.unchecked))
    (received : β → List Handle)
    (answered : β → Answer)
    (same : request.unchecked = request)
    (performs :
      ∀ session, request.perform session = (received (step session).1, (step session).2))
    (answers : ∀ session, request.answer session = answered (step session).1) :
    request.Transparent := by
  have ended (session : Session) : (request.perform session).2 = (step session).2 := by
    rw [performs]
  constructor
  · intro session quiet
    exact untroubled session (ended session ▸ quiet)
  · intro session quiet
    rw [same, performs, performs, unchecked session (ended session ▸ quiet)]
  · intro session quiet
    rw [same, answers, answers, unchecked session (ended session ▸ quiet)]

theorem of_op
    {α : Type}
    {request : Request}
    {op : Op α}
    (transparent : op.Transparent)
    (answered : Except Abort α → Answer)
    (same : request.unchecked = request)
    (performs : ∀ session, request.perform session = ([], (op.on session).2))
    (answers : ∀ session, request.answer session = answered (op.on session).1) :
    request.Transparent :=
  .of_step transparent.untroubled transparent.unchecked (fun _ => []) answered same performs
    answers

/-- Requests that never drain. -/
theorem of_eq
    {request : Request}
    (untroubled :
      ∀ session, (request.perform session).2.registry.Untroubled → session.registry.Untroubled)
    (perform :
      ∀ session,
        request.unchecked.perform session.unchecked =
          ((request.perform session).1, (request.perform session).2.unchecked))
    (answer :
      ∀ session, request.unchecked.answer session.unchecked = request.answer session) :
    request.Transparent :=
  ⟨untroubled, fun session _ => perform session, fun session _ => answer session⟩

end Request.Transparent

theorem Action.transparent (action : Action) : (Request.act action).Transparent := by
  cases action with
  | register handle =>
      refine .of_eq (fun session => ?_) (fun session => ?_) fun session => ?_
      · show (Action.perform session (.register handle)).registry.Untroubled → _
        rw [Action.perform]
        split
        · next ref session' registered =>
            have leads : session.Leads 0 [] session' 0 [] := .register registered
            exact leads.untroubled
        · exact id
      · simp only [Request.unchecked, Action.unchecked, Request.perform, Action.perform,
          Action.received, register_unchecked]
        cases session.register handle with
        | ok result => rfl
        | error error => rfl
      · simp only [Request.unchecked, Action.unchecked, Request.answer, Action.answer,
          register_unchecked]
        cases session.register handle with
        | ok result => rfl
        | error error => rfl
  | releaseNow ref =>
      exact .of_step (fun session => (Leads.releaseNow session 0 ref).untroubled)
        (fun session _ => releaseNow_unchecked session ref) (fun _ => []) .ended rfl
        (fun _ => rfl) fun _ => rfl
  | deferRelease ref hook =>
      refine .of_eq (fun session untroubled => ?_) (fun _ => rfl) fun _ => rfl
      exact untroubled.of_told fun _ =>
        (Registry.Defers.deferRelease session.registry session.tracker ref hook).told
  | detach ref =>
      exact .of_eq (fun session => (Leads.detach session 0 ref).untroubled) (fun _ => rfl)
        fun _ => rfl
  | newHook => exact .of_eq (fun _ => id) (fun _ => rfl) fun _ => rfl
  | discardHook hook =>
      refine .of_eq (fun session untroubled => ?_) (fun _ => rfl) fun _ => rfl
      exact untroubled.of_told fun _ => (Registry.Defers.discardHook session.registry hook).told
  | dropWrapper wrapper =>
      refine .of_eq (fun session untroubled => ?_) (fun _ => rfl) fun _ => rfl
      exact untroubled.of_told fun _ =>
        (Registry.Defers.dropWrapper session.registry wrapper).told
  | dispose wrapper =>
      exact .of_op (Wrapper.transparent_dispose wrapper) .ended rfl (fun _ => rfl) fun _ => rfl
  | intoHandle wrapper =>
      exact .of_step (Wrapper.transparent_intoHandle wrapper).untroubled
        (Wrapper.transparent_intoHandle wrapper).unchecked
        (fun outcome => outcome.toOption.toList) .handle rfl (fun _ => rfl) fun _ => rfl
  | push item => exact .of_eq (fun _ => id) (fun _ => rfl) fun _ => rfl
  | takeSnapshot => exact .of_eq (fun _ => id) (fun _ => rfl) fun _ => rfl
  | requeueFront items => exact .of_eq (fun _ => id) (fun _ => rfl) fun _ => rfl
  | collect =>
      exact .of_step (fun session => (leads_collect 0 session).untroubled)
        (fun _ => collect_unchecked) (fun _ => []) .count rfl (fun _ => rfl) fun _ => rfl
  | collectThrottled =>
      exact .of_step (fun session => (leads_collectThrottled 0 session).untroubled)
        (fun _ => collectThrottled_unchecked) (fun _ => []) .drained rfl (fun _ => rfl)
        fun _ => rfl
  | onCollect handler => exact .of_eq (fun _ => id) (fun _ => rfl) fun _ => rfl
  | onError handler => exact .of_eq (fun _ => id) (fun _ => rfl) fun _ => rfl
  | addResolver resolver => exact .of_eq (fun _ => id) (fun _ => rfl) fun _ => rfl
  | unsubscribe id =>
      exact .of_step (fun _ untroubled => untroubled)
        (fun session _ => unsubscribe_unchecked session id) (fun _ => []) .found rfl
        (fun _ => rfl) fun _ => rfl
  | setThreshold threshold => exact .of_eq (fun _ => id) (fun _ => rfl) fun _ => rfl
  | setValidation validates => exact .of_eq (fun _ => id) (fun _ => rfl) fun _ => rfl
  | setDeferral defers => exact .of_eq (fun _ => id) (fun _ => rfl) fun _ => rfl
  | reportFault record error =>
      refine .of_step (fun session untroubled => ?_)
        (fun session _ => report_unchecked record error (session.enter (.fault .reported)))
        (fun _ => []) .delivered rfl (fun _ => rfl) fun _ => rfl
      exact untroubled.of_told fun _ => (Spares.reportFault record error session).registry.told
  | shutDown => exact .of_op Op.transparent_shutDown .shutDown rfl (fun _ => rfl) fun _ => rfl

theorem Request.transparent (request : Request) : request.Transparent := by
  cases request with
  | interpret call => exact .of_eq (fun _ => id) (fun _ => rfl) fun _ => rfl
  | act action => exact action.transparent
  | collectInBackground interval isHeld =>
      exact .of_step
        (fun session => (leads_collectInBackground interval isHeld 0 session).untroubled)
        (fun _ => collectInBackground_unchecked) (fun _ => []) .collector rfl (fun _ => rfl)
        fun _ => rfl
  | wrapNone =>
      exact .of_op Wrapper.transparent_ofNone .wrapper rfl (fun _ => rfl)
        fun _ => rfl
  | wrapPayload payload =>
      exact .of_op (Wrapper.transparent_ofPayload payload) .wrapper rfl
        (fun _ => rfl) fun _ => rfl
  | wrapList items =>
      exact .of_op (Wrapper.transparent_ofList items) .wrapper rfl (fun _ => rfl)
        fun _ => rfl
  | wrapOwned handle =>
      have made := Wrapper.transparent_ofOwned handle
      refine ⟨fun session quiet => ?_, fun session quiet => ?_, fun session quiet => ?_⟩
      · rw [perform, session_wrapped] at quiet
        exact made.untroubled session quiet
      · rw [perform, session_wrapped] at quiet
        simp only [unchecked, perform, made.unchecked session quiet]
        rcases (Wrapper.ofOwned handle).on session with ⟨(error | panic) | wrapper, session'⟩
        · rfl
        · rfl
        · rfl
      · rw [perform, session_wrapped] at quiet
        simp only [unchecked, answer, made.unchecked session quiet]
  | wrapBorrowed handle =>
      exact .of_op (Wrapper.transparent_ofBorrowed handle) .wrapper rfl
        (fun _ => rfl) fun _ => rfl
  | clone wrapper =>
      exact .of_op (Wrapper.transparent_clone wrapper) .wrapper rfl (fun _ => rfl)
        fun _ => rfl
  | getItem wrapper index =>
      exact .of_op (Wrapper.transparent_getItem wrapper index) .wrapper rfl
        (fun _ => rfl) fun _ => rfl
  | fetch =>
      exact .of_op CapturedException.transparent_fetch .exception rfl
        (fun _ => rfl) fun _ => rfl
  | checkPending =>
      exact .of_op CapturedException.transparent_checkPending .ended rfl
        (fun _ => rfl) fun _ => rfl
  | cause exception =>
      exact .of_op (CapturedException.transparent_cause exception) .exception rfl
        (fun _ => rfl) fun _ => rfl
  | restoreClone exception =>
      exact .of_op (CapturedException.transparent_restoreClone exception) .ended rfl
        (fun _ => rfl) fun _ => rfl
  | restore exception =>
      exact .of_op (CapturedException.transparent_restore exception) .ended rfl
        (fun _ => rfl) fun _ => rfl
  | raiseError error =>
      exact .of_op (HostError.transparent_raise error) .ended rfl (fun _ => rfl)
        fun _ => rfl
  | setError type message =>
      exact .of_op (Indicator.transparent_setError type message) .ended rfl
        (fun _ => rfl) fun _ => rfl
  | setErrorObject type value =>
      exact .of_op (Indicator.transparent_setErrorObject type value) .ended rfl
        (fun _ => rfl) fun _ => rfl
  | setCause exception =>
      exact .of_op (Indicator.transparent_setCause exception) .ended rfl
        (fun _ => rfl) fun _ => rfl
  | normalize triple =>
      exact .of_step (Indicator.transparent_normalize triple).untroubled
        (Indicator.transparent_normalize triple).unchecked
        (fun outcome => (outcome.toOption.getD triple).type ::
          (outcome.toOption.getD triple).value.toList) .triple rfl (fun _ => rfl) fun _ => rfl
  | raiseTypeError message =>
      exact .of_op (Indicator.transparent_raiseTypeError message) .ended rfl
        (fun _ => rfl) fun _ => rfl
  | warn category message level =>
      exact .of_op (Indicator.transparent_warn category message level) .ended rfl
        (fun _ => rfl) fun _ => rfl
  | deprecation message level =>
      exact .of_op (Indicator.transparent_deprecation message level) .ended rfl
        (fun _ => rfl) fun _ => rfl

/-! ## Runs -/

/-- The answers to several requests, each with the runtime after it. -/
def replay : Session → List Request → List (Answer × Session)
  | _, [] => []
  | session, request :: rest =>
      (request.answer session, (request.perform session).2) ::
        replay (request.perform session).2 rest

/-- The runtime after several requests. -/
def after (session : Session) (requests : List Request) : Session :=
  requests.foldl (fun session request => (request.perform session).2) session

/--
The caller, who owns the given references at first, gives up only references
that it owns, and what it borrows is there.
-/
def Obeys (session : Session) (owned : Multiset Handle) : List Request → Prop
  | [] => True
  | request :: rest =>
      ∃ kept,
        owned = request.taken + kept ∧
          request.Tolerated session ∧
            Obeys (request.perform session).2 ((request.perform session).1 + kept) rest

variable {session : Session} {owned : Multiset Handle} {requests : List Request}

theorem Sound.after
    (sound : session.Sound False False owned)
    (obeys : session.Obeys owned requests) :
    ∃ owned', (session.after requests).Sound False False owned' := by
  induction requests generalizing session owned with
  | nil => exact ⟨owned, sound⟩
  | cons request rest step =>
      rcases obeys with ⟨kept, rfl, tolerated, obeys⟩
      exact step (sound.perform tolerated False.elim False.elim) obeys

/-- An alarm that was raised on the way is heard in the end. -/
theorem untroubled_of_after
    (untroubled : (session.after requests).registry.Untroubled) :
    session.registry.Untroubled := by
  induction requests generalizing session with
  | nil => exact untroubled
  | cons request rest step => exact request.transparent.untroubled session (step untroubled)

theorem replay_unchecked
    (untroubled : (session.after requests).registry.Untroubled) :
    replay session.unchecked (requests.map Request.unchecked) =
      (replay session requests).map fun step => (step.1, step.2.unchecked) := by
  induction requests generalizing session with
  | nil => rfl
  | cons request rest step =>
      have quiet : (request.perform session).2.registry.Untroubled :=
        untroubled_of_after untroubled
      simp only [List.map_cons, replay, request.transparent.perform session quiet,
        request.transparent.answer session quiet]
      rw [step untroubled]

theorem untroubled_of_mem_replay
    {step : Answer × Session}
    (untroubled : (session.after requests).registry.Untroubled)
    (taken : step ∈ replay session requests) :
    step.2.registry.Untroubled := by
  induction requests generalizing session with
  | nil => cases taken
  | cons request rest later =>
      rcases List.mem_cons.mp taken with rfl | after
      · exact untroubled_of_after untroubled
      · exact later untroubled after

/-- A drain that was asked for does not end with an error unless an alarm is raised. -/
theorem count_ne_error
    {request : Request}
    {error : BridgeError}
    (untroubled : (request.perform session).2.registry.Untroubled) :
    request.answer session ≠ .count (.error (.error error)) := by
  cases request with
  | act action =>
      cases action with
      | collect => exact fun answered => troubled_of_error (Answer.count.inj answered) untroubled
      | _ => exact nofun
  | _ => exact nofun

theorem count_ne_error_of_mem_replay
    {step : Answer × Session}
    {error : BridgeError}
    (untroubled : (session.after requests).registry.Untroubled)
    (taken : step ∈ replay session requests) :
    step.1 ≠ .count (.error (.error error)) := by
  induction requests generalizing session with
  | nil => cases taken
  | cons request rest later =>
      rcases List.mem_cons.mp taken with rfl | after
      · exact count_ne_error (untroubled_of_after untroubled)
      · exact later untroubled after

theorem opened_unchecked (config : Config) (hasTable : Bool) :
    opened config.unchecked hasTable = (opened config hasTable).unchecked := by
  rcases opened_eq hasTable with ⟨table, interp, started, -⟩
  rw [started, started]
  rfl

/--
As long as there were fewer allocations than there are handles, a caller that
keeps to the rules cannot tell whether drains check counts.  All answers are the
same, and so is the runtime after each of them but for the flag.  On the way no
resolver is asked, no record is found to have too low a count before or after
its release, and no drain that was asked for ends with an error.
-/
theorem replay_unchecked_of_obeys
    (config : Config)
    (hasTable : Bool)
    (requests : List Request)
    (obeys : (opened config hasTable).Obeys 0 requests)
    (room : ((opened config hasTable).after requests).interp.heap.HasRoom) :
    (replay (opened config.unchecked hasTable) (requests.map Request.unchecked) =
        (replay (opened config hasTable) requests).map fun step => (step.1, step.2.unchecked)) ∧
      ∀ step ∈ replay (opened config hasTable) requests,
        step.2.registry.Untroubled ∧ ∀ error, step.1 ≠ .count (.error (.error error)) := by
  rcases (sound_opened False False config hasTable).after obeys with ⟨owned, sound⟩
  have untroubled := sound.untroubled room
  rw [opened_unchecked]
  exact ⟨replay_unchecked untroubled, fun step taken =>
    ⟨untroubled_of_mem_replay untroubled taken,
      fun _ => count_ne_error_of_mem_replay untroubled taken⟩⟩

/-- An object is wrapped twice; both wrappers are dropped, and a drain releases both records. -/
def wrappedTwice : List Request :=
  [.wrapNone, .clone ⟨0, 0, none⟩, .act (.dropWrapper ⟨0, 0, none⟩),
    .act (.dropWrapper ⟨0, 1, none⟩), .act .collect]

theorem obeys_wrappedTwice : (opened .standard false).Obeys 0 wrappedTwice :=
  ⟨0, rfl, trivial, 0, rfl, trivial, 0, rfl, trivial, 0, rfl, trivial, 0, rfl, trivial, trivial⟩

/-- The drain releases both records, with checks and without. -/
theorem replay_unchecked_wrappedTwice :
    (replay (opened Config.standard.unchecked false) (wrappedTwice.map Request.unchecked)).map
        Prod.fst = (replay (opened .standard false) wrappedTwice).map Prod.fst ∧
      ((replay (opened .standard false) wrappedTwice).map Prod.fst).getLast? =
        some (.count (.ok 2)) := by
  have room : ((opened .standard false).after wrappedTwice).interp.heap.HasRoom := by
    rw [Heap.HasRoom]
    decide +kernel
  have same := (replay_unchecked_of_obeys .standard false wrappedTwice obeys_wrappedTwice room).1
  constructor
  · rw [same, List.map_map]
    rfl
  · decide +kernel

end Session

end Custody
