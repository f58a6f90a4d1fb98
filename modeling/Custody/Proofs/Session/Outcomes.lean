import Custody.Proofs.Finalizer.Courses
import Custody.Proofs.Session.Draining
import Custody.Proofs.Session.Totals

/-!
# What the outcome of a drain says

A drain that returns a number got through its batch, and that number, the log,
the totals, the marks on the records and what the callbacks were told all speak
of the same records.  A drain that returns a mismatch was stopped by it: it says
which record was in hand and what its count was, and everything that was done
before, and nothing else, stays done.
-/

namespace Custody.Session

variable {session session' within last ended : Session}
variable {hand : Nat} {disposed : List RecordRef} {ref : RecordRef}
variable {course : List (PendingRelease × Route)} {settled : List (RecordRef × RecordState)}

/-! ## What is sealed wherever a drain may start -/

theorem Underway.isSealed
    (underway : session.Underway within)
    (isSealed : session.registry.Sealed) :
    within.registry.Sealed := by
  induction underway with
  | here => exact isSealed
  | flagged _ step => exact step
  | registered _ registered step =>
      rcases Reckons.of_stroke (.register registered) with ⟨_, reckons, -⟩
      exact (reckons.marked step).1
  | wrapped _ step => exact step.of_records rfl
  | useInterp _ _ step => exact step
  | drained _ step =>
      rcases Reckons.of_stroke .collectReporting with ⟨_, reckons, -⟩
      exact (reckons.marked step).1

theorem Tenure.isSealed
    {byHand : Prop}
    {config : Config}
    {hasTable : Bool}
    (tenure : Tenure byHand config hasTable session hand disposed)
    (underway : session.Underway within) :
    within.registry.Sealed :=
  underway.isSealed (tenure.turns.marked (sealed_opened config hasTable).1).1

/-! ## What everybody sees -/

/--
What is seen of a drain whose items took their course.  The released records, in
the order of the batch, are those that the log names, that the total counts, that
are marked as collected, and for which a reference was given back.  A record whose
reference could not be given back is detached and off the books, and that was
reported.
-/
structure Accounted
    (course : List (PendingRelease × Route))
    (session session' : Session) :
    Prop where
  nodup : (freed course).Nodup
  released :
    ∀ ref,
      ref ∈ freed course ↔
        (session.record ref).state.owns = true ∧ (session'.record ref).state = .released
  marked :
    ∀ ref,
      ref ∈ freed course ↔
        (session.record ref).collected = false ∧ (session'.record ref).collected = true
  dropped :
    ∀ ref,
      session'.registry.drops ref =
        session.registry.drops ref + if ref ∈ freed course then 1 else 0
  log :
    session'.finalizer.collected =
      (freed course).map (session'.logged session.queue.generation)
  total : session'.finalizer.released = session.finalizer.released + (freed course).length
  drains : session'.finalizer.drains = session.finalizer.drains + 1
  quarantined :
    ∀ item reason, (item, .bereft reason) ∈ course →
      (session'.record item.record).state = .detached ∧
        item.record ∉ freed course ∧
          (∀ handle, item.record ∉ session'.registry.ownersOf session'.tracker handle) ∧
            ∃ moment later,
              Reports (some item.record) (.heap reason) moment later ∧
                session.registry.journal <+: moment.registry.journal ∧
                  later.registry.journal <+: session'.registry.journal

/-- A record that does not own its reference is not on the books. -/
theorem not_mem_ownersOf
    (books : session.registry.Exact session.tracker)
    (settled : (session.record ref).state.owns = false)
    (handle : Handle) :
    ref ∉ session.registry.ownersOf session.tracker handle := by
  rw [books.listed, Registry.mem_ownersInOrder]
  exact fun listed => Bool.eq_false_iff.mp settled listed.1

/-- A record is settled as released if it is released afterwards but owned its reference before. -/
theorem Settles.mem_iff_released
    (settles : Settles settled session session') :
    (ref, .released) ∈ settled ↔
      (session.record ref).state.owns = true ∧ (session'.record ref).state = .released := by
  constructor
  · intro among
    refine ⟨(settles.owned ref _ among).1, ?_⟩
    rw [settles.record ref _ among]
    rfl
  · rintro ⟨owns, released⟩
    by_cases among : ref ∈ settled.map Prod.fst
    · rcases List.mem_map.mp among with ⟨⟨other, state⟩, listed, rfl⟩
      rw [settles.record other state listed] at released
      rwa [show state = .released from released] at listed
    · rcases settles.others ref among with same | ⟨-, deferred⟩
      · rw [← same, released] at owns
        cases owns
      · rw [deferred] at released
        cases released

/-- A record is settled as released if it is marked afterwards but was not before. -/
theorem Settles.mem_iff_marked
    (settles : Settles settled session session')
    (isSealed : session.registry.Sealed) :
    (ref, .released) ∈ settled ↔
      (session.record ref).collected = false ∧ (session'.record ref).collected = true := by
  constructor
  · intro among
    refine ⟨isSealed.collected_of_owns (settles.owned ref _ among).1, ?_⟩
    rw [settles.record ref _ among, Record.settledAs, decide_eq_true rfl, Bool.or_true]
  · rintro ⟨unmarked, marked⟩
    by_cases among : ref ∈ settled.map Prod.fst
    · rcases List.mem_map.mp among with ⟨⟨other, state⟩, listed, rfl⟩
      rw [settles.record other state listed, Record.settledAs, unmarked, Bool.false_or,
        decide_eq_true_eq] at marked
      rwa [marked] at listed
    · rcases settles.others ref among with same | ⟨-, deferred⟩
      · rw [same, unmarked] at marked
        cases marked
      · rw [deferred] at marked
        cases unmarked.symm.trans marked

/-- Nothing that a drain does gives a record another object. -/
theorem Settles.handle
    (settles : Settles settled session session')
    (ref : RecordRef) :
    (session'.record ref).handle = (session.record ref).handle :=
  congrArg CollectedObject.handle (settles.logged 0 ref)

theorem Settles.accounted
    (settles : Settles settled session session')
    (counts : ∀ ref, settled.count (ref, .released) = (freed course).count ref)
    (quarantines :
      ∀ item reason, (item, .bereft reason) ∈ course →
        (item.record, .detached) ∈ settled ∧
          ∃ moment later,
            Reports (some item.record) (.heap reason) moment later ∧
              session.registry.journal <+: moment.registry.journal ∧
                later.registry.journal <+: session'.registry.journal)
    (isSealed : session.registry.Sealed)
    (books : session'.registry.Exact session'.tracker)
    (published :
      session'.finalizer.published =
        (session.finalizer.drains + 1, session.finalizer.released + (freed course).length,
          (freed course).map (session.logged session.queue.generation))) :
    Accounted course session session' := by
  have nodup : (freed course).Nodup := by
    refine List.nodup_iff_count_le_one.mpr fun ref => ?_
    rw [← counts ref]
    exact List.nodup_iff_count_le_one.mp (List.Nodup.of_map _ settles.nodup) _
  have listed (ref : RecordRef) : ref ∈ freed course ↔ (ref, .released) ∈ settled := by
    rw [← List.count_pos_iff, ← counts ref, List.count_pos_iff]
  refine
    { nodup := nodup
      released := fun ref => (listed ref).trans settles.mem_iff_released
      marked := fun ref => (listed ref).trans (settles.mem_iff_marked isSealed)
      dropped := fun ref => ?_
      log := ?_
      total := congrArg (fun published => published.2.1) published
      drains := congrArg Prod.fst published
      quarantined := fun item reason among => ?_ }
  · rw [settles.drops, counts, List.Nodup.count nodup]
  · refine (congrArg (fun published => published.2.2) published).trans ?_
    exact List.map_congr_left fun ref _ => (settles.logged _ ref).symm
  · rcases quarantines item reason among with ⟨detached, reported⟩
    have spent := (settles.owned _ _ detached).2
    have after := settles.record _ _ detached
    refine ⟨congrArg Record.state after, fun among => ?_,
      not_mem_ownersOf books ((congrArg (fun record => record.state.owns) after).trans spent),
      reported⟩
    cases (settles.mem_iff_released.mp ((listed _).mp among)).2.symm.trans
      (congrArg Record.state after)

/-! ## The course of a drain -/

section Started

variable {validates : Bool} {generation : Nat}

/-- What is settled in the course of a drain, which starts when the batch is taken. -/
theorem Course.settles_started
    (ran : Course validates generation course session.started last) :
    Settles (settlements course) session last := by
  have started : Settles [] session session.started := .of_eq rfl fun _ => rfl
  exact started.trans (ran.settles (draining_started session))

theorem Course.quiet_started
    (ran : Course validates generation course session.started last) :
    session.started.Quiet last :=
  ran.quiet (draining_started session)

theorem Course.draining_started
    (ran : Course validates generation course session.started last) :
    last.finalizer.draining = true :=
  ran.quiet_started.draining.trans rfl

end Started

/-- What a drain publishes when it ends. -/
theorem Quiet.published_finish
    (quiet : session.started.Quiet last)
    (log : List CollectedObject) :
    (last.finish log).finalizer.published =
      (session.finalizer.drains + 1, session.finalizer.released + log.length, log) := by
  have same : last.finalizer.published = session.finalizer.published := quiet.published
  have drains : last.finalizer.drains = session.finalizer.drains := congrArg Prod.fst same
  have released : last.finalizer.released = session.finalizer.released :=
    congrArg (fun published => published.2.1) same
  show (last.finalizer.drains + 1, last.finalizer.released + log.length, log) = _
  rw [drains, released]

/-! ## Drains that get through -/

/--
A drain took its whole batch through its course and then told of its end, unless
it released nothing.

Whatever comes to the queue meanwhile stays there, in the next generation.  Of
the items of a record at most one was not passed over.
-/
structure Completed
    (count : Nat)
    (course : List (PendingRelease × Route))
    (added : List PendingRelease)
    (session last session' : Session) :
    Prop
    extends Accounted course session session' where
  batch : session.queue.items = course.map Prod.fst
  ran :
    Course session.finalizer.validates session.queue.generation course session.started last
  counted : count = (freed course).length
  once : ((course.filter fun entry => entry.2 ≠ .passed).map fun entry => entry.1.record).Nodup
  generation : session'.queue.generation = session.queue.generation + 1
  told :
    ∃ events,
      last.registry.journal = session.registry.journal ++ events ∧
        (∀ event ∈ events, event.tellsEnd = false) ∧
        session'.registry.journal =
          last.registry.journal ++
            if count = 0 then [] else
              last.finalizer.collectHandlers.callbacks.map fun handler =>
                .notice (.collected handler.label count session.queue.generation .draining)
  drained : Drained session.queue.items [] added session session'

/-- Telling of the end of a drain changes nothing else. -/
theorem told_of_finish
    {log : List CollectedObject}
    {generation : Nat}
    (draining : last.finalizer.draining = true)
    (reported :
      (if log.isEmpty then (.ok (), last.finish log)
        else reportCollected log.length generation (last.finish log)) = (.ok (), ended)) :
    ended.finalizer.published = (last.finish log).finalizer.published ∧
      ended.registry.journal =
        last.registry.journal ++
          if log.length = 0 then [] else
            last.finalizer.collectHandlers.callbacks.map fun handler =>
              .notice (.collected handler.label log.length generation .draining) := by
  split at reported
  · next empty =>
      cases reported
      rw [if_pos (by simpa using empty), List.append_nil]
      exact ⟨rfl, rfl⟩
  · next nonempty =>
      rw [if_neg (by simpa using nonempty)]
      rw [reportCollected] at reported
      have published := published_deliver
        (fun handler session =>
          .collected handler.label log.length generation session.finalizerState)
        (last.finish log).finalizer.collectHandlers.callbacks (last.finish log)
      rw [reported] at published
      have same (handler : Handler) (later : Session)
          (still : later.finalizer.draining = (last.finish log).finalizer.draining) :
          Notice.collected handler.label log.length generation later.finalizerState =
            .collected handler.label log.length generation .draining := by
        rw [finalizerState, still, show (last.finish log).finalizer.draining = true from draining,
          if_pos rfl]
      have told := journal_deliver _ same reported
      exact ⟨published, told⟩

/-- The batch that a drain takes up leaves the next generation of the queue behind. -/
theorem Ready.generation
    {log : List CollectedObject}
    (ready : session.Ready hand)
    (ran :
      drainBatch idling session.finalizer.validates session.queue.generation session.queue.items []
        session.started = (.completed log, last))
    (tracker : ended.tracker = last.tracker)
    (tells : last.registry.Tells Event.IsPlain ended.registry) :
    ended.queue.generation = session.queue.generation + 1 := by
  have started := held_started ready.held
  rw [← List.append_nil session.queue.items] at started
  rcases works_drainBatch idles_idling rfl started ran with ⟨added, works⟩
  rw [queue_of_tells tracker tells, works.generation, queue, ownTracker_started ready.held]
  rfl

/-- What is known of a drain that got through its batch and told of its end. -/
theorem Ready.completed_of_ran
    {log : List CollectedObject}
    (ready : session.Ready hand)
    (isSealed : session.registry.Sealed)
    (ran :
      drainBatch idling session.finalizer.validates session.queue.generation session.queue.items []
        session.started = (.completed log, last))
    (reported :
      (if log.isEmpty then (.ok (), last.finish log)
        else reportCollected log.length session.queue.generation (last.finish log)) =
          (.ok (), ended))
    (books : ended.registry.Exact ended.tracker) :
    ∃ course added,
      Completed log.length course added session last (ended.setDraining false) := by
  rcases course_drainBatch (draining_started session) ran with ⟨course, same, took, logged⟩
  rcases Drained.of_completed idles_idling ready.held ran with ⟨added, drained⟩
  have drained := drained.of_reported log session.queue.generation
  have early := took.quiet_started
  have tracker := (Spares.reportCollected_ite log.isEmpty log.length session.queue.generation
    (last.finish log)).tracker
  have tells := @tells_reportCollected_ite Event.IsPlain (fun _ _ _ _ => trivial) log.isEmpty
    log.length session.queue.generation (last.finish log)
  have notes := Notes.reportCollected_ite log.isEmpty log.length session.queue.generation
    (last.finish log)
  rw [reported] at drained tracker tells notes
  rcases told_of_finish took.draining_started reported with ⟨published, told⟩
  have settles : Settles (settlements course) session (ended.setDraining false) := by
    have finished : Settles [] last (last.finish log) := .of_eq rfl fun _ => rfl
    have delivered : Settles [] (last.finish log) ended := .of_notes notes
    have idle : Settles [] ended (ended.setDraining false) := .of_eq rfl fun _ => rfl
    simpa using ((took.settles_started.trans finished).trans delivered).trans idle
  have entries : log = (freed course).map (session.logged session.queue.generation) := logged
  have total : log.length = (freed course).length := by rw [entries, List.length_map]
  have ending : (ended.setDraining false).finalizer.published =
      (session.finalizer.drains + 1, session.finalizer.released + (freed course).length,
        (freed course).map (session.logged session.queue.generation)) := by
    rw [← total]
    refine published.trans ((early.published_finish log).trans ?_)
    rw [← entries]
  have accounted : Accounted course session (ended.setDraining false) := by
    refine settles.accounted (count_settlements course) (fun item reason among => ?_) isSealed books
      ending
    rcases took.reports (draining_started session) among with ⟨moment, later, reports, since, upTo⟩
    exact ⟨mem_settlements_of_bereft among, moment, later, reports, since,
      upTo.trans ⟨_, told.symm⟩⟩
  rcases early.journal with ⟨events, grown, silent⟩
  exact ⟨course, added,
    { toAccounted := accounted
      batch := same.symm
      ran := took
      counted := total
      once := map_fst_settlements course ▸ settles.nodup
      generation := ready.generation ran tracker tells
      told := ⟨events, grown, silent, told⟩
      drained := drained.of_tells rfl (.refl _) }⟩

/-- A drain that returns a number got through its batch. -/
theorem Ready.completed
    {count : Nat}
    (ready : session.Ready hand)
    (isSealed : session.registry.Sealed)
    (returned : session.collect = (.ok count, session')) :
    ∃ course added last, Completed count course added session last session' := by
  have leads := leads_collect hand session
  rw [returned] at leads
  have books := (ready.of_leads leads).books
  have run := batchRun_drainBatch idling session.finalizer.validates session.queue.generation
    session.queue.items [] session.started
  rw [collect_eq_drain idles_idling ready.idle, drain_eq] at returned
  generalize drainBatch idling session.finalizer.validates session.queue.generation
    session.queue.items [] session.started = result at run returned
  cases run with
  | @completed log last ran =>
      simp only [drainEnd] at returned
      generalize reported : (if log.isEmpty then (.ok (), last.finish log)
        else reportCollected log.length session.queue.generation (last.finish log)) = result
        at returned
      rcases result with ⟨_ | _, ended⟩
      · cases returned
      · cases returned
        rcases ready.completed_of_ran isSealed ran reported books with ⟨course, added, completed⟩
        exact ⟨course, added, last, completed⟩
  | stopped split ran ended => cases returned
  | panicked split ran ended => cases returned

/--
Whatever is done with a runtime, and whatever hooks and callbacks do: wherever a
drain starts that returns a number, it went through the batch in order.  Each item
was passed over because its record was not deferred when its turn came, or its
reference could not be given back, or it was given back, and no item of a record
is dealt with twice.

The number is that of the released records.  They are logged in order, they are
counted, and they and no others gained their mark.  The next generation of the
queue holds what was deferred meanwhile, and unless the number is zero every
callback that was subscribed after the last item is told of it, once.
-/
theorem collect_completes
    {byHand : Prop}
    {config : Config}
    {hasTable : Bool}
    {count : Nat}
    (tenure : Tenure byHand config hasTable session hand disposed)
    (underway : session.Underway within)
    (returned : within.collect = (.ok count, session')) :
    ∃ course added last, Completed count course added within last session' := by
  rcases tenure.ready underway with ⟨others, ready⟩
  exact ready.completed (tenure.isSealed underway) returned

/--
A runtime in which a record waits twice without being deferred.  In between waits
another one with a hook that defers the first.
-/
def recurring : Session :=
  [Request.act (.register ⟨0, 0⟩), .act (.register ⟨0, 0⟩), .act (.push ⟨0, none⟩), .act .newHook,
    .act (.deferRelease 1 (some (.defer 0 0 (.done 0)))), .act (.push ⟨0, none⟩)].foldl
      (fun session request => (request.perform session).2) (opened .standard false)

theorem Tenure.recurring : Tenure True .standard false recurring 1 [] := by
  have registers {session : Session} (before : Tenure True .standard false session 1 []) :=
    before.register ⟨0, 0⟩
  have pushed : Tenure True .standard false _ 1 [] :=
    (registers (registers .opened)).follow (.act (.push ⟨0, none⟩)) 0 rfl rfl (fun _ => trivial)
      trivial rfl
  have hooked : Tenure True .standard false _ 2 [] :=
    pushed.follow (.act .newHook) 0 rfl rfl (fun _ => trivial) trivial rfl
  have deferred : Tenure True .standard false _ 1 [] :=
    hooked.follow (.act (.deferRelease 1 (some (.defer 0 0 (.done 0))))) 0 rfl rfl
      (fun _ => trivial) trivial rfl
  exact deferred.follow (.act (.push ⟨0, none⟩)) 0 rfl rfl (fun _ => trivial) trivial rfl

/-- The record is passed over at first, but when it appears again its reference is given back. -/
theorem reappearing_released_recurring :
    recurring.queue.items.map PendingRelease.record = [0, 1, 0] ∧
      recurring.collect.1 = .ok 2 ∧
      recurring.collect.2.registry.journal =
        recurring.registry.journal ++
          [.takenUp 0, .takenUp 1, .hookRan 1, .deferred 0, .dropped 1, .takenUp 0, .dropped 0] ∧
      (recurring.collect.2.record 0).state = .released := by
  decide +kernel

/-- Two records are released, the first of them behind the second. -/
theorem collect_completes_recurring :
    recurring.collect.1 = .ok 2 ∧
      ∃ course added last, Completed 2 course added recurring last recurring.collect.2 := by
  have returned : recurring.collect.1 = .ok 2 := by
    decide +kernel
  exact ⟨returned, collect_completes Tenure.recurring .here (Prod.ext returned rfl)⟩

end Custody.Session
