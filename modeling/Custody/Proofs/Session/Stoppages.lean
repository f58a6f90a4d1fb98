import Custody.Proofs.Session.Outcomes

/-!
# Drains that a mismatch stops

A drain takes its items in order.  When the object of a deferred record has fewer
references than records, and no resolver settles that, the drain stops.  What it
did before stays done and is published; the record in hand is detached, and the
items behind it are in front of the queue again.
-/

namespace Custody.Session

variable {session session' within before checked between last : Session}
variable {hand : Nat} {disposed : List RecordRef} {ref : RecordRef} {item : PendingRelease}
variable {course : List (PendingRelease × Route)}

/-! ## What a mismatch says -/

/-- The other owners of an object and the record itself are all that the books list for it. -/
theorem otherOwners_add_one
    (books : session.registry.Exact session.tracker)
    (owns : (session.record ref).state.owns = true) :
    session.otherOwners ref + 1 = (session.impacted ref).length := by
  have listed : session.impacted ref =
      session.registry.ownersInOrder (session.record ref).handle := books.listed _
  have among : ref ∈ session.impacted ref := by
    rw [listed, Registry.mem_ownersInOrder]
    exact ⟨owns, rfl⟩
  have numbered (other : RecordRef) (member : other ∈ session.impacted ref) :
      (session.record other).id = other + 1 := by
    rw [listed, Registry.mem_ownersInOrder] at member
    exact books.numbered other (Registry.lt_size_of_owns member.1)
  have others : session.otherOwners ref =
      (session.impacted ref).countP fun other => decide ¬ (other == ref) = true := by
    refine List.countP_congr fun other member => ?_
    rw [numbered other member, numbered ref among]
    simp
  have once : (session.impacted ref).count ref = 1 :=
    List.count_eq_one_of_mem (listed ▸ Registry.nodup_ownersInOrder _ _) among
  have total := List.length_eq_countP_add_countP (· == ref) (l := session.impacted ref)
  rw [others]
  rw [List.count] at once
  omega

/--
An object has fewer references than records on the books that own one, and a
mismatch says so of one of these records.
-/
structure Undercounts
    (mismatch : Mismatch)
    (ref : RecordRef)
    (session : Session) :
    Prop where
  handle : mismatch.handle = (session.record ref).handle
  observed : mismatch.observed = (session.interp.heap.refcount? mismatch.handle).getD 0
  impacted :
    mismatch.impacted = session.registry.ownersOf session.tracker mismatch.handle
  expected : mismatch.expected = mismatch.impacted.length
  among : ref ∈ mismatch.impacted
  short : mismatch.observed < mismatch.expected

theorem undercounts_of_mismatch?
    {mismatch : Mismatch}
    (books : session.registry.Exact session.tracker)
    (owns : (session.record ref).state.owns = true)
    (found : session.mismatch? ref = some mismatch) :
    Undercounts mismatch ref session := by
  have total := otherOwners_add_one books owns
  rw [mismatch?] at found
  split at found
  · cases found
  · next short =>
      cases found
      refine ⟨rfl, rfl, rfl, total, ?_, not_le.mp short⟩
      show ref ∈ session.registry.ownersOf session.tracker (session.record ref).handle
      rw [books.listed, Registry.mem_ownersInOrder]
      exact ⟨owns, rfl⟩

/-! ## Drains that a mismatch stops -/

/--
A drain took its course up to one item, found a mismatch there that no resolver
settled, and ended with it.

The record in hand is detached and off the books, and its reference was not given
back.  What comes behind it is in front of the queue, followed by what was
deferred meanwhile.  Beside the mismatch itself, each error that was told until it
was found is counted, and nobody was told of the end of a drain.
-/
structure Stopped
    (mismatch : Mismatch)
    (course : List (PendingRelease × Route))
    (item : PendingRelease)
    (rest added : List PendingRelease)
    (session before checked between session' : Session) :
    Prop
    extends Accounted course session session' where
  batch : session.queue.items = course.map Prod.fst ++ item :: rest
  ran :
    Course session.finalizer.validates session.queue.generation course session.started before
  stops : Stops item mismatch before checked between
  undercounts : Undercounts mismatch item.record checked
  declined : ∀ resolver ∈ checked.finalizer.resolvers.callbacks, resolver.settles = false
  handle : (session'.record item.record).handle = mismatch.handle
  detached : (session'.record item.record).state = .detached
  struck : ∀ handle, item.record ∉ session'.registry.ownersOf session'.tracker handle
  spared : session'.registry.drops item.record = session.registry.drops item.record
  told :
    ∃ events offers,
      checked.registry.journal = session.registry.journal ++ events ∧
        session'.registry.journal =
          checked.registry.journal ++ offers ++ [.fault (.mismatched item.record)] ∧
        List.Forall₂
          (fun resolver event =>
            ∃ asked, event = .notice (.offered resolver.label mismatch asked))
          checked.finalizer.resolvers.callbacks offers ∧
        (∀ event ∈ events, event.tellsEnd = false ∧ event.isMismatch = false) ∧
        session'.finalizer.errors =
          session.finalizer.errors + events.countP Event.isFault + 1
  drained : Drained (course.map Prod.fst ++ [item]) rest added session session'

/-- No offer of a mismatch tells of an error. -/
theorem countP_offers
    {mismatch : Mismatch}
    {resolvers : List Resolver}
    {offers : List Event}
    (each :
      List.Forall₂
        (fun resolver event =>
          ∃ asked, event = Event.notice (.offered resolver.label mismatch asked))
        resolvers offers) :
    offers.countP Event.isFault = 0 ∧ offers.countP Event.isMismatch = 0 := by
  induction each with
  | nil => exact ⟨rfl, rfl⟩
  | cons offered _ step =>
      rcases offered with ⟨asked, rfl⟩
      exact step

/-- The books are right when a record in hand is checked. -/
theorem Ready.books_checked
    {batch : List PendingRelease}
    {log : List CollectedObject}
    (ready : session.Ready hand)
    (ran :
      drainBatch idling session.finalizer.validates session.queue.generation batch []
        session.started = (.completed log, before))
    (hooks : Hooks item before checked) :
    checked.registry.Exact checked.tracker := by
  have taken : session.started.registry.Exact session.started.tracker :=
    Registry.Moves.exact (.single (.takeSnapshot session.registry hand)) ready.books
  have leads := leads_drainBatch idles_idling session.finalizer.validates session.queue.generation
    hand batch [] session.started (draining_started session)
  rw [ran] at leads
  have books := leads.moves.exact taken
  rw [← leads.tracker] at books
  exact (Keeps.of_spares hooks.spares).exact books

/-- The end of an item that stops a drain. -/
theorem Passage.stopped
    {validates : Bool}
    {generation : Nat}
    {mismatch : Mismatch}
    (passage : Passage validates generation item session (.stopped mismatch, last)) :
    validates = true ∧
      ∃ checked between,
        Stops item mismatch session checked between ∧
          last = (between.quarantine item.record).enter (.fault (.mismatched item.record)) := by
  generalize same : (ItemEnd.stopped mismatch, last) = result at passage
  cases passage with
  | @deals route last deals =>
      cases route with
      | passed => cases same
      | bereft reason => cases same
      | released => cases same
  | stops checks stops =>
      cases same
      exact ⟨checks, _, _, stops, rfl⟩
  | panics => cases same

/-- How a drain ends that a mismatch stopped. -/
def stoppedAt
    (ref : RecordRef)
    (rest : List PendingRelease)
    (log : List CollectedObject)
    (between : Session) :
    Session :=
  (((((between.quarantine ref).enter (.fault (.mismatched ref))).requeueFront rest).finish
    log).updateFinalizer Finalizer.countError).setDraining false

theorem journal_stoppedAt
    (ref : RecordRef)
    (rest : List PendingRelease)
    (log : List CollectedObject)
    (between : Session) :
    (between.stoppedAt ref rest log).registry.journal =
      between.registry.journal ++ [.fault (.mismatched ref)] :=
  congrArg (· ++ _) (Registry.journal_quarantine _ _ _)

namespace Stops

variable {mismatch : Mismatch} {rest : List PendingRelease} {log : List CollectedObject}
variable {validates : Bool} {generation : Nat}

theorem notes
    (stops : Stops item mismatch before checked between)
    (draining : before.finalizer.draining = true) :
    before.Notes between :=
  stops.hooks.notes.trans (stops.declines.notes (stops.hooks.notes.draining.trans draining))

theorem quiet
    (stops : Stops item mismatch before checked between)
    (draining : before.finalizer.draining = true) :
    before.Quiet between :=
  stops.hooks.quiet.trans (stops.declines.quiet (stops.hooks.quiet.draining.trans draining))

/-- A record in hand stays deferred until the mismatch stops the drain. -/
theorem stillDeferred
    (stops : Stops item mismatch before checked between)
    (draining : before.finalizer.draining = true) :
    (between.record item.record).state = .deferred :=
  (stops.declines.notes (stops.hooks.notes.draining.trans draining)).deferred stops.deferred

/-- What a drain that a mismatch stopped has settled. -/
theorem settles
    (stops : Stops item mismatch before checked between)
    (ran : Course validates generation course session.started before) :
    Settles (settlements course ++ [(item.record, .detached)]) session
      (between.stoppedAt item.record rest log) := by
  have still := ran.draining_started
  have ended : Settles [] (between.quarantine item.record)
      (between.stoppedAt item.record rest log) := by
    refine .of_eq rfl fun ref => ?_
    rw [Registry.drops, journal_stoppedAt, List.count_append, List.count_singleton, Registry.drops]
    simp [Session.quarantine, updateRegistry]
  have settles := ((ran.settles_started.trans (.of_notes (stops.notes still))).trans
    (.quarantine (stops.stillDeferred still))).trans ended
  simpa only [List.append_nil] using settles

/-- The record in hand is detached. -/
theorem record
    (stops : Stops item mismatch before checked between)
    (ran : Course validates generation course session.started before) :
    (between.stoppedAt item.record rest log).record item.record =
      (session.record item.record).settledAs .detached :=
  (stops.settles ran).record _ _ (List.mem_append_right _ (List.mem_singleton_self _))

/-- What a drain that a mismatch stopped has published. -/
theorem published
    (stops : Stops item mismatch before checked between)
    (ran : Course validates generation course session.started before) :
    (between.stoppedAt item.record rest log).finalizer.published =
      (session.finalizer.drains + 1, session.finalizer.released + log.length, log) := by
  have quiet := ran.quiet_started.trans (stops.quiet ran.draining_started)
  have told := (quiet.trans (.quarantine between item.record)).trans
    (Quiet.enter (between.quarantine item.record)
      (rfl : (Event.fault (.mismatched item.record)).tellsEnd = false))
  have ended : Quiet session.started
      (((between.quarantine item.record).enter (.fault (.mismatched item.record))).requeueFront
        rest) :=
    told.trans (.of_eq rfl rfl rfl)
  exact ended.published_finish log

/-- The released records are counted, logged and marked if a mismatch stops the drain. -/
theorem accounted
    (stops : Stops item mismatch before checked between)
    (ran : Course validates session.queue.generation course session.started before)
    (logged : log = (freed course).map (session.logged session.queue.generation))
    (isSealed : session.registry.Sealed)
    (books :
      (between.stoppedAt item.record rest log).registry.Exact
        (between.stoppedAt item.record rest log).tracker) :
    Accounted course session (between.stoppedAt item.record rest log) := by
  have late := stops.quiet ran.draining_started
  have grown : before.registry.journal <+:
      (between.stoppedAt item.record rest log).registry.journal := by
    rw [journal_stoppedAt]
    exact late.grows.trans (List.prefix_append _ _)
  refine (stops.settles ran).accounted (fun ref => ?_) (fun item reason among => ?_) isSealed
    books ?_
  · rw [List.count_append, count_settlements]
    simp
  · rcases ran.reports (draining_started session) among with ⟨moment, later, reports, since, upTo⟩
    exact ⟨List.mem_append_left _ (mem_settlements_of_bereft among), moment, later, reports, since,
      upTo.trans grown⟩
  · rw [stops.published ran, logged, List.length_map]

/-- What was told when a mismatch stopped a drain, and how many errors were counted. -/
theorem told
    (stops : Stops item mismatch before checked between)
    (ran : Course validates generation course session.started before)
    (totals :
      Totals 0 session
        (.error (.error (.incorrectRefCount mismatch)), between.stoppedAt item.record rest log)) :
    ∃ events offers,
      checked.registry.journal = session.registry.journal ++ events ∧
        (between.stoppedAt item.record rest log).registry.journal =
          checked.registry.journal ++ offers ++ [.fault (.mismatched item.record)] ∧
        List.Forall₂
          (fun resolver event =>
            ∃ asked, event = .notice (.offered resolver.label mismatch asked))
          checked.finalizer.resolvers.callbacks offers ∧
        (∀ event ∈ events, event.tellsEnd = false ∧ event.isMismatch = false) ∧
        (between.stoppedAt item.record rest log).finalizer.errors =
          session.finalizer.errors + events.countP Event.isFault + 1 := by
  have quiet := ran.quiet_started.trans stops.hooks.quiet
  rcases quiet.journal with ⟨events, grown, silent⟩
  rcases stops.declines.journal with ⟨offers, offered, each⟩
  rcases countP_offers each with ⟨faults, others⟩
  have grown : checked.registry.journal = session.registry.journal ++ events := grown
  have last : (between.stoppedAt item.record rest log).registry.journal =
      checked.registry.journal ++ offers ++ [.fault (.mismatched item.record)] := by
    rw [journal_stoppedAt, offered]
  have counted := totals.counted
  have mismatches := totals.mismatches
  have faults' : (between.stoppedAt item.record rest log).registry.faults =
      session.registry.faults + events.countP Event.isFault + 1 := by
    rw [Registry.faults, last, grown]
    simp [List.countP_append, faults, Event.isFault, Registry.faults, Nat.add_assoc]
  have mismatches' : (between.stoppedAt item.record rest log).registry.mismatches =
      session.registry.mismatches + events.countP Event.isMismatch + 1 := by
    rw [Registry.mismatches, last, grown]
    simp [List.countP_append, others, Event.isMismatch, Registry.mismatches, Nat.add_assoc]
  simp only [mismatchesIn] at mismatches
  have none : events.countP Event.isMismatch = 0 := by omega
  refine ⟨events, offers, grown, last, each, fun event among => ?_, ?_⟩
  · exact ⟨silent event among, by simpa using List.countP_eq_zero.mp none event among⟩
  · simp only at counted
    omega

end Stops

/-- What is known of a drain that a mismatch stopped once the earlier items took their course. -/
theorem Ready.stopped_of_ended
    {batch rest : List PendingRelease}
    {log : List CollectedObject}
    {mismatch : Mismatch}
    (ready : session.Ready hand)
    (isSealed : session.registry.Sealed)
    (split : session.queue.items = batch ++ item :: rest)
    (ran :
      drainBatch idling session.finalizer.validates session.queue.generation batch []
        session.started = (.completed log, before))
    (ended :
      drainItem idling session.finalizer.validates session.queue.generation item before =
        (.stopped mismatch, last))
    (result :
      (((last.requeueFront rest).finish log).updateFinalizer
        Finalizer.countError).setDraining false = session')
    (books : session'.registry.Exact session'.tracker) :
    session.finalizer.validates = true ∧
      ∃ course added checked between,
        Stopped mismatch course item rest added session before checked between session' := by
  rcases course_drainBatch (draining_started session) ran with ⟨course, same, took, logged⟩
  have passage := passage_drainItem session.finalizer.validates session.queue.generation item
    before took.draining_started
  rw [ended] at passage
  rcases passage.stopped with ⟨checks, checked, between, stops, rfl⟩
  rcases (EndsAt.mk split ⟨log, before, ran, ended⟩).drained idles_idling ready.held with
    ⟨added, drained⟩
  have totals : Totals 0 session
      (.error (.error (.incorrectRefCount mismatch)), between.stoppedAt item.record rest log) :=
    .of_stopped ready.idle ran ended
  change between.stoppedAt item.record rest log = session' at result
  subst result
  have accounted := stops.accounted took logged isSealed books
  have after : (between.stoppedAt item.record rest log).record item.record =
      (session.record item.record).settledAs .detached :=
    stops.record took
  have detached : ((between.stoppedAt item.record rest log).record item.record).state =
      .detached :=
    congrArg Record.state after
  have undercounts := undercounts_of_mismatch? (ready.books_checked ran stops.hooks)
    (congrArg RecordState.owns stops.deferred) stops.found
  have earlier : (checked.record item.record).handle = (session.record item.record).handle :=
    (took.settles_started.trans (.of_notes stops.hooks.notes)).handle _
  have spared : (between.stoppedAt item.record rest log).registry.drops item.record =
      session.registry.drops item.record := by
    rw [accounted.dropped, if_neg, Nat.add_zero]
    intro among
    cases detached.symm.trans ((accounted.released _).mp among).2
  exact ⟨checks, course, added, checked, between,
    { toAccounted := accounted
      batch := by rw [same, split]
      ran := took
      stops := stops
      undercounts := undercounts
      declined := stops.declines.answers
      handle := (congrArg Record.handle after).trans (earlier.symm.trans undercounts.handle.symm)
      detached := detached
      struck := not_mem_ownersOf books (congrArg RecordState.owns detached)
      spared := spared
      told := stops.told took totals
      drained := by
        rw [same]
        exact drained.of_tells rfl (.refl _) }⟩

/-- A drain that returns an error was stopped by a mismatch. -/
theorem Ready.stopped
    {mismatch : Mismatch}
    (ready : session.Ready hand)
    (isSealed : session.registry.Sealed)
    (stopped : session.collect = (.error (.error (.incorrectRefCount mismatch)), session')) :
    session.finalizer.validates = true ∧
      ∃ course item rest added before checked between,
        Stopped mismatch course item rest added session before checked between session' := by
  have leads := leads_collect hand session
  rw [stopped] at leads
  have run := drainRun_collect ready.idle
  rw [stopped] at run
  generalize same : (Except.error (Abort.error (.incorrectRefCount mismatch)), session') = result
    at run
  cases run with
  | completed ran reported plain =>
      cases same
      cases plain
  | panicked => cases same
  | @stopped batch rest item log found before last split ran ended =>
      obtain ⟨rfl, result⟩ : mismatch = found ∧ session' = _ := by simpa using same
      rcases ready.stopped_of_ended isSealed split ran ended result.symm
        (ready.of_leads leads).books with ⟨checks, course, added, checked, between, stopped⟩
      exact ⟨checks, course, item, rest, added, before, checked, between, stopped⟩

/--
Whatever is done with a runtime, and whatever hooks and callbacks do: wherever a
drain starts that returns a mismatch, the drain checked for mismatches, and this
one stopped it.

The mismatch names the object of the record in hand, the references that the
object had when the record was checked, and the records on the books for it, of
which there are more.  Every resolver was asked and none settled it.  The record
is detached and struck from the books, and its reference was not given back.
What came before took its course, and is counted, logged and marked; what comes
behind is in front of the queue, and its hooks did not run.
-/
theorem collect_stopped_by_mismatch
    {byHand : Prop}
    {config : Config}
    {hasTable : Bool}
    {mismatch : Mismatch}
    (tenure : Tenure byHand config hasTable session hand disposed)
    (underway : session.Underway within)
    (returned : within.collect = (.error (.error (.incorrectRefCount mismatch)), session')) :
    within.finalizer.validates = true ∧
      ∃ course item rest added before checked between,
        Stopped mismatch course item rest added within before checked between session' := by
  rcases tenure.ready underway with ⟨others, ready⟩
  exact ready.stopped (tenure.isSealed underway) returned

/--
A runtime in which an object with one reference was registered three times.  Two
of the records wait behind one of another object, whose hook defers the third and
then fails.  A resolver asks for a drain and settles nothing.
-/
def overclaimed : Session :=
  [Request.act (.addResolver ⟨"declining", [.collect], [], false⟩), .act (.register ⟨0, 0⟩),
    .act (.register Interpreter.initial.noneObject),
    .act (.register Interpreter.initial.noneObject),
    .act (.register Interpreter.initial.noneObject), .act .newHook,
    .act (.deferRelease 0 (some (.defer 0 3 (.fail "lost" (.done 0))))),
    .act (.deferRelease 1 none), .act (.deferRelease 2 none)].foldl
      (fun session request => (request.perform session).2) (opened .standard false)

theorem Tenure.overclaimed : Tenure False .standard false overclaimed 1 [] := by
  have registers {session : Session} (before : Tenure False .standard false session 1 []) :=
    before.register Interpreter.initial.noneObject
  have asks : Tenure False .standard false _ 1 [] :=
    Tenure.opened.follow (.act (.addResolver ⟨"declining", [.collect], [], false⟩)) 0 rfl rfl nofun
      trivial rfl
  have hooked : Tenure False .standard false _ 2 [] :=
    (registers (registers (registers (asks.register ⟨0, 0⟩)))).follow (.act .newHook) 0 rfl rfl
      nofun trivial rfl
  have first : Tenure False .standard false _ 1 [] :=
    hooked.follow (.act (.deferRelease 0 (some (.defer 0 3 (.fail "lost" (.done 0)))))) 0 rfl rfl
      nofun trivial rfl
  have second : Tenure False .standard false _ 1 [] :=
    first.follow (.act (.deferRelease 1 none)) 0 rfl rfl nofun trivial rfl
  exact second.follow (.act (.deferRelease 2 none)) 0 rfl rfl nofun trivial rfl

/-- The second item stops the drain: three records share what is one reference. -/
theorem collect_stopped_by_mismatch_overclaimed :
    overclaimed.collect.1 =
        .error (.error (.incorrectRefCount ⟨Interpreter.initial.noneObject, 1, 3, [1, 2, 3]⟩)) ∧
      ∃ course item rest added before checked between,
        Stopped ⟨Interpreter.initial.noneObject, 1, 3, [1, 2, 3]⟩ course item rest added overclaimed
          before checked between overclaimed.collect.2 := by
  have returned : overclaimed.collect.1 =
      .error
        (.error (.incorrectRefCount ⟨Interpreter.initial.noneObject, 1, 3, [1, 2, 3]⟩)) := by
    decide +kernel
  exact ⟨returned,
    (collect_stopped_by_mismatch Tenure.overclaimed .here (Prod.ext returned rfl)).2⟩

end Custody.Session
