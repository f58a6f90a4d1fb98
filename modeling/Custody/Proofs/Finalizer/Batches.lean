import Custody.Proofs.Finalizer.Nesting
import Custody.Proofs.Tracking.Order

/-!
# How far a drain gets

A drain deals with the items of its batch from the front.  It gets through all
of them, or stops at one and puts those behind it back, untouched, in front of
what was queued meanwhile.  What is queued while it runs is left to a later
drain.
-/

namespace Custody.Session

open Registry (Deal Scene hookedRecords)

variable {session session' session'' : Session}

/-- There is one tracker, and somebody holds it besides the caller's hands and the hooks. -/
abbrev Held (session : Session) (hand : Nat) (batch : List PendingRelease) : Prop :=
  (⟨session.registry, hand, batch⟩ : Scene).Held session.tracker

/-- A drain dealt with some items, while others were queued. -/
structure Works
    (done added : List PendingRelease)
    (session session' : Session) :
    Prop
    extends Abides session session' where
  items : session'.queue.items = session.queue.items ++ added
  generation : session'.queue.generation = session.queue.generation
  deferrals :
    session'.registry.deferrals =
      session.registry.deferrals ++ added.map PendingRelease.record
  takeUps :
    session'.registry.takeUps = session.registry.takeUps ++ done.map PendingRelease.record
  hookRuns : session'.registry.hookRuns = session.registry.hookRuns ++ hookedRecords done
  held : ∀ hand rest, session.Held hand (done ++ rest) → session'.Held hand rest

namespace Works

variable {done done' added added' : List PendingRelease}

theorem refl (session : Session) : session.Works [] [] session where
  toAbides := .refl session
  items := (List.append_nil _).symm
  generation := rfl
  deferrals := (List.append_nil _).symm
  takeUps := (List.append_nil _).symm
  hookRuns := (List.append_nil _).symm
  held := fun _ _ => id

theorem trans
    (first : Works done added session session')
    (second : Works done' added' session' session'') :
    Works (done ++ done') (added ++ added') session session'' where
  toAbides := first.toAbides.trans second.toAbides
  items := by rw [second.items, first.items, List.append_assoc]
  generation := second.generation.trans first.generation
  deferrals := by rw [second.deferrals, first.deferrals, List.map_append, List.append_assoc]
  takeUps := by rw [second.takeUps, first.takeUps, List.map_append, List.append_assoc]
  hookRuns := by
    rw [second.hookRuns, first.hookRuns, Registry.hookedRecords_append, List.append_assoc]
  held := by
    intro hand rest held
    rw [List.append_assoc] at held
    exact second.held hand rest (first.held hand _ held)

end Works

/-- Draining one item, and abandoning it if a callback panics, deals with that item. -/
theorem works_drainItem
    {nested : Session → Except Abort Nat × Session}
    {hand : Nat}
    {item : PendingRelease}
    {rest : List PendingRelease}
    (idles : Idles nested)
    (validates : Bool)
    (generation : Nat)
    (session : Session)
    (draining : session.finalizer.draining = true)
    (held : session.Held hand (item :: rest)) :
    ∃ added,
      Works [item] added session
        (concluded item.record (drainItem nested validates generation item session)) := by
  have abides := Abides.drainItem idles validates generation item session draining
  have dealt := deal_drainItem idles validates generation item session draining
  generalize concluded item.record (drainItem nested validates generation item session) = session'
    at abides dealt
  rcases (dealt.takes held).1 with ⟨added, takes⟩
  refine ⟨added, ?_⟩
  exact
    { toAbides := abides
      items := by
        rw [queue, ownTracker, abides.tracker]
        exact takes.items
      generation := by
        rw [queue, ownTracker, abides.tracker]
        exact takes.generation
      deferrals := takes.deferrals
      takeUps := takes.takeUps
      hookRuns := by rw [takes.hookRuns, Registry.hookedRecords_singleton]
      held := by
        intro hand rest held
        rw [Held, abides.tracker]
        exact (dealt.takes held).2 }

variable {nested : Session → Except Abort Nat × Session} {validates : Bool} {generation : Nat}

/--
How a batch ends, and in which session: all its items were dealt with, or those
before one that brought the batch to an end.
-/
inductive BatchRun
    (nested : Session → Except Abort Nat × Session)
    (validates : Bool)
    (generation : Nat)
    (batch : List PendingRelease)
    (log : List CollectedObject)
    (session : Session) :
    BatchEnd × Session → Prop where
  | completed {log' : List CollectedObject} {last : Session}
      (ran : drainBatch nested validates generation batch log session = (.completed log', last)) :
      BatchRun nested validates generation batch log session (.completed log', last)
  | stopped {done rest : List PendingRelease} {item : PendingRelease}
      {log' : List CollectedObject} {mismatch : Mismatch} {before last : Session}
      (split : batch = done ++ item :: rest)
      (ran : drainBatch nested validates generation done log session = (.completed log', before))
      (ended : drainItem nested validates generation item before = (.stopped mismatch, last)) :
      BatchRun nested validates generation batch log session
        (.stopped log' mismatch, last.requeueFront rest)
  | panicked {done rest : List PendingRelease} {item : PendingRelease}
      {log' : List CollectedObject} {panic : Panic} {before last : Session}
      (split : batch = done ++ item :: rest)
      (ran : drainBatch nested validates generation done log session = (.completed log', before))
      (ended : drainItem nested validates generation item before = (.panicked panic, last)) :
      BatchRun nested validates generation batch log session
        (.panicked panic, (last.abandon item.record).requeueFront rest)

/-- What ends a batch after its first item ends the batch. -/
theorem BatchRun.cons
    {item : PendingRelease}
    {rest : List PendingRelease}
    {log log' : List CollectedObject}
    {result : BatchEnd × Session}
    (continues :
      ∀ batch,
        drainBatch nested validates generation (item :: batch) log session =
          drainBatch nested validates generation batch log' session')
    (run : BatchRun nested validates generation rest log' session' result) :
    BatchRun nested validates generation (item :: rest) log session result := by
  cases run with
  | completed ran => exact .completed ((continues rest).trans ran)
  | @stopped done _ _ _ _ _ _ split ran ended =>
      exact .stopped (congrArg (item :: ·) split) ((continues done).trans ran) ended
  | @panicked done _ _ _ _ _ _ split ran ended =>
      exact .panicked (congrArg (item :: ·) split) ((continues done).trans ran) ended

theorem batchRun_drainBatch
    (nested : Session → Except Abort Nat × Session)
    (validates : Bool)
    (generation : Nat)
    (batch : List PendingRelease)
    (log : List CollectedObject)
    (session : Session) :
    BatchRun nested validates generation batch log session
      (drainBatch nested validates generation batch log session) := by
  induction batch generalizing log session with
  | nil => exact .completed rfl
  | cons item rest step =>
      rw [drainBatch]
      cases ended : drainItem nested validates generation item session with
      | mk outcome session' =>
          cases outcome with
          | skipped =>
              exact .cons (fun batch => by rw [drainBatch, ended]) (step log session')
          | released entry =>
              exact .cons (fun batch => by rw [drainBatch, ended]) (step (log ++ [entry]) session')
          | stopped mismatch => exact .stopped (List.nil_append _).symm rfl ended
          | panicked panic => exact .panicked (List.nil_append _).symm rfl ended

/-- A batch that is completed was dealt with. -/
theorem works_drainBatch
    {hand : Nat}
    {batch rest : List PendingRelease}
    {log log' : List CollectedObject}
    (idles : Idles nested)
    (draining : session.finalizer.draining = true)
    (held : session.Held hand (batch ++ rest))
    (ran : drainBatch nested validates generation batch log session = (.completed log', session')) :
    ∃ added, Works batch added session session' := by
  induction batch generalizing log session with
  | nil =>
      cases ran
      exact ⟨[], .refl _⟩
  | cons item batch step =>
      rcases works_drainItem idles validates generation session draining held with ⟨added, works⟩
      rw [drainBatch] at ran
      generalize drainItem nested validates generation item session = result at works ran
      rcases result with ⟨_ | _ | _ | _, after⟩
      · rcases step (works.draining.trans draining) (works.held hand _ held) ran with
          ⟨added', works'⟩
        exact ⟨added ++ added', works.trans works'⟩
      · rcases step (works.draining.trans draining) (works.held hand _ held) ran with
          ⟨added', works'⟩
        exact ⟨added ++ added', works.trans works'⟩
      · cases ran
      · cases ran

/-! ## Whole drains -/

theorem ownTracker_started
    {hand : Nat}
    (held : session.Held hand []) :
    session.started.ownTracker =
      { session.ownTracker with queue := session.queue.takeSnapshot.2 } :=
  Registry.tracker_updateTracker_self held.there _

theorem held_started
    {hand : Nat}
    (held : session.Held hand []) :
    session.started.Held hand session.queue.items := by
  have taken :
      (⟨session.registry.updateQueue session.tracker fun _ => session.queue.takeSnapshot.2, hand,
        session.queue.items⟩ : Scene).Held session.tracker :=
    held.updateQueue (by simp [queue, ownTracker])
  exact taken

/-- What is told does not change the queue. -/
theorem queue_of_tells
    (tracker : session'.tracker = session.tracker)
    (tells : session.registry.Tells Event.IsPlain session'.registry) :
    session'.queue = session.queue := by
  rw [queue, ownTracker, tracker]
  rcases tells with ⟨_, told, -⟩
  rw [told]
  rfl

/--
A drain took up some items from the front of the queue and put the others back;
what was queued meanwhile comes after these.
-/
structure Drained
    (taken rest added : List PendingRelease)
    (session session' : Session) :
    Prop where
  tracker : session'.tracker = session.tracker
  split : session.queue.items = taken ++ rest
  items : session'.queue.items = rest ++ added
  deferrals :
    session'.registry.deferrals =
      session.registry.deferrals ++ added.map PendingRelease.record
  takeUps :
    session'.registry.takeUps = session.registry.takeUps ++ taken.map PendingRelease.record
  hookRuns : session'.registry.hookRuns = session.registry.hookRuns ++ hookedRecords taken
  held : ∀ hand, session.Held hand [] → session'.Held hand []

namespace Drained

variable {taken rest added : List PendingRelease}

theorem refl (session : Session) : Drained [] session.queue.items [] session session where
  tracker := rfl
  split := rfl
  items := (List.append_nil _).symm
  deferrals := (List.append_nil _).symm
  takeUps := (List.append_nil _).symm
  hookRuns := (List.append_nil _).symm
  held := fun _ => id

/-- What is plain may be told afterwards. -/
theorem of_tells
    (drained : Drained taken rest added session session')
    (tracker : session''.tracker = session'.tracker)
    (tells : session'.registry.Tells Event.IsPlain session''.registry) :
    Drained taken rest added session session'' := by
  have alike := Registry.TellsAlike.of_tells tells
  exact
    { tracker := tracker.trans drained.tracker
      split := drained.split
      items := (congrArg PendingQueue.items (queue_of_tells tracker tells)).trans drained.items
      deferrals := alike.deferrals.trans drained.deferrals
      takeUps := alike.takeUps.trans drained.takeUps
      hookRuns := alike.hookRuns.trans drained.hookRuns
      held := by
        intro hand held
        rw [Held, tracker]
        exact (drained.held hand held).of_tells tells }

/-- The items that were not taken up are put back. -/
theorem of_works
    {hand : Nat}
    (held : session.Held hand [])
    (split : session.queue.items = taken ++ rest)
    (works : Works taken added session.started session') :
    Drained taken rest added session (session'.requeueFront rest) := by
  have there : session'.tracker < session'.registry.trackers.size := by
    have held' := held_started held
    rw [split] at held'
    exact (works.held hand rest held').there
  have after : (session'.requeueFront rest).ownTracker =
      { session'.ownTracker with queue := session'.queue.requeueFront rest } :=
    Registry.tracker_updateTracker_self there _
  have empty : session.started.queue.items = [] := by
    rw [queue, ownTracker_started held]
    rfl
  exact
    { tracker := works.tracker
      split := split
      items := by
        rw [queue, after, PendingQueue.items_requeueFront, works.items, empty, List.nil_append]
      deferrals := works.deferrals
      takeUps := works.takeUps
      hookRuns := works.hookRuns
      held := by
        intro hand held
        have held' := held_started held
        rw [split] at held'
        have back :
            (⟨session'.registry.updateQueue session'.tracker fun queue => queue.requeueFront rest,
              hand, []⟩ : Scene).Held session'.tracker :=
          (works.held hand rest held').updateQueue (by simp)
        exact back }

/-- Nothing is left to put back. -/
theorem of_works_all
    {hand : Nat}
    (held : session.Held hand [])
    (works : Works session.queue.items added session.started session') :
    Drained session.queue.items [] added session session' := by
  have empty : session.started.queue.items = [] := by
    rw [queue, ownTracker_started held]
    rfl
  exact
    { tracker := works.tracker
      split := (List.append_nil _).symm
      items := by rw [works.items, empty]
      deferrals := works.deferrals
      takeUps := works.takeUps
      hookRuns := works.hookRuns
      held := by
        intro hand held
        have held' := held_started held
        rw [← List.append_nil session.queue.items] at held'
        exact works.held hand [] held' }

end Drained

/--
A drain of the session dealt with the items before one, and with that item it
came to an end.
-/
structure EndsAt
    (nested : Session → Except Abort Nat × Session)
    (session : Session)
    (done : List PendingRelease)
    (item : PendingRelease)
    (rest : List PendingRelease)
    (outcome : ItemEnd)
    (last : Session) :
    Prop where
  split : session.queue.items = done ++ item :: rest
  ended :
    ∃ log before,
      drainBatch nested session.finalizer.validates session.queue.generation done []
          session.started = (.completed log, before) ∧
        drainItem nested session.finalizer.validates session.queue.generation item before =
          (outcome, last)

/-- What was dealt with, that item included, was taken up; the others are put back. -/
theorem EndsAt.drained
    {hand : Nat}
    {done rest : List PendingRelease}
    {item : PendingRelease}
    {outcome : ItemEnd}
    {last : Session}
    (endsAt : EndsAt nested session done item rest outcome last)
    (idles : Idles nested)
    (held : session.Held hand []) :
    ∃ added,
      Drained (done ++ [item]) rest added session
        ((concluded item.record (outcome, last)).requeueFront rest) := by
  rcases endsAt.ended with ⟨log, before, ran, ended⟩
  have started := held_started held
  rw [endsAt.split] at started
  rcases works_drainBatch idles rfl started ran with ⟨early, works⟩
  rcases works_drainItem idles session.finalizer.validates session.queue.generation before
    works.draining (works.held hand _ started) with ⟨late, worked⟩
  rw [ended] at worked
  have split : session.queue.items = (done ++ [item]) ++ rest := by
    rw [endsAt.split, List.append_assoc, List.singleton_append]
  exact ⟨early ++ late, .of_works held split (works.trans worked)⟩

/-- A batch that is completed was taken up as a whole. -/
theorem Drained.of_completed
    {hand : Nat}
    {log : List CollectedObject}
    (idles : Idles nested)
    (held : session.Held hand [])
    (ran :
      drainBatch nested session.finalizer.validates session.queue.generation session.queue.items []
          session.started =
        (.completed log, session')) :
    ∃ added, Drained session.queue.items [] added session session' := by
  have started := held_started held
  rw [← List.append_nil session.queue.items] at started
  rcases works_drainBatch idles rfl started ran with ⟨added, works⟩
  exact ⟨added, .of_works_all held works⟩

/-- Reporting the end of a drain changes nothing about the queue. -/
theorem Drained.of_reported
    {taken rest added : List PendingRelease}
    (drained : Drained taken rest added session session')
    (log : List CollectedObject)
    (generation : Nat) :
    Drained taken rest added session
      (if log.isEmpty then (.ok (), session'.finish log)
        else reportCollected log.length generation (session'.finish log)).2 := by
  have finished : Drained taken rest added session (session'.finish log) :=
    drained.of_tells rfl (.refl _)
  exact finished.of_tells
    (Spares.reportCollected_ite log.isEmpty log.length generation (session'.finish log)).tracker
    (tells_reportCollected_ite (fun _ _ _ _ => trivial) log.isEmpty log.length generation
      (session'.finish log))

/-- What a drain does to the queue, and whether it gets through its batch. -/
theorem drained_drain
    {hand : Nat}
    (idles : Idles nested)
    (session : Session)
    (held : session.Held hand []) :
    ∃ taken rest added,
      Drained taken rest added session (session.drain nested).2 ∧
        ∀ count, (session.drain nested).1 = .ok count → rest = [] := by
  have run := batchRun_drainBatch nested session.finalizer.validates session.queue.generation
    session.queue.items [] session.started
  rw [drain_eq]
  generalize drainBatch nested session.finalizer.validates session.queue.generation
    session.queue.items [] session.started = result at run ⊢
  cases run with
  | @completed log last ran =>
      rcases Drained.of_completed idles held ran with ⟨added, drained⟩
      have reported := drained.of_reported log session.queue.generation
      refine ⟨session.queue.items, [], added, ?_, fun _ _ => rfl⟩
      simp only [drainEnd]
      generalize (if log.isEmpty then (.ok (), last.finish log)
        else reportCollected log.length _ (last.finish log)) = result at reported ⊢
      rcases result with ⟨_ | _, session'⟩
      · exact reported.of_tells rfl (.refl _)
      · exact reported.of_tells rfl (.refl _)
  | stopped split ran ended =>
      rcases EndsAt.drained ⟨split, _, _, ran, ended⟩ idles held with ⟨added, drained⟩
      exact ⟨_, _, added, drained.of_tells rfl (.refl _), by simp [drainEnd]⟩
  | panicked split ran ended =>
      rcases EndsAt.drained ⟨split, _, _, ran, ended⟩ idles held with ⟨added, drained⟩
      exact ⟨_, _, added, drained.of_tells rfl (.refl _), by simp [drainEnd]⟩

/--
A callback panicked out of a drain: one for the end of the drain, when the whole
batch was dealt with, or one that was called for an item.
-/
inductive Unwinds
    (nested : Session → Except Abort Nat × Session)
    (session : Session)
    (panic : Panic) :
    Session → Prop where
  | reporting {log : List CollectedObject} {before last : Session}
      (ran :
        drainBatch nested session.finalizer.validates session.queue.generation
            session.queue.items [] session.started =
          (.completed log, before))
      (released : log.isEmpty = false)
      (reported :
        reportCollected log.length session.queue.generation (before.finish log) =
          (.error panic, last)) :
      Unwinds nested session panic (last.setDraining false)
  | dealing {done rest : List PendingRelease} {item : PendingRelease} {last : Session}
      (endsAt : EndsAt nested session done item rest (.panicked panic) last) :
      Unwinds nested session panic
        (((last.abandon item.record).requeueFront rest).setDraining false)

theorem unwinds_drain
    {panic : Panic}
    (panicked : session.drain nested = (.error (.panic panic), session')) :
    Unwinds nested session panic session' := by
  have run := batchRun_drainBatch nested session.finalizer.validates session.queue.generation
    session.queue.items [] session.started
  rw [drain_eq] at panicked
  generalize drainBatch nested session.finalizer.validates session.queue.generation
    session.queue.items [] session.started = result at run panicked
  cases run with
  | @completed log last ran =>
      simp only [drainEnd] at panicked
      cases log with
      | nil => cases panicked
      | cons entry rest =>
          simp only [List.isEmpty_cons, Bool.false_eq_true, if_false] at panicked
          cases reported : reportCollected (entry :: rest).length session.queue.generation
              (last.finish (entry :: rest)) with
          | mk outcome ended =>
              rw [reported] at panicked
              cases outcome with
              | ok _ => cases panicked
              | error _ =>
                  cases panicked
                  exact .reporting ran rfl reported
  | stopped split ran ended => cases panicked
  | panicked split ran ended =>
      cases panicked
      exact .dealing ⟨split, _, _, ran, ended⟩

/-- A drain that is asked for while another one runs leaves everything as it is. -/
theorem drained_collect
    {hand : Nat}
    (held : session.Held hand []) :
    ∃ taken rest added, Drained taken rest added session session.collect.2 := by
  cases running : session.finalizer.draining with
  | true =>
      rw [collect_of_draining session running]
      exact ⟨[], session.queue.items, [], .refl session⟩
  | false =>
      rcases drained_drain (idles_collectWithin 1) session held with
        ⟨taken, rest, added, drained, -⟩
      have started : session.collect = session.drain (collectWithin 1) := by
        simp [collect, collectWithin, running]
      rw [started]
      exact ⟨taken, rest, added, drained⟩

end Custody.Session
