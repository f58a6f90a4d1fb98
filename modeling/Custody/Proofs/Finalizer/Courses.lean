import Custody.Proofs.Finalizer.Routes

/-!
# What a drain settles

The items of a batch take their routes one after another.  A record that was
deferred when one of its items was taken up is settled then: it is released, or
detached if its reference could not be given back.  It is settled once, however
often it is among the items, since it is not deferred any more afterwards.  Other
records are at most deferred meanwhile.

The log names the released records in the order of the batch, and for each of
them one reference was given back, and for no other.
-/

namespace Custody

/-- A record when a drain has settled it. -/
def Record.settledAs (record : Record) (state : RecordState) : Record :=
  { record with state, collected := record.collected || decide (state = .released) }

/-- The state in which a drain leaves the record of an item on a route, if it settles it. -/
def Session.Route.settlements (ref : RecordRef) : Session.Route → List (RecordRef × RecordState)
  | .passed => []
  | .bereft _ => [(ref, .detached)]
  | .released => [(ref, .released)]

namespace Session

variable {session session' session'' hooked between last : Session} {ref : RecordRef}
variable {validates : Bool} {generation : Nat} {item : PendingRelease}
variable {settled settled' : List (RecordRef × RecordState)}

/--
Some records were settled, each of them once, and others may have been deferred.
A reference was given back for each that is released, and for no other.
-/
structure Settles
    (settled : List (RecordRef × RecordState))
    (session session' : Session) :
    Prop where
  size : session'.registry.records.size = session.registry.records.size
  nodup : (settled.map Prod.fst).Nodup
  owned :
    ∀ ref state, (ref, state) ∈ settled →
      (session.record ref).state.owns = true ∧ state.owns = false
  record :
    ∀ ref state, (ref, state) ∈ settled →
      session'.record ref = (session.record ref).settledAs state
  others :
    ∀ ref, ref ∉ settled.map Prod.fst →
      session'.record ref = session.record ref ∨
        (session.record ref).state = .live ∧
          session'.record ref = { session.record ref with state := .deferred }
  drops :
    ∀ ref,
      session'.registry.drops ref =
        session.registry.drops ref + settled.count (ref, .released)

namespace Settles

/-- Whatever else took notes settled nothing. -/
theorem of_notes (notes : session.Notes session') : Settles [] session session' where
  size := notes.size
  nodup := List.nodup_nil
  owned := nofun
  record := nofun
  others := fun ref _ => notes.record ref
  drops := notes.drops

/-- The records are the same, and no reference was given back. -/
theorem of_eq
    (records : session'.registry.records = session.registry.records)
    (drops : ∀ ref, session'.registry.drops ref = session.registry.drops ref) :
    Settles [] session session' where
  size := congrArg Array.size records
  nodup := List.nodup_nil
  owned := nofun
  record := nofun
  others := fun ref _ => .inl (by rw [Session.record, Registry.record, records]; rfl)
  drops := drops

/-- A record that was settled does not own its reference any more. -/
theorem owns_eq_false
    (settles : Settles settled session session')
    (among : ref ∈ settled.map Prod.fst) :
    (session'.record ref).state.owns = false := by
  rcases List.mem_map.mp among with ⟨⟨other, state⟩, listed, rfl⟩
  rw [settles.record other state listed]
  exact (settles.owned other state listed).2

/-- A record that still owns its reference was not settled, though it may have been deferred. -/
theorem others_of_owns
    (settles : Settles settled session session')
    (owns : (session'.record ref).state.owns = true) :
    ref ∉ settled.map Prod.fst ∧
      (session'.record ref = session.record ref ∨
        (session.record ref).state = .live ∧
          session'.record ref = { session.record ref with state := .deferred }) := by
  have apart : ref ∉ settled.map Prod.fst := fun among => by
    rw [settles.owns_eq_false among] at owns
    cases owns
  exact ⟨apart, settles.others ref apart⟩

theorem trans
    (first : Settles settled session session')
    (second : Settles settled' session' session'') :
    Settles (settled ++ settled') session session'' where
  size := second.size.trans first.size
  nodup := by
    rw [List.map_append, List.nodup_append]
    refine ⟨first.nodup, second.nodup, ?_⟩
    rintro ref early _ late rfl
    rcases List.mem_map.mp late with ⟨⟨_, state⟩, listed, rfl⟩
    exact (first.others_of_owns (second.owned _ state listed).1).1 early
  owned := by
    intro ref state among
    rcases List.mem_append.mp among with early | late
    · exact first.owned ref state early
    · rcases second.owned ref state late with ⟨owns, settles⟩
      refine ⟨?_, settles⟩
      rcases (first.others_of_owns owns).2 with same | ⟨live, -⟩
      · rwa [same] at owns
      · rw [live]
        rfl
  record := by
    intro ref state among
    rcases List.mem_append.mp among with early | late
    · rcases first.owned ref state early with ⟨-, spent⟩
      have before := first.record ref state early
      have apart : ref ∉ settled'.map Prod.fst := fun later => by
        rcases List.mem_map.mp later with ⟨⟨_, state'⟩, listed, rfl⟩
        have owns := (second.owned _ state' listed).1
        rw [before] at owns
        exact Bool.eq_false_iff.mp spent owns
      rcases second.others ref apart with same | ⟨live, -⟩
      · exact same.trans before
      · rw [before] at live
        rw [show state = .live from live] at spent
        cases spent
    · rw [second.record ref state late]
      rcases (first.others_of_owns (second.owned ref state late).1).2 with same | ⟨-, deferred⟩
      · rw [same]
      · rw [deferred]
        rfl
  others := by
    intro ref apart
    rw [List.map_append, List.mem_append, not_or] at apart
    rcases first.others ref apart.1 with same | ⟨live, deferred⟩
    · rw [← same]
      exact second.others ref apart.2
    · rcases second.others ref apart.2 with same | ⟨live', -⟩
      · exact .inr ⟨live, same.trans deferred⟩
      · rw [deferred] at live'
        cases live'
  drops := by
    intro ref
    rw [second.drops, first.drops, List.count_append, Nat.add_assoc]

/-- What the log tells of a record stays the same. -/
theorem logged
    (settles : Settles settled session session')
    (generation : Nat)
    (ref : RecordRef) :
    session'.logged generation ref = session.logged generation ref := by
  by_cases among : ref ∈ settled.map Prod.fst
  · rcases List.mem_map.mp among with ⟨⟨_, state⟩, listed, rfl⟩
    rw [Session.logged, settles.record _ state listed, Session.logged]
    rfl
  · rcases settles.others ref among with same | ⟨-, deferred⟩
    · rw [Session.logged, same, Session.logged]
    · rw [Session.logged, deferred, Session.logged]

/-- A deferred record in hand is quarantined. -/
theorem quarantine
    (deferred : (session.record ref).state = .deferred) :
    Settles [(ref, .detached)] session (session.quarantine ref) where
  size := by
    have deferred' : (session.registry.record ref).state = .deferred := deferred
    simp only [Session.quarantine, updateRegistry, Registry.quarantine, if_pos deferred']
    exact Registry.size_alter _ _ _
  nodup := List.nodup_singleton _
  owned := by
    intro other state among
    cases List.mem_singleton.mp among
    exact ⟨congrArg RecordState.owns deferred, rfl⟩
  record := by
    intro other state among
    cases List.mem_singleton.mp among
    rw [record_quarantine deferred, if_pos rfl, Record.settledAs, decide_eq_false (by decide),
      Bool.or_false]
  others := by
    intro other apart
    rw [record_quarantine deferred, if_neg fun same => apart (by simp [same])]
    exact .inl rfl
  drops := by
    intro other
    simp [Session.quarantine, updateRegistry, Registry.drops]

/-- A deferred record in hand is marked after its reference was given back. -/
theorem complete
    {interp : Interpreter}
    (deferred : (between.record ref).state = .deferred)
    (told : ({ between with interp }.enter (.dropped ref)).Notes last)
    (generation : Nat) :
    Settles [(ref, .released)] between (last.complete generation ref).2 := by
  have deferred' : (last.registry.record ref).state = .deferred := told.deferred deferred
  have marked (other : RecordRef) :
      (last.complete generation ref).2.record other =
        if other = ref then
          { last.record ref with state := .released, collected := true }
        else
          last.record other :=
    Registry.record_completeRelease last.tracker deferred' other
  refine ⟨?_, List.nodup_singleton _, ?_, ?_, ?_, ?_⟩
  · exact (Registry.size_alter _ _ _).trans told.size
  · intro other state among
    cases List.mem_singleton.mp among
    exact ⟨congrArg RecordState.owns deferred, rfl⟩
  · intro other state among
    cases List.mem_singleton.mp among
    have same : last.record ref = between.record ref := by
      rcases told.record ref with same | ⟨live, -⟩
      · exact same
      · cases (show (between.record ref).state = .live from live).symm.trans deferred
    rw [marked, if_pos rfl, same, Record.settledAs, decide_eq_true rfl, Bool.or_true]
  · intro other apart
    rw [marked, if_neg fun same => apart (by simp [same])]
    exact told.record other
  · intro other
    have drops : (last.complete generation ref).2.registry.drops other =
        last.registry.drops other := rfl
    rw [drops, told.drops]
    refine (Registry.drops_enter between.registry _ _).trans ?_
    by_cases same : ref = other
    · subst same
      simp
    · rw [if_neg fun told => same (Event.dropped.inj told), List.count_eq_zero.mpr]
      intro among
      exact same (congrArg Prod.fst (List.mem_singleton.mp among)).symm

end Settles

/-! ## One item -/

theorem Clears.deferred
    (clears : Clears validates ref session session')
    (draining : session.finalizer.draining = true)
    (deferred : (session.record ref).state = .deferred) :
    (session'.record ref).state = .deferred :=
  (clears.notes draining).deferred deferred

theorem Hooks.quiet (hooks : Hooks item session hooked) : session.Quiet hooked :=
  .of_hook hooks

theorem Clears.quiet
    (clears : Clears validates ref session session')
    (draining : session.finalizer.draining = true) :
    session.Quiet session' :=
  .of_check clears idles_idling draining

theorem Reports.quiet
    {record : Option RecordRef}
    {error : BridgeError}
    (reports : Reports record error session session') :
    session.Quiet session' := by
  have reported := Quiet.report record error session
  rwa [reports.returned] at reported

theorem Reports.notes
    {record : Option RecordRef}
    {error : BridgeError}
    {fault : Fault}
    (reports : Reports record error (session.enter (.fault fault)) session')
    (isNote : (Event.fault fault).IsNote) :
    session.Notes session' :=
  .of_report reports.returned isNote

theorem Declines.quiet
    {mismatch : Mismatch}
    {resolvers : List Resolver}
    (declines : Declines mismatch resolvers session session')
    (draining : session.finalizer.draining = true) :
    session.Quiet session' := by
  have offered : session.Quiet _ :=
    Resolving.offer (by intros; rfl) idles_idling mismatch resolvers session draining
  rwa [declines.returned] at offered

theorem Declines.notes
    {mismatch : Mismatch}
    {resolvers : List Resolver}
    (declines : Declines mismatch resolvers session session')
    (draining : session.finalizer.draining = true) :
    session.Notes session' := by
  have offered : session.Notes _ :=
    Resolving.offer (fun _ _ _ => trivial) idles_idling mismatch resolvers session draining
  rwa [declines.returned] at offered

theorem Quiet.quarantine
    (session : Session)
    (ref : RecordRef) :
    session.Quiet (session.quarantine ref) :=
  .of_eq rfl rfl (Registry.journal_quarantine _ _ _)

/-- That the reference of an item could not be given back is reported. -/
theorem Deals.reports
    {reason : HeapError}
    (deals : Deals validates generation item session (.bereft reason) last)
    (draining : session.finalizer.draining = true) :
    ∃ moment,
      session.Quiet moment ∧ Reports (some item.record) (.heap reason) moment last := by
  cases deals with
  | bereft hooks deferred clears gone reports =>
      have before := hooks.quiet.trans (clears.quiet (hooks.quiet.draining.trans draining))
      exact ⟨_, (before.trans (.quarantine _ _)).trans (.enter _ rfl), reports⟩

/-- No item is the end of a drain. -/
theorem Deals.quiet
    {route : Route}
    (deals : Deals validates generation item session route last)
    (draining : session.finalizer.draining = true) :
    session.Quiet last := by
  cases route with
  | passed =>
      cases deals with
      | passed hooks settled spared => exact hooks.quiet
  | bereft reason =>
      rcases deals.reports draining with ⟨moment, quiet, reports⟩
      exact quiet.trans reports.quiet
  | released =>
      cases deals with
      | @released hooked between last remaining interp hooks deferred clears gaveBack checked =>
          have before := hooks.quiet.trans (clears.quiet (hooks.quiet.draining.trans draining))
          have gave : between.Quiet ({ between with interp }.enter (.dropped item.record)) :=
            ⟨rfl, rfl, [.dropped item.record], rfl, by simp [Event.tellsEnd]⟩
          exact ((before.trans gave).trans (.of_recheck checked)).trans (.of_eq rfl rfl rfl)

/-- What the route of an item does to the records. -/
theorem Deals.settles
    {route : Route}
    (deals : Deals validates generation item session route last)
    (draining : session.finalizer.draining = true) :
    Settles (route.settlements item.record) session last := by
  cases deals with
  | passed hooks settled spared => exact .of_notes hooks.notes
  | bereft hooks deferred clears gone reports =>
      have still := hooks.notes.draining.trans draining
      have before := hooks.notes.trans (clears.notes still)
      have told := (Settles.quarantine (clears.deferred still deferred)).trans
        (.of_notes (reports.notes (by simp)))
      exact (Settles.of_notes before).trans told
  | @released hooked between last remaining interp hooks deferred clears gaveBack checked =>
      have still := hooks.notes.draining.trans draining
      have before := hooks.notes.trans (clears.notes still)
      exact (Settles.of_notes before).trans
        (.complete (clears.deferred still deferred) (.of_recheck checked) generation)

/-! ## A batch -/

/-- The items of a batch, one after another, each dealt with on its route. -/
inductive Course
    (validates : Bool)
    (generation : Nat) :
    List (PendingRelease × Route) → Session → Session → Prop where
  | nil (session : Session) : Course validates generation [] session session
  | cons {item : PendingRelease} {route : Route} {rest : List (PendingRelease × Route)}
      {session between session' : Session}
      (deals : Deals validates generation item session route between)
      (later : Course validates generation rest between session') :
      Course validates generation ((item, route) :: rest) session session'

/-- The records that are released in the course of a batch, in the order of the batch. -/
def freed (course : List (PendingRelease × Route)) : List RecordRef :=
  (course.filter fun entry => entry.2 = .released).map fun entry => entry.1.record

/-- The records that are settled in the course of a batch, with the state in which they are left. -/
def settlements (course : List (PendingRelease × Route)) : List (RecordRef × RecordState) :=
  course.flatMap fun entry => entry.2.settlements entry.1.record

variable {course : List (PendingRelease × Route)}

theorem freed_cons
    (item : PendingRelease)
    (route : Route)
    (course : List (PendingRelease × Route)) :
    freed ((item, route) :: course) =
      (if route = .released then [item.record] else []) ++ freed course := by
  by_cases released : route = .released
  · simp [freed, released]
  · simp [freed, released]

theorem count_settlements
    (course : List (PendingRelease × Route))
    (ref : RecordRef) :
    (settlements course).count (ref, .released) = (freed course).count ref := by
  induction course with
  | nil => rfl
  | cons entry rest step =>
      rcases entry with ⟨item, route⟩
      have cons : settlements ((item, route) :: rest) =
          route.settlements item.record ++ settlements rest := rfl
      rw [cons, freed_cons, List.count_append, List.count_append, step]
      cases route with
      | passed => rfl
      | bereft reason => simp [Route.settlements]
      | released => simp [Route.settlements, List.count_singleton]

theorem mem_settlements_of_bereft
    {reason : HeapError}
    (among : (item, .bereft reason) ∈ course) :
    (item.record, .detached) ∈ settlements course :=
  List.mem_flatMap.mpr ⟨_, among, List.mem_singleton_self _⟩

theorem map_fst_settlements (course : List (PendingRelease × Route)) :
    (settlements course).map Prod.fst =
      (course.filter fun entry => entry.2 ≠ .passed).map fun entry => entry.1.record := by
  induction course with
  | nil => rfl
  | cons entry rest step =>
      rcases entry with ⟨item, route⟩
      have cons : settlements ((item, route) :: rest) =
          route.settlements item.record ++ settlements rest := rfl
      rw [cons, List.map_append, step]
      cases route with
      | passed => rfl
      | bereft reason => simp [Route.settlements]
      | released => rfl

theorem Course.quiet
    (ran : Course validates generation course session session')
    (draining : session.finalizer.draining = true) :
    session.Quiet session' := by
  induction ran with
  | nil session => exact .refl session
  | cons deals later step =>
      have first := deals.quiet draining
      exact first.trans (step (first.draining.trans draining))

theorem Course.settles
    (ran : Course validates generation course session session')
    (draining : session.finalizer.draining = true) :
    Settles (settlements course) session session' := by
  induction ran with
  | nil session => exact .of_notes (.refl session)
  | cons deals later step =>
      exact (deals.settles draining).trans
        (step ((deals.quiet draining).draining.trans draining))

/-- Whenever a reference could not be given back, that was reported in the course of the batch. -/
theorem Course.reports
    {reason : HeapError}
    (ran : Course validates generation course session session')
    (draining : session.finalizer.draining = true)
    (among : (item, .bereft reason) ∈ course) :
    ∃ moment later,
      Reports (some item.record) (.heap reason) moment later ∧
        session.registry.journal <+: moment.registry.journal ∧
          later.registry.journal <+: session'.registry.journal := by
  induction ran with
  | nil session => cases among
  | cons deals later step =>
      have first := deals.quiet draining
      have still := first.draining.trans draining
      rcases List.mem_cons.mp among with same | among'
      · cases same
        rcases deals.reports draining with ⟨moment, quiet, reports⟩
        exact ⟨moment, _, reports, quiet.grows, (later.quiet still).grows⟩
      · rcases step still among' with ⟨moment, after, reports, since, upTo⟩
        exact ⟨moment, after, reports, first.grows.trans since, upTo⟩

/-- A batch that is completed took a course, and the log names what was released in it. -/
theorem course_drainBatch
    {batch : List PendingRelease}
    {log log' : List CollectedObject}
    (draining : session.finalizer.draining = true)
    (ran : drainBatch idling validates generation batch log session = (.completed log', session')) :
    ∃ course,
      course.map Prod.fst = batch ∧
        Course validates generation course session session' ∧
          log' = log ++ (freed course).map (session.logged generation) := by
  induction batch generalizing log session with
  | nil =>
      cases ran
      exact ⟨[], rfl, .nil _, (List.append_nil _).symm⟩
  | cons item rest step =>
      have passage := passage_drainItem validates generation item session draining
      rw [drainBatch] at ran
      generalize drainItem idling validates generation item session = result at passage ran
      cases passage with
      | @deals route between deals =>
          have settles := deals.settles draining
          have still := (deals.quiet draining).draining.trans draining
          have extended {before : List CollectedObject}
              (ran : drainBatch idling validates generation rest before between =
                (.completed log', session'))
              (grown : before = log ++ (if route = .released then [item.record] else []).map
                (session.logged generation)) :
              ∃ course,
                course.map Prod.fst = item :: rest ∧
                  Course validates generation course session session' ∧
                    log' = log ++ (freed course).map (session.logged generation) := by
            rcases step still ran with ⟨course, split, took, total⟩
            have same : (freed course).map (between.logged generation) =
                (freed course).map (session.logged generation) :=
              List.map_congr_left fun ref _ => settles.logged generation ref
            refine ⟨(item, route) :: course, congrArg (item :: ·) split, .cons deals took, ?_⟩
            rw [total, same, grown, freed_cons, List.map_append, List.append_assoc]
          cases route with
          | passed => exact extended ran (List.append_nil log).symm
          | bereft reason => exact extended ran (by simp)
          | released => exact extended ran rfl
      | stops => cases ran
      | panics => cases ran

end Session

end Custody
