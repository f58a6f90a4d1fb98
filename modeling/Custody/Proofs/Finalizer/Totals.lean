import Custody.Proofs.Finalizer.Batches
import Custody.Proofs.Finalizer.Handling
import Mathlib.Data.Finset.Card

/-!
# The totals of a drain

A drain marks the records that it releases one by one, and adds their number to
the total when its batch has come to an end.  A callback that panics before that
leaves the total behind what was marked.

Each error is counted where it is told, except a mismatch that stops a drain,
which is counted at the end of the drain.
-/

namespace Custody

namespace Registry

variable {registry registry' : Registry} {ref : RecordRef}

/-- How many records drains have marked as collected. -/
def collected (registry : Registry) : Nat :=
  registry.records.countP Record.collected

/-- Whatever was collected is released. -/
def Sealed (registry : Registry) : Prop :=
  ∀ ref, (registry.record ref).collected = true → (registry.record ref).state = .released

theorem collected_eq_card (registry : Registry) :
    registry.collected =
      ((Finset.range registry.records.size).filter fun ref =>
        (registry.record ref).collected = true).card := by
  rw [collected, ← Array.countP_toList, toList_records, List.countP_map,
    List.countP_eq_length_filter, ← List.toFinset_card_of_nodup (List.nodup_range.filter _)]
  congr 1
  ext ref
  simp

theorem collected_congr
    (size : registry'.records.size = registry.records.size)
    (same : ∀ ref, (registry'.record ref).collected = (registry.record ref).collected) :
    registry'.collected = registry.collected := by
  rw [collected_eq_card, collected_eq_card, size]
  simp only [same]

/-- One more record was marked. -/
theorem collected_succ
    (size : registry'.records.size = registry.records.size)
    (inside : ref < registry.records.size)
    (unmarked : (registry.record ref).collected = false)
    (marked : (registry'.record ref).collected = true)
    (others : ∀ other ≠ ref, registry'.record other = registry.record other) :
    registry'.collected = registry.collected + 1 := by
  have grown :
      ((Finset.range registry.records.size).filter fun other =>
          (registry'.record other).collected = true) =
        insert ref ((Finset.range registry.records.size).filter fun other =>
          (registry.record other).collected = true) := by
    ext other
    by_cases same : other = ref
    · simp [same, marked, inside]
    · simp [same, others other same]
  rw [collected_eq_card, collected_eq_card, size, grown, Finset.card_insert_of_notMem]
  simp [unmarked]

/-- A deferred record in hand is released and marked, and no other record is touched. -/
theorem record_completeRelease
    (tracker : TrackerRef)
    (deferred : (registry.record ref).state = .deferred)
    (other : RecordRef) :
    (registry.completeRelease tracker ref).record other =
      if other = ref then
        { registry.record ref with state := .released, collected := true }
      else
        registry.record other := by
  refine (record_alter registry ref other _).trans ?_
  by_cases same : other = ref
  · subst same
    simp [lt_size_of_owns (congrArg RecordState.owns deferred), deferred]
  · simp [same]

theorem collected_addRecord
    (registry : Registry)
    (tracker : TrackerRef)
    (handle : Handle)
    (typeName : String) :
    (registry.addRecord tracker handle typeName).2.collected = registry.collected := by
  simp [collected, addRecord, updateTracker]

namespace Sealed

/-- No record that still owns its reference was collected. -/
theorem collected_of_owns
    (isSealed : registry.Sealed)
    (owns : (registry.record ref).state.owns = true) :
    (registry.record ref).collected = false := by
  by_contra marked
  rw [isSealed ref (by simpa using marked)] at owns
  cases owns

theorem of_records
    (isSealed : registry.Sealed)
    (records : registry'.records = registry.records) :
    registry'.Sealed := by
  intro ref
  rw [record, records]
  exact isSealed ref

/-- A record that owns its reference is changed without being marked. -/
theorem alter
    {change : Record → Record}
    (isSealed : registry.Sealed)
    (owns : (registry.record ref).state.owns = true)
    (kept : ∀ record, (change record).collected = record.collected) :
    (registry.alter ref change).Sealed ∧
      (registry.alter ref change).collected = registry.collected := by
  have same (other : RecordRef) :
      ((registry.alter ref change).record other).collected =
        (registry.record other).collected :=
    registry.read_alter Record.collected ref other kept
  refine ⟨fun other marked => ?_, collected_congr (size_alter _ _ _) same⟩
  have distinct : other ≠ ref := by
    rintro rfl
    rw [same, isSealed.collected_of_owns owns] at marked
    cases marked
  rw [same] at marked
  rw [record_alter, if_neg fun both => distinct both.1]
  exact isSealed other marked

theorem addRecord
    (isSealed : registry.Sealed)
    (tracker : TrackerRef)
    (handle : Handle)
    (typeName : String) :
    (registry.addRecord tracker handle typeName).2.Sealed := by
  intro ref marked
  rcases Nat.lt_trichotomy ref registry.records.size with inside | rfl | outside
  · rw [record_addRecord_of_lt inside] at marked ⊢
    exact isSealed ref marked
  · simp [Registry.addRecord, updateTracker, record_eq] at marked
  · have nowhere : (registry.records.push
        ⟨(registry.tracker tracker).nextId, handle, typeName,
          (registry.tracker tracker).queue.generation, .live, false⟩)[ref]? = none :=
      Array.getElem?_eq_none (by rw [Array.size_push]; exact outside)
    rw [record_eq] at marked
    simp only [Registry.addRecord, updateTracker, nowhere] at marked
    cases marked

/-- A deferred record in hand is quarantined. -/
theorem quarantine
    (isSealed : registry.Sealed)
    (tracker : TrackerRef)
    (ref : RecordRef) :
    (registry.quarantine tracker ref).Sealed ∧
      (registry.quarantine tracker ref).collected = registry.collected := by
  rw [Registry.quarantine]
  split
  · next deferred =>
      have kept (record : Record) :
          ({ record with state := .detached } : Record).collected = record.collected := rfl
      have altered := isSealed.alter (congrArg RecordState.owns deferred) kept
      exact ⟨altered.1.of_records rfl, altered.2⟩
  · exact ⟨isSealed.of_records rfl, rfl⟩

/-- A deferred record in hand is marked. -/
theorem completeRelease
    (isSealed : registry.Sealed)
    (tracker : TrackerRef)
    (deferred : (registry.record ref).state = .deferred) :
    (registry.completeRelease tracker ref).Sealed ∧
      (registry.completeRelease tracker ref).collected = registry.collected + 1 := by
  have owns : (registry.record ref).state.owns = true := congrArg RecordState.owns deferred
  have inside := lt_size_of_owns owns
  have after := record_completeRelease tracker deferred
  constructor
  · intro other marked
    rw [after] at marked ⊢
    split at marked
    · next same => rw [if_pos same]
    · next apart =>
        rw [if_neg apart]
        exact isSealed other marked
  · have size : (registry.completeRelease tracker ref).records.size = registry.records.size :=
      size_alter _ _ _
    apply collected_succ size inside (isSealed.collected_of_owns owns)
    · rw [after, if_pos rfl]
    · intro other apart
      rw [after, if_neg apart]

end Sealed

end Registry

namespace Session

variable {session session' session'' : Session} {ref : RecordRef} {generation : Nat}

/-! ## Items -/

/--
Some items were handled without bringing the drain to an end, and so many of them
were released.
-/
structure Handled (count : Nat) (session session' : Session) : Prop where
  draining : session'.finalizer.draining = session.finalizer.draining
  released : session'.finalizer.released = session.finalizer.released
  counted :
    session'.finalizer.errors + session.registry.faults =
      session.finalizer.errors + session'.registry.faults
  mismatches : session'.registry.mismatches = session.registry.mismatches
  journal : session.registry.journal <+: session'.registry.journal
  marked :
    session.registry.Sealed →
      session'.registry.Sealed ∧
        session'.registry.collected = session.registry.collected + count

namespace Handled

variable {count count' : Nat}

theorem refl (session : Session) : session.Handled 0 session :=
  ⟨rfl, rfl, rfl, rfl, List.prefix_rfl, fun isSealed => ⟨isSealed, rfl⟩⟩

theorem trans
    (first : session.Handled count session')
    (second : session'.Handled count' session'') :
    session.Handled (count + count') session'' where
  draining := second.draining.trans first.draining
  released := second.released.trans first.released
  counted := by
    have before := first.counted
    have after := second.counted
    omega
  mismatches := second.mismatches.trans first.mismatches
  journal := first.journal.trans second.journal
  marked := by
    intro isSealed
    rcases first.marked isSealed with ⟨between, before⟩
    rcases second.marked between with ⟨sealed', after⟩
    exact ⟨sealed', by rw [after, before, Nat.add_assoc]⟩

/-- Only live records were changed, which were not collected. -/
theorem of_notes (notes : session.Notes session') : session.Handled 0 session' where
  draining := notes.draining
  released := notes.released
  counted := notes.counted
  mismatches := notes.mismatches
  journal := by
    rcases notes.journal with ⟨events, grown, -⟩
    exact ⟨events, grown.symm⟩
  marked := by
    have same (ref : RecordRef) :
        (session'.registry.record ref).collected = (session.registry.record ref).collected := by
      rcases notes.record ref with kept | ⟨-, deferred⟩
      · exact congrArg Record.collected kept
      · have flag := congrArg Record.collected deferred
        exact flag
    intro isSealed
    refine ⟨fun ref marked => ?_, Registry.collected_congr notes.size same⟩
    rcases notes.record ref with kept | ⟨live, -⟩
    · rw [same] at marked
      exact (congrArg Record.state kept).trans (isSealed ref marked)
    · have owns : (session.registry.record ref).state.owns = true :=
        congrArg RecordState.owns live
      rw [same, isSealed.collected_of_owns owns] at marked
      cases marked

theorem quarantine
    (session : Session)
    (ref : RecordRef) :
    session.Handled 0 (session.quarantine ref) where
  draining := rfl
  released := rfl
  counted := by
    simp [Session.quarantine, updateRegistry, Registry.faults]
  mismatches := by
    simp [Session.quarantine, updateRegistry, Registry.mismatches]
  journal := by
    simp [Session.quarantine, updateRegistry]
  marked := fun isSealed => isSealed.quarantine session.tracker ref

theorem abandon
    (session : Session)
    (ref : RecordRef) :
    session.Handled 0 (session.abandon ref) := by
  rw [Session.abandon]
  split
  · exact quarantine session ref
  · exact refl session

theorem dropped
    (interp : Interpreter)
    (session : Session)
    (ref : RecordRef) :
    session.Handled 0 ({ session with interp }.enter (.dropped ref)) where
  draining := rfl
  released := rfl
  counted := by simp [enter, updateRegistry, Event.isFault]
  mismatches := by simp [enter, updateRegistry, Event.isMismatch]
  journal := List.prefix_append _ _
  marked := fun isSealed => ⟨isSealed.of_records rfl, rfl⟩

theorem complete
    (generation : Nat)
    (deferred : (session.record ref).state = .deferred) :
    session.Handled 1 (session.complete generation ref).2 where
  draining := rfl
  released := rfl
  counted := rfl
  mismatches := rfl
  journal := List.prefix_rfl
  marked := fun isSealed => isSealed.completeRelease session.tracker deferred

end Handled

/-- How many records were released when an item was handled. -/
def ItemEnd.releases : ItemEnd → Nat
  | .released _ => 1
  | _ => 0

/-- An item that does not stop the drain for its mismatch. -/
theorem Handles.handled
    {outcome : ItemEnd}
    {last : Session}
    (handles : Handles generation ref session (outcome, last))
    (continues : ∀ mismatch, outcome ≠ .stopped mismatch) :
    session.Handled outcome.releases last := by
  cases handles with
  | interrupted notes => exact .of_notes notes
  | passed notes settled => exact .of_notes notes
  | @stopped mismatch => exact absurd rfl (continues mismatch)
  | @bereft _ between _ notes deferred told ended =>
      have handled := ((Handled.of_notes notes).trans (.quarantine between ref)).trans
        (.of_notes told)
      rcases ended with rfl | ⟨panic, rfl⟩
      · exact handled
      · exact handled
  | exposed notes deferred told short =>
      exact ((Handled.of_notes notes).trans (.dropped _ _ ref)).trans (.of_notes told)
  | released notes deferred told =>
      have handled := ((Handled.of_notes notes).trans (.dropped _ _ ref)).trans (.of_notes told)
      exact handled.trans (.complete generation (told.deferred deferred))

/-! ## Batches -/

/-- Whatever is logged was released. -/
theorem handled_drainBatch
    {validates : Bool}
    {batch : List PendingRelease}
    {log log' : List CollectedObject}
    (draining : session.finalizer.draining = true)
    (ran : drainBatch idling validates generation batch log session = (.completed log', session')) :
    ∃ count, log'.length = log.length + count ∧ session.Handled count session' := by
  induction batch generalizing log session with
  | nil =>
      cases ran
      exact ⟨0, rfl, .refl _⟩
  | cons item rest step =>
      have handles := handles_drainItem idles_idling validates generation item session draining
      rw [drainBatch] at ran
      generalize drainItem idling validates generation item session = result at handles ran
      rcases result with ⟨_ | entry | _ | _, between⟩
      · have handled := handles.handled (by simp)
        rcases step (handled.draining.trans draining) ran with ⟨count, total, later⟩
        exact ⟨0 + count, by rw [total, Nat.zero_add], handled.trans later⟩
      · have handled := handles.handled (by simp)
        rcases step (handled.draining.trans draining) ran with ⟨count, total, later⟩
        refine ⟨1 + count, ?_, handled.trans later⟩
        rw [total, List.length_append, List.length_singleton, Nat.add_assoc]
      · cases ran
      · cases ran

theorem draining_drainBatch
    {validates : Bool}
    {batch : List PendingRelease}
    {log log' : List CollectedObject}
    (draining : session.finalizer.draining = true)
    (ran : drainBatch idling validates generation batch log session = (.completed log', session')) :
    session'.finalizer.draining = true := by
  rcases handled_drainBatch draining ran with ⟨count, -, handled⟩
  exact handled.draining.trans draining

/-- A batch goes on from where the first of its items left it. -/
theorem drainBatch_append
    {nested : Session → Except Abort Nat × Session}
    {validates : Bool}
    {done : List PendingRelease}
    {log log' : List CollectedObject}
    (rest : List PendingRelease)
    (ran : drainBatch nested validates generation done log session = (.completed log', session')) :
    drainBatch nested validates generation (done ++ rest) log session =
      drainBatch nested validates generation rest log' session' := by
  induction done generalizing log session with
  | nil =>
      cases ran
      rfl
  | cons item done step =>
      rw [List.cons_append, drainBatch]
      rw [drainBatch] at ran
      generalize drainItem nested validates generation item session = result at ran ⊢
      rcases result with ⟨_ | entry | _ | _, between⟩
      · exact step ran
      · exact step ran
      · cases ran
      · cases ran

/-! ## Whole drains -/

/--
A drain of the session was cut short by a callback that panicked while an item
was handled, when the records in the log had been released.
-/
def Loses (session : Session) (log : List CollectedObject) : Prop :=
  ∃ done item rest panic before last,
    session.queue.items = done ++ item :: rest ∧
      drainBatch idling session.finalizer.validates session.queue.generation done []
          session.started = (.completed log, before) ∧
        drainItem idling session.finalizer.validates session.queue.generation item before =
          (.panicked panic, last)

/-- How many mismatches a drain returned. -/
def mismatchesIn : Except Abort Nat → Nat
  | .error (.error _) => 1
  | _ => 0

/-- How a drain ends, and in which session, if no other one is running. -/
inductive DrainRun (session : Session) : Except Abort Nat × Session → Prop where
  /-- It got through its batch, and reported that. -/
  | completed {log : List CollectedObject} {outcome : Except Abort Nat} {last ended : Session}
      (ran :
        drainBatch idling session.finalizer.validates session.queue.generation
            session.queue.items [] session.started =
          (.completed log, last))
      (reported : (last.finish log).Notes ended)
      (plain : mismatchesIn outcome = 0) :
      DrainRun session (outcome, ended.setDraining false)
  /-- A mismatch stopped it. -/
  | stopped {done rest : List PendingRelease} {item : PendingRelease}
      {log : List CollectedObject} {mismatch : Mismatch} {before last : Session}
      (split : session.queue.items = done ++ item :: rest)
      (ran :
        drainBatch idling session.finalizer.validates session.queue.generation done []
            session.started =
          (.completed log, before))
      (ended :
        drainItem idling session.finalizer.validates session.queue.generation item before =
          (.stopped mismatch, last)) :
      DrainRun session
        (.error (.error (.incorrectRefCount mismatch)),
          (((last.requeueFront rest).finish log).updateFinalizer
            Finalizer.countError).setDraining false)
  /-- A callback panicked out of it while an item was handled. -/
  | panicked {done rest : List PendingRelease} {item : PendingRelease}
      {log : List CollectedObject} {panic : Panic} {before last : Session}
      (split : session.queue.items = done ++ item :: rest)
      (ran :
        drainBatch idling session.finalizer.validates session.queue.generation done []
            session.started =
          (.completed log, before))
      (ended :
        drainItem idling session.finalizer.validates session.queue.generation item before =
          (.panicked panic, last)) :
      DrainRun session
        (.error (.panic panic), ((last.abandon item.record).requeueFront rest).setDraining false)

theorem drainRun_collect (idle : session.finalizer.draining = false) :
    DrainRun session session.collect := by
  have run := batchRun_drainBatch idling session.finalizer.validates session.queue.generation
    session.queue.items [] session.started
  rw [collect_eq_drain idles_idling idle, drain_eq]
  generalize drainBatch idling session.finalizer.validates session.queue.generation
    session.queue.items [] session.started = result at run ⊢
  cases run with
  | @completed log last ran =>
      have reported := Notes.reportCollected_ite log.isEmpty log.length session.queue.generation
        (last.finish log)
      simp only [drainEnd]
      generalize (if log.isEmpty then (.ok (), last.finish log)
        else reportCollected log.length session.queue.generation (last.finish log)) = result
        at reported ⊢
      rcases result with ⟨_ | _, ended⟩
      · exact .completed ran reported rfl
      · exact .completed ran reported rfl
  | stopped split ran ended => exact .stopped split ran ended
  | panicked split ran ended => exact .panicked split ran ended

/--
What a drain does to the totals: each error is counted once, a mismatch that
stopped the drain is returned, and of the records that were marked so many are
missing in the total.
-/
structure Totals
    (missing : Nat)
    (session : Session)
    (result : Except Abort Nat × Session) :
    Prop where
  draining : result.2.finalizer.draining = session.finalizer.draining
  counted :
    result.2.finalizer.errors + session.registry.faults =
      session.finalizer.errors + result.2.registry.faults
  mismatches :
    result.2.registry.mismatches = session.registry.mismatches + mismatchesIn result.1
  journal : session.registry.journal <+: result.2.registry.journal
  marked :
    session.registry.Sealed →
      result.2.registry.Sealed ∧
        result.2.finalizer.released + session.registry.collected + missing =
          session.finalizer.released + result.2.registry.collected

theorem draining_started (session : Session) : session.started.finalizer.draining = true :=
  rfl

/-- A drain that got through its batch, up to the report. -/
theorem Totals.of_completed
    {last ended : Session}
    {log : List CollectedObject}
    {outcome : Except Abort Nat}
    (idle : session.finalizer.draining = false)
    (ran :
      drainBatch idling session.finalizer.validates session.queue.generation session.queue.items []
        session.started = (.completed log, last))
    (reported : (last.finish log).Notes ended)
    (plain : mismatchesIn outcome = 0) :
    Totals 0 session (outcome, ended.setDraining false) := by
  rcases handled_drainBatch (draining_started session) ran with ⟨count, total, handled⟩
  have told := Handled.of_notes reported
  have counted : last.finalizer.errors + session.registry.faults =
      session.finalizer.errors + last.registry.faults := handled.counted
  have counted' : ended.finalizer.errors + last.registry.faults =
      last.finalizer.errors + ended.registry.faults := told.counted
  have mismatches : last.registry.mismatches = session.registry.mismatches := handled.mismatches
  have mismatches' : ended.registry.mismatches = last.registry.mismatches := told.mismatches
  refine ⟨idle.symm, ?_, ?_, handled.journal.trans told.journal, fun isSealed => ?_⟩
  · show ended.finalizer.errors + _ = _ + ended.registry.faults
    omega
  · rw [plain]
    exact mismatches'.trans mismatches
  · rcases handled.marked (isSealed.of_records rfl) with ⟨between, marked⟩
    rcases told.marked between with ⟨isSealed', marked'⟩
    have before : last.registry.collected = session.registry.collected + count := marked
    have after : ended.registry.collected = last.registry.collected := marked'
    have published : ended.finalizer.released = last.finalizer.released + log.length :=
      told.released
    have unpublished : last.finalizer.released = session.finalizer.released := handled.released
    refine ⟨isSealed', ?_⟩
    show ended.finalizer.released + _ + 0 = _ + ended.registry.collected
    rw [List.length_nil] at total
    omega

/-- A drain that a mismatch stopped. -/
theorem Totals.of_stopped
    {done rest : List PendingRelease}
    {item : PendingRelease}
    {log : List CollectedObject}
    {mismatch : Mismatch}
    {before last : Session}
    (idle : session.finalizer.draining = false)
    (ran :
      drainBatch idling session.finalizer.validates session.queue.generation done []
        session.started = (.completed log, before))
    (ended :
      drainItem idling session.finalizer.validates session.queue.generation item before =
        (.stopped mismatch, last)) :
    Totals 0 session
      (.error (.error (.incorrectRefCount mismatch)),
        (((last.requeueFront rest).finish log).updateFinalizer
          Finalizer.countError).setDraining false) := by
  rcases handled_drainBatch (draining_started session) ran with ⟨count, total, handled⟩
  have draining := handled.draining.trans (draining_started session)
  have handles := handles_drainItem idles_idling session.finalizer.validates
    session.queue.generation item before draining
  rw [ended] at handles
  cases handles with
  | bereft notes deferred told outcome =>
      rcases outcome with same | ⟨panic, same⟩
      · cases same
      · cases same
  | @stopped _ between notes deferred =>
      have reached := (handled.trans (.of_notes notes)).trans (.quarantine between item.record)
      have counted :
          (between.quarantine item.record).finalizer.errors + session.registry.faults =
            session.finalizer.errors + (between.quarantine item.record).registry.faults :=
        reached.counted
      have mismatches :
          (between.quarantine item.record).registry.mismatches = session.registry.mismatches :=
        reached.mismatches
      refine ⟨idle.symm, ?_, ?_, reached.journal.trans (List.prefix_append _ _), fun isSealed => ?_⟩
      · show (between.quarantine item.record).finalizer.errors + 1 + _ =
          _ + ((between.quarantine item.record).registry.enter _).faults
        rw [Registry.faults_enter]
        simp only [Event.isFault, if_true]
        omega
      · show ((between.quarantine item.record).registry.enter _).mismatches = _
        rw [Registry.mismatches_enter, mismatches]
        rfl
      · rcases reached.marked (isSealed.of_records rfl) with ⟨isSealed', marked⟩
        have collected : (between.quarantine item.record).registry.collected =
            session.registry.collected + (count + 0 + 0) := marked
        have unpublished : (between.quarantine item.record).finalizer.released =
            session.finalizer.released := reached.released
        refine ⟨isSealed'.of_records rfl, ?_⟩
        show (between.quarantine item.record).finalizer.released + log.length + _ + 0 =
          _ + (between.quarantine item.record).registry.collected
        rw [List.length_nil] at total
        omega

/-- A drain that a callback cut short. -/
theorem Totals.of_panicked
    {done : List PendingRelease}
    {item : PendingRelease}
    {log : List CollectedObject}
    {panic : Panic}
    {before last : Session}
    (rest : List PendingRelease)
    (idle : session.finalizer.draining = false)
    (ran :
      drainBatch idling session.finalizer.validates session.queue.generation done []
        session.started = (.completed log, before))
    (ended :
      drainItem idling session.finalizer.validates session.queue.generation item before =
        (.panicked panic, last)) :
    Totals log.length session
      (.error (.panic panic),
        ((last.abandon item.record).requeueFront rest).setDraining false) := by
  rcases handled_drainBatch (draining_started session) ran with ⟨count, total, handled⟩
  have draining := handled.draining.trans (draining_started session)
  have handles := handles_drainItem idles_idling session.finalizer.validates
    session.queue.generation item before draining
  rw [ended] at handles
  have requeued : (last.abandon item.record).Notes
      ((last.abandon item.record).requeueFront rest) :=
    .of_eq rfl rfl rfl rfl rfl rfl
  have reached := ((handled.trans (handles.handled (by simp))).trans (.abandon last item.record)).trans
    (.of_notes requeued)
  generalize (last.abandon item.record).requeueFront rest = ended' at reached
  refine ⟨idle.symm, reached.counted, reached.mismatches, reached.journal, fun isSealed => ?_⟩
  rcases reached.marked (isSealed.of_records rfl) with ⟨isSealed', marked⟩
  have collected : ended'.registry.collected =
      session.registry.collected + (count + 0 + 0 + 0) := marked
  have unpublished : ended'.finalizer.released = session.finalizer.released := reached.released
  refine ⟨isSealed', ?_⟩
  show ended'.finalizer.released + _ + _ = _ + ended'.registry.collected
  rw [List.length_nil] at total
  omega

/-- What becomes of a drain in which a callback panics while an item is handled. -/
theorem collect_of_panicked
    {done rest : List PendingRelease}
    {item : PendingRelease}
    {log : List CollectedObject}
    {panic : Panic}
    {before last : Session}
    (idle : session.finalizer.draining = false)
    (split : session.queue.items = done ++ item :: rest)
    (ran :
      drainBatch idling session.finalizer.validates session.queue.generation done []
        session.started = (.completed log, before))
    (ended :
      drainItem idling session.finalizer.validates session.queue.generation item before =
        (.panicked panic, last)) :
    session.collect =
      (.error (.panic panic),
        ((last.abandon item.record).requeueFront rest).setDraining false) := by
  have cut : drainBatch idling session.finalizer.validates session.queue.generation
      session.queue.items [] session.started =
        (.panicked panic, (last.abandon item.record).requeueFront rest) := by
    rw [split, drainBatch_append _ ran, drainBatch, ended]
  rw [collect_eq_drain idles_idling idle, drain_eq, cut]
  rfl

/-- What a drain that loses a log does to the totals. -/
theorem Loses.totals
    {log : List CollectedObject}
    (loses : session.Loses log)
    (idle : session.finalizer.draining = false) :
    (∃ panic, session.collect.1 = .error (.panic panic)) ∧
      Totals log.length session session.collect := by
  rcases loses with ⟨done, item, rest, panic, before, last, split, ran, ended⟩
  rw [collect_of_panicked idle split ran ended]
  exact ⟨⟨panic, rfl⟩, .of_panicked rest idle ran ended⟩

/-- Records are missing in the totals only if a callback cut the drain short. -/
theorem totals_collect (session : Session) :
    ∃ missing,
      Totals missing session session.collect ∧
        (0 < missing → ∃ log, log ≠ [] ∧ session.Loses log) := by
  cases running : session.finalizer.draining with
  | true =>
      rw [collect_of_draining session running]
      exact ⟨0, ⟨rfl, rfl, rfl, List.prefix_rfl, fun isSealed => ⟨isSealed, rfl⟩⟩, nofun⟩
  | false =>
      have run := drainRun_collect running
      generalize session.collect = result at run ⊢
      cases run with
      | completed ran reported plain => exact ⟨0, .of_completed running ran reported plain, nofun⟩
      | stopped split ran ended => exact ⟨0, .of_stopped running ran ended, nofun⟩
      | @panicked done rest item log panic before last split ran ended =>
          refine ⟨log.length, .of_panicked rest running ran ended, fun missing => ⟨log, ?_, ?_⟩⟩
          · exact List.ne_nil_of_length_pos missing
          · exact ⟨done, item, rest, panic, before, last, split, ran, ended⟩

end Session

end Custody
