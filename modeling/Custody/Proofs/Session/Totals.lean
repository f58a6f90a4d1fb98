import Custody.Proofs.Finalizer.Totals
import Custody.Proofs.Session.Strokes

/-!
# What the totals say

A runtime keeps totals of the records that its drains released and of the errors
that were met.  The first is published at the end of a drain, so that it falls
short of the records marked as collected once a callback has panicked out of a
drain.  The second counts each error once, except a mismatch that stopped a
drain: it is counted when the drain ends and again when it is reported, and it is
returned instead of reported only if the host asked for the drain itself.
-/

namespace Custody.Session

variable {session session' session'' : Session} {ref : RecordRef}

/-! ## Strokes other than drains -/

namespace Handled

/-- A record that owns its reference is settled, which the journal does not tell. -/
theorem settle
    {state : RecordState}
    {registry : Registry}
    (owns : (session.registry.record ref).state.owns = true)
    (records : registry.records = (session.registry.setState ref state).records)
    (journal : registry.journal = session.registry.journal) :
    session.Handled 0 { session with registry } where
  draining := rfl
  released := rfl
  counted := by simp [Registry.faults, journal]
  mismatches := by simp [Registry.mismatches, journal]
  journal := by simp [journal]
  marked := by
    have kept (record : Record) : ({ record with state } : Record).collected = record.collected :=
      rfl
    intro isSealed
    rcases isSealed.alter owns kept with ⟨isSealed', collected⟩
    refine ⟨isSealed'.of_records records, Eq.trans ?_ collected⟩
    rw [Registry.collected, Registry.collected, records]
    rfl

theorem register
    {handle : Handle}
    (registered : session.register handle = .ok (ref, session')) :
    session.Handled 0 session' := by
  rcases register_eq_ok registered with ⟨typeName, rfl, -⟩
  exact
    { draining := rfl
      released := rfl
      counted := rfl
      mismatches := rfl
      journal := List.prefix_rfl
      marked := fun isSealed =>
        ⟨isSealed.addRecord _ _ _, session.registry.collected_addRecord _ _ _⟩ }

theorem releaseNow
    (session : Session)
    (ref : RecordRef) :
    session.Handled 0 (session.releaseNow ref).2 := by
  rw [Session.releaseNow]
  simp only
  split
  · next live =>
      have owns : (session.registry.record ref).state.owns = true :=
        congrArg RecordState.owns live
      have settled : session.Handled 0
          (session.updateRegistry fun registry =>
            (registry.setState ref .released).unregister session.tracker ref) :=
        settle owns rfl rfl
      split
      · exact settled.trans (dropped _ _ ref)
      · exact settled
  · exact refl session

theorem detach
    (session : Session)
    (tracker : TrackerRef)
    (ref : RecordRef) :
    session.Handled 0
      { session with registry := (session.registry.detach tracker ref).2 } := by
  unfold Registry.detach
  simp only
  split
  · next live => exact settle (congrArg RecordState.owns live) rfl rfl
  · exact refl session

theorem releaseOwner
    (ref : RecordRef)
    (session : Session) :
    session.Handled 0 (session.releaseOwner ref).2 := by
  rw [Session.releaseOwner]
  simp only
  split
  · next owner =>
      have owns : (session.registry.record ref).state.owns = true := (owns_iff _).mp owner
      have settled : session.Handled 0
          (session.updateRegistry fun registry => registry.setState ref .released) :=
        settle owns rfl rfl
      split
      · exact settled.trans (dropped _ _ ref)
      · exact settled
  · exact refl session

theorem releaseOwners
    (refs : List RecordRef)
    (session : Session) :
    session.Handled 0 (session.releaseOwners refs).2 := by
  induction refs generalizing session with
  | nil => exact refl session
  | cons ref rest step => exact (releaseOwner ref session).trans (step _)

theorem releaseAll (session : Session) : session.Handled 0 session.releaseAll.2 := by
  have emptied : session.Handled 0 session.emptied :=
    of_notes (.of_eq rfl rfl rfl rfl rfl rfl)
  rw [releaseAll_eq_emptied]
  exact (emptied.trans (releaseOwners _ _)).trans
    (of_notes (.updateRegistry (.discardBatch _ _)))

end Handled

/-- Only drains release records. -/
theorem Stroke.handled_or_drains
    (stroke : session.Stroke session') :
    session.Handled 0 session' ∨ session' = session.collectReporting.2 := by
  cases stroke with
  | note notes _ => exact .inl (.of_notes notes)
  | register registered => exact .inl (.register registered)
  | releaseNow ref => exact .inl (.releaseNow session ref)
  | detach tracker ref => exact .inl (.detach session tracker ref)
  | releaseAll => exact .inl (.releaseAll session)
  | collectReporting => exact .inr rfl

/-! ## Drains that report -/

/--
What a drain does to the totals if it reports its error: a mismatch is counted
when it is told and again when it is reported.
-/
structure Reckons (missing : Nat) (session session' : Session) : Prop where
  draining : session'.finalizer.draining = session.finalizer.draining
  counted :
    session'.finalizer.errors + session.registry.faults + session.registry.mismatches =
      session.finalizer.errors + session'.registry.faults + session'.registry.mismatches
  mismatches : session.registry.mismatches ≤ session'.registry.mismatches
  journal : session.registry.journal <+: session'.registry.journal
  marked :
    session.registry.Sealed →
      session'.registry.Sealed ∧
        session'.finalizer.released + session.registry.collected + missing =
          session.finalizer.released + session'.registry.collected

namespace Reckons

variable {missing missing' : Nat}

theorem of_handled (handled : session.Handled 0 session') : Reckons 0 session session' where
  draining := handled.draining
  counted := by
    have counted := handled.counted
    have mismatches := handled.mismatches
    omega
  mismatches := handled.mismatches.ge
  journal := handled.journal
  marked := by
    intro isSealed
    rcases handled.marked isSealed with ⟨isSealed', collected⟩
    refine ⟨isSealed', ?_⟩
    rw [handled.released, collected]
    rfl

theorem trans
    (first : Reckons missing session session')
    (second : Reckons missing' session' session'') :
    Reckons (missing + missing') session session'' where
  draining := second.draining.trans first.draining
  counted := by
    have before := first.counted
    have after := second.counted
    omega
  mismatches := first.mismatches.trans second.mismatches
  journal := first.journal.trans second.journal
  marked := by
    intro isSealed
    rcases first.marked isSealed with ⟨between, before⟩
    rcases second.marked between with ⟨isSealed', after⟩
    exact ⟨isSealed', by omega⟩

/-- No mismatch was returned. -/
theorem of_unstopped
    {outcome : Except Abort Nat}
    (totals : Totals missing session (outcome, session'))
    (plain : mismatchesIn outcome = 0) :
    Reckons missing session session' where
  draining := totals.draining
  counted := by
    have counted := totals.counted
    have mismatches := totals.mismatches
    simp only [plain] at counted mismatches
    omega
  mismatches := (Nat.le_add_right _ _).trans totals.mismatches.ge
  journal := totals.journal
  marked := totals.marked

/-- A mismatch was returned, and is counted again. -/
theorem of_stopped
    {error : BridgeError}
    (totals : Totals missing session (.error (.error error), session')) :
    Reckons missing session (session'.updateFinalizer Finalizer.countError) where
  draining := totals.draining
  counted := by
    have counted := totals.counted
    have mismatches := totals.mismatches
    show session'.finalizer.errors + 1 + _ + _ =
      _ + session'.registry.faults + session'.registry.mismatches
    simp only [mismatchesIn] at counted mismatches
    omega
  mismatches := (Nat.le_add_right _ _).trans totals.mismatches.ge
  journal := totals.journal
  marked := totals.marked

theorem of_totals
    (totals : Totals missing session session.collect) :
    Reckons missing session session.collectReporting.2 := by
  rw [collectReporting]
  generalize session.collect = result at totals ⊢
  rcases result with ⟨(error | panic) | count, last⟩
  · have reported : Reckons 0 (last.updateFinalizer Finalizer.countError)
        (report none error last).2 :=
      of_handled (.of_notes (.deliver_counted none error last))
    have both := (of_stopped totals).trans reported
    simp only
    generalize report none error last = result at both ⊢
    rcases result with ⟨_ | _, ended⟩
    · exact both
    · exact both
  · exact of_unstopped totals rfl
  · exact of_unstopped totals rfl

/-- Records are missing after a stroke only if it is a drain that loses them. -/
theorem of_stroke
    (stroke : session.Stroke session') :
    ∃ missing,
      Reckons missing session session' ∧
        (0 < missing →
          ∃ log, log ≠ [] ∧ session.Loses log ∧ session' = session.collectReporting.2) := by
  rcases stroke.handled_or_drains with handled | rfl
  · exact ⟨0, of_handled handled, nofun⟩
  · rcases totals_collect session with ⟨missing, totals, loses⟩
    refine ⟨missing, of_totals totals, fun positive => ?_⟩
    rcases loses positive with ⟨log, nonempty, lost⟩
    exact ⟨log, nonempty, lost, rfl⟩

end Reckons

/-! ## Errors -/

/-- How many mismatches an answer returns to the host. -/
def Answer.mismatches : Answer → Nat
  | .count outcome => mismatchesIn outcome
  | _ => 0

/-- A run of any turns, with the number of mismatches that were returned to the host. -/
inductive Tallied (config : Config) (hasTable : Bool) : Session → Nat → Prop where
  | opened : Tallied config hasTable (opened config hasTable) 0
  | request {session : Session} {returned : Nat} (request : Request)
      (before : Tallied config hasTable session returned) (isOwn : request.IsOwn session) :
      Tallied config hasTable (request.perform session).2
        (returned + (request.answer session).mismatches)
  | useInterp {session : Session} {returned : Nat} (change : Interpreter → Interpreter)
      (before : Tallied config hasTable session returned) :
      Tallied config hasTable (session.updateInterp change) returned
  | abandon {session : Session} {returned : Nat}
      (before : Tallied config hasTable session returned) :
      Tallied config hasTable session.abandoned returned

/-- Every run returns some number of mismatches. -/
theorem Turns.tallied
    {config : Config}
    {hasTable : Bool}
    (run : (opened config hasTable).Turns session) :
    ∃ returned, Tallied config hasTable session returned := by
  induction run with
  | refl => exact ⟨0, .opened⟩
  | tail _ turn before =>
      rcases before with ⟨returned, tallied⟩
      cases turn with
      | request request isOwn => exact ⟨_, .request request tallied isOwn⟩
      | useInterp change => exact ⟨_, .useInterp change tallied⟩
      | abandon => exact ⟨_, .abandon tallied⟩

/-- Only a drain that the host asked for returns mismatches. -/
theorem mismatches_answer
    {request : Request}
    (throughout : request ≠ .act .collect)
    (session : Session) :
    (request.answer session).mismatches = 0 := by
  cases request with
  | act action =>
      cases action with
      | collect => exact absurd rfl throughout
      | _ => rfl
  | _ => rfl

theorem Reckons.of_strokes
    (strokes : session.Strokes session') :
    ∃ missing, Reckons missing session session' := by
  induction strokes with
  | refl => exact ⟨0, .of_handled (.refl session)⟩
  | tail _ stroke before =>
      rcases before with ⟨earlier, reckons⟩
      rcases Reckons.of_stroke stroke with ⟨later, reckons', -⟩
      exact ⟨earlier + later, reckons.trans reckons'⟩

/-- Nothing was told and nothing counted at first. -/
theorem finalizer_opened
    (config : Config)
    (hasTable : Bool) :
    (opened config hasTable).finalizer.errors = 0 ∧
      (opened config hasTable).finalizer.released = 0 ∧
        (opened config hasTable).registry.journal = [] := by
  rcases opened_eq_bare config hasTable with ⟨table, interp, started⟩
  rw [started]
  exact ⟨rfl, rfl, rfl⟩

/--
Whatever is done with a runtime: the errors that are counted, together with the
mismatches that drains returned to the host, are those that were told and once
more the mismatches that stopped a drain.  So each error is counted once, but a
mismatch twice unless it is returned.
-/
theorem errors_add_returned
    {config : Config}
    {hasTable : Bool}
    {returned : Nat}
    (run : Tallied config hasTable session returned) :
    session.finalizer.errors + returned =
        session.registry.faults + session.registry.mismatches ∧
      returned ≤ session.registry.mismatches := by
  have worked {session session' : Session} {returned : Nat}
      (before :
        session.finalizer.errors + returned =
            session.registry.faults + session.registry.mismatches ∧
          returned ≤ session.registry.mismatches)
      (strokes : session.Strokes session') :
      session'.finalizer.errors + returned =
          session'.registry.faults + session'.registry.mismatches ∧
        returned ≤ session'.registry.mismatches := by
    rcases Reckons.of_strokes strokes with ⟨missing, reckons⟩
    have counted := reckons.counted
    have mismatches := reckons.mismatches
    omega
  induction run with
  | opened =>
      rcases finalizer_opened config hasTable with ⟨errors, -, journal⟩
      simp [errors, Registry.faults, Registry.mismatches, journal]
  | @request session returned request _ _ step =>
      by_cases asks : request = .act .collect
      · subst asks
        rcases totals_collect session with ⟨missing, totals, -⟩
        have counted := totals.counted
        have mismatches := totals.mismatches
        show session.collect.2.finalizer.errors + (returned + mismatchesIn session.collect.1) =
            session.collect.2.registry.faults + session.collect.2.registry.mismatches ∧
          returned + mismatchesIn session.collect.1 ≤ session.collect.2.registry.mismatches
        omega
      · rw [mismatches_answer asks session]
        exact worked step (relates_perform asks)
  | useInterp change _ step => exact step
  | abandon _ step => exact worked step (relates_abandoned _)

/--
A runtime whose queue is full with one item.  The item is a record of an integer
that was registered once more than it is referenced, so that the drain which the
next registration starts stops with a mismatch.
-/
def mismatched : Session :=
  [Request.act (.setThreshold 1), .wrapPayload (.int 7), .act (.register ⟨53, 0⟩),
    .act (.deferRelease 0 none), .wrapNone].foldl
      (fun session request => (request.perform session).2) (opened .standard false)

/-- There are no callbacks, and the journal tells of one error, but two are counted. -/
theorem errors_ne_faults_mismatched :
    mismatched.finalizer.errorHandlers.callbacks.length = 0 ∧
      mismatched.finalizer.collectHandlers.callbacks.length = 0 ∧
        mismatched.finalizer.resolvers.callbacks.length = 0 ∧
          mismatched.registry.faults = 1 ∧
            mismatched.finalizer.errors = 2 := by
  decide +kernel

/-- No mismatch was returned to the host, so that the one there was is counted twice. -/
theorem errors_add_returned_mismatched :
    Tallied .standard false mismatched 0 ∧
      mismatched.finalizer.errors + 0 =
        mismatched.registry.faults + mismatched.registry.mismatches := by
  have registered : Tallied .standard false
      ([Request.act (.setThreshold 1), .wrapPayload (.int 7), .act (.register ⟨53, 0⟩)].foldl
        (fun session request => (request.perform session).2) (opened .standard false)) 0 :=
    .request (.act (.register ⟨53, 0⟩))
      (.request (.wrapPayload (.int 7))
        (.request (.act (.setThreshold 1)) .opened trivial) trivial) trivial
  have run : Tallied .standard false mismatched 0 :=
    .request .wrapNone (.request (.act (.deferRelease 0 none)) registered trivial) trivial
  exact ⟨run, (errors_add_returned run).1⟩

/-! ## Released records -/

/-- A drain that loses a log does not report anything. -/
theorem Loses.reckons
    {log : List CollectedObject}
    (loses : session.Loses log)
    (idle : session.finalizer.draining = false) :
    session.collectReporting.2 = session.collect.2 ∧
      Reckons log.length session session.collectReporting.2 := by
  rcases loses.totals idle with ⟨⟨panic, panicked⟩, totals⟩
  refine ⟨?_, .of_totals totals⟩
  rw [collectReporting]
  generalize session.collect = result at panicked ⊢
  rcases result with ⟨outcome, last⟩
  rw [show outcome = .error (.panic panic) from panicked]

variable {config : Config} {hasTable : Bool}

/-- What was collected is released, and the total never catches up with it. -/
theorem Turn.marked
    (turn : session.Turn session')
    (isSealed : session.registry.Sealed) :
    session'.registry.Sealed ∧
      session'.finalizer.released + session.registry.collected ≤
        session.finalizer.released + session'.registry.collected := by
  rcases turn.strokes with strokes | rfl | ⟨change, rfl⟩
  · rcases Reckons.of_strokes strokes with ⟨missing, reckons⟩
    rcases reckons.marked isSealed with ⟨isSealed', marked⟩
    exact ⟨isSealed', by omega⟩
  · rcases totals_collect session with ⟨missing, totals, -⟩
    rcases totals.marked isSealed with ⟨isSealed', marked⟩
    exact ⟨isSealed', by omega⟩
  · exact ⟨isSealed, le_rfl⟩

theorem Turns.marked
    (turns : session.Turns session')
    (isSealed : session.registry.Sealed) :
    session'.registry.Sealed ∧
      session'.finalizer.released + session.registry.collected ≤
        session.finalizer.released + session'.registry.collected := by
  induction turns with
  | refl => exact ⟨isSealed, le_rfl⟩
  | tail _ turn before =>
      rcases turn.marked before.1 with ⟨isSealed', marked⟩
      have earlier := before.2
      exact ⟨isSealed', by omega⟩

theorem sealed_opened
    (config : Config)
    (hasTable : Bool) :
    (opened config hasTable).registry.Sealed ∧
      (opened config hasTable).registry.collected = 0 ∧
        (opened config hasTable).finalizer.released = 0 := by
  rcases opened_eq_bare config hasTable with ⟨table, interp, started⟩
  rw [started]
  refine ⟨fun ref marked => ?_, rfl, rfl⟩
  cases marked

/--
At some time a drain lost the records that it had released: a callback panicked
while a later item was handled.
-/
def FellShort (config : Config) (hasTable : Bool) : Session → Prop :=
  Underwent config hasTable fun session => ∃ log, log ≠ [] ∧ session.Loses log

/-- The total keeps up with what was collected. -/
def KeepsUp (session : Session) : Prop :=
  session.registry.Sealed ∧ session.registry.collected ≤ session.finalizer.released

theorem Turns.keepsUp_or_fellShort (run : (opened config hasTable).Turns session) :
    session.KeepsUp ∨ FellShort config hasTable session := by
  apply Turns.keeps_or ?_ ?_ ?_ ?_ run
  · rintro session session' stroke ⟨isSealed, kept⟩
    rcases Reckons.of_stroke stroke with ⟨missing, reckons, loses⟩
    rcases reckons.marked isSealed with ⟨isSealed', marked⟩
    rcases Nat.eq_zero_or_pos missing with rfl | some
    · exact .inl ⟨isSealed', by omega⟩
    · rcases loses some with ⟨log, nonempty, lost, same⟩
      exact .inr ⟨⟨log, nonempty, lost⟩, same⟩
  · rintro session idle ⟨isSealed, kept⟩
    rcases totals_collect session with ⟨missing, totals, loses⟩
    rcases totals.marked isSealed with ⟨isSealed', marked⟩
    rcases Nat.eq_zero_or_pos missing with rfl | some
    · exact .inl ⟨isSealed', by omega⟩
    · rcases loses some with ⟨log, nonempty, lost⟩
      exact .inr ⟨⟨log, nonempty, lost⟩, (lost.reckons idle).1.symm⟩
  · exact fun _ kept => kept
  · rcases sealed_opened config hasTable with ⟨isSealed, collected, -⟩
    exact ⟨isSealed, collected.le.trans (Nat.zero_le _)⟩

/--
Whatever is done with a runtime, by hand, by hooks or by callbacks that may
panic: every record that is marked as collected is released, and as many are
marked as the total of released records says, unless at some time a callback
panicked out of a drain which had released records already.  In that case, and in
no other, there are more than the total says.
-/
theorem released_lt_collected_iff
    (run : (opened config hasTable).Turns session) :
    (∀ ref, (session.record ref).collected = true → (session.record ref).state = .released) ∧
      session.finalizer.released ≤ session.registry.collected ∧
        (session.finalizer.released < session.registry.collected ↔
          FellShort config hasTable session) := by
  rcases sealed_opened config hasTable with ⟨isSealed, collected, released⟩
  rcases run.marked isSealed with ⟨isSealed', marked⟩
  refine ⟨isSealed', by omega, fun short => ?_, fun fellShort => ?_⟩
  · exact run.keepsUp_or_fellShort.resolve_left fun kept => absurd kept.2 (by omega)
  · rcases fellShort with ⟨before, within, after, first, -, strokes, ⟨log, nonempty, loses⟩, rest,
      turns⟩
    have positive := List.length_pos_of_ne_nil nonempty
    rcases first.marked isSealed with ⟨isSealed₁, marked₁⟩
    rcases Reckons.of_strokes strokes with ⟨_, reckons₂⟩
    rcases reckons₂.marked isSealed₁ with ⟨isSealed₂, marked₂⟩
    have idle := reckons₂.draining.trans first.idle
    rcases (loses.reckons idle).2.marked isSealed₂ with ⟨isSealed₃, marked₃⟩
    rcases Reckons.of_strokes rest with ⟨_, reckons₄⟩
    rcases reckons₄.marked isSealed₃ with ⟨isSealed₄, marked₄⟩
    have marked₅ := (turns.marked isSealed₄).2
    omega

/--
A runtime in which a drain released a record and then ran a hook that failed,
which was reported to a handler that panicked.
-/
def derailed : Session :=
  [Request.act (.onError ⟨"stopping", [.panic "no"]⟩), .wrapNone, .wrapNone, .act .newHook,
    .act (.deferRelease 0 none), .act (.deferRelease 1 (some (.fail "lost" (.done 0)))),
    .act .collect].foldl
      (fun session request => (request.perform session).2) (opened .standard false)

/-- One record is marked as collected, and the total says none. -/
theorem released_ne_collected_derailed :
    (derailed.record 0).collected = true ∧
      (derailed.record 0).state = .released ∧
        derailed.registry.collected = 1 ∧
          derailed.finalizer.released = 0 := by
  decide +kernel

/-- The panic is what explains the difference. -/
theorem released_lt_collected_derailed :
    (opened .standard false).Turns derailed ∧ FellShort .standard false derailed := by
  have run : (opened .standard false).Turns derailed := by
    apply turns_foldl
    simp [Request.IsOwn, Action.IsOwn]
  have behind : derailed.finalizer.released < derailed.registry.collected := by
    decide +kernel
  exact ⟨run, (released_lt_collected_iff run).2.2.mp behind⟩

end Custody.Session
