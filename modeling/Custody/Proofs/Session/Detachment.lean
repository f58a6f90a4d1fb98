import Custody.Proofs.Finalizer.Detachment
import Custody.Proofs.Session.Totals

/-!
# What detached means

Whatever is done with a runtime, a record whose reference was given back by its
wrapper, by a drain or at the end of the runtime is released.  That a detached
record still has its reference, so that somebody else has to give it back, holds
with one exception, which stays visible for good: a drain in which a callback
panicked between giving the reference back and marking the record.
-/

namespace Custody.Session

variable {session session' : Session} {ref : RecordRef}

/-! ## Strokes and turns -/

theorem Stroke.advances
    (stroke : session.Stroke session') :
    session.registry.Advances session'.registry := by
  cases stroke with
  | note notes _ => exact notes.advances
  | register registered => exact advances_register registered
  | releaseNow ref => exact advances_releaseNow session ref
  | detach tracker ref => exact .detach session.registry tracker ref
  | releaseAll => exact advances_releaseAll session
  | collectReporting => exact advances_collectReporting session

theorem Strokes.advances
    (strokes : session.Strokes session') :
    session.registry.Advances session'.registry := by
  induction strokes with
  | refl => exact .refl _
  | tail _ stroke before => exact before.trans stroke.advances

theorem Turn.advances
    (turn : session.Turn session') :
    session.registry.Advances session'.registry := by
  rcases turn.strokes with strokes | rfl | ⟨change, rfl⟩
  · exact strokes.advances
  · exact advances_collect session
  · exact .refl _

theorem Turns.advances
    (turns : session.Turns session') :
    session.registry.Advances session'.registry := by
  induction turns with
  | refl => exact .refl _
  | tail _ turn before => exact before.trans turn.advances

/-- What the journal tells is never taken back. -/
theorem Turn.journal
    (turn : session.Turn session') :
    session.registry.journal <+: session'.registry.journal := by
  rcases turn.strokes with strokes | rfl | ⟨change, rfl⟩
  · rcases Reckons.of_strokes strokes with ⟨missing, reckons⟩
    exact reckons.journal
  · rcases totals_collect session with ⟨missing, totals, -⟩
    exact totals.journal
  · exact List.prefix_rfl

theorem Turns.journal
    (turns : session.Turns session') :
    session.registry.journal <+: session'.registry.journal := by
  induction turns with
  | refl => exact List.prefix_rfl
  | tail _ turn before => exact before.trans turn.journal

/-! ## Giving references back -/

namespace Guards

theorem releaseNow
    (session : Session)
    (ref : RecordRef) :
    session.Guards (session.releaseNow ref).2 := by
  rw [Session.releaseNow]
  simp only
  split
  · next live =>
      have owns : (session.registry.record ref).state.owns = true := congrArg _ live
      split
      · exact fun other withholds => (withholds.dropped owns).of_drops (.of_eq rfl rfl) rfl
      · intro other withholds
        exact withholds.of_drops ((advances_released owns).trans (.updateTracker _ _ _)) rfl
  · exact refl session

theorem releaseOwner
    (ref : RecordRef)
    (session : Session) :
    session.Guards (session.releaseOwner ref).2 := by
  rw [Session.releaseOwner]
  simp only
  split
  · next owner =>
      have owns : (session.registry.record ref).state.owns = true := (owns_iff _).mp owner
      split
      · exact fun other withholds => withholds.dropped owns
      · exact fun other withholds => withholds.of_drops (advances_released owns) rfl
  · exact refl session

theorem releaseOwners
    (refs : List RecordRef)
    (session : Session) :
    session.Guards (session.releaseOwners refs).2 := by
  induction refs generalizing session with
  | nil => exact refl session
  | cons ref rest step => exact (releaseOwner ref session).trans (step _)

theorem releaseAll (session : Session) : session.Guards session.releaseAll.2 := by
  have emptied : session.Guards session.emptied := .of_eq rfl rfl
  rw [releaseAll_eq_emptied]
  exact (emptied.trans (releaseOwners _ _)).trans
    (of_notes (.updateRegistry (.discardBatch _ _)))

theorem report
    (record : Option RecordRef)
    (error : BridgeError)
    (session : Session) :
    session.Guards (report record error session).2 := by
  intro ref withholds
  have notifies := (Spares.report record error session).toNotifies
  exact withholds.of_drops notifies.advances (Registry.drops_of_safe notifies.registry ref)

/-- Handing the reference of a record to the caller does not give it back. -/
theorem detach
    (session : Session)
    (tracker : TrackerRef)
    (ref : RecordRef) :
    session.Guards { session with registry := (session.registry.detach tracker ref).2 } := by
  intro other withholds
  refine withholds.of_drops (.detach _ _ _) ?_
  unfold Registry.detach
  simp only
  split
  · rfl
  · rfl

end Guards

theorem withholds_collectReporting
    (session : Session)
    (ref : RecordRef)
    (withholds : session.registry.Withholds ref) :
    session.collectReporting.2.registry.Withholds ref ∨ session.Exposes ref := by
  refine (withholds_collect session ref withholds).imp_left fun withholds' => ?_
  rw [collectReporting]
  generalize session.collect = result at withholds' ⊢
  rcases result with ⟨(error | panic) | count, last⟩
  · have reported := Guards.report none error last ref withholds'
    simp only
    generalize report none error last = result at reported ⊢
    rcases result with ⟨_ | _, ended⟩
    · exact reported
    · exact reported
  · exact withholds'
  · exact withholds'

/-- Nothing is given back but the references of released records, unless a drain exposes one. -/
theorem Stroke.guards_or_exposes
    (stroke : session.Stroke session')
    (withholds : session.registry.Withholds ref) :
    session'.registry.Withholds ref ∨
      session.Exposes ref ∧ session' = session.collectReporting.2 := by
  cases stroke with
  | note notes _ => exact .inl (Guards.of_notes notes ref withholds)
  | register registered =>
      refine .inl (withholds.of_drops (advances_register registered) ?_)
      rcases register_eq_ok registered with ⟨typeName, rfl, -⟩
      rfl
  | releaseNow other => exact .inl (Guards.releaseNow session other ref withholds)
  | detach tracker other => exact .inl (Guards.detach session tracker other ref withholds)
  | releaseAll => exact .inl (Guards.releaseAll session ref withholds)
  | collectReporting =>
      refine (withholds_collectReporting session ref withholds).imp_right fun exposes => ?_
      exact ⟨exposes, rfl⟩

/-! ## Detached records -/

variable {config : Config} {hasTable : Bool}

/--
At some time a drain gave the reference of a record back and found that too few
remained, and a callback to which this was reported panicked.
-/
def Exposed (config : Config) (hasTable : Bool) (ref : RecordRef) : Session → Prop :=
  Underwent config hasTable fun session => session.Exposes ref

/-- A drain in which a callback panics while an item is handled does not report anything. -/
theorem Exposes.collectReporting
    (exposes : session.Exposes ref)
    (idle : session.finalizer.draining = false) :
    session.collectReporting.2 = session.collect.2 := by
  rcases exposes with ⟨done, item, rest, panic, last, ⟨split, log, before, ran, ended⟩, -, -⟩
  have loses : session.Loses log := ⟨done, item, rest, panic, before, last, split, ran, ended⟩
  exact (loses.reckons idle).1

theorem Turns.withholds_or_exposed
    (run : (opened config hasTable).Turns session)
    (ref : RecordRef) :
    session.registry.Withholds ref ∨ Exposed config hasTable ref session := by
  have journal := (finalizer_opened config hasTable).2.2
  apply Turns.keeps_or (fun stroke => stroke.guards_or_exposes) ?_ ?_ ?_ run
  · intro session idle withholds
    refine (withholds_collect session ref withholds).imp_right fun exposes => ?_
    exact ⟨exposes, (exposes.collectReporting idle).symm⟩
  · exact fun _ withholds => withholds
  · right
    rw [Registry.drops, journal]
    rfl

/-- The record stays as the drain left it. -/
theorem Exposed.detached (exposed : Exposed config hasTable ref session) :
    (session.record ref).state = .detached ∧ .dropped ref ∈ session.registry.journal := by
  rcases exposed with ⟨before, within, after, run, -, strokes, exposes, rest, turns⟩
  rcases Reckons.of_strokes strokes with ⟨_, reckons⟩
  rcases Reckons.of_strokes rest with ⟨_, reckons'⟩
  have idle := reckons.draining.trans run.idle
  rcases exposes.detached idle with ⟨inside, detached, told⟩
  rw [exposes.collectReporting idle] at rest reckons'
  have follows := (rest.advances.trans turns.advances).moves ref inside
  have final : (within.collect.2.registry.record ref).state.owns = false :=
    congrArg RecordState.owns detached
  refine ⟨(RecordState.eq_of_follows follows final).trans detached, ?_⟩
  exact (reckons'.journal.trans turns.journal).subset told

/--
Whatever is done with a runtime, with any hooks and with callbacks that may
panic, a reference is given back at most once on behalf of a record.  A detached
record is one on whose behalf this never happened, unless a drain exposed it: a
callback panicked that was told that too few references remained after this one
had been given back.  Such a record is detached for good.
-/
theorem detached_and_dropped_iff
    (run : (opened config hasTable).Turns session)
    (ref : RecordRef) :
    session.registry.drops ref ≤ 1 ∧
      ((session.record ref).state = .detached ∧ session.registry.drops ref = 1 ↔
        Exposed config hasTable ref session) := by
  have budget := run.advances.bounded ref
  rw [budget_opened, Registry.budget] at budget
  refine ⟨by omega, fun both => ?_, fun exposed => ?_⟩
  · refine (run.withholds_or_exposed ref).resolve_left fun withholds => ?_
    rcases withholds with released | none
    · cases both.1.symm.trans released
    · exact Nat.one_ne_zero (both.2.symm.trans none)
  · rcases exposed.detached with ⟨detached, told⟩
    have dropped : 0 < session.registry.drops ref := List.count_pos_iff.mpr told
    exact ⟨detached, by omega⟩

/--
A runtime in which one of two records of the same integer, which is referenced
once only, was drained.  A resolver settled the mismatch without taking the
missing reference, and a handler panicked when it was told what remained.
-/
def overdrawn : Session :=
  [Request.act (.onError ⟨"stopping", [.panic "no"]⟩),
    .act (.addResolver ⟨"lenient", [], [], true⟩), .wrapPayload (.int 7),
    .act (.register ⟨53, 0⟩), .act (.deferRelease 0 none), .act .collect].foldl
      (fun session request => (request.perform session).2) (opened .standard false)

/-- The reference was given back on behalf of a record that is detached. -/
theorem detached_and_dropped_overdrawn :
    (overdrawn.record 0).handle = ⟨53, 0⟩ ∧
      (overdrawn.record 0).state = .detached ∧
        .dropped 0 ∈ overdrawn.registry.journal := by
  decide +kernel

/-- A callback that panicked in a drain is what explains it. -/
theorem exposed_overdrawn :
    (opened .standard false).Turns overdrawn ∧
      Exposed .standard false 0 overdrawn := by
  have run : (opened .standard false).Turns overdrawn := by
    apply turns_foldl
    simp [Request.IsOwn, Action.IsOwn]
  have observed :
      (overdrawn.record 0).state = .detached ∧ overdrawn.registry.drops 0 = 1 := by
    decide +kernel
  exact ⟨run, (detached_and_dropped_iff run 0).2.mp observed⟩

end Custody.Session
