import Custody.Proofs.Tracking.Deferral
import Mathlib.Logic.Relation
import Mathlib.Order.Nat

/-!
# Progress of records

Records only move forward, from live over deferred to one of the two final
states.  A record may still give its reference back as long as it owns it; the
drops that it has behind it and the one that may still come are its budget.  No
operation adds to the budget of a record, and so it is never more than one.

A drain drops the reference of a record before it moves the record on.  In
between the budget is exceeded by one, which settling the record makes good.
-/

namespace Custody

namespace RecordState

/-- The steps that a record can take. -/
inductive Moves : RecordState → RecordState → Prop where
  | defer : Moves .live .deferred
  | releaseLive : Moves .live .released
  | detachLive : Moves .live .detached
  | releaseDeferred : Moves .deferred .released
  | detachDeferred : Moves .deferred .detached

/-- A number of steps that a record can take. -/
def Follows : RecordState → RecordState → Prop :=
  Relation.ReflTransGen Moves

/-- Whether a record in this state still has to give its reference back. -/
def owns : RecordState → Bool
  | .live => true
  | .deferred => true
  | .released => false
  | .detached => false

/-- Whatever owns its reference can be released. -/
theorem follows_released
    {state : RecordState}
    (owned : state.owns = true) :
    state.Follows .released := by
  cases state with
  | live => exact .single .releaseLive
  | deferred => exact .single .releaseDeferred
  | released => cases owned
  | detached => cases owned

/-- A final state is never left. -/
theorem eq_of_follows
    {state state' : RecordState}
    (follows : state.Follows state')
    (final : state.owns = false) :
    state' = state := by
  induction follows with
  | refl => rfl
  | tail _ move step => subst step; cases move <;> cases final

end RecordState

namespace Registry

variable {registry registry' registry'' : Registry} {ref : RecordRef}

/-! ## Budgets -/

/-- How often the reference of a record was given back. -/
def drops (registry : Registry) (ref : RecordRef) : Nat :=
  registry.journal.count (.dropped ref)

/-- How often the reference of a record may still be given back. -/
def owed (registry : Registry) (ref : RecordRef) : Nat :=
  if ref < registry.records.size ∧ (registry.record ref).state.owns = false then 0 else 1

/-- How often the reference of a record was or may be given back. -/
def budget (registry : Registry) (ref : RecordRef) : Nat :=
  registry.drops ref + registry.owed ref

/--
Records were added and moved forward, and no budget was exceeded by more than
the slack.
-/
structure AdvancesBy
    (slack : RecordRef → Nat)
    (registry registry' : Registry) :
    Prop where
  grows : registry.records.size ≤ registry'.records.size
  moves :
    ∀ ref < registry.records.size,
      (registry.record ref).state.Follows (registry'.record ref).state
  bounded : ∀ ref, registry'.budget ref ≤ registry.budget ref + slack ref

/-- Records were added and moved forward, and no budget was exceeded. -/
abbrev Advances : Registry → Registry → Prop :=
  AdvancesBy fun _ => 0

namespace AdvancesBy

variable {slack slack' : RecordRef → Nat}

theorem refl (registry : Registry) : registry.Advances registry where
  grows := le_rfl
  moves := fun _ _ => .refl
  bounded := fun _ => le_rfl

theorem trans
    (first : registry.AdvancesBy slack registry')
    (second : registry'.AdvancesBy slack' registry'') :
    registry.AdvancesBy (fun ref => slack ref + slack' ref) registry'' where
  grows := first.grows.trans second.grows
  moves := fun ref bound =>
    (first.moves ref bound).trans (second.moves ref (bound.trans_le first.grows))
  bounded := by
    intro ref
    have := first.bounded ref
    have := second.bounded ref
    omega

end AdvancesBy

/-- What is owed depends on what there is and on the state of it. -/
theorem owed_le
    (grows : registry.records.size ≤ registry'.records.size)
    (moves :
      ref < registry.records.size →
        (registry.record ref).state.Follows (registry'.record ref).state) :
    registry'.owed ref ≤ registry.owed ref := by
  unfold owed
  by_cases spent : ref < registry.records.size ∧ (registry.record ref).state.owns = false
  · have same := RecordState.eq_of_follows (moves spent.1) spent.2
    rw [if_pos ⟨spent.1.trans_le grows, same ▸ spent.2⟩]
    exact Nat.zero_le _
  · rw [if_neg spent]
    split <;> omega

theorem drops_of_safe
    (defers : registry.Defers Event.IsSafe registry')
    (ref : RecordRef) :
    registry'.drops ref = registry.drops ref := by
  rcases defers.journal with ⟨events, grown, safe⟩
  have none : events.count (.dropped ref) = 0 :=
    List.count_eq_zero.mpr fun member => safe _ member trivial
  rw [drops, grown, List.count_append, none, Nat.add_zero, drops]

namespace Advances

theorem trans
    (first : registry.Advances registry')
    (second : registry'.Advances registry'') :
    registry.Advances registry'' :=
  AdvancesBy.trans first second

/-- A change of the records alone. -/
theorem of_moves
    (journal : registry'.journal = registry.journal)
    (grows : registry.records.size ≤ registry'.records.size)
    (moves :
      ∀ ref < registry.records.size,
        (registry.record ref).state.Follows (registry'.record ref).state) :
    registry.Advances registry' where
  grows := grows
  moves := moves
  bounded := by
    intro ref
    have := owed_le grows (moves ref)
    simp only [budget, drops, journal]
    omega

/-- A change that leaves the records and the journal alone. -/
theorem of_eq
    (records : registry'.records = registry.records)
    (journal : registry'.journal = registry.journal) :
    registry.Advances registry' := by
  refine of_moves journal (by rw [records]) fun ref _ => ?_
  rw [record_eq, record_eq, records]
  exact .refl

/-- Deferring is progress, as long as no reference is given back meanwhile. -/
theorem of_safe
    (defers : registry.Defers Event.IsSafe registry') :
    registry.Advances registry' := by
  have moves :
      ∀ ref < registry.records.size,
        (registry.record ref).state.Follows (registry'.record ref).state := by
    intro ref _
    rcases defers.record ref with same | ⟨live, deferred⟩
    · rw [same]
      exact .refl
    · rw [deferred, live]
      exact .single .defer
  refine ⟨defers.size.ge, moves, fun ref => ?_⟩
  have := owed_le defers.size.ge (moves ref)
  rw [budget, drops_of_safe defers, budget]
  omega

theorem of_defers
    (defers : registry.Defers Event.IsOfHook registry') :
    registry.Advances registry' :=
  of_safe (defers.mild.mono fun _ mild => mild.1)

theorem updateTracker
    (registry : Registry)
    (ref : TrackerRef)
    (change : Tracker → Tracker) :
    registry.Advances (registry.updateTracker ref change) :=
  of_eq rfl rfl

end Advances

/-! ## Changing one record -/

theorem Advances.alter
    {change : Record → Record}
    (allowed :
      ref < registry.records.size →
        (registry.record ref).state.Follows (change (registry.record ref)).state) :
    registry.Advances (registry.alter ref change) := by
  refine of_moves rfl (size_alter _ _ _).ge fun other _ => ?_
  rw [record_alter]
  split
  · next same =>
      rcases same with ⟨rfl, bound⟩
      exact allowed bound
  · exact .refl

/-! ## Dropping a reference -/

/-- One drop too many for a record. -/
def once (ref : RecordRef) : RecordRef → Nat :=
  fun other => if other = ref then 1 else 0

theorem drops_enter
    (registry : Registry)
    (event : Event)
    (other : RecordRef) :
    (registry.enter event).drops other =
      registry.drops other + if event = .dropped other then 1 else 0 := by
  simp [drops, enter, List.count_append, List.count_singleton, beq_iff_eq]

theorem AdvancesBy.enter_dropped
    (registry : Registry)
    (ref : RecordRef) :
    registry.AdvancesBy (once ref) (registry.enter (.dropped ref)) where
  grows := le_rfl
  moves := fun _ _ => .refl
  bounded := by
    intro other
    have same : (registry.enter (.dropped ref)).owed other = registry.owed other := rfl
    simp only [budget, drops_enter, same, once, Event.dropped.injEq, eq_comm]
    omega

/-- A record that owned its reference and is settled makes up for one drop. -/
theorem AdvancesBy.settle
    (change : Record → Record)
    (debt : registry.AdvancesBy (once ref) registry')
    (owned : (registry'.record ref).state.owns = true)
    (allowed : (registry'.record ref).state.Follows (change (registry'.record ref)).state)
    (settled : (change (registry'.record ref)).state.owns = false) :
    registry.Advances (registry'.alter ref change) := by
  have bound : ref < registry'.records.size := by
    apply lt_size_of_state
    intro detached
    rw [detached] at owned
    cases owned
  have altered := Advances.alter fun _ => allowed
  refine ⟨debt.grows.trans altered.grows, ?_, ?_⟩
  · exact fun other inside =>
      (debt.moves other inside).trans (altered.moves other (inside.trans_le debt.grows))
  · intro other
    have before := debt.bounded other
    by_cases same : other = ref
    · subst same
      have open_before : registry'.owed other = 1 := by simp [owed, owned]
      have closed_after : (registry'.alter other change).owed other = 0 := by
        simp [owed, bound, record_alter, settled]
      have same_drops : (registry'.alter other change).drops other = registry'.drops other := rfl
      simp only [budget, once, if_true, open_before, closed_after, same_drops] at before ⊢
      omega
    · have after := altered.bounded other
      simp only [once, if_neg same] at before
      omega

/-! ## Operations -/

namespace Advances

theorem addRecord
    (registry : Registry)
    (tracker : TrackerRef)
    (handle : Handle)
    (typeName : String) :
    registry.Advances (registry.addRecord tracker handle typeName).2 := by
  refine of_moves rfl (by simp [Registry.addRecord, Registry.updateTracker]) fun ref bound => ?_
  rw [record_addRecord_of_lt bound]
  exact .refl

/-- A deferred record is released; in any other state it stays as it is. -/
theorem completeRelease
    (registry : Registry)
    (tracker : TrackerRef)
    (ref : RecordRef) :
    registry.Advances (registry.completeRelease tracker ref) := by
  refine trans (alter fun _ => ?_) (updateTracker _ _ _)
  cases state : (registry.record ref).state
  all_goals simp only [reduceCtorEq, if_false, if_true]
  · exact .refl
  · exact .single .releaseDeferred
  · exact .refl
  · exact .refl

/-- A deferred record is detached; in any other state it stays as it is. -/
theorem quarantine
    (registry : Registry)
    (tracker : TrackerRef)
    (ref : RecordRef) :
    registry.Advances (registry.quarantine tracker ref) := by
  rw [Registry.quarantine]
  split
  · next deferred =>
      refine trans (alter fun _ => ?_) (updateTracker _ _ _)
      rw [deferred]
      exact .single .detachDeferred
  · exact updateTracker _ _ _

theorem detach
    (registry : Registry)
    (tracker : TrackerRef)
    (ref : RecordRef) :
    registry.Advances (registry.detach tracker ref).2 := by
  unfold Registry.detach
  simp only
  split
  · next live =>
      refine trans (alter fun _ => ?_) (updateTracker _ _ _)
      rw [live]
      exact .single .detachLive
  · exact .refl registry

theorem enter
    (event : Event)
    (safe : event.IsSafe) :
    registry.Advances (registry.enter event) :=
  of_safe (.enter registry safe)

end Advances

end Registry

end Custody
