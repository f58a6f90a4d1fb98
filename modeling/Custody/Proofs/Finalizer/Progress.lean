import Custody.Proofs.Finalizer.Phases
import Custody.Proofs.Tracking.Progress

/-!
# Releases and drains make progress

Whichever way a reference is given back, by its wrapper, by a drain or at the
end of the runtime, the record moves on with it and no budget is exceeded.  A
drain keeps to this even when a callback panics between the drop and the move:
the record is then quarantined.
-/

namespace Custody.Session

variable {session session' session'' : Session} {ref : RecordRef}

theorem Notifies.advances
    (notifies : session.Notifies session') :
    session.registry.Advances session'.registry :=
  .of_safe notifies.registry

/-! ## Releasing -/

/-- A record that owns its reference is released together with one drop. -/
theorem advances_dropped
    {registry : Registry}
    (owned : (registry.record ref).state.owns = true) :
    registry.Advances ((registry.setState ref .released).enter (.dropped ref)) :=
  (Registry.AdvancesBy.enter_dropped registry ref).settle
    (fun record => { record with state := .released }) owned
    (RecordState.follows_released owned) rfl

/-- A record that owns its reference is released without a drop, its object being gone. -/
theorem advances_released
    {registry : Registry}
    (owned : (registry.record ref).state.owns = true) :
    registry.Advances (registry.setState ref .released) :=
  .alter fun _ => RecordState.follows_released owned

theorem advances_releaseNow
    (session : Session)
    (ref : RecordRef) :
    session.registry.Advances (session.releaseNow ref).2.registry := by
  rw [releaseNow]
  simp only
  split
  · next live =>
      have owned : (session.registry.record ref).state.owns = true := congrArg _ live
      split
      · exact (advances_dropped owned).trans (.of_eq rfl rfl)
      · exact (advances_released owned).trans (.updateTracker _ _ _)
  · exact .refl _

theorem advances_releaseOwner
    (ref : RecordRef)
    (session : Session) :
    session.registry.Advances (session.releaseOwner ref).2.registry := by
  rw [releaseOwner]
  simp only
  split
  · next owns =>
      have owned : (session.registry.record ref).state.owns = true := by
        rcases owns with live | deferred
        · exact congrArg _ live
        · exact congrArg _ deferred
      split
      · exact advances_dropped owned
      · exact advances_released owned
  · exact .refl _

theorem advances_releaseOwners
    (refs : List RecordRef)
    (session : Session) :
    session.registry.Advances (session.releaseOwners refs).2.registry := by
  induction refs generalizing session with
  | nil => exact .refl _
  | cons ref rest step => exact (advances_releaseOwner ref session).trans (step _)

/-- A tracker at the end of its runtime: closed, with nothing waiting and without owners. -/
def emptied (session : Session) : Session :=
  let session := session.updateRegistry fun registry => registry.close session.tracker
  let session := session.takeSnapshot.2.2
  session.updateRegistry fun registry =>
    registry.updateTracker session.tracker fun tracker => { tracker with owners := [] }

theorem advances_releaseAll (session : Session) :
    session.registry.Advances session.releaseAll.2.registry := by
  have emptied : session.registry.Advances session.emptied.registry := .of_eq rfl rfl
  exact (emptied.trans (advances_releaseOwners _ _)).trans (.of_defers (.discardBatch _ _))

theorem advances_detach
    (session : Session)
    (ref : RecordRef) :
    session.registry.Advances (session.detach ref).2.registry :=
  .detach session.registry session.tracker ref

theorem advances_register
    {handle : Handle}
    (registered : session.register handle = .ok (ref, session')) :
    session.registry.Advances session'.registry := by
  rw [register] at registered
  split at registered
  · cases registered
  · split at registered
    · cases registered
    · split at registered
      · cases registered
      · cases registered
        exact .addRecord _ _ _ _

/-! ## Draining -/

theorem advances_quarantine
    (session : Session)
    (ref : RecordRef) :
    session.registry.Advances (session.quarantine ref).registry :=
  .quarantine _ _ _

theorem advances_abandon
    (session : Session)
    (ref : RecordRef) :
    session.registry.Advances (session.abandon ref).registry := by
  rw [abandon]
  split
  · exact advances_quarantine session ref
  · exact .refl _

/-- A deferred record makes up for a drop when it is completed. -/
theorem advances_complete_of_debt
    (generation : Nat)
    (debt : session.registry.AdvancesBy (Registry.once ref) session'.registry)
    (deferred : (session'.record ref).state = .deferred) :
    session.registry.Advances (session'.complete generation ref).2.registry := by
  have deferred : (session'.registry.record ref).state = .deferred := deferred
  have settled := debt.settle
    (fun entry =>
      { entry with
        state := if entry.state = .deferred then .released else entry.state
        collected := true })
    (by rw [deferred]; rfl)
    (by simp only [deferred, if_true]; exact .single .releaseDeferred)
    (by simp only [deferred, if_true]; rfl)
  exact settled.trans (.updateTracker _ _ _)

/-- A deferred record makes up for a drop when it is abandoned. -/
theorem advances_abandon_of_debt
    (debt : session.registry.AdvancesBy (Registry.once ref) session'.registry)
    (deferred : (session'.record ref).state = .deferred) :
    session.registry.Advances (session'.abandon ref).registry := by
  have deferred' : (session'.registry.record ref).state = .deferred := deferred
  have settled := debt.settle (fun entry => { entry with state := .detached })
    (by rw [deferred']; rfl)
    (by rw [deferred']; exact .single .detachDeferred)
    rfl
  rw [abandon, if_pos deferred]
  simp only [quarantine, updateRegistry, Registry.quarantine, if_pos deferred']
  exact settled.trans (.updateTracker _ _ _)

/--
An item that was given back may have exceeded its budget by then; being
completed or abandoned makes up for it.
-/
theorem advances_referenceRun
    {validates : Bool}
    {generation : Nat}
    {result : ItemEnd × Session}
    (run : ReferenceRun validates generation ref session result)
    (deferred : (session.record ref).state = .deferred) :
    session.registry.Advances (concluded ref result).registry := by
  have quarantined := (advances_quarantine session ref).trans
    (.enter (.fault (.dropFailed ref)) (by simp))
  have dropped := Registry.AdvancesBy.enter_dropped session.registry ref
  cases run with
  | bereft gone reported =>
      exact quarantined.trans (Spares.of_report reported).toNotifies.advances
  | unheard gone reported =>
      have told := quarantined.trans (Spares.of_report reported).toNotifies.advances
      exact told.trans (advances_abandon _ _)
  | exposed gaveBack checked =>
      have notifies := Notifies.of_recheck checked
      exact advances_abandon_of_debt (dropped.trans notifies.advances)
        (notifies.deferred deferred)
  | released gaveBack checked =>
      have notifies := Notifies.of_recheck checked
      exact advances_complete_of_debt generation (dropped.trans notifies.advances)
        (notifies.deferred deferred)

/-- Draining one item, and abandoning it if a callback panics, keeps to the budgets. -/
theorem advances_drainItem
    {nested : Session → Except Abort Nat × Session}
    (idles : Idles nested)
    (validates : Bool)
    (generation : Nat)
    (item : PendingRelease)
    (session : Session)
    (draining : session.finalizer.draining = true) :
    session.registry.Advances
      (concluded item.record
        (drainItem nested validates generation item session)).registry := by
  have run := itemRun_drainItem nested validates generation item session
  generalize drainItem nested validates generation item session = result at run ⊢
  cases run with
  | interrupted ran =>
      exact (Spares.of_hook ran).toNotifies.advances.trans (advances_abandon _ _)
  | passed ran settled => exact (Spares.of_hook ran).toNotifies.advances
  | unresolved ran deferred checked =>
      have notifies := (Spares.of_hook ran).toNotifies
      have asked := notifies.trans (.of_check checked idles (notifies.draining draining))
      exact asked.advances.trans (advances_abandon _ _)
  | stopped ran deferred checked =>
      have notifies := (Spares.of_hook ran).toNotifies
      have asked := notifies.trans (.of_check checked idles (notifies.draining draining))
      exact (asked.advances.trans (advances_quarantine _ _)).trans (.enter _ (by simp))
  | cleared ran deferred checked run =>
      have notifies := (Spares.of_hook ran).toNotifies
      have asked := Notifies.of_check checked idles (notifies.draining draining)
      exact (notifies.trans asked).advances.trans
        (advances_referenceRun run (asked.deferred deferred))

/-- Every phase of a drain makes progress. -/
theorem sustained_advances
    {nested : Session → Except Abort Nat × Session}
    (idles : Idles nested)
    (registry : Registry) :
    Sustained nested (fun _ _ session => registry.Advances session.registry)
      fun session => registry.Advances session.registry where
  items := fun validates =>
    { item := fun generation running before =>
        before.trans (advances_drainItem idles validates generation _ _ running)
      requeueFront := fun before => before.trans (Spares.requeueFront _ _).toNotifies.advances }
  start := fun _ before => before.trans (Spares.takeSnapshot _).toNotifies.advances
  finish := fun _ before => before
  countError := fun before => before
  reportCollected := fun _ _ _ _ before =>
    before.trans (Spares.reportCollected _ _ _).toNotifies.advances
  stop := fun before => before
  report := fun _ before => before.trans (Spares.report _ _ _).toNotifies.advances

theorem advances_collect (session : Session) :
    session.registry.Advances session.collect.2.registry :=
  (sustained_advances (idles_collectWithin 1) session.registry).collect (.refl _)

theorem advances_collectReporting (session : Session) :
    session.registry.Advances session.collectReporting.2.registry :=
  (sustained_advances (idles_collectWithin 1) session.registry).collectReporting (.refl _)

theorem advances_collectThrottled (session : Session) :
    session.registry.Advances session.collectThrottled.2.registry :=
  (sustained_advances (idles_collectWithin 1) session.registry).collectThrottled (.refl _)

end Custody.Session
