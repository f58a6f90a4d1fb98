import Custody.Proofs.Tracking.Moves

/-!
# Records and their objects

A record is made for a reference to one object.  Whatever happens to it later, it
remains, and it remains a record of that object.  Once it is no longer live it
never is again.
-/

namespace Custody.Registry

variable {registry registry' registry'' : Registry}

/--
Records may have been added, each record is of the object it was of before, and
none became live that was not.
-/
structure KeepsObjects (registry registry' : Registry) : Prop where
  grows : registry.records.size ≤ registry'.records.size
  handle :
    ∀ ref < registry.records.size,
      (registry'.record ref).handle = (registry.record ref).handle
  live :
    ∀ ref < registry.records.size,
      (registry'.record ref).state = .live → (registry.record ref).state = .live

namespace KeepsObjects

theorem refl (registry : Registry) : registry.KeepsObjects registry :=
  ⟨le_rfl, fun _ _ => rfl, fun _ _ => id⟩

theorem trans
    (first : registry.KeepsObjects registry')
    (second : registry'.KeepsObjects registry'') :
    registry.KeepsObjects registry'' where
  grows := first.grows.trans second.grows
  handle := fun ref bound =>
    (second.handle ref (bound.trans_le first.grows)).trans (first.handle ref bound)
  live := fun ref bound still =>
    first.live ref bound (second.live ref (bound.trans_le first.grows) still)

theorem of_records
    (records : registry'.records = registry.records) :
    registry.KeepsObjects registry' := by
  have same (ref : RecordRef) : registry'.record ref = registry.record ref := by
    rw [record, record, records]
  refine ⟨by rw [records], fun ref _ => by rw [same], fun ref _ still => ?_⟩
  rwa [same] at still

/-- Deferring changes nothing but states. -/
theorem of_deferred
    (size : registry'.records.size = registry.records.size)
    (deferred :
      ∀ ref,
        registry'.record ref = registry.record ref ∨
          (registry.record ref).state = .live ∧
            registry'.record ref = { registry.record ref with state := .deferred }) :
    registry.KeepsObjects registry' := by
  refine ⟨size.ge, fun ref _ => ?_, fun ref _ still => ?_⟩
  · rcases deferred ref with same | ⟨-, changed⟩
    · rw [same]
    · rw [changed]
  · rcases deferred ref with same | ⟨live, -⟩
    · rwa [same] at still
    · exact live

theorem of_defers
    {kind : Event → Prop}
    (defers : registry.Defers kind registry') :
    registry.KeepsObjects registry' :=
  of_deferred defers.size defers.record

theorem settle
    {ref : RecordRef}
    {change : Record → Record}
    (settles : (registry.record ref).Settles change) :
    registry.KeepsObjects (registry.alter ref change) := by
  refine ⟨(size_alter registry ref change).ge, fun other _ => ?_, fun other _ still => ?_⟩
  · exact registry.read_alter Record.handle ref other settles.handle
  · rw [record_alter] at still
    split at still
    · next found =>
        have settled := settles.settled
        rw [← found.1, still] at settled
        cases settled
    · exact still

theorem addRecord
    (registry : Registry)
    (tracker : TrackerRef)
    (handle : Handle)
    (typeName : String) :
    registry.KeepsObjects (registry.addRecord tracker handle typeName).2 where
  grows := by simp [Registry.addRecord, updateTracker]
  handle := fun ref bound => by rw [record_addRecord_of_lt bound]
  live := fun ref bound still => by rwa [record_addRecord_of_lt bound] at still

theorem detach
    (registry : Registry)
    (tracker : TrackerRef)
    (ref : RecordRef) :
    registry.KeepsObjects (registry.detach tracker ref).2 := by
  have changed : registry.KeepsObjects (registry.setState ref .detached) :=
    settle (Record.settles_setState _ rfl)
  simp only [Registry.detach]
  split
  · exact changed.trans (of_records rfl)
  · exact refl registry

/-! ## Moves -/

theorem deal
    {home : TrackerRef}
    {item : PendingRelease}
    (dealt : Deal home item registry registry') :
    registry.KeepsObjects registry' := by
  have taken := of_defers (.takeUp registry item)
  cases dealt with
  | pass tells _ => exact taken.trans (of_defers (.of_tells tells))
  | @settle told _ tells _ change settles tells' =>
      have struck :
          told.KeepsObjects ((told.alter item.record change).unregister home item.record) :=
        (settle settles).trans (of_records rfl)
      exact ((taken.trans (of_defers (.of_tells tells))).trans struck).trans
        (of_defers (.of_tells tells'))

theorem move
    {home : TrackerRef}
    {scene scene' : Scene}
    (move : Move home scene scene') :
    scene.registry.KeepsObjects scene'.registry := by
  cases move with
  | register registry _ _ handle typeName _ => exact addRecord registry home handle typeName
  | letGo registry _ _ tracker => exact of_defers (.letGo tracker registry)
  | discardHook registry _ _ hook => exact of_defers (.discardHook registry hook)
  | deferRelease registry _ _ ref hook => exact of_defers (.deferRelease registry home ref hook)
  | dropWrapper registry _ _ wrapper => exact of_defers (.dropWrapper registry wrapper)
  | settleLive registry _ _ ref _ _ settles =>
      exact (settle settles).trans (of_records rfl)
  | deal _ _ _ _ _ dealt => exact deal dealt
  | enter => exact of_records rfl
  | subscribe => exact of_records rfl
  | hold => exact of_records rfl
  | adjust => exact of_records rfl
  | takeSnapshot => exact of_records rfl
  | requeueFront => exact of_records rfl

theorem moves
    {home : TrackerRef}
    {scene scene' : Scene}
    (moves : Moves home scene scene') :
    scene.registry.KeepsObjects scene'.registry := by
  induction moves with
  | refl => exact refl _
  | tail _ last before => exact before.trans (move last)

end KeepsObjects

end Custody.Registry
