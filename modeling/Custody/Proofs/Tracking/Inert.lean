import Custody.Proofs.Tracking.Moves

/-!
# What is over stays over

Once a tracker is closed and none of the records owns a reference, no move opens
it again or makes a record own one.
-/

namespace Custody.Registry

/-- The tracker is closed, and no record owns a reference. -/
structure Inert (registry : Registry) (home : TrackerRef) : Prop where
  isClosed : (registry.tracker home).isOpen = false
  spent : ∀ ref, (registry.record ref).state.owns = false

variable {home : TrackerRef} {registry registry' : Registry}

namespace Inert

/-- No record can be deferred. -/
theorem record_of_defers
    {kind : Event → Prop}
    (inert : registry.Inert home)
    (defers : registry.Defers kind registry')
    (ref : RecordRef) :
    registry'.record ref = registry.record ref := by
  rcases defers.record ref with same | ⟨live, -⟩
  · exact same
  · have spent := inert.spent ref
    rw [live] at spent
    cases spent

theorem of_defers
    {kind : Event → Prop}
    (inert : registry.Inert home)
    (defers : registry.Defers kind registry') :
    registry'.Inert home where
  isClosed := (congrArg (fun books => books.2.2.1) (defers.books home)).trans inert.isClosed
  spent := fun ref => by
    rw [inert.record_of_defers defers ref]
    exact inert.spent ref

/-- The tracker changes, but it is not opened again. -/
theorem updateTracker
    {change : Tracker → Tracker}
    (inert : registry.Inert home)
    (closes : ∀ tracker, tracker.isOpen = false → (change tracker).isOpen = false) :
    (registry.updateTracker home change).Inert home where
  isClosed := by
    rw [tracker_updateTracker]
    split
    · exact closes _ inert.isClosed
    · exact inert.isClosed
  spent := inert.spent

theorem deal
    {item : PendingRelease}
    (inert : registry.Inert home)
    (dealt : Deal home item registry registry') :
    registry'.Inert home := by
  have taken := inert.of_defers (.takeUp registry item)
  cases dealt with
  | pass tells _ => exact taken.of_defers (.of_tells tells)
  | settle tells deferred =>
      have spent := (taken.of_defers (.of_tells tells)).spent item.record
      rw [deferred] at spent
      cases spent

end Inert

theorem Move.inert
    {scene scene' : Scene}
    (move : Move home scene scene')
    (inert : scene.registry.Inert home) :
    scene'.registry.Inert home := by
  cases move with
  | enter => exact ⟨inert.isClosed, inert.spent⟩
  | subscribe => exact ⟨inert.isClosed, inert.spent⟩
  | register _ _ _ _ _ isOpen => cases inert.isClosed.symm.trans isOpen
  | hold => exact inert.updateTracker fun _ => id
  | letGo registry _ _ tracker => exact inert.of_defers (.letGo tracker registry)
  | discardHook registry _ _ hook => exact inert.of_defers (.discardHook registry hook)
  | deferRelease registry _ _ ref hook =>
      exact inert.of_defers (.deferRelease registry home ref hook)
  | dropWrapper registry _ _ wrapper => exact inert.of_defers (.dropWrapper registry wrapper)
  | settleLive _ _ _ ref _ live =>
      have spent := inert.spent ref
      rw [live] at spent
      cases spent
  | adjust _ _ _ change kept =>
      refine inert.updateTracker fun tracker isClosed => ?_
      rcases kept tracker with ⟨isOpen, _, changed, closes⟩
      rw [changed]
      exact Bool.eq_false_iff.mpr fun opened =>
        Bool.false_ne_true (isClosed.symm.trans (closes opened))
  | takeSnapshot => exact inert.updateTracker fun _ => id
  | deal _ _ _ _ _ dealt => exact inert.deal dealt
  | requeueFront => exact inert.updateTracker fun _ => id

theorem Moves.inert
    {scene scene' : Scene}
    (moves : Moves home scene scene')
    (inert : scene.registry.Inert home) :
    scene'.registry.Inert home := by
  induction moves with
  | refl => exact inert
  | tail _ move before => exact move.inert before

end Custody.Registry
