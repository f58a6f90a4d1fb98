import Custody.Proofs.Session.Wrapping
import Custody.Session.Shutdown

/-!
# Shutting down keeps the ledger

A shutdown drains what waits and then gives back every reference on the books of
the tracker, those of the table of exceptions, and those of the pending error
and the warning filters.  What the caller owns stays with the caller.
-/

namespace Custody

/-- The runtime gives back what it refers to itself. -/
def Session.dismantled (session : Session) : Session :=
  { session with
    table := (session.table.release session.interp).1
    interp := (session.table.release session.interp).2.clear.resetFilters }

namespace Session.Ledger

variable {acyclic : Prop} {session : Session} {owned : Multiset Handle}

/-- A record that owns its reference gives it back at the end of its runtime. -/
theorem releaseOwner
    (ledger : session.Ledger acyclic owned)
    (ref : RecordRef) :
    (session.releaseOwner ref).2.Ledger acyclic owned := by
  simp only [Session.releaseOwner]
  split
  · next owns =>
      have owned : (session.registry.record ref).state.owns = true := by
        rcases owns with live | deferred
        · exact congrArg _ live
        · exact congrArg _ deferred
      have struck := ledger.strike (session.registry.setState ref .released)
        (session.registry.held_alter_of_owns
          (fun record => { record with state := .released }) owned rfl)
      rw [Session.Ledger, Multiset.cons_add] at struck
      split
      · next remaining interp released => exact struck.decref released
      · next reason failed =>
          refine struck.of_full fun room => ?_
          rcases Interpreter.exists_decref (struck.isLive_of_mem room
            (Multiset.mem_cons_self _ _)) with ⟨_, released⟩
          exact absurd (failed.symm.trans released) (by simp)
  · exact ledger

theorem releaseOwners
    (refs : List RecordRef)
    (ledger : session.Ledger acyclic owned) :
    (session.releaseOwners refs).2.Ledger acyclic owned := by
  induction refs generalizing session with
  | nil => exact ledger
  | cons ref rest step => exact step (ledger.releaseOwner ref)

theorem releaseAll
    (ledger : session.Ledger acyclic owned) :
    session.releaseAll.2.Ledger acyclic owned := by
  have emptied : session.emptied.Ledger acyclic owned := ledger
  exact (emptied.releaseOwners _).of_spares (.updateRegistry (Registry.Defers.discardBatch _ _).mild)

/-- What the runtime holds for itself does not concern the others. -/
theorem keeps_dismantled
    (session : Session)
    (rest : Multiset Handle)
    (ledger : session.interp.Ledger acyclic (session.table.references + rest)) :
    session.dismantled.interp.Ledger acyclic (session.dismantled.table.references + rest) :=
  (ExceptionTable.ledger_release ledger).clear.resetFilters

theorem dismantle
    (ledger : session.Ledger acyclic owned) :
    session.dismantled.Ledger acyclic owned := by
  rw [Session.Ledger, reserve, add_left_comm] at ledger ⊢
  exact keeps_dismantled session _ ledger

end Session.Ledger

namespace Session

/-- At the end of a runtime its tracker has no owners. -/
theorem owners_emptied (session : Session) : session.emptied.ownTracker.owners = [] := by
  have struck (registry : Registry) (ref : TrackerRef) :
      ((registry.updateTracker ref fun tracker => { tracker with owners := [] }).tracker
        ref).owners = [] := by
    rw [Registry.tracker_updateTracker]
    split
    · rfl
    · next outside =>
        have missing : registry.trackers[ref]? = none := by simpa using outside
        simp [Registry.tracker, missing, Tracker.new]
  exact struck _ _

namespace Sound

variable {quiet acyclic : Prop} {session : Session} {owned : Multiset Handle}

theorem releaseOwner
    (sound : session.Sound quiet acyclic owned)
    (loud : ¬ quiet)
    (empty : session.ownTracker.owners = [])
    (ref : RecordRef) :
    (session.releaseOwner ref).2.Sound quiet acyclic owned ∧
      (session.releaseOwner ref).2.ownTracker.owners = [] := by
  rcases sound.accounts with ⟨lost, nothing, ledger⟩
  have released := ledger.releaseOwner ref
  revert released
  simp only [Session.releaseOwner]
  split
  · split
    · next remaining interp given =>
        intro released
        refine ⟨⟨⟨.of_empty empty, sound.calm, fun isQuiet => absurd isQuiet loud⟩,
          ⟨lost, nothing, released⟩, fun room => ?_⟩, empty⟩
        rcases Interpreter.decref_eq_ok_iff.mp given with ⟨heap, counted, rfl⟩
        have before := sound.untroubled ((Heap.Shrinks.decref counted).hasRoom_iff.mp room)
        exact before.enter (by simp)
    · exact fun released =>
        ⟨⟨⟨.of_empty empty, sound.calm, fun isQuiet => absurd isQuiet loud⟩,
          ⟨lost, nothing, released⟩, sound.untroubled⟩, empty⟩
  · exact fun _ => ⟨sound, empty⟩

theorem releaseOwners
    (refs : List RecordRef)
    (sound : session.Sound quiet acyclic owned)
    (loud : ¬ quiet)
    (empty : session.ownTracker.owners = []) :
    (session.releaseOwners refs).2.Sound quiet acyclic owned := by
  induction refs generalizing session with
  | nil => exact sound
  | cons ref rest step =>
      rcases sound.releaseOwner loud empty ref with ⟨sound', empty'⟩
      exact step sound' empty'

/-- A runtime whose references are all given back is no longer quiet. -/
theorem releaseAll
    (sound : session.Sound quiet acyclic owned)
    (loud : ¬ quiet) :
    session.releaseAll.2.Sound quiet acyclic owned := by
  have empty := session.owners_emptied
  have emptied : session.emptied.Sound quiet acyclic owned :=
    ⟨⟨.of_empty empty, sound.calm, fun isQuiet => absurd isQuiet loud⟩, sound.accounts,
      sound.untroubled⟩
  exact (emptied.releaseOwners _ loud empty).of_spares (.updateRegistry (Registry.Defers.discardBatch _ _).mild)

theorem dismantle (sound : session.Sound quiet acyclic owned) :
    session.dismantled.Sound quiet acyclic owned := by
  rcases sound.accounts with ⟨lost, nothing, ledger⟩
  refine ⟨⟨sound.accurate, sound.calm, sound.isOpen⟩, ⟨lost, nothing, ledger.dismantle⟩,
    fun room => sound.untroubled ?_⟩
  rw [Session.Ledger, reserve, add_left_comm] at ledger
  exact ledger.hasRoom_of_keeps (Ledger.keeps_dismantled session) room

end Sound

end Session

namespace Op

variable {quiet acyclic : Prop} {session : Session} {owned : Multiset Handle}

theorem smooth_drainPasses
    (passes drained : Nat)
    (sound : session.Sound quiet acyclic owned) :
    (drainPasses passes drained).Ends session fun outcome session' =>
      session'.Smooth quiet acyclic owned outcome := by
  induction passes generalizing drained session with
  | zero => exact .ok sound
  | succ passes step =>
      have collected := sound.collectReporting
      simp only [drainPasses, ends_bind, ends_session, andThen_ok]
      split
      · rw [ends_bind]
        apply ends_ofPanicking
        · exact fun count _ => step (drained + count) collected.sound
        · exact fun panic panicked =>
            .error collected.sound (collected.full (.panic panic) (by rw [panicked]; rfl))
      · exact .ok sound

/-- A shutdown keeps a runtime sound, but the runtime is no longer quiet. -/
theorem sound_shutDown
    (loud : ¬ quiet)
    (sound : session.Sound quiet acyclic owned) :
    shutDown.Ends session fun _ session' => session'.Sound quiet acyclic owned := by
  simp only [shutDown, ends_bind, ends_session, andThen_ok]
  split
  · exact sound
  · simp only [ends_bind, ends_change, andThen_ok]
    have entered : ({ session with isShutDown := true } : Session).Sound quiet acyclic owned :=
      { sound with }
    apply (smooth_drainPasses shutdownPasses 0 entered).mono
    intro outcome session' smooth
    cases outcome with
    | error abort => exact smooth.sound
    | ok drained =>
        simp only [andThen_ok, ends_bind, ends_of, ends_change, ends_pure]
        exact (smooth.sound.releaseAll loud).dismantle

/-- However a shutdown ends, what the caller owns is still accounted for. -/
theorem ledger_shutDown
    (isQuiet : quiet)
    (sound : session.Sound quiet acyclic owned) :
    shutDown.Ends session fun _ session' => session'.Ledger acyclic owned := by
  simp only [shutDown, ends_bind, ends_session, andThen_ok]
  split
  · exact sound.ledger isQuiet
  · simp only [ends_bind, ends_change, andThen_ok]
    have entered : ({ session with isShutDown := true } : Session).Sound quiet acyclic owned :=
      { sound with }
    apply (smooth_drainPasses shutdownPasses 0 entered).mono
    intro outcome session' smooth
    cases outcome with
    | error abort => exact smooth.sound.ledger isQuiet
    | ok drained =>
        simp only [andThen_ok, ends_bind, ends_of, ends_change, ends_pure]
        exact (smooth.sound.ledger isQuiet).releaseAll.dismantle

end Op

end Custody
