import Custody.Proofs.Finalizer.Occasions
import Custody.Proofs.Session.Composition

/-!
# Announcements along a run

Along a run of any length, through drains, nested drains, panics and callbacks that end
each other's subscriptions, every occasion is announced by those who are subscribed when
it arises, and a number of a subscription means one callback at most.
-/

namespace Custody

namespace Session

variable {session session' : Session} {ref : RecordRef}

/-! ## What requests are made of -/

namespace Still

theorem detach
    (tracker : TrackerRef)
    (ref : RecordRef)
    (session : Session) :
    session.Still { session with registry := (session.registry.detach tracker ref).2 } := by
  rw [Registry.detach]
  split
  · exact of_eq rfl rfl rfl
  · exact of_eq rfl rfl rfl

theorem register
    {handle : Handle}
    (registered : session.register handle = .ok (ref, session')) :
    session.Still session' := by
  rw [Session.register] at registered
  split at registered
  · cases registered
  · split at registered
    · cases registered
    · split at registered
      · cases registered
      · cases registered
        exact of_eq rfl rfl rfl

end Still

namespace Announces

theorem releaseNow
    (ref : RecordRef)
    (session : Session) :
    session.Announces (session.releaseNow ref).2 := by
  rw [Session.releaseNow]
  simp only
  split
  · split
    · next remaining interp _ =>
        have given : session.Announces
            { session with
              interp
              registry := (session.registry.setState ref .released).unregister session.tracker
                ref } :=
          of_still (.of_eq rfl rfl rfl)
        exact given.trans (enter _ rfl)
    · exact of_still (.of_eq rfl rfl rfl)
  · exact refl session

theorem releaseOwner
    (ref : RecordRef)
    (session : Session) :
    session.Announces (session.releaseOwner ref).2 := by
  rw [Session.releaseOwner]
  simp only
  split
  · split
    · next remaining interp _ =>
        have given : session.Announces
            { session with interp, registry := session.registry.setState ref .released } :=
          of_still (.of_eq rfl rfl rfl)
        exact given.trans (enter _ rfl)
    · exact of_still (.of_eq rfl rfl rfl)
  · exact refl session

theorem releaseOwners
    (refs : List RecordRef)
    (session : Session) :
    session.Announces (session.releaseOwners refs).2 := by
  induction refs generalizing session with
  | nil => exact refl session
  | cons ref rest step => exact (releaseOwner ref session).trans (step _)

theorem releaseAll (session : Session) : session.Announces session.releaseAll.2 := by
  have emptied : session.Announces session.emptied := of_still (.of_eq rfl rfl rfl)
  have released := emptied.trans (releaseOwners
    session.closed.takeSnapshot.2.2.ownTracker.owners.all session.emptied)
  rw [releaseAll_eq_emptied]
  exact released.trans (of_still (.of_defers (.discardBatch _ _)))

end Announces

/-- Whatever requests are made of, callbacks are told of occasions only. -/
instance : Pervasive Announces where
  refl := .refl
  trans := .trans
  useInterp _ _ := .of_still (.of_eq rfl rfl rfl)
  defer defers := .of_still (.of_defers defers)
  ranHook _ session := .enter session rfl
  waited session := .enter session rfl
  register registered := .of_still (.register registered)
  releaseNow := .releaseNow
  detach tracker ref session := .of_still (.detach tracker ref session)
  shutDown _ := .of_still (.of_eq rfl rfl rfl)
  close _ := .of_still (.of_eq rfl rfl rfl)
  releaseAll := .releaseAll
  collectReporting := .collectReporting
  act {action} isBasic session := by
    cases action with
    | push item => exact .of_still (.of_eq rfl rfl rfl)
    | takeSnapshot => exact .of_still (.of_eq rfl rfl rfl)
    | requeueFront items => exact .of_still (.of_eq rfl rfl rfl)
    | onCollect handler => exact ⟨[], .onCollect .refl handler⟩
    | onError handler => exact ⟨[], .onError .refl handler⟩
    | addResolver resolver => exact ⟨[], .addResolver .refl resolver⟩
    | unsubscribe id => exact ⟨[], .unsubscribe .refl id⟩
    | setThreshold threshold => exact .of_still ⟨rfl, rfl, rfl, rfl, rfl⟩
    | setValidation validates => exact .of_still ⟨rfl, rfl, rfl, rfl, rfl⟩
    | setDeferral defers => exact .of_still (.of_eq rfl rfl rfl)
    | reportFault record error =>
        exact (Announces.enter session rfl).trans (.report record error _)
    | _ => exact isBasic.elim

/-! ## Along a run -/

variable {config : Config} {hasTable : Bool}

end Session

end Custody
