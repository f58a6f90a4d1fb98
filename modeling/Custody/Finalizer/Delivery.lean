import Custody.Session.Basic

/-!
# Delivery

How events reach callbacks.  The callbacks are those subscribed when the event
is raised, in the order of subscription; one that unsubscribes another does not
keep it from getting this event.  A panic ends the delivery.

A mismatch is offered to one resolver after another until one settles it.  A
resolver may ask for a drain; what that does is a parameter here.
-/

namespace Custody.Session

/-- Take the steps of a callback. -/
def takeSteps : List HandlerStep → Session → Except Panic Unit × Session
  | [], session => (.ok (), session)
  | .unsubscribe id :: rest, session => takeSteps rest (session.unsubscribe id).2
  | .panic text :: _, session => (.error ⟨text⟩, session)

/-- Deliver an event, announced as `notice` says, to several callbacks. -/
def deliver
    (notice : Handler → Session → Notice) :
    List Handler → Session → Except Panic Unit × Session
  | [], session => (.ok (), session)
  | handler :: rest, session =>
      match takeSteps handler.steps (session.announce (notice handler session)) with
      | (.ok (), session) => deliver notice rest session
      | (.error panic, session) => (.error panic, session)

/-- Count an error and deliver it to the error handlers. -/
def report
    (record : Option RecordRef)
    (error : BridgeError)
    (session : Session) :
    Except Panic Unit × Session :=
  deliver
    (fun handler _ => .reported handler.label record error)
    session.finalizer.errorHandlers.callbacks
    (session.updateFinalizer Finalizer.countError)

/-- Deliver the end of a drain to the collect handlers. -/
def reportCollected
    (count generation : Nat)
    (session : Session) :
    Except Panic Unit × Session :=
  deliver
    (fun handler session =>
      .collected handler.label count generation session.finalizerState)
    session.finalizer.collectHandlers.callbacks
    session

/-- Let a resolver act on a mismatch; drains it asks for are counted. -/
def prepare
    (nested : Session → Except Abort Nat × Session)
    (mismatch : Mismatch) :
    List ResolverStep → Option Nat → Session → Option Nat × Session
  | [], drained, session => (drained, session)
  | .adjust change :: rest, drained, session =>
      prepare nested mismatch rest drained (session.updateInterp (change mismatch))
  | .collect :: rest, _, session =>
      let (answer, session) := nested session
      prepare nested mismatch rest (some (answer.toOption.getD 0)) session

/-- Offer a mismatch to resolvers until one settles it. -/
def offer
    (nested : Session → Except Abort Nat × Session)
    (mismatch : Mismatch) :
    List Resolver → Session → Except Panic Bool × Session
  | [], session => (.ok false, session)
  | resolver :: rest, session =>
      let (drained, session) := prepare nested mismatch resolver.before none session
      let session := session.announce (.offered resolver.label mismatch drained)
      match takeSteps resolver.steps session with
      | (.error panic, session) => (.error panic, session)
      | (.ok (), session) =>
          if resolver.settles then
            (.ok true, session)
          else
            offer nested mismatch rest session

end Custody.Session
