import Custody.Error
import Custody.Interpreter.Basic

/-!
# Subscriptions

A finalizer keeps lists of callbacks.  All lists draw their numbers from one
supply, so a number names at most one subscription, whichever list holds it.

A callback is described by what it does: it announces the event, then takes its
steps.  A resolver may change the interpreter and ask for a drain before it
announces, and it says at the end whether the mismatch is settled.
-/

namespace Custody

/-- The number of a subscription. -/
abbrev SubscriptionId := Nat

/-- What a callback does after it has announced its event. -/
inductive HandlerStep where
  | unsubscribe (id : SubscriptionId)
  | panic (text : String)
deriving DecidableEq, Repr

/-- A callback for finished drains or for reported errors. -/
structure Handler where
  label : String
  steps : List HandlerStep
deriving DecidableEq, Repr

/-- What a resolver does before it announces the mismatch. -/
inductive ResolverStep where
  | adjust (change : Mismatch → Interpreter → Interpreter)
  | collect

namespace ResolverStep

/-- Take references to the object of the mismatch. -/
def retain (count : Nat) : ResolverStep :=
  .adjust fun mismatch interp =>
    count.repeat (fun interp => interp.retain mismatch.handle) interp

/-- Give back references to the object of the mismatch. -/
def release (count : Nat) : ResolverStep :=
  .adjust fun mismatch interp =>
    count.repeat (fun interp => interp.release mismatch.handle) interp

/-- Take as many references as the mismatch says are missing. -/
def repair : ResolverStep :=
  .adjust fun mismatch interp =>
    (mismatch.expected - mismatch.observed).toNat.repeat
      (fun interp => interp.retain mismatch.handle) interp

end ResolverStep

/-- A callback for mismatches. -/
structure Resolver where
  label : String
  before : List ResolverStep
  steps : List HandlerStep
  settles : Bool

/-- Subscribed callbacks in the order of subscription. -/
abbrev Subscriptions (α : Type) := List (SubscriptionId × α)

namespace Subscriptions

variable {α : Type}

/-- Add a callback. -/
def add
    (subscriptions : Subscriptions α)
    (id : SubscriptionId)
    (callback : α) :
    Subscriptions α :=
  subscriptions ++ [(id, callback)]

/-- Whether a number is subscribed. -/
def has (subscriptions : Subscriptions α) (id : SubscriptionId) : Bool :=
  subscriptions.any fun entry => entry.1 == id

/-- Remove the callback under a number. -/
def remove
    (subscriptions : Subscriptions α)
    (id : SubscriptionId) :
    Subscriptions α :=
  subscriptions.filter fun entry => entry.1 != id

/-- The callbacks subscribed right now. -/
def callbacks (subscriptions : Subscriptions α) : List α :=
  subscriptions.map Prod.snd

end Subscriptions

end Custody
