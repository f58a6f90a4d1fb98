import Custody.Config
import Custody.Finalizer.Subscription

/-!
# Finalizers

The settings, the callbacks and the running totals of the drains of one
runtime.
-/

namespace Custody

/-- A record that a drain released, as it was then. -/
structure CollectedObject where
  recordId : Nat
  handle : Handle
  typeName : String
  generation : Nat
deriving DecidableEq, Repr

/-- The settings, callbacks and totals of one runtime's drains. -/
structure Finalizer where
  threshold : Nat
  validates : Bool
  draining : Bool
  collectHandlers : Subscriptions Handler
  errorHandlers : Subscriptions Handler
  resolvers : Subscriptions Resolver
  collected : List CollectedObject
  drains : Nat
  released : Nat
  errors : Nat

namespace Finalizer

/-- A finalizer that has not drained yet. -/
def new (threshold : Nat) (validates : Bool) : Finalizer where
  threshold := max threshold 1
  validates
  draining := false
  collectHandlers := []
  errorHandlers := []
  resolvers := []
  collected := []
  drains := 0
  released := 0
  errors := 0

/-- Set the number of waiting releases that starts a drain, at least one. -/
def setThreshold (finalizer : Finalizer) (threshold : Nat) : Finalizer :=
  { finalizer with threshold := max threshold 1 }

/-- Say whether drains check counts against records. -/
def setValidation (finalizer : Finalizer) (validates : Bool) : Finalizer :=
  { finalizer with validates }

/--
Remove a subscription from the first list that has it.  The answer says whether
any did.
-/
def unsubscribe
    (finalizer : Finalizer)
    (id : SubscriptionId) :
    Bool × Finalizer :=
  if finalizer.collectHandlers.has id then
    (true,
      { finalizer with collectHandlers := finalizer.collectHandlers.remove id })
  else if finalizer.errorHandlers.has id then
    (true, { finalizer with errorHandlers := finalizer.errorHandlers.remove id })
  else if finalizer.resolvers.has id then
    (true, { finalizer with resolvers := finalizer.resolvers.remove id })
  else
    (false, finalizer)

/-- Record the end of a drain that released the listed objects. -/
def finish
    (finalizer : Finalizer)
    (log : List CollectedObject) :
    Finalizer :=
  { finalizer with
    collected := log
    drains := finalizer.drains + 1
    released := finalizer.released + log.length }

/-- Count one error. -/
def countError (finalizer : Finalizer) : Finalizer :=
  { finalizer with errors := finalizer.errors + 1 }

/-- The diagnostic form of a finalizer. -/
def describe (finalizer : Finalizer) : String :=
  Text.braced "Finalizer"
    [ ("threshold", toString finalizer.threshold),
      ("validate", toString finalizer.validates),
      ("draining", toString finalizer.draining),
      ("stats",
        Text.braced "FinalizerStats"
          [ ("drains", toString finalizer.drains),
            ("released", toString finalizer.released),
            ("errors", toString finalizer.errors) ]) ]

end Finalizer

end Custody
