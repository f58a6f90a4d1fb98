import Custody.Tracking.Registry

/-!
# Holding trackers

A tracker is held by its runtime, by every wrapper of it, and by every hook made
for it.  When the last of them lets it go, the tracker is gone: what waits in
its queue is dropped, the oldest first, and with each hook the wrappers that the
hook owns.  These let their own trackers go at once, so that one end may bring
about another.

Running a hook and discarding one are defined here together, since both drop
the wrappers that the hook owns.  What happens when they let a tracker go is a
parameter at first.
-/

namespace Custody

namespace Registry

/--
Drop a wrapper, given by its parts: its record is deferred if it is live, and
its tracker let go by `letGo`.  A hook that cannot be queued is dropped by
`discard`, before the tracker is let go if the record was live, and else after
it.
-/
def dropWith
    (letGo : TrackerRef → Registry → Registry)
    (discard : Registry → Registry)
    (ref : TrackerRef)
    (record : RecordRef)
    (hook : Option Hook)
    (registry : Registry) :
    Registry :=
  if (registry.record record).state = .live then
    match registry.offerRelease ref record hook with
    | (none, registry) => letGo ref registry
    | (some _, registry) => letGo ref (discard registry)
  else
    discard (letGo ref registry)

end Registry

namespace Hook

/-- Drop the wrappers that a hook owns without running it. -/
def discardWith
    (letGo : TrackerRef → Registry → Registry) :
    Hook → Registry → Registry
  | .done home, registry => letGo home registry
  | .log _ rest, registry => rest.discardWith letGo registry
  | .defer _ _ rest, registry => rest.discardWith letGo registry
  | .drop tracker record rest, registry =>
      rest.discardWith letGo (registry.dropWith letGo id tracker record none)
  | .dropHooked tracker record carried rest, registry =>
      rest.discardWith letGo
        (registry.dropWith letGo (carried.discardWith letGo) tracker record (some carried))
  | .fail _ rest, registry => rest.discardWith letGo registry
  | .panic _ rest, registry => rest.discardWith letGo registry

/-- The text reported for a panic whose payload is none. -/
def silentPanic : String :=
  "dispose hook panicked"

/--
Run a hook for a record.  The text of the step that ended it early is returned,
be it an error or a panic.
-/
def runWith
    (letGo : TrackerRef → Registry → Registry)
    (owner : RecordRef) :
    Hook → Registry → Option String × Registry
  | .done home, registry => (none, letGo home registry)
  | .log text rest, registry =>
      rest.runWith letGo owner (registry.announce (.hook text (registry.record owner)))
  | .defer tracker record rest, registry =>
      rest.runWith letGo owner (registry.offerRelease tracker record none).2
  | .drop tracker record rest, registry =>
      rest.runWith letGo owner (registry.dropWith letGo id tracker record none)
  | .dropHooked tracker record carried rest, registry =>
      rest.runWith letGo owner
        (registry.dropWith letGo (carried.discardWith letGo) tracker record (some carried))
  | .fail text rest, registry => (some text, rest.discardWith letGo registry)
  | .panic text rest, registry =>
      (some (text.getD silentPanic), rest.discardWith letGo registry)

end Hook

namespace Registry

/-! ## Letting go -/

/-- Drop a hook that may be absent without running it. -/
def discardHookWith
    (letGo : TrackerRef → Registry → Registry)
    (hook : Option Hook)
    (registry : Registry) :
    Registry :=
  match hook with
  | none => registry
  | some hook => hook.discardWith letGo registry

/-- Drop waiting releases without carrying them out. -/
def discardBatchWith
    (letGo : TrackerRef → Registry → Registry)
    (batch : List PendingRelease)
    (registry : Registry) :
    Registry :=
  batch.foldl (fun registry item => registry.discardHookWith letGo item.hook) registry

/--
Let a tracker go.  If nobody else holds it what waits in its queue is dropped,
whereby at most `depth` trackers end, each on account of the one before.
-/
def letGoWithin : Nat → TrackerRef → Registry → Registry
  | 0, ref, registry => registry.leave ref
  | depth + 1, ref, registry =>
      let registry := registry.leave ref
      let tracker := registry.tracker ref
      if tracker.holders = 0 then
        discardBatchWith (letGoWithin depth) tracker.queue.items
          (registry.updateQueue ref fun _ => .empty)
      else
        registry

/--
Let a tracker go.  The number of trackers is depth enough, since none ends
twice.
-/
def letGo (ref : TrackerRef) (registry : Registry) : Registry :=
  registry.letGoWithin registry.trackers.size ref

end Registry

namespace Hook

/-- Drop the wrappers that a hook owns, and the hook, without running it. -/
def discard (hook : Hook) (registry : Registry) : Registry :=
  hook.discardWith Registry.letGo registry

/-- Run a hook for a record.  The text of the step that ended it early is returned. -/
def run
    (hook : Hook)
    (owner : RecordRef)
    (registry : Registry) :
    Option String × Registry :=
  hook.runWith Registry.letGo owner registry

end Hook

namespace Registry

/-- Drop a hook that may be absent without running it. -/
def discardHook (registry : Registry) (hook : Option Hook) : Registry :=
  registry.discardHookWith letGo hook

/-- Drop waiting releases without carrying them out. -/
def discardBatch
    (registry : Registry)
    (batch : List PendingRelease) :
    Registry :=
  registry.discardBatchWith letGo batch

/-! ## Dropping -/

/--
Defer the release of a record.  A hook that cannot be queued is discarded.
-/
def deferRelease
    (registry : Registry)
    (ref : TrackerRef)
    (record : RecordRef)
    (hook : Option Hook) :
    Registry :=
  let (left, registry) := registry.offerRelease ref record hook
  registry.discardHook left

/-- Drop a wrapper: its reference is left to a later drain. -/
def dropWrapper (registry : Registry) (wrapper : Wrapper) : Registry :=
  registry.dropWith letGo (discardHookWith letGo wrapper.hook) wrapper.tracker
    wrapper.record wrapper.hook

/--
Give a wrapper up without giving its reference back, which the caller owns from
now on.  The hook is discarded.
-/
def giveUp
    (registry : Registry)
    (wrapper : Wrapper) :
    Except BridgeError Handle × Registry :=
  let (result, registry) :=
    (registry.discardHook wrapper.hook).detach wrapper.tracker wrapper.record
  (result, registry.letGo wrapper.tracker)

/-- Drop several wrappers in order. -/
def dropWrappers (registry : Registry) (wrappers : List Wrapper) : Registry :=
  wrappers.foldl dropWrapper registry

/-- Drop a captured exception with its wrappers. -/
def dropException
    (registry : Registry)
    (exception : CapturedException) :
    Registry :=
  registry.dropWrappers exception.wrappers

end Registry

end Custody
