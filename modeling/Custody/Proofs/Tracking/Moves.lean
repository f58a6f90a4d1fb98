import Custody.Proofs.Tracking.Exactness
import Mathlib.Logic.Relation

/-!
# What can happen to a registry

Whatever is done with one runtime, short of filling its queue by hand, disposing
of a wrapper with a hook and shutting the runtime down, changes the registry by
the moves of this module.  They say in full what each primitive change does, so
that what every move keeps is kept throughout.

A scene is a registry together with what is under way: how many of those who
hold a tracker are in the caller's hands, be they wrappers or hooks, and the
items that a drain took from the queue and has not dealt with yet.
-/

namespace Custody

/-! ## Holders -/

/-- How often a hook holds trackers: once by itself and once with each wrapper that it owns. -/
def Hook.holds : Hook → Nat
  | .done _ => 1
  | .log _ rest => rest.holds
  | .defer _ _ rest => rest.holds
  | .drop _ _ rest => 1 + rest.holds
  | .dropHooked _ _ carried rest => 1 + carried.holds + rest.holds
  | .fail _ rest => rest.holds
  | .panic _ rest => rest.holds

/-- How often a hook that may be absent holds trackers. -/
def Hook.holdsOf : Option Hook → Nat
  | none => 0
  | some hook => hook.holds

@[simp]
theorem Hook.holdsOf_none : Hook.holdsOf none = 0 :=
  rfl

@[simp]
theorem Hook.holdsOf_some (hook : Hook) : Hook.holdsOf (some hook) = hook.holds :=
  rfl

/-- How often a wrapper holds trackers: once by itself, and with its hook. -/
def Wrapper.holds (wrapper : Wrapper) : Nat :=
  1 + Hook.holdsOf wrapper.hook

/-- How often several wrappers hold trackers. -/
def Wrapper.holdsOf (wrappers : List Wrapper) : Nat :=
  (wrappers.map Wrapper.holds).sum

/-- How often waiting releases hold trackers. -/
def PendingRelease.holdsOf (items : List PendingRelease) : Nat :=
  (items.map fun item => Hook.holdsOf item.hook).sum

@[simp]
theorem Wrapper.holdsOf_nil : Wrapper.holdsOf [] = 0 :=
  rfl

@[simp]
theorem Wrapper.holdsOf_cons
    (wrapper : Wrapper)
    (rest : List Wrapper) :
    Wrapper.holdsOf (wrapper :: rest) = wrapper.holds + Wrapper.holdsOf rest := by
  simp [Wrapper.holdsOf]

@[simp]
theorem PendingRelease.holdsOf_nil : PendingRelease.holdsOf [] = 0 :=
  rfl

@[simp]
theorem PendingRelease.holdsOf_cons
    (item : PendingRelease)
    (rest : List PendingRelease) :
    PendingRelease.holdsOf (item :: rest) =
      Hook.holdsOf item.hook + PendingRelease.holdsOf rest := by
  simp [PendingRelease.holdsOf]

@[simp]
theorem PendingRelease.holdsOf_append
    (items others : List PendingRelease) :
    PendingRelease.holdsOf (items ++ others) =
      PendingRelease.holdsOf items + PendingRelease.holdsOf others := by
  simp [PendingRelease.holdsOf]

/-- An entry that tells neither of a deferral, nor of a drain taking a record up, nor of a hook. -/
def Event.IsPlain : Event → Prop
  | .deferred _ => False
  | .takenUp _ => False
  | .hookRan _ => False
  | _ => True

/--
A change that settles a record: it no longer owns its reference, and it keeps
its number and its object.
-/
structure Record.Settles (record : Record) (change : Record → Record) : Prop where
  id : ∀ record, (change record).id = record.id
  handle : ∀ record, (change record).handle = record.handle
  settled : (change record).state.owns = false

theorem Record.settles_setState
    (record : Record)
    {state : RecordState}
    (settled : state.owns = false) :
    record.Settles fun record => { record with state } :=
  ⟨fun _ => rfl, fun _ => rfl, settled⟩

namespace Registry

/-! ## Telling -/

/-- Nothing changed but that entries of a kind were added to the journal. -/
def Tells (kind : Event → Prop) (registry registry' : Registry) : Prop :=
  ∃ events,
    registry' = { registry with journal := registry.journal ++ events } ∧
      ∀ event ∈ events, kind event

namespace Tells

variable {kind : Event → Prop} {registry registry' registry'' : Registry}

theorem refl (registry : Registry) : registry.Tells kind registry :=
  ⟨[], by simp, nofun⟩

theorem trans
    (first : registry.Tells kind registry')
    (second : registry'.Tells kind registry'') :
    registry.Tells kind registry'' := by
  rcases first with ⟨before, rfl, kinds⟩
  rcases second with ⟨after, rfl, kinds'⟩
  refine ⟨before ++ after, by simp, fun event member => ?_⟩
  rcases List.mem_append.mp member with early | late
  · exact kinds event early
  · exact kinds' event late

theorem enter
    (registry : Registry)
    {event : Event}
    (isKind : kind event) :
    registry.Tells kind (registry.enter event) :=
  ⟨[event], rfl, by simpa using isKind⟩

theorem record
    (tells : registry.Tells kind registry')
    (ref : RecordRef) :
    registry'.record ref = registry.record ref := by
  rcases tells with ⟨events, rfl, -⟩
  rfl

theorem told
    {event : Event}
    (tells : registry.Tells kind registry')
    (before : event ∈ registry.journal) :
    event ∈ registry'.journal := by
  rcases tells with ⟨events, rfl, -⟩
  exact List.mem_append_left _ before

end Tells

/-! ## Taking up -/

/-- A drain takes an item up: the journal tells so, and the hook of the item runs. -/
def takeUp (registry : Registry) (item : PendingRelease) : Registry :=
  match item.hook with
  | none => registry.enter (.takenUp item.record)
  | some hook =>
      (hook.run item.record
        ((registry.enter (.takenUp item.record)).enter (.hookRan item.record))).2

/--
What a drain does with an item.  It takes the item up, and passes over a record
that was settled before; any other it settles and strikes from the books.
-/
inductive Deal
    (home : TrackerRef)
    (item : PendingRelease)
    (registry : Registry) :
    Registry → Prop where
  | pass {told : Registry}
      (tells : (registry.takeUp item).Tells Event.IsPlain told)
      (settled : (told.record item.record).state ≠ .deferred) :
      Deal home item registry told
  | settle {told told' : Registry}
      (tells : (registry.takeUp item).Tells Event.IsPlain told)
      (deferred : (told.record item.record).state = .deferred)
      (change : Record → Record)
      (settles : (told.record item.record).Settles change)
      (tells' :
        ((told.alter item.record change).unregister home item.record).Tells Event.IsPlain told') :
      Deal home item registry told'

/-! ## Moves -/

/-- A registry with the holders in the caller's hands and the items that a drain took up. -/
structure Scene where
  registry : Registry
  hand : Nat
  batch : List PendingRelease

/-- A primitive change of a registry on behalf of the runtime that has the given tracker. -/
inductive Move (home : TrackerRef) : Scene → Scene → Prop where
  /-- Something is told that is plain. -/
  | enter (registry : Registry) (hand : Nat) (batch : List PendingRelease) (event : Event)
      (plain : event.IsPlain) :
      Move home ⟨registry, hand, batch⟩ ⟨registry.enter event, hand, batch⟩
  /-- The number of a subscription is drawn. -/
  | subscribe (registry : Registry) (hand : Nat) (batch : List PendingRelease) (next : Nat) :
      Move home ⟨registry, hand, batch⟩
        ⟨{ registry with nextSubscription := next }, hand, batch⟩
  /-- A reference is registered, as long as the tracker is open. -/
  | register (registry : Registry) (hand : Nat) (batch : List PendingRelease)
      (handle : Handle) (typeName : String)
      (isOpen : (registry.tracker home).isOpen = true) :
      Move home ⟨registry, hand, batch⟩
        ⟨(registry.addRecord home handle typeName).2, hand, batch⟩
  /-- A wrapper or a hook is made, which holds the tracker. -/
  | hold (registry : Registry) (hand : Nat) (batch : List PendingRelease) :
      Move home ⟨registry, hand, batch⟩ ⟨registry.hold home, hand + 1, batch⟩
  /-- A wrapper or a hook lets its tracker go. -/
  | letGo (registry : Registry) (hand : Nat) (batch : List PendingRelease)
      (tracker : TrackerRef) :
      Move home ⟨registry, hand + 1, batch⟩ ⟨registry.letGo tracker, hand, batch⟩
  /-- A hook is dropped without running. -/
  | discardHook (registry : Registry) (hand : Nat) (batch : List PendingRelease)
      (hook : Option Hook) :
      Move home ⟨registry, Hook.holdsOf hook + hand, batch⟩
        ⟨registry.discardHook hook, hand, batch⟩
  /-- The release of a record is deferred. -/
  | deferRelease (registry : Registry) (hand : Nat) (batch : List PendingRelease)
      (ref : RecordRef) (hook : Option Hook) :
      Move home ⟨registry, Hook.holdsOf hook + hand, batch⟩
        ⟨registry.deferRelease home ref hook, hand, batch⟩
  /-- A wrapper is dropped. -/
  | dropWrapper (registry : Registry) (hand : Nat) (batch : List PendingRelease)
      (wrapper : Wrapper) :
      Move home ⟨registry, wrapper.holds + hand, batch⟩
        ⟨registry.dropWrapper wrapper, hand, batch⟩
  /-- A live record is settled. -/
  | settleLive (registry : Registry) (hand : Nat) (batch : List PendingRelease)
      (ref : RecordRef) (change : Record → Record)
      (live : (registry.record ref).state = .live)
      (settles : (registry.record ref).Settles change) :
      Move home ⟨registry, hand, batch⟩
        ⟨(registry.alter ref change).unregister home ref, hand, batch⟩
  /-- The tracker is closed, or dropped wrappers are queued or not from now on. -/
  | adjust (registry : Registry) (hand : Nat) (batch : List PendingRelease)
      (change : Tracker → Tracker)
      (kept :
        ∀ tracker, ∃ isOpen defers,
          change tracker = { tracker with isOpen, defers } ∧
            (isOpen = true → tracker.isOpen = true)) :
      Move home ⟨registry, hand, batch⟩ ⟨registry.updateTracker home change, hand, batch⟩
  /-- A drain takes everything from the queue. -/
  | takeSnapshot (registry : Registry) (hand : Nat) :
      Move home ⟨registry, hand, []⟩
        ⟨registry.updateQueue home fun _ => (registry.tracker home).queue.takeSnapshot.2, hand,
          (registry.tracker home).queue.items⟩
  /-- A drain deals with the next item. -/
  | deal (registry registry' : Registry) (hand : Nat) (item : PendingRelease)
      (rest : List PendingRelease) (dealt : Deal home item registry registry') :
      Move home ⟨registry, hand, item :: rest⟩ ⟨registry', hand, rest⟩
  /-- The items that a drain did not get to return to the front of the queue. -/
  | requeueFront (registry : Registry) (hand : Nat) (batch : List PendingRelease) :
      Move home ⟨registry, hand, batch⟩
        ⟨registry.updateQueue home fun queue => queue.requeueFront batch, hand, []⟩

/-- Any number of moves. -/
abbrev Moves (home : TrackerRef) : Scene → Scene → Prop :=
  Relation.ReflTransGen (Move home)

/-! ## What every move keeps -/

theorem Defers.of_tells
    {kind : Event → Prop}
    {registry registry' : Registry}
    (tells : registry.Tells kind registry') :
    registry.Defers kind registry' := by
  rcases tells with ⟨events, rfl, kinds⟩
  exact ⟨rfl, rfl, fun _ => .inl rfl, fun _ => rfl, fun _ => id, ⟨events, rfl, kinds⟩, rfl⟩

/-- Taking an item up only defers. -/
theorem Defers.takeUp
    (registry : Registry)
    (item : PendingRelease) :
    registry.Defers Event.IsMild (registry.takeUp item) := by
  rw [Registry.takeUp]
  split
  · exact .enter registry (by simp)
  · next hook _ =>
      exact ((Defers.enter registry (by simp)).trans (.enter _ (by simp))).trans
        (Defers.run hook _ _).mild

namespace Deal

variable {home : TrackerRef} {item : PendingRelease} {registry registry' : Registry}

theorem exact
    (dealt : Deal home item registry registry')
    (books : registry.Exact home) :
    registry'.Exact home := by
  have taken := books.of_defers (.takeUp registry item)
  cases dealt with
  | pass tells _ => exact taken.of_defers (.of_tells tells)
  | settle tells deferred change settles tells' =>
      have told := taken.of_defers (.of_tells tells)
      have owns := congrArg RecordState.owns deferred
      exact (told.strike settles.id settles.handle owns settles.settled).of_defers
        (.of_tells tells')

theorem size (dealt : Deal home item registry registry') :
    registry'.records.size = registry.records.size := by
  have taken := Defers.takeUp registry item
  cases dealt with
  | pass tells _ => exact (Defers.of_tells tells).size.trans taken.size
  | settle tells _ change _ tells' =>
      have struck := (Defers.of_tells tells').size.trans (size_alter _ item.record change)
      exact struck.trans ((Defers.of_tells tells).size.trans taken.size)

theorem told
    {event : Event}
    (dealt : Deal home item registry registry')
    (before : event ∈ registry.journal) :
    event ∈ registry'.journal := by
  have taken := (Defers.takeUp registry item).told before
  cases dealt with
  | pass tells _ => exact tells.told taken
  | settle tells _ _ _ tells' => exact tells'.told (tells.told taken)

/-- The queue is as it was when the item was taken up. -/
theorem queue (dealt : Deal home item registry registry') :
    (registry'.tracker home).queue = ((registry.takeUp item).tracker home).queue := by
  have told {registry registry' : Registry} (tells : registry.Tells Event.IsPlain registry') :
      (registry'.tracker home).queue = (registry.tracker home).queue := by
    rcases tells with ⟨_, rfl, -⟩
    rfl
  cases dealt with
  | pass tells _ => exact told tells
  | settle tells _ change _ tells' =>
      refine ((told tells').trans ?_).trans (told tells)
      exact read_updateTracker Tracker.queue _ home home fun _ => rfl

end Deal

namespace Move

variable {home : TrackerRef} {scene scene' : Scene}

/-- Every move keeps exact books. -/
theorem exact
    (move : Move home scene scene')
    (books : scene.registry.Exact home) :
    scene'.registry.Exact home := by
  cases move with
  | enter registry _ _ event _ =>
      exact books.congr rfl rfl rfl rfl (fun _ => rfl) fun _ => rfl
  | subscribe => exact books.congr rfl rfl rfl rfl (fun _ => rfl) fun _ => rfl
  | register registry _ _ handle typeName _ => exact books.addRecord handle typeName
  | hold registry =>
      have held : registry.Defers Event.IsMild (registry.hold home) := .hold registry home
      exact books.of_defers held
  | letGo registry _ _ tracker => exact books.of_defers (.letGo tracker registry)
  | discardHook registry _ _ hook => exact books.of_defers (.discardHook registry hook)
  | deferRelease registry _ _ ref hook =>
      exact books.of_defers (.deferRelease registry home ref hook)
  | dropWrapper registry _ _ wrapper => exact books.of_defers (.dropWrapper registry wrapper)
  | settleLive registry _ _ ref change live settles =>
      exact books.strike settles.id settles.handle (congrArg RecordState.owns live)
        settles.settled
  | adjust registry _ _ change kept =>
      have same (tracker : Tracker) :
          (change tracker).owners = tracker.owners ∧ (change tracker).nextId = tracker.nextId := by
        rcases kept tracker with ⟨isOpen, defers, changed, -⟩
        rw [changed]
        exact ⟨rfl, rfl⟩
      exact books.updateTracker home (fun tracker => (same tracker).1)
        fun tracker => (same tracker).2
  | takeSnapshot registry =>
      exact books.updateTracker home (fun _ => rfl) fun _ => rfl
  | deal _ _ _ _ _ dealt => exact dealt.exact books
  | requeueFront registry =>
      exact books.updateTracker home (fun _ => rfl) fun _ => rfl

/-- No move takes a record away. -/
theorem grows (move : Move home scene scene') :
    scene.registry.records.size ≤ scene'.registry.records.size := by
  cases move with
  | register registry _ _ handle typeName _ =>
      simp [addRecord, updateTracker]
  | letGo registry _ _ tracker => exact (Defers.letGo tracker registry).size.ge
  | discardHook registry _ _ hook => exact (Defers.discardHook registry hook).size.ge
  | deferRelease registry _ _ ref hook =>
      exact (Defers.deferRelease registry home ref hook).size.ge
  | dropWrapper registry _ _ wrapper => exact (Defers.dropWrapper registry wrapper).size.ge
  | settleLive registry _ _ ref change => exact (size_alter registry ref change).ge
  | deal _ _ _ _ _ dealt => exact dealt.size.ge
  | enter => exact le_rfl
  | subscribe => exact le_rfl
  | hold => exact le_rfl
  | adjust => exact le_rfl
  | takeSnapshot => exact le_rfl
  | requeueFront => exact le_rfl

/-- No move takes an entry out of the journal. -/
theorem told
    {event : Event}
    (move : Move home scene scene')
    (before : event ∈ scene.registry.journal) :
    event ∈ scene'.registry.journal := by
  cases move with
  | enter => exact List.mem_append_left _ before
  | letGo registry _ _ tracker => exact (Defers.letGo tracker registry).told before
  | discardHook registry _ _ hook => exact (Defers.discardHook registry hook).told before
  | deferRelease registry _ _ ref hook =>
      exact (Defers.deferRelease registry home ref hook).told before
  | dropWrapper registry _ _ wrapper => exact (Defers.dropWrapper registry wrapper).told before
  | deal _ _ _ _ _ dealt => exact dealt.told before
  | subscribe => exact before
  | register => exact before
  | hold => exact before
  | settleLive => exact before
  | adjust => exact before
  | takeSnapshot => exact before
  | requeueFront => exact before

/-- After every move the number of waiting items is right. -/
theorem counted
    (move : Move home scene scene')
    (before : (scene.registry.tracker home).queue.IsCounted) :
    (scene'.registry.tracker home).queue.IsCounted := by
  have kept {registry registry' : Registry} {change : Tracker → Tracker}
      (trackers : registry'.trackers = registry.trackers)
      (queue : ∀ tracker, (change tracker).queue = tracker.queue)
      (before : (registry.tracker home).queue.IsCounted) :
      ((registry'.updateTracker home change).tracker home).queue.IsCounted := by
    rw [read_updateTracker Tracker.queue registry' home home queue, tracker, trackers]
    exact before
  have deferring {kind : Event → Prop} {registry registry' : Registry}
      (defers : registry.Defers kind registry') :
      (registry.tracker home).queue.IsCounted → (registry'.tracker home).queue.IsCounted :=
    defers.counted home
  cases move with
  | enter => exact before
  | subscribe => exact before
  | register => exact kept rfl (fun _ => rfl) before
  | hold registry =>
      have held : registry.Defers Event.IsMild (registry.hold home) := .hold registry home
      exact deferring held before
  | letGo registry _ _ tracker => exact deferring (.letGo tracker registry) before
  | discardHook registry _ _ hook => exact deferring (.discardHook registry hook) before
  | deferRelease registry _ _ ref hook =>
      exact deferring (.deferRelease registry home ref hook) before
  | dropWrapper registry _ _ wrapper => exact deferring (.dropWrapper registry wrapper) before
  | settleLive => exact kept rfl (fun _ => rfl) before
  | adjust registry _ _ change closes =>
      refine kept rfl (fun tracker => ?_) before
      rcases closes tracker with ⟨_, _, changed, -⟩
      rw [changed]
  | takeSnapshot registry =>
      have taken : registry.Defers Event.IsMild
          (registry.updateQueue home fun _ => (registry.tracker home).queue.takeSnapshot.2) :=
        .updateQueue registry home fun counted => counted.takeSnapshot
      exact deferring taken before
  | deal registry _ _ item _ dealt =>
      exact dealt.queue.symm ▸ deferring (.takeUp registry item) before
  | requeueFront registry _ batch =>
      have queued : registry.Defers Event.IsMild
          (registry.updateQueue home fun queue => queue.requeueFront batch) :=
        .updateQueue registry home fun counted => counted.requeueFront batch
      exact deferring queued before

end Move

theorem Moves.told
    {home : TrackerRef}
    {scene scene' : Scene}
    {event : Event}
    (moves : Moves home scene scene')
    (before : event ∈ scene.registry.journal) :
    event ∈ scene'.registry.journal := by
  induction moves with
  | refl => exact before
  | tail _ move before => exact move.told before

theorem Moves.grows
    {home : TrackerRef}
    {scene scene' : Scene}
    (moves : Moves home scene scene') :
    scene.registry.records.size ≤ scene'.registry.records.size := by
  induction moves with
  | refl => exact le_rfl
  | tail _ move before => exact before.trans move.grows

theorem Moves.counted
    {home : TrackerRef}
    {scene scene' : Scene}
    (moves : Moves home scene scene')
    (before : (scene.registry.tracker home).queue.IsCounted) :
    (scene'.registry.tracker home).queue.IsCounted := by
  induction moves with
  | refl => exact before
  | tail _ move before => exact move.counted before

theorem Moves.exact
    {home : TrackerRef}
    {scene scene' : Scene}
    (moves : Moves home scene scene')
    (books : scene.registry.Exact home) :
    scene'.registry.Exact home := by
  induction moves with
  | refl => exact books
  | tail _ move before => exact move.exact before

end Registry

end Custody
