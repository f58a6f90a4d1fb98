import Custody.Proofs.Tracking.Moves

/-!
# What deferring adds to a queue

As long as somebody holds the tracker of a runtime, dropping wrappers, running
and discarding hooks, and letting trackers go add items at the back of its queue
and do nothing else to it.  The journal tells of every item that is added, in
the same order.

The queue goes when the last holder lets the tracker go.  The caller's hands and
the hooks that wait never account for all holders here: one more always stands
behind them.
-/

namespace Custody

/-! ## What the journal tells of a queue -/

/-- The record that was queued, if an entry tells of one. -/
def Event.deferred? : Event → Option RecordRef
  | .deferred ref => some ref
  | _ => none

/-- The record that a drain took up, if an entry tells of one. -/
def Event.takenUp? : Event → Option RecordRef
  | .takenUp ref => some ref
  | _ => none

/-- The record whose hook ran, if an entry tells of one. -/
def Event.hookRan? : Event → Option RecordRef
  | .hookRan ref => some ref
  | _ => none

theorem Event.silent_of_isPlain
    {event : Event}
    (plain : event.IsPlain) :
    event.deferred? = none ∧ event.takenUp? = none ∧ event.hookRan? = none := by
  cases event with
  | deferred _ => exact plain.elim
  | takenUp _ => exact plain.elim
  | hookRan _ => exact plain.elim
  | notice _ => exact ⟨rfl, rfl, rfl⟩
  | fault _ => exact ⟨rfl, rfl, rfl⟩
  | dropped _ => exact ⟨rfl, rfl, rfl⟩

namespace Registry

/-- The records that were queued, the earliest first. -/
def deferrals (registry : Registry) : List RecordRef :=
  registry.journal.filterMap Event.deferred?

/-- The records that drains took up, the earliest first. -/
def takeUps (registry : Registry) : List RecordRef :=
  registry.journal.filterMap Event.takenUp?

/-- The records whose hooks ran, the earliest first. -/
def hookRuns (registry : Registry) : List RecordRef :=
  registry.journal.filterMap Event.hookRan?

theorem mem_deferrals
    {registry : Registry}
    {ref : RecordRef} :
    ref ∈ registry.deferrals ↔ .deferred ref ∈ registry.journal := by
  rw [deferrals, List.mem_filterMap]
  constructor
  · rintro ⟨event, member, told⟩
    cases event with
    | deferred _ =>
        cases told
        exact member
    | _ => cases told
  · exact fun member => ⟨_, member, rfl⟩

/-- Two journals tell the same of the queue and of what drains and hooks did with its items. -/
structure TellsAlike (registry registry' : Registry) : Prop where
  deferrals : registry'.deferrals = registry.deferrals
  takeUps : registry'.takeUps = registry.takeUps
  hookRuns : registry'.hookRuns = registry.hookRuns

namespace TellsAlike

variable {registry registry' registry'' : Registry}

theorem refl (registry : Registry) : registry.TellsAlike registry :=
  ⟨rfl, rfl, rfl⟩

theorem trans
    (first : registry.TellsAlike registry')
    (second : registry'.TellsAlike registry'') :
    registry.TellsAlike registry'' :=
  ⟨second.deferrals.trans first.deferrals, second.takeUps.trans first.takeUps,
    second.hookRuns.trans first.hookRuns⟩

theorem of_journal
    (same : registry'.journal = registry.journal) :
    registry.TellsAlike registry' := by
  refine ⟨?_, ?_, ?_⟩
  · rw [Registry.deferrals, same, Registry.deferrals]
  · rw [Registry.takeUps, same, Registry.takeUps]
  · rw [Registry.hookRuns, same, Registry.hookRuns]

theorem of_tells
    (tells : registry.Tells Event.IsPlain registry') :
    registry.TellsAlike registry' := by
  rcases tells with ⟨events, rfl, plain⟩
  have silent (event : Event) (among : event ∈ events) :=
    Event.silent_of_isPlain (plain event among)
  refine ⟨?_, ?_, ?_⟩
  · rw [Registry.deferrals, List.filterMap_append,
      List.filterMap_eq_nil_iff.mpr fun event among => (silent event among).1, List.append_nil]
    rfl
  · rw [Registry.takeUps, List.filterMap_append,
      List.filterMap_eq_nil_iff.mpr fun event among => (silent event among).2.1, List.append_nil]
    rfl
  · rw [Registry.hookRuns, List.filterMap_append,
      List.filterMap_eq_nil_iff.mpr fun event among => (silent event among).2.2, List.append_nil]
    rfl

end TellsAlike

/-! ## What waits -/

/-- The items that wait: those that a drain took up, and then the queue. -/
def Scene.waiting (home : TrackerRef) (scene : Scene) : List PendingRelease :=
  scene.batch ++ (scene.registry.tracker home).queue.items

/-- The records that wait. -/
def Scene.waitingRecords (home : TrackerRef) (scene : Scene) : List RecordRef :=
  (scene.waiting home).map PendingRelease.record

/-- There is one tracker, which is held by more than the caller's hands and the hooks that wait. -/
structure Scene.Held (home : TrackerRef) (scene : Scene) : Prop where
  there : home < scene.registry.trackers.size
  sole : ∀ other, other ≠ home → scene.registry.trackers.size ≤ other
  held :
    scene.hand + PendingRelease.holdsOf (scene.waiting home) <
      (scene.registry.tracker home).holders

/--
Live records were deferred and queued, at the back and in the order in which the
journal tells of them; others may have been deferred without being queued.
-/
structure Scene.Queues
    (home : TrackerRef)
    (scene scene' : Scene)
    (added : List PendingRelease) :
    Prop where
  held : scene'.Held home
  batch : scene'.batch = scene.batch
  items :
    (scene'.registry.tracker home).queue.items =
      (scene.registry.tracker home).queue.items ++ added
  generation :
    (scene'.registry.tracker home).queue.generation =
      (scene.registry.tracker home).queue.generation
  deferrals :
    scene'.registry.deferrals = scene.registry.deferrals ++ added.map PendingRelease.record
  takeUps : scene'.registry.takeUps = scene.registry.takeUps
  hookRuns : scene'.registry.hookRuns = scene.registry.hookRuns
  fresh :
    ∀ item ∈ added,
      (scene.registry.record item.record).state = .live ∧
        (scene'.registry.record item.record).state = .deferred
  nodup : (added.map PendingRelease.record).Nodup
  closed : (scene.registry.tracker home).isOpen = false → added = []
  defers : scene.registry.Defers Event.IsMild scene'.registry

variable {home : TrackerRef} {registry registry' : Registry} {hand hand' : Nat}
variable {batch : List PendingRelease} {scene scene' scene'' : Scene}

namespace Scene.Queues

variable {added added' : List PendingRelease}

theorem refl (held : scene.Held home) : scene.Queues home scene [] where
  held := held
  batch := rfl
  items := (List.append_nil _).symm
  generation := rfl
  deferrals := (List.append_nil _).symm
  takeUps := rfl
  hookRuns := rfl
  fresh := nofun
  nodup := List.nodup_nil
  closed := fun _ => rfl
  defers := .refl _

theorem trans
    (first : scene.Queues home scene' added)
    (second : scene'.Queues home scene'' added') :
    scene.Queues home scene'' (added ++ added') := by
  have live {ref : RecordRef} (later : (scene'.registry.record ref).state = .live) :
      (scene.registry.record ref).state = .live := by
    rcases first.defers.record ref with same | ⟨live, -⟩
    · exact same ▸ later
    · exact live
  have deferred {ref : RecordRef} (before : (scene'.registry.record ref).state = .deferred) :
      (scene''.registry.record ref).state = .deferred := by
    rcases second.defers.record ref with same | ⟨-, marked⟩
    · exact same ▸ before
    · rw [marked]
  refine ⟨second.held, second.batch.trans first.batch, ?_,
    second.generation.trans first.generation, ?_, second.takeUps.trans first.takeUps,
    second.hookRuns.trans first.hookRuns, ?_, ?_, ?_, first.defers.trans second.defers⟩
  · rw [second.items, first.items, List.append_assoc]
  · rw [second.deferrals, first.deferrals, List.map_append, List.append_assoc]
  · intro item member
    rcases List.mem_append.mp member with early | late
    · exact ⟨(first.fresh item early).1, deferred (first.fresh item early).2⟩
    · exact ⟨live (second.fresh item late).1, (second.fresh item late).2⟩
  · rw [List.map_append, List.nodup_append]
    refine ⟨first.nodup, second.nodup, ?_⟩
    rintro ref early _ late rfl
    rcases List.mem_map.mp early with ⟨item, member, rfl⟩
    rcases List.mem_map.mp late with ⟨item', member', same⟩
    have marked := (first.fresh item member).2
    rw [← same, (second.fresh item' member').1] at marked
    cases marked
  · intro closed
    have books := first.defers.books home
    have closed' : (scene'.registry.tracker home).isOpen = false :=
      (congrArg (fun books => books.2.2.1) books).trans closed
    rw [first.closed closed, second.closed closed']
    rfl

/-- Nothing is queued; the registry changes without anything being told of the queue. -/
theorem of_alike
    (held : scene'.Held home)
    (batch : scene'.batch = scene.batch)
    (queue : (scene'.registry.tracker home).queue = (scene.registry.tracker home).queue)
    (alike : scene.registry.TellsAlike scene'.registry)
    (defers : scene.registry.Defers Event.IsMild scene'.registry) :
    scene.Queues home scene' [] where
  held := held
  batch := batch
  items := (congrArg PendingQueue.items queue).trans (List.append_nil _).symm
  generation := congrArg PendingQueue.generation queue
  deferrals := alike.deferrals.trans (List.append_nil _).symm
  takeUps := alike.takeUps
  hookRuns := alike.hookRuns
  fresh := nofun
  nodup := List.nodup_nil
  closed := fun _ => rfl
  defers := defers

end Scene.Queues

/-- Some items are queued, or none. -/
def Scene.Extends (home : TrackerRef) (scene scene' : Scene) : Prop :=
  ∃ added, scene.Queues home scene' added

theorem Scene.Extends.held (extends_ : scene.Extends home scene') : scene'.Held home := by
  rcases extends_ with ⟨_, queues⟩
  exact queues.held

theorem Scene.Extends.trans
    (first : scene.Extends home scene')
    (second : scene'.Extends home scene'') :
    scene.Extends home scene'' := by
  rcases first with ⟨added, first⟩
  rcases second with ⟨added', second⟩
  exact ⟨added ++ added', first.trans second⟩

/-! ## Trackers that are not there -/

theorem tracker_of_absent
    {tracker : TrackerRef}
    (absent : registry.trackers.size ≤ tracker) :
    registry.tracker tracker = .new false := by
  rw [Registry.tracker, Array.getD_eq_getD_getElem?, Array.getElem?_eq_none absent,
    Option.getD_none]

theorem updateTracker_of_absent
    {tracker : TrackerRef}
    (absent : registry.trackers.size ≤ tracker)
    (change : Tracker → Tracker) :
    registry.updateTracker tracker change = registry := by
  have same : registry.trackers.modify tracker change = registry.trackers := by
    refine Array.ext (by simp) fun position inside inside' => ?_
    have distinct : tracker ≠ position := Nat.ne_of_gt (inside'.trans_le absent)
    simp [Array.getElem_modify, distinct]
  rw [updateTracker, same]

theorem letGo_of_absent
    {tracker : TrackerRef}
    (absent : registry.trackers.size ≤ tracker) :
    registry.letGo tracker = registry := by
  rw [letGo]
  cases registry.trackers.size with
  | zero => exact updateTracker_of_absent absent _
  | succ depth =>
      rw [letGoWithin, leave, updateTracker_of_absent absent, if_neg]
      rw [tracker_of_absent absent]
      exact Nat.one_ne_zero

/-- The only hook that comes back is the one that was offered. -/
theorem eq_of_offerRelease
    (registry : Registry)
    (tracker : TrackerRef)
    (ref : RecordRef)
    (hook : Option Hook)
    (carried : Hook)
    (returned : (registry.offerRelease tracker ref hook).1 = some carried) :
    hook = some carried := by
  rw [offerRelease] at returned
  split at returned
  · simp only at returned
    split at returned
    · cases returned
    · exact returned
  · exact returned

namespace Scene.Held

/-! ## Single changes -/

/-- The tracker of the runtime changes, but not its queue, and no holder is lost. -/
theorem updateTracker
    {change : Tracker → Tracker}
    (before : (⟨registry, hand, batch⟩ : Scene).Held home)
    (queue : ∀ tracker, (change tracker).queue.items = tracker.queue.items)
    (holders : ∀ tracker, hand' + tracker.holders ≤ hand + (change tracker).holders) :
    (⟨registry.updateTracker home change, hand', batch⟩ : Scene).Held home where
  there := (size_updateTracker _ _ _).symm ▸ before.there
  sole := fun other distinct => (size_updateTracker _ _ _).symm ▸ before.sole other distinct
  held := by
    have held := before.held
    have kept := holders (registry.tracker home)
    simp only [waiting, tracker_updateTracker_self before.there, queue] at held kept ⊢
    omega

/-- What waits is distributed anew between the batch, the queue and the caller. -/
theorem updateQueue
    {batch' : List PendingRelease}
    {change : PendingQueue PendingRelease → PendingQueue PendingRelease}
    (before : (⟨registry, hand, batch⟩ : Scene).Held home)
    (total :
      hand' +
          PendingRelease.holdsOf (batch' ++ (change (registry.tracker home).queue).items) ≤
        hand + PendingRelease.holdsOf (batch ++ (registry.tracker home).queue.items)) :
    (⟨registry.updateQueue home change, hand', batch'⟩ : Scene).Held home where
  there := (size_updateTracker _ _ _).symm ▸ before.there
  sole := fun other distinct => (size_updateTracker _ _ _).symm ▸ before.sole other distinct
  held := by
    have held := before.held
    simp only [waiting, Registry.updateQueue, tracker_updateTracker_self before.there] at held ⊢
    omega

/-- Only trackers matter, and who holds them. -/
theorem congr
    (before : scene.Held home)
    (trackers : scene'.registry.trackers = scene.registry.trackers)
    (batch : PendingRelease.holdsOf scene'.batch ≤ PendingRelease.holdsOf scene.batch)
    (hand : scene'.hand ≤ scene.hand) :
    scene'.Held home where
  there := trackers ▸ before.there
  sole := fun other distinct => trackers ▸ before.sole other distinct
  held := by
    have held := before.held
    have same : scene'.registry.tracker home = scene.registry.tracker home := by
      rw [Registry.tracker, trackers, Registry.tracker]
    simp only [waiting, PendingRelease.holdsOf_append, same] at held ⊢
    omega

theorem enter
    {event : Event}
    (before : (⟨registry, hand, batch⟩ : Scene).Held home)
    (plain : event.IsPlain)
    (mild : event.IsMild) :
    (⟨registry, hand, batch⟩ : Scene).Queues home ⟨registry.enter event, hand, batch⟩ [] :=
  .of_alike (before.congr rfl le_rfl le_rfl) rfl rfl (.of_tells (.enter registry plain))
    (.enter registry mild)

/-- A record is marked deferred without being queued. -/
theorem setState
    {ref : RecordRef}
    (before : (⟨registry, hand, batch⟩ : Scene).Held home)
    (live : (registry.record ref).state = .live) :
    (⟨registry, hand, batch⟩ : Scene).Queues home ⟨registry.setState ref .deferred, hand, batch⟩
      [] :=
  .of_alike (before.congr rfl le_rfl le_rfl) rfl rfl (.of_journal rfl) (.setState live)

/-- A tracker other than the runtime's does not defer. -/
theorem eq_home
    {tracker : TrackerRef}
    (before : scene.Held home)
    (defers : (scene.registry.tracker tracker).defers = true) :
    tracker = home := by
  by_contra distinct
  rw [tracker_of_absent (before.sole tracker distinct)] at defers
  cases defers

/--
A live record is marked deferred and queued, and its hook goes with it from the
caller's hands.
-/
theorem push
    {ref : RecordRef}
    {hook : Option Hook}
    (before : (⟨registry, Hook.holdsOf hook + hand, batch⟩ : Scene).Held home)
    (live : (registry.record ref).state = .live)
    (isOpen : (registry.tracker home).isOpen = true) :
    (⟨registry, Hook.holdsOf hook + hand, batch⟩ : Scene).Queues home
      ⟨((registry.setState ref .deferred).updateQueue home fun queue =>
          queue.push ⟨ref, hook⟩).enter (.deferred ref), hand, batch⟩ [⟨ref, hook⟩] := by
  have marked := before.setState live
  have held : (⟨(registry.setState ref .deferred).updateQueue home fun queue =>
      queue.push ⟨ref, hook⟩, hand, batch⟩ : Scene).Held home := by
    refine marked.held.updateQueue ?_
    simp only [PendingQueue.items_push, PendingRelease.holdsOf_append, PendingRelease.holdsOf_cons,
      PendingRelease.holdsOf_nil]
    omega
  have queue :
      (((registry.setState ref .deferred).updateQueue home fun queue =>
          queue.push ⟨ref, hook⟩).tracker home).queue =
        (registry.tracker home).queue.push ⟨ref, hook⟩ :=
    queue_updateQueue marked.held.there _
  refine
    { held := held.congr rfl le_rfl le_rfl
      batch := rfl
      items := queue ▸ rfl
      generation := queue ▸ rfl
      deferrals := ?_
      takeUps := ?_
      hookRuns := ?_
      fresh := ?_
      nodup := List.nodup_singleton ref
      closed := fun closed => ?_
      defers :=
        (marked.defers.trans (.updateQueue _ _ fun counted => counted.push _)).trans
          (.enter _ (by simp)) }
  · exact List.filterMap_append
  · exact List.filterMap_append.trans (List.append_nil _)
  · exact List.filterMap_append.trans (List.append_nil _)
  · intro item member
    rw [List.mem_singleton.mp member]
    refine ⟨live, (congrArg Record.state (record_setState registry ref ref .deferred)).trans ?_⟩
    rw [if_pos ⟨rfl, lt_size_of_state (by simp [live])⟩]
  · cases isOpen.symm.trans closed

/-! ## Deferring -/

/-- What is not queued is still in the caller's hands. -/
theorem offerRelease
    {hook : Option Hook}
    (before : (⟨registry, Hook.holdsOf hook + hand, batch⟩ : Scene).Held home)
    (tracker : TrackerRef)
    (ref : RecordRef) :
    (⟨registry, Hook.holdsOf hook + hand, batch⟩ : Scene).Extends home
      ⟨(registry.offerRelease tracker ref hook).2,
        Hook.holdsOf (registry.offerRelease tracker ref hook).1 + hand, batch⟩ := by
  rw [Registry.offerRelease]
  split
  · next live =>
      simp only
      split
      · next open_ =>
          have same := before.eq_home (Bool.and_eq_true_iff.mp open_).2
          subst same
          rw [Hook.holdsOf_none, Nat.zero_add]
          exact ⟨_, before.push live (Bool.and_eq_true_iff.mp open_).1⟩
      · exact ⟨_, before.setState live⟩
  · exact ⟨_, .refl before⟩

theorem offerNone
    (before : (⟨registry, hand, batch⟩ : Scene).Held home)
    (tracker : TrackerRef)
    (ref : RecordRef) :
    (⟨registry, hand, batch⟩ : Scene).Extends home
      ⟨(registry.offerRelease tracker ref none).2, hand, batch⟩ := by
  have nothing : (registry.offerRelease tracker ref none).1 = none := by
    refine Option.eq_none_iff_forall_ne_some.mpr fun carried returned => ?_
    cases registry.eq_of_offerRelease tracker ref none carried returned
  rw [← Nat.zero_add hand, ← Hook.holdsOf_none] at before
  have offered := before.offerRelease tracker ref
  rwa [nothing, Hook.holdsOf_none, Nat.zero_add] at offered

/-! ## Letting go and dropping -/

/-- The tracker of the runtime loses one holder, and there is no other. -/
theorem queues_letGo
    (before : (⟨registry, hand + 1, batch⟩ : Scene).Held home)
    (tracker : TrackerRef) :
    (⟨registry, hand + 1, batch⟩ : Scene).Queues home ⟨registry.letGo tracker, hand, batch⟩
      [] := by
  have defers := (Defers.letGo tracker registry).mild
  by_cases same : tracker = home
  · subst same
    have held := before.held
    simp only at held
    rw [letGo_of_held (by omega)] at defers ⊢
    refine .of_alike ?_ rfl ?_ (.of_journal rfl) defers
    · exact before.updateTracker (fun _ => rfl) fun tracker => by simp only; omega
    · exact read_updateTracker Tracker.queue registry tracker tracker fun _ => rfl
  · rw [letGo_of_absent (before.sole tracker same)]
    exact .of_alike (before.congr rfl le_rfl hand.le_succ) rfl rfl (.refl _) (.refl _)

theorem letGo
    (before : (⟨registry, hand + 1, batch⟩ : Scene).Held home)
    (tracker : TrackerRef) :
    (⟨registry, hand + 1, batch⟩ : Scene).Extends home ⟨registry.letGo tracker, hand, batch⟩ :=
  ⟨[], before.queues_letGo tracker⟩

/-- A wrapper is dropped, if discarding its hook only extends the queue. -/
theorem dropWith
    {hook : Option Hook}
    {discard : Registry → Registry}
    (before : (⟨registry, 1 + Hook.holdsOf hook + hand, batch⟩ : Scene).Held home)
    (discards :
      ∀ {registry : Registry} {hand : Nat},
        (⟨registry, Hook.holdsOf hook + hand, batch⟩ : Scene).Held home →
          (⟨registry, Hook.holdsOf hook + hand, batch⟩ : Scene).Extends home
            ⟨discard registry, hand, batch⟩)
    (tracker : TrackerRef)
    (ref : RecordRef) :
    (⟨registry, 1 + Hook.holdsOf hook + hand, batch⟩ : Scene).Extends home
      ⟨registry.dropWith Registry.letGo discard tracker ref hook, hand, batch⟩ := by
  have together : 1 + Hook.holdsOf hook + hand = Hook.holdsOf hook + (hand + 1) := by omega
  rw [together] at before ⊢
  rw [Registry.dropWith]
  split
  · have offered := before.offerRelease tracker ref
    have returned (carried : Hook) := registry.eq_of_offerRelease tracker ref hook carried
    generalize registry.offerRelease tracker ref hook = result at offered returned ⊢
    rcases result with ⟨left, registry'⟩
    cases left with
    | none =>
        rw [Hook.holdsOf_none, Nat.zero_add] at offered
        exact offered.trans (offered.held.letGo tracker)
    | some carried =>
        rw [← returned carried rfl] at offered
        have discarded := offered.trans (discards offered.held)
        exact discarded.trans (discarded.held.letGo tracker)
  · have before' : (⟨registry, Hook.holdsOf hook + hand + 1, batch⟩ : Scene).Held home := before
    have left := before'.letGo tracker
    exact left.trans (discards left.held)

/-- A hook that is absent takes nothing to discard. -/
private theorem discardNone
    (before : (⟨registry, Hook.holdsOf none + hand, batch⟩ : Scene).Held home) :
    (⟨registry, Hook.holdsOf none + hand, batch⟩ : Scene).Extends home
      ⟨id registry, hand, batch⟩ := by
  rw [Hook.holdsOf_none, Nat.zero_add] at before ⊢
  exact ⟨_, .refl before⟩

theorem discardWith
    {hook : Hook}
    (before : (⟨registry, hook.holds + hand, batch⟩ : Scene).Held home) :
    (⟨registry, hook.holds + hand, batch⟩ : Scene).Extends home
      ⟨hook.discardWith Registry.letGo registry, hand, batch⟩ := by
  induction hook generalizing registry hand with
  | done tracker =>
      rw [Hook.holds, Nat.add_comm] at before ⊢
      exact before.letGo tracker
  | log _ _ step => exact step before
  | defer _ _ _ step => exact step before
  | drop tracker ref rest step =>
      rw [Hook.holds, Nat.add_assoc] at before ⊢
      have bare : (⟨registry, 1 + Hook.holdsOf none + (rest.holds + hand), batch⟩ : Scene).Held
          home := before
      have dropped := bare.dropWith discardNone tracker ref
      exact dropped.trans (step dropped.held)
  | dropHooked tracker ref carried rest carriedStep step =>
      rw [Hook.holds, Nat.add_assoc] at before ⊢
      have hooked : (⟨registry, 1 + Hook.holdsOf (some carried) + (rest.holds + hand), batch⟩ :
          Scene).Held home := before
      have dropped := hooked.dropWith carriedStep tracker ref
      exact dropped.trans (step dropped.held)
  | fail _ _ step => exact step before
  | panic _ _ step => exact step before

theorem discardHook
    {hook : Option Hook}
    (before : (⟨registry, Hook.holdsOf hook + hand, batch⟩ : Scene).Held home) :
    (⟨registry, Hook.holdsOf hook + hand, batch⟩ : Scene).Extends home
      ⟨registry.discardHook hook, hand, batch⟩ := by
  cases hook with
  | none =>
      rw [Hook.holdsOf_none, Nat.zero_add] at before ⊢
      exact ⟨_, .refl before⟩
  | some hook => exact before.discardWith

theorem discardBatch
    {items : List PendingRelease}
    (before : (⟨registry, PendingRelease.holdsOf items + hand, batch⟩ : Scene).Held home) :
    (⟨registry, PendingRelease.holdsOf items + hand, batch⟩ : Scene).Extends home
      ⟨registry.discardBatch items, hand, batch⟩ := by
  induction items generalizing registry with
  | nil =>
      rw [PendingRelease.holdsOf_nil, Nat.zero_add] at before ⊢
      exact ⟨_, .refl before⟩
  | cons item rest step =>
      rw [PendingRelease.holdsOf_cons, Nat.add_assoc] at before ⊢
      have discarded := before.discardHook
      exact discarded.trans (step discarded.held)

/-- A hook runs. -/
theorem runWith
    {hook : Hook}
    (before : (⟨registry, hook.holds + hand, batch⟩ : Scene).Held home)
    (owner : RecordRef) :
    (⟨registry, hook.holds + hand, batch⟩ : Scene).Extends home
      ⟨(hook.runWith Registry.letGo owner registry).2, hand, batch⟩ := by
  induction hook generalizing registry hand with
  | done tracker =>
      rw [Hook.holds, Nat.add_comm] at before ⊢
      exact before.letGo tracker
  | log text rest step =>
      have told : (⟨registry, rest.holds + hand, batch⟩ : Scene).Extends home
          ⟨registry.announce (.hook text (registry.record owner)), rest.holds + hand, batch⟩ :=
        ⟨_, before.enter trivial (by simp)⟩
      exact told.trans (step told.held)
  | defer tracker ref rest step =>
      have offered := before.offerNone tracker ref
      exact offered.trans (step offered.held)
  | drop tracker ref rest step =>
      rw [Hook.holds, Nat.add_assoc] at before ⊢
      have bare : (⟨registry, 1 + Hook.holdsOf none + (rest.holds + hand), batch⟩ : Scene).Held
          home := before
      have dropped := bare.dropWith discardNone tracker ref
      exact dropped.trans (step dropped.held)
  | dropHooked tracker ref carried rest _ step =>
      rw [Hook.holds, Nat.add_assoc] at before ⊢
      have hooked : (⟨registry, 1 + Hook.holdsOf (some carried) + (rest.holds + hand), batch⟩ :
          Scene).Held home := before
      have dropped := hooked.dropWith discardWith tracker ref
      exact dropped.trans (step dropped.held)
  | fail _ rest _ => exact before.discardWith
  | panic _ rest _ => exact before.discardWith

/-! ## Taking up -/

/-- Only entries are made, and one item without a hook is gone from the batch. -/
theorem of_tells
    {kind : Event → Prop}
    (before : (⟨registry, hand, batch⟩ : Scene).Held home)
    (tells : registry.Tells kind registry') :
    (⟨registry', hand, batch⟩ : Scene).Held home := by
  rcases tells with ⟨events, rfl, -⟩
  exact before.congr rfl le_rfl le_rfl

end Scene.Held

/--
A drain took an item up and ran its hook, if it has one; what the hook deferred
was queued at the back.
-/
structure Takes
    (home : TrackerRef)
    (item : PendingRelease)
    (registry registry' : Registry)
    (added : List PendingRelease) :
    Prop where
  items :
    (registry'.tracker home).queue.items = (registry.tracker home).queue.items ++ added
  generation :
    (registry'.tracker home).queue.generation = (registry.tracker home).queue.generation
  deferrals : registry'.deferrals = registry.deferrals ++ added.map PendingRelease.record
  takeUps : registry'.takeUps = registry.takeUps ++ [item.record]
  hookRuns :
    registry'.hookRuns =
      registry.hookRuns ++ if item.hook.isSome then [item.record] else []
  fresh : ∀ item ∈ added, (registry.record item.record).state = .live
  nodup : (added.map PendingRelease.record).Nodup
  closed : (registry.tracker home).isOpen = false → added = []

/-- What happens afterwards tells nothing of the queue. -/
theorem Takes.trans
    {item : PendingRelease}
    {registry'' : Registry}
    {added : List PendingRelease}
    (takes : Takes home item registry registry' added)
    (queue : (registry''.tracker home).queue = (registry'.tracker home).queue)
    (alike : registry'.TellsAlike registry'') :
    Takes home item registry registry'' added where
  items := (congrArg PendingQueue.items queue).trans takes.items
  generation := (congrArg PendingQueue.generation queue).trans takes.generation
  deferrals := alike.deferrals.trans takes.deferrals
  takeUps := alike.takeUps.trans takes.takeUps
  hookRuns := alike.hookRuns.trans takes.hookRuns
  fresh := takes.fresh
  nodup := takes.nodup
  closed := takes.closed

theorem Scene.Held.takeUp
    {item : PendingRelease}
    (before : (⟨registry, hand, item :: batch⟩ : Scene).Held home) :
    (∃ added, Takes home item registry (registry.takeUp item) added) ∧
      (⟨registry.takeUp item, hand, batch⟩ : Scene).Held home := by
  rcases item with ⟨ref, hook⟩
  cases hook with
  | none =>
      have fewer :
          PendingRelease.holdsOf batch ≤ PendingRelease.holdsOf (⟨ref, none⟩ :: batch) := by
        simp
      refine ⟨⟨[], ?_⟩, before.congr rfl fewer le_rfl⟩
      exact
        { items := (List.append_nil _).symm
          generation := rfl
          deferrals := List.filterMap_append
          takeUps := List.filterMap_append
          hookRuns := List.filterMap_append
          fresh := nofun
          nodup := List.nodup_nil
          closed := fun _ => rfl }
  | some hook =>
      let entered := (registry.enter (.takenUp ref)).enter (.hookRan ref)
      have held : (⟨entered, hook.holds + hand, batch⟩ : Scene).Held home := by
        have held := before.held
        have same : entered.tracker home = registry.tracker home := rfl
        refine ⟨before.there, before.sole, ?_⟩
        simp only [Scene.waiting, List.cons_append, PendingRelease.holdsOf_cons,
          Hook.holdsOf_some, same] at held ⊢
        omega
      rcases held.runWith ref with ⟨added, queues⟩
      refine ⟨⟨added, ?_⟩, queues.held⟩
      have journal : entered.journal = registry.journal ++ [.takenUp ref, .hookRan ref] := by
        simp [entered, Registry.enter]
      have deferrals : entered.deferrals = registry.deferrals := by
        rw [Registry.deferrals, journal, List.filterMap_append]
        exact List.append_nil _
      have takeUps : entered.takeUps = registry.takeUps ++ [ref] := by
        rw [Registry.takeUps, journal, List.filterMap_append]
        rfl
      have hookRuns : entered.hookRuns = registry.hookRuns ++ [ref] := by
        rw [Registry.hookRuns, journal, List.filterMap_append]
        rfl
      exact
        { items := queues.items
          generation := queues.generation
          deferrals := queues.deferrals.trans (congrArg (· ++ _) deferrals)
          takeUps := queues.takeUps.trans takeUps
          hookRuns := queues.hookRuns.trans hookRuns
          fresh := fun item member => (queues.fresh item member).1
          nodup := queues.nodup
          closed := queues.closed }

/-- Settling and striking a record leaves the queue alone. -/
theorem queue_strike
    (registry : Registry)
    (ref : RecordRef)
    (change : Record → Record) :
    (((registry.alter ref change).unregister home ref).tracker home).queue =
      (registry.tracker home).queue :=
  read_updateTracker Tracker.queue (registry.alter ref change) home home fun _ => rfl

theorem Deal.takes
    {item : PendingRelease}
    (dealt : Deal home item registry registry')
    (before : (⟨registry, hand, item :: batch⟩ : Scene).Held home) :
    (∃ added, Takes home item registry registry' added) ∧
      (⟨registry', hand, batch⟩ : Scene).Held home := by
  rcases before.takeUp with ⟨⟨added, takes⟩, held⟩
  have same {registry registry' : Registry} (tells : registry.Tells Event.IsPlain registry') :
      (registry'.tracker home).queue = (registry.tracker home).queue := by
    rcases tells with ⟨_, rfl, -⟩
    rfl
  cases dealt with
  | pass tells _ => exact ⟨⟨added, takes.trans (same tells) (.of_tells tells)⟩, held.of_tells tells⟩
  | @settle told _ tells _ change _ tells' =>
      have struck := (takes.trans (same tells) (.of_tells tells)).trans
        (queue_strike told item.record change) (.of_journal rfl)
      have altered : (⟨told.alter item.record change, hand, batch⟩ : Scene).Held home :=
        (held.of_tells tells).congr rfl le_rfl le_rfl
      have held' : (⟨(told.alter item.record change).unregister home item.record, hand, batch⟩ :
          Scene).Held home :=
        altered.updateTracker (fun _ => rfl) fun _ => le_rfl
      exact ⟨⟨added, struck.trans (same tells') (.of_tells tells')⟩, held'.of_tells tells'⟩

/-- Whatever is done, somebody keeps holding the tracker. -/
theorem Move.held
    (move : Move home scene scene')
    (before : scene.Held home) :
    scene'.Held home := by
  cases move with
  | enter => exact before.congr rfl le_rfl le_rfl
  | subscribe => exact before.congr rfl le_rfl le_rfl
  | register registry hand batch handle typeName _ =>
      refine Scene.Held.updateTracker ?_ (fun _ => rfl) fun _ => le_refl (hand + _)
      exact before.congr rfl le_rfl le_rfl
  | hold registry hand batch =>
      exact before.updateTracker (fun _ => rfl) fun tracker => by simp only; omega
  | letGo registry hand batch tracker => exact (before.letGo tracker).held
  | discardHook => exact before.discardHook.held
  | deferRelease registry hand batch ref hook =>
      exact (before.offerRelease home ref).held.discardHook.held
  | dropWrapper registry hand batch wrapper =>
      exact (before.dropWith Scene.Held.discardHook wrapper.tracker wrapper.record).held
  | settleLive registry hand batch ref change _ _ =>
      have altered : (⟨registry.alter ref change, hand, batch⟩ : Scene).Held home :=
        before.congr rfl le_rfl le_rfl
      exact altered.updateTracker (fun _ => rfl) fun _ => le_rfl
  | adjust registry hand batch change kept =>
      refine before.updateTracker (fun tracker => ?_) fun tracker => ?_
      · rcases kept tracker with ⟨_, _, changed, -⟩
        rw [changed]
      · rcases kept tracker with ⟨_, _, changed, -⟩
        rw [changed]
  | takeSnapshot => exact before.updateQueue (by simp)
  | deal _ _ _ _ _ dealt => exact (dealt.takes before).2
  | requeueFront => exact before.updateQueue (by simp)

theorem Moves.held
    (moves : Moves home scene scene')
    (before : scene.Held home) :
    scene'.Held home := by
  induction moves with
  | refl => exact before
  | tail _ move before => exact move.held before

end Registry

end Custody
