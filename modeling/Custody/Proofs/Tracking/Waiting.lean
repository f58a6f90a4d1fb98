import Custody.Proofs.Tracking.Queueing

/-!
# What waits

A record whose deferral was entered in the journal waits for its release: in the
queue, or among the items that a drain took from there.  It waits once, and as
long as it is deferred, while somebody holds the tracker.  Every move keeps this,
so no release is lost and none is asked for twice.
-/

namespace Custody.Registry

/-- There is one tracker, and what was deferred waits exactly as long as it is deferred. -/
structure Scene.Unstranded (home : TrackerRef) (scene : Scene) : Prop
    extends Scene.Held home scene where
  nodup : (scene.waitingRecords home).Nodup
  told : ∀ ref ∈ scene.waitingRecords home, .deferred ref ∈ scene.registry.journal
  waits :
    ∀ ref, .deferred ref ∈ scene.registry.journal →
      ((scene.registry.record ref).state = .deferred ↔ ref ∈ scene.waitingRecords home)
  past :
    ∀ ref, .deferred ref ∈ scene.registry.journal →
      ref < scene.registry.records.size ∧ (scene.registry.record ref).state ≠ .live

variable {home : TrackerRef} {registry registry' : Registry} {hand : Nat}
variable {batch : List PendingRelease}

/-! ## What waits keeps waiting -/

namespace Scene.Unstranded

variable {scene scene' : Scene}

/-- As long as the same records wait, only the records whose deferral was told matter. -/
theorem of_same
    (before : scene.Unstranded home)
    (trackers : scene'.registry.trackers.size = scene.registry.trackers.size)
    (held :
      scene'.hand + PendingRelease.holdsOf (scene'.waiting home) <
        (scene'.registry.tracker home).holders)
    (waiting : scene'.waitingRecords home = scene.waitingRecords home)
    (journal :
      ∀ ref, .deferred ref ∈ scene'.registry.journal ↔ .deferred ref ∈ scene.registry.journal)
    (size : scene.registry.records.size ≤ scene'.registry.records.size)
    (record :
      ∀ ref, .deferred ref ∈ scene.registry.journal →
        (scene'.registry.record ref).state = (scene.registry.record ref).state) :
    scene'.Unstranded home where
  there := trackers ▸ before.there
  sole := fun other distinct => trackers ▸ before.sole other distinct
  held := held
  nodup := waiting ▸ before.nodup
  told := by
    intro ref member
    rw [waiting] at member
    exact (journal ref).mpr (before.told ref member)
  waits := by
    intro ref told
    have told' := (journal ref).mp told
    rw [record ref told', waiting]
    exact before.waits ref told'
  past := by
    intro ref told
    have told' := (journal ref).mp told
    rw [record ref told']
    exact ⟨(before.past ref told').1.trans_le size, (before.past ref told').2⟩

/-- Where every record is settled, nothing has to wait. -/
theorem of_spent
    (before : scene.Unstranded home)
    (trackers : scene'.registry.trackers.size = scene.registry.trackers.size)
    (held : scene'.hand < (scene'.registry.tracker home).holders)
    (waiting : scene'.waiting home = [])
    (journal :
      ∀ ref, .deferred ref ∈ scene'.registry.journal ↔ .deferred ref ∈ scene.registry.journal)
    (size : scene.registry.records.size ≤ scene'.registry.records.size)
    (spent : ∀ ref, (scene'.registry.record ref).state.owns = false) :
    scene'.Unstranded home where
  there := trackers ▸ before.there
  sole := fun other distinct => trackers ▸ before.sole other distinct
  held := by rwa [waiting, PendingRelease.holdsOf_nil]
  nodup := by simp [waitingRecords, waiting]
  told := by simp [waitingRecords, waiting]
  waits := by
    intro ref _
    rw [waitingRecords, waiting]
    refine iff_of_false (fun deferred => ?_) List.not_mem_nil
    have settled := spent ref
    rw [deferred] at settled
    cases settled
  past := by
    intro ref told
    refine ⟨((before.past ref ((journal ref).mp told)).1).trans_le size, fun live => ?_⟩
    have settled := spent ref
    rw [live] at settled
    cases settled

theorem of_enter
    {event : Event}
    (before : (⟨registry, hand, batch⟩ : Scene).Unstranded home)
    (other : ∀ ref, event ≠ .deferred ref) :
    (⟨registry.enter event, hand, batch⟩ : Scene).Unstranded home := by
  refine before.of_same rfl before.held rfl (fun ref => ?_) le_rfl fun _ _ => rfl
  have distinct : (.deferred ref : Event) ≠ event := fun same => other ref same.symm
  simp [enter, distinct]

/-- The tracker of the runtime changes, but not its queue, and no holder is lost. -/
theorem of_updateTracker
    {hand' : Nat}
    {change : Tracker → Tracker}
    (before : (⟨registry, hand, batch⟩ : Scene).Unstranded home)
    (queue : ∀ tracker, (change tracker).queue = tracker.queue)
    (holders : ∀ tracker, hand' + tracker.holders ≤ hand + (change tracker).holders) :
    (⟨registry.updateTracker home change, hand', batch⟩ : Scene).Unstranded home := by
  have waiting :
      (⟨registry.updateTracker home change, hand', batch⟩ : Scene).waiting home =
        (⟨registry, hand, batch⟩ : Scene).waiting home := by
    simp only [waiting, tracker_updateTracker_self before.there, queue]
  have held :=
    before.updateTracker (fun tracker => congrArg PendingQueue.items (queue tracker)) holders
  refine before.of_same (size_updateTracker _ _ _) held.held ?_ (fun _ => .rfl) le_rfl
    fun _ _ => rfl
  rw [waitingRecords, waiting]
  rfl

/-- What waits is distributed anew between the batch and the queue. -/
theorem of_updateQueue
    {batch' : List PendingRelease}
    {change : PendingQueue PendingRelease → PendingQueue PendingRelease}
    (before : (⟨registry, hand, batch⟩ : Scene).Unstranded home)
    (waiting :
      batch' ++ (change (registry.tracker home).queue).items =
        batch ++ (registry.tracker home).queue.items) :
    (⟨registry.updateQueue home change, hand, batch'⟩ : Scene).Unstranded home := by
  have waiting' :
      (⟨registry.updateQueue home change, hand, batch'⟩ : Scene).waiting home =
        (⟨registry, hand, batch⟩ : Scene).waiting home := by
    rw [Scene.waiting, Scene.waiting, queue_updateQueue before.there]
    exact waiting
  have held : (⟨registry.updateQueue home change, hand, batch'⟩ : Scene).Held home :=
    before.updateQueue (by rw [waiting])
  refine before.of_same (size_updateTracker _ _ _) held.held ?_ (fun _ => .rfl) le_rfl
    fun _ _ => rfl
  rw [waitingRecords, waiting']
  rfl

/-- A record is added, of which nothing was told. -/
theorem of_addRecord
    (before : (⟨registry, hand, batch⟩ : Scene).Unstranded home)
    (handle : Handle)
    (typeName : String) :
    (⟨(registry.addRecord home handle typeName).2, hand, batch⟩ : Scene).Unstranded home := by
  refine of_updateTracker ?_ (fun _ => rfl) fun _ => le_refl (hand + _)
  refine before.of_same rfl before.held rfl (fun _ => .rfl) ?_ fun ref told => ?_
  · simp
  · have same : (registry.addRecord home handle typeName).2.record ref = registry.record ref :=
      record_addRecord_of_lt (before.past ref told).1
    exact congrArg Record.state same

/-! ## Deferring -/

/-- What is queued was live, and waits from now on. -/
theorem of_queues
    {added : List PendingRelease}
    (before : scene.Unstranded home)
    (queues : scene.Queues home scene' added) :
    scene'.Unstranded home := by
  have waiting : scene'.waiting home = scene.waiting home ++ added := by
    rw [Scene.waiting, queues.batch, queues.items, Scene.waiting, List.append_assoc]
  have records : scene'.waitingRecords home =
      scene.waitingRecords home ++ added.map PendingRelease.record := by
    rw [waitingRecords, waiting, List.map_append, waitingRecords]
  have journal (ref : RecordRef) :
      .deferred ref ∈ scene'.registry.journal ↔
        .deferred ref ∈ scene.registry.journal ∨ ref ∈ added.map PendingRelease.record := by
    rw [← mem_deferrals, queues.deferrals, List.mem_append, mem_deferrals]
  have fresh {ref : RecordRef} (member : ref ∈ added.map PendingRelease.record) :
      (scene.registry.record ref).state = .live ∧
        (scene'.registry.record ref).state = .deferred := by
    rcases List.mem_map.mp member with ⟨item, among, rfl⟩
    exact queues.fresh item among
  have kept {ref : RecordRef} (told : .deferred ref ∈ scene.registry.journal) :
      (scene'.registry.record ref).state = (scene.registry.record ref).state := by
    rcases queues.defers.record ref with same | ⟨live, -⟩
    · rw [same]
    · exact absurd live (before.past ref told).2
  refine ⟨queues.held, ?_, fun ref member => ?_, fun ref told => ?_, fun ref told => ?_⟩
  · rw [records, List.nodup_append]
    refine ⟨before.nodup, queues.nodup, ?_⟩
    rintro ref early _ late rfl
    exact (before.past ref (before.told ref early)).2 (fresh late).1
  · rw [records, List.mem_append] at member
    exact (journal ref).mpr (member.imp_left (before.told ref))
  · rw [records, List.mem_append]
    rcases (journal ref).mp told with told' | member
    · rw [kept told']
      refine (before.waits ref told').trans ⟨.inl, fun waits => ?_⟩
      exact waits.resolve_right fun late => (before.past ref told').2 (fresh late).1
    · exact ⟨fun _ => .inr member, fun _ => (fresh member).2⟩
  · rcases (journal ref).mp told with told' | member
    · rw [kept told', queues.defers.size]
      exact before.past ref told'
    · rw [(fresh member).2]
      exact ⟨lt_size_of_state (by simp [(fresh member).2]), by simp⟩

theorem of_extends
    (before : scene.Unstranded home)
    (extends_ : scene.Extends home scene') :
    scene'.Unstranded home := by
  rcases extends_ with ⟨added, queues⟩
  exact before.of_queues queues

theorem of_letGo
    (before : (⟨registry, hand + 1, batch⟩ : Scene).Unstranded home)
    (tracker : TrackerRef) :
    (⟨registry.letGo tracker, hand, batch⟩ : Scene).Unstranded home :=
  before.of_extends (before.letGo tracker)

theorem of_discardBatch
    {items : List PendingRelease}
    (before :
      (⟨registry, PendingRelease.holdsOf items + hand, batch⟩ : Scene).Unstranded home) :
    (⟨registry.discardBatch items, hand, batch⟩ : Scene).Unstranded home :=
  before.of_extends before.discardBatch

/-- A hook runs. -/
theorem of_runWith
    {hook : Hook}
    (before : (⟨registry, hook.holds + hand, batch⟩ : Scene).Unstranded home)
    (owner : RecordRef) :
    (⟨(hook.runWith letGo owner registry).2, hand, batch⟩ : Scene).Unstranded home :=
  before.of_extends (before.runWith owner)

/-! ## Settling -/

/-- A record that does not wait is changed and struck. -/
theorem of_strike
    {ref : RecordRef}
    {change : Record → Record}
    (before : (⟨registry, hand, batch⟩ : Scene).Unstranded home)
    (untold : .deferred ref ∉ registry.journal) :
    (⟨(registry.alter ref change).unregister home ref, hand, batch⟩ : Scene).Unstranded home := by
  have altered : (⟨registry.alter ref change, hand, batch⟩ : Scene).Unstranded home := by
    refine before.of_same rfl before.held rfl (fun _ => .rfl) ?_ fun other told => ?_
    · exact (size_alter registry ref change).ge
    · rw [record_alter, if_neg]
      rintro ⟨rfl, -⟩
      exact untold told
  exact altered.of_updateTracker (fun _ => rfl) fun _ => le_rfl

/-- An item in hand waits, so its record is deferred. -/
theorem deferred_of_cons
    {item : PendingRelease}
    (before : (⟨registry, hand, item :: batch⟩ : Scene).Unstranded home) :
    (registry.record item.record).state = .deferred := by
  have member :
      item.record ∈ (⟨registry, hand, item :: batch⟩ : Scene).waitingRecords home :=
    List.mem_cons_self
  exact (before.waits item.record (before.told item.record member)).mpr member

/-- The record in hand is settled, struck, and waits no longer. -/
theorem of_settle
    {ref : RecordRef}
    {change : Record → Record}
    (before : (⟨registry, hand, ⟨ref, none⟩ :: batch⟩ : Scene).Unstranded home)
    (settled : (change (registry.record ref)).state.owns = false) :
    (⟨(registry.alter ref change).unregister home ref, hand, batch⟩ : Scene).Unstranded home := by
  have waiting :
      (⟨registry, hand, ⟨ref, none⟩ :: batch⟩ : Scene).waitingRecords home =
        ref :: (⟨registry.alter ref change, hand, batch⟩ : Scene).waitingRecords home :=
    rfl
  have distinct := before.nodup
  rw [waiting, List.nodup_cons] at distinct
  have altered : (⟨registry.alter ref change, hand, batch⟩ : Scene).Unstranded home := by
    constructor
    · exact before.congr rfl (by simp) le_rfl
    · exact distinct.2
    · exact fun other member => before.told other (List.mem_cons_of_mem _ member)
    · intro other told
      have waits := before.waits other told
      rw [waiting, List.mem_cons] at waits
      rw [record_alter]
      by_cases same : other = ref
      · subst same
        rw [if_pos ⟨rfl, (before.past other told).1⟩]
        refine iff_of_false (fun deferred => ?_) distinct.1
        rw [deferred] at settled
        cases settled
      · rw [if_neg fun both => same both.1]
        exact waits.trans (or_iff_right same)
    · intro other told
      have past := before.past other told
      rw [record_alter, size_alter]
      refine ⟨past.1, ?_⟩
      split
      · next both =>
          rw [both.1]
          intro live
          rw [live] at settled
          cases settled
      · exact past.2
  exact altered.of_updateTracker (fun _ => rfl) fun _ => le_rfl

/-- The hook of the item in hand is taken from it. -/
theorem of_takeHook
    {ref : RecordRef}
    {hook : Hook}
    (before : (⟨registry, hand, ⟨ref, some hook⟩ :: batch⟩ : Scene).Unstranded home) :
    (⟨registry, hook.holds + hand, ⟨ref, none⟩ :: batch⟩ : Scene).Unstranded home := by
  refine before.of_same rfl ?_ rfl (fun _ => .rfl) le_rfl fun _ _ => rfl
  have held := before.held
  simp only [Scene.waiting, List.cons_append, PendingRelease.holdsOf_cons, Hook.holdsOf_some,
    Hook.holdsOf_none] at held ⊢
  omega

/-- The item in hand is taken up. -/
theorem of_takeUp
    {item : PendingRelease}
    (before : (⟨registry, hand, item :: batch⟩ : Scene).Unstranded home) :
    (⟨registry.takeUp item, hand, ⟨item.record, none⟩ :: batch⟩ : Scene).Unstranded home := by
  rcases item with ⟨ref, hook⟩
  cases hook with
  | none => exact before.of_enter (by simp)
  | some hook => exact ((before.of_takeHook.of_enter (by simp)).of_enter (by simp)).of_runWith ref

/-- Nothing that is plain matters. -/
theorem of_tells
    (before : (⟨registry, hand, batch⟩ : Scene).Unstranded home)
    (tells : registry.Tells Event.IsPlain registry') :
    (⟨registry', hand, batch⟩ : Scene).Unstranded home := by
  have alike := TellsAlike.of_tells tells
  have journal (ref : RecordRef) :
      .deferred ref ∈ registry'.journal ↔ .deferred ref ∈ registry.journal := by
    rw [← mem_deferrals, alike.deferrals, mem_deferrals]
  rcases tells with ⟨events, rfl, -⟩
  exact before.of_same rfl before.held rfl journal le_rfl fun _ _ => rfl

/-- A drain deals with the item in hand. -/
theorem of_deal
    {item : PendingRelease}
    (before : (⟨registry, hand, item :: batch⟩ : Scene).Unstranded home)
    (dealt : Deal home item registry registry') :
    (⟨registry', hand, batch⟩ : Scene).Unstranded home := by
  cases dealt with
  | pass tells settled => exact absurd (before.of_takeUp.of_tells tells).deferred_of_cons settled
  | settle tells _ change settles tells' =>
      exact ((before.of_takeUp.of_tells tells).of_settle settles.settled).of_tells tells'

end Scene.Unstranded

/-! ## Moves -/

variable {scene scene' : Scene}

/-- No move strands anything. -/
theorem Move.unstranded
    (move : Move home scene scene')
    (before : scene.Unstranded home) :
    scene'.Unstranded home := by
  cases move with
  | enter registry _ _ event plain =>
      refine before.of_enter ?_
      rintro ref rfl
      exact plain
  | subscribe =>
      exact before.of_same rfl before.held rfl (fun _ => .rfl) le_rfl fun _ _ => rfl
  | register registry hand batch handle typeName _ => exact before.of_addRecord handle typeName
  | hold registry hand batch =>
      exact before.of_updateTracker (fun _ => rfl) fun tracker => by simp only; omega
  | letGo registry hand batch tracker => exact before.of_letGo tracker
  | discardHook => exact before.of_extends before.discardHook
  | deferRelease registry hand batch ref hook =>
      have offered := before.offerRelease home ref
      exact before.of_extends (offered.trans offered.held.discardHook)
  | dropWrapper registry hand batch wrapper =>
      exact before.of_extends
        (before.dropWith Scene.Held.discardHook wrapper.tracker wrapper.record)
  | settleLive registry hand batch ref change live settles =>
      exact before.of_strike fun told => (before.past ref told).2 live
  | adjust registry hand batch change kept =>
      have same (tracker : Tracker) :
          (change tracker).queue = tracker.queue ∧
            (change tracker).holders = tracker.holders := by
        rcases kept tracker with ⟨isOpen, defers, changed, -⟩
        rw [changed]
        exact ⟨rfl, rfl⟩
      exact before.of_updateTracker (fun tracker => (same tracker).1) fun tracker =>
        (Nat.add_le_add_left (same tracker).2.ge hand)
  | takeSnapshot => exact before.of_updateQueue (by simp)
  | deal _ _ _ _ _ dealt => exact before.of_deal dealt
  | requeueFront => exact before.of_updateQueue (by simp)

theorem Moves.unstranded
    (moves : Moves home scene scene')
    (before : scene.Unstranded home) :
    scene'.Unstranded home := by
  induction moves with
  | refl => exact before
  | tail _ move before => exact move.unstranded before

end Custody.Registry
