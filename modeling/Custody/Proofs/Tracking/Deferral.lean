import Custody.Tracking.Holding

/-!
# What dropping can do

Dropping wrappers, running and discarding hooks, and letting trackers go change
the registry in one way only: live records become deferred.  Queues and holders
show on the way, and the journal tells about deferrals and announcements.  No
reference is given back and no record leaves the books of its tracker.
-/

namespace Custody

/-! ## Kinds of entries -/

/-- An entry that tells of a reference given back. -/
@[simp]
def Event.IsDrop : Event → Prop
  | .dropped _ => True
  | _ => False

/-- An entry that tells of a count found to be too low. -/
@[simp]
def Event.IsAlarm : Event → Prop
  | .notice (.offered _ _ _) => True
  | .fault (.mismatched _) => True
  | .fault (.shortfall _) => True
  | _ => False

/-- An entry that does not tell of a reference given back. -/
@[simp]
def Event.IsSafe (event : Event) : Prop :=
  ¬ event.IsDrop

/-- An entry that tells neither of a reference given back nor of a count. -/
@[simp]
def Event.IsMild (event : Event) : Prop :=
  event.IsSafe ∧ ¬ event.IsAlarm

/-- An entry that a hook makes, or dropping a wrapper: a deferral or an announcement. -/
@[simp]
def Event.IsOfHook : Event → Prop
  | .deferred _ => True
  | .notice (.hook _ _) => True
  | _ => False

theorem Event.IsOfHook.isMild
    {event : Event}
    (isOfHook : event.IsOfHook) :
    event.IsMild := by
  cases event with
  | deferred _ => simp
  | notice notice => cases notice <;> simp_all
  | _ => exact isOfHook.elim

/-- The journal tells of no count that was found to be too low. -/
def Registry.Untroubled (registry : Registry) : Prop :=
  ∀ event ∈ registry.journal, ¬ event.IsAlarm

theorem Registry.Untroubled.enter
    {registry : Registry}
    {event : Event}
    (untroubled : registry.Untroubled)
    (unalarming : ¬ event.IsAlarm) :
    (registry.enter event).Untroubled := by
  intro other member
  rcases List.mem_append.mp member with early | late
  · exact untroubled other early
  · rwa [List.mem_singleton.mp late]

/-- The number of waiting items that is kept beside them is right. -/
def PendingQueue.IsCounted (queue : PendingQueue PendingRelease) : Prop :=
  queue.count = queue.items.length

theorem PendingQueue.isCounted_empty : PendingQueue.IsCounted .empty :=
  rfl

theorem PendingQueue.IsCounted.push
    {queue : PendingQueue PendingRelease}
    (counted : queue.IsCounted)
    (item : PendingRelease) :
    (queue.push item).IsCounted := by
  have total : queue.count = queue.items.length := counted
  simp [IsCounted, PendingQueue.push, total]

theorem PendingQueue.IsCounted.takeSnapshot
    {queue : PendingQueue PendingRelease}
    (counted : queue.IsCounted) :
    queue.takeSnapshot.2.IsCounted := by
  have total : queue.count = queue.items.length := counted
  simp [IsCounted, PendingQueue.takeSnapshot, total]

theorem PendingQueue.IsCounted.requeueFront
    {queue : PendingQueue PendingRelease}
    (counted : queue.IsCounted)
    (items : List PendingRelease) :
    (queue.requeueFront items).IsCounted := by
  have total : queue.count = queue.items.length := counted
  simp [IsCounted, PendingQueue.requeueFront, total, Nat.add_comm]

/-- A tracker but for its queue and its holders. -/
def Tracker.books (tracker : Tracker) : Owners × Nat × Bool × Bool :=
  (tracker.owners, tracker.nextId, tracker.isOpen, tracker.defers)

namespace Registry

/-! ## Records and trackers after a change -/

theorem record_eq
    (registry : Registry)
    (ref : RecordRef) :
    registry.record ref = (registry.records[ref]?).getD .absent := by
  simp [record, Array.getD_eq_getD_getElem?]

theorem toList_records (registry : Registry) :
    registry.records.toList = (List.range registry.records.size).map registry.record := by
  apply List.ext_getElem
  · simp
  · intro ref inside _
    simp [record, Array.getD_eq_getD_getElem?, Array.getElem?_eq_getElem (by simpa using inside)]

/-- Change the record at a position. -/
def alter
    (registry : Registry)
    (ref : RecordRef)
    (change : Record → Record) :
    Registry :=
  { registry with records := registry.records.modify ref change }

@[simp]
theorem size_alter
    (registry : Registry)
    (ref : RecordRef)
    (change : Record → Record) :
    (registry.alter ref change).records.size = registry.records.size := by
  simp [alter]

/-- A record that exists is changed, and the others stay as they were. -/
theorem record_alter
    (registry : Registry)
    (ref other : RecordRef)
    (change : Record → Record) :
    (registry.alter ref change).record other =
      if other = ref ∧ ref < registry.records.size then
        change (registry.record other)
      else
        registry.record other := by
  rw [record_eq, record_eq, alter, Array.getElem?_modify]
  by_cases same : ref = other
  · subst same
    by_cases bound : ref < registry.records.size
    · simp [bound]
    · simp [bound]
  · have distinct : other ≠ ref := fun equal => same equal.symm
    simp [same, distinct]

/-- What a change keeps of every record it keeps of the one that it is made to. -/
theorem read_alter
    {α : Type}
    (read : Record → α)
    (registry : Registry)
    (ref other : RecordRef)
    {change : Record → Record}
    (kept : ∀ record, read (change record) = read record) :
    read ((registry.alter ref change).record other) = read (registry.record other) := by
  rw [record_alter]
  split
  · exact kept _
  · rfl

theorem record_setState
    (registry : Registry)
    (ref other : RecordRef)
    (state : RecordState) :
    (registry.setState ref state).record other =
      if other = ref ∧ ref < registry.records.size then
        { registry.record other with state }
      else
        registry.record other :=
  registry.record_alter ref other _

/-- Only a record that exists is live. -/
theorem lt_size_of_state
    {registry : Registry}
    {ref : RecordRef}
    (state : (registry.record ref).state ≠ .detached) :
    ref < registry.records.size := by
  rcases Nat.lt_or_ge ref registry.records.size with inside | outside
  · exact inside
  · rw [record_eq, Array.getElem?_eq_none outside] at state
    exact absurd rfl state

theorem tracker_updateTracker
    (registry : Registry)
    (ref other : TrackerRef)
    (change : Tracker → Tracker) :
    (registry.updateTracker ref change).tracker other =
      if other = ref ∧ ref < registry.trackers.size then
        change (registry.tracker other)
      else
        registry.tracker other := by
  simp only [tracker, updateTracker, Array.getD_eq_getD_getElem?, Array.getElem?_modify]
  by_cases same : ref = other
  · subst same
    by_cases bound : ref < registry.trackers.size
    · simp [bound]
    · simp [bound]
  · have distinct : other ≠ ref := fun equal => same equal.symm
    simp [same, distinct]

/-- What a change keeps of every tracker it keeps of the one that it is made to. -/
theorem read_updateTracker
    {α : Type}
    (read : Tracker → α)
    (registry : Registry)
    (ref other : TrackerRef)
    {change : Tracker → Tracker}
    (kept : ∀ tracker, read (change tracker) = read tracker) :
    read ((registry.updateTracker ref change).tracker other) = read (registry.tracker other) := by
  rw [tracker_updateTracker]
  split
  · exact kept _
  · rfl

theorem record_addRecord_of_lt
    {registry : Registry}
    {tracker : TrackerRef}
    {handle : Handle}
    {typeName : String}
    {ref : RecordRef}
    (bound : ref < registry.records.size) :
    (registry.addRecord tracker handle typeName).2.record ref = registry.record ref := by
  rw [record_eq, record_eq]
  simp [addRecord, updateTracker, Array.getElem?_push, Nat.ne_of_lt bound]

/-! ## Deferring -/

/-- Nothing happened but that live records were deferred, and entries of a kind were made. -/
structure Defers (kind : Event → Prop) (registry registry' : Registry) : Prop where
  size : registry'.records.size = registry.records.size
  trackers : registry'.trackers.size = registry.trackers.size
  record :
    ∀ ref,
      registry'.record ref = registry.record ref ∨
        (registry.record ref).state = .live ∧
          registry'.record ref = { registry.record ref with state := .deferred }
  books : ∀ ref, (registry'.tracker ref).books = (registry.tracker ref).books
  counted :
    ∀ ref, (registry.tracker ref).queue.IsCounted → (registry'.tracker ref).queue.IsCounted
  journal :
    ∃ events,
      registry'.journal = registry.journal ++ events ∧ ∀ event ∈ events, kind event
  nextSubscription : registry'.nextSubscription = registry.nextSubscription

namespace Defers

variable {kind kind' : Event → Prop} {registry registry' registry'' : Registry}

theorem refl (registry : Registry) : registry.Defers kind registry where
  size := rfl
  trackers := rfl
  record := fun _ => .inl rfl
  books := fun _ => rfl
  counted := fun _ => id
  journal := ⟨[], by simp⟩
  nextSubscription := rfl

theorem trans
    (first : registry.Defers kind registry')
    (second : registry'.Defers kind registry'') :
    registry.Defers kind registry'' where
  size := second.size.trans first.size
  trackers := second.trackers.trans first.trackers
  record := by
    intro ref
    rcases first.record ref with same | ⟨live, deferred⟩
    · rw [← same]
      exact second.record ref
    · rcases second.record ref with same | ⟨live', -⟩
      · exact .inr ⟨live, same.trans deferred⟩
      · rw [deferred] at live'
        cases live'
  books := fun ref => (second.books ref).trans (first.books ref)
  counted := fun ref before => second.counted ref (first.counted ref before)
  journal := by
    rcases first.journal with ⟨before, grown, quiet⟩
    rcases second.journal with ⟨after, grown', quiet'⟩
    refine ⟨before ++ after, by rw [grown', grown, List.append_assoc], ?_⟩
    intro event member
    rcases List.mem_append.mp member with early | late
    · exact quiet event early
    · exact quiet' event late
  nextSubscription := second.nextSubscription.trans first.nextSubscription

theorem mono
    (defers : registry.Defers kind registry')
    (weaker : ∀ event, kind event → kind' event) :
    registry.Defers kind' registry' where
  size := defers.size
  trackers := defers.trackers
  record := defers.record
  books := defers.books
  counted := defers.counted
  journal := by
    rcases defers.journal with ⟨events, grown, kinds⟩
    exact ⟨events, grown, fun event member => weaker event (kinds event member)⟩
  nextSubscription := defers.nextSubscription

theorem mild
    (defers : registry.Defers Event.IsOfHook registry') :
    registry.Defers Event.IsMild registry' :=
  defers.mono fun _ => Event.IsOfHook.isMild

/-- What was told remains told. -/
theorem told
    (defers : registry.Defers kind registry')
    {event : Event}
    (before : event ∈ registry.journal) :
    event ∈ registry'.journal := by
  rcases defers.journal with ⟨events, grown, -⟩
  rw [grown]
  exact List.mem_append_left events before

/-- No alarm is raised by entries of a mild kind. -/
theorem untroubled
    (defers : registry.Defers Event.IsMild registry')
    (before : registry.Untroubled) :
    registry'.Untroubled := by
  rcases defers.journal with ⟨events, grown, mild⟩
  rw [Untroubled, grown]
  intro event member
  rcases List.mem_append.mp member with early | late
  · exact before event early
  · exact (mild event late).2

/-! ### Primitive changes -/

theorem updateTracker
    (registry : Registry)
    (ref : TrackerRef)
    {change : Tracker → Tracker}
    (kept : ∀ tracker, (change tracker).books = tracker.books)
    (counted :
      (registry.tracker ref).queue.IsCounted → (change (registry.tracker ref)).queue.IsCounted) :
    registry.Defers kind (registry.updateTracker ref change) where
  size := rfl
  trackers := by simp [Registry.updateTracker]
  record := fun _ => .inl rfl
  books := fun other => registry.read_updateTracker Tracker.books ref other kept
  counted := by
    intro other before
    rw [tracker_updateTracker]
    split
    · next found =>
        rcases found with ⟨rfl, -⟩
        exact counted before
    · exact before
  journal := ⟨[], by simp [Registry.updateTracker]⟩
  nextSubscription := rfl

theorem updateQueue
    (registry : Registry)
    (ref : TrackerRef)
    {change : PendingQueue PendingRelease → PendingQueue PendingRelease}
    (counted :
      (registry.tracker ref).queue.IsCounted → (change (registry.tracker ref).queue).IsCounted) :
    registry.Defers kind (registry.updateQueue ref change) :=
  updateTracker registry ref (fun _ => rfl) counted

theorem leave
    (registry : Registry)
    (ref : TrackerRef) :
    registry.Defers kind (registry.leave ref) :=
  updateTracker registry ref (fun _ => rfl) id

theorem hold
    (registry : Registry)
    (ref : TrackerRef) :
    registry.Defers kind (registry.hold ref) :=
  updateTracker registry ref (fun _ => rfl) id

theorem enter
    (registry : Registry)
    {event : Event}
    (isKind : kind event) :
    registry.Defers kind (registry.enter event) where
  size := rfl
  trackers := rfl
  record := fun _ => .inl rfl
  books := fun _ => rfl
  counted := fun _ => id
  journal := ⟨[event], rfl, by simpa using isKind⟩
  nextSubscription := rfl

theorem setState
    {ref : RecordRef}
    (live : (registry.record ref).state = .live) :
    registry.Defers kind (registry.setState ref .deferred) where
  size := by simp [Registry.setState]
  trackers := rfl
  record := by
    intro other
    rw [record_setState]
    split
    · next same =>
        rcases same with ⟨rfl, -⟩
        exact .inr ⟨live, rfl⟩
    · exact .inl rfl
  books := fun _ => rfl
  counted := fun _ => id
  journal := ⟨[], by simp [Registry.setState]⟩
  nextSubscription := rfl

theorem offerRelease
    (registry : Registry)
    (ref : TrackerRef)
    (record : RecordRef)
    (hook : Option Hook) :
    registry.Defers Event.IsOfHook (registry.offerRelease ref record hook).2 := by
  rw [Registry.offerRelease]
  split
  · next live =>
      have moved : registry.Defers Event.IsOfHook _ := setState live
      simp only
      split
      · exact (moved.trans (updateQueue _ _ fun counted => counted.push _)).trans
          (enter _ (by simp))
      · exact moved
  · exact refl registry

/-! ### Hooks and holders -/

/-- Dropping a wrapper defers, if letting go and discarding do. -/
theorem dropWith
    {letGo : TrackerRef → Registry → Registry}
    {discard : Registry → Registry}
    (lets : ∀ ref (registry : Registry), registry.Defers Event.IsOfHook (letGo ref registry))
    (discards : ∀ registry : Registry, registry.Defers Event.IsOfHook (discard registry))
    (ref : TrackerRef)
    (record : RecordRef)
    (hook : Option Hook)
    (registry : Registry) :
    registry.Defers Event.IsOfHook (registry.dropWith letGo discard ref record hook) := by
  rw [Registry.dropWith]
  split
  · have offered := offerRelease registry ref record hook
    generalize registry.offerRelease ref record hook = result at offered ⊢
    rcases result with ⟨left, registry'⟩
    cases left with
    | none => exact offered.trans (lets _ _)
    | some _ => exact (offered.trans (discards _)).trans (lets _ _)
  · exact (lets _ _).trans (discards _)

theorem discardWith
    {letGo : TrackerRef → Registry → Registry}
    (lets : ∀ ref (registry : Registry), registry.Defers Event.IsOfHook (letGo ref registry))
    (hook : Hook)
    (registry : Registry) :
    registry.Defers Event.IsOfHook (hook.discardWith letGo registry) := by
  induction hook generalizing registry with
  | done home => exact lets home registry
  | log _ _ step => exact step registry
  | defer _ _ _ step => exact step registry
  | drop tracker record rest step =>
      exact (dropWith lets refl tracker record none registry).trans (step _)
  | dropHooked tracker record carried rest carriedStep step =>
      exact (dropWith lets carriedStep tracker record (some carried) registry).trans (step _)
  | fail _ _ step => exact step registry
  | panic _ _ step => exact step registry

theorem runWith
    {letGo : TrackerRef → Registry → Registry}
    (lets : ∀ ref (registry : Registry), registry.Defers Event.IsOfHook (letGo ref registry))
    (owner : RecordRef)
    (hook : Hook)
    (registry : Registry) :
    registry.Defers Event.IsOfHook (hook.runWith letGo owner registry).2 := by
  induction hook generalizing registry with
  | done home => exact lets home registry
  | log text rest step => exact (enter registry (by simp)).trans (step _)
  | defer tracker record rest step =>
      exact (offerRelease registry tracker record none).trans (step _)
  | drop tracker record rest step =>
      exact (dropWith lets refl tracker record none registry).trans (step _)
  | dropHooked tracker record carried rest _ step =>
      exact (dropWith lets (discardWith lets carried) tracker record (some carried) registry).trans
        (step _)
  | fail _ rest _ => exact discardWith lets rest registry
  | panic _ rest _ => exact discardWith lets rest registry

theorem discardHookWith
    {letGo : TrackerRef → Registry → Registry}
    (lets : ∀ ref (registry : Registry), registry.Defers Event.IsOfHook (letGo ref registry))
    (hook : Option Hook)
    (registry : Registry) :
    registry.Defers Event.IsOfHook (registry.discardHookWith letGo hook) := by
  cases hook with
  | none => exact refl registry
  | some hook => exact discardWith lets hook registry

theorem discardBatchWith
    {letGo : TrackerRef → Registry → Registry}
    (lets : ∀ ref (registry : Registry), registry.Defers Event.IsOfHook (letGo ref registry))
    (batch : List PendingRelease)
    (registry : Registry) :
    registry.Defers Event.IsOfHook (registry.discardBatchWith letGo batch) := by
  induction batch generalizing registry with
  | nil => exact refl registry
  | cons item rest step => exact (discardHookWith lets item.hook registry).trans (step _)

/-- The last to let a tracker go drops what waits in its queue, and so on. -/
theorem letGoWithin
    (depth : Nat)
    (ref : TrackerRef)
    (registry : Registry) :
    registry.Defers Event.IsOfHook (registry.letGoWithin depth ref) := by
  induction depth generalizing ref registry with
  | zero => exact leave registry ref
  | succ depth step =>
      have left : registry.Defers Event.IsOfHook _ := leave registry ref
      simp only [Registry.letGoWithin]
      split
      · exact (left.trans (updateQueue _ _ fun _ => PendingQueue.isCounted_empty)).trans
          (discardBatchWith step _ _)
      · exact left

theorem letGo
    (ref : TrackerRef)
    (registry : Registry) :
    registry.Defers Event.IsOfHook (registry.letGo ref) :=
  letGoWithin _ ref registry

theorem run
    (hook : Hook)
    (owner : RecordRef)
    (registry : Registry) :
    registry.Defers Event.IsOfHook (hook.run owner registry).2 :=
  runWith letGo owner hook registry

theorem discardHook
    (registry : Registry)
    (hook : Option Hook) :
    registry.Defers Event.IsOfHook (registry.discardHook hook) :=
  discardHookWith letGo hook registry

theorem discardBatch
    (registry : Registry)
    (batch : List PendingRelease) :
    registry.Defers Event.IsOfHook (registry.discardBatch batch) :=
  discardBatchWith letGo batch registry

/-! ### Dropping -/

theorem deferRelease
    (registry : Registry)
    (ref : TrackerRef)
    (record : RecordRef)
    (hook : Option Hook) :
    registry.Defers Event.IsOfHook (registry.deferRelease ref record hook) :=
  (offerRelease registry ref record hook).trans (discardHook _ _)

theorem dropWrapper
    (registry : Registry)
    (wrapper : Wrapper) :
    registry.Defers Event.IsOfHook (registry.dropWrapper wrapper) :=
  dropWith letGo (discardHookWith letGo wrapper.hook) _ _ _ registry

theorem dropWrappers
    (registry : Registry)
    (wrappers : List Wrapper) :
    registry.Defers Event.IsOfHook (registry.dropWrappers wrappers) := by
  induction wrappers generalizing registry with
  | nil => exact refl registry
  | cons wrapper rest step => exact (dropWrapper registry wrapper).trans (step _)

end Defers

end Registry

end Custody
