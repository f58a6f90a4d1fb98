import Custody.Proofs.Tracking.Moves

/-!
# What hooks mention

A hook defers records and drops wrappers of records, and it may carry hooks that do
so later.  All these records are mentioned in it.  A host can make a hook only for
records that there are: so what waits in a queue mentions none that is yet to be
made, and whatever a drain sets off, a record that was made meanwhile stays live.
-/

namespace Custody

/-- The records that a hook, or a hook which it carries, may defer. -/
def Hook.mentioned : Hook → List RecordRef
  | .done _ => []
  | .log _ rest => rest.mentioned
  | .defer _ record rest => record :: rest.mentioned
  | .drop _ record rest => record :: rest.mentioned
  | .dropHooked _ record carried rest => record :: (carried.mentioned ++ rest.mentioned)
  | .fail _ rest => rest.mentioned
  | .panic _ rest => rest.mentioned

/-- The records that a hook mentions which may be absent. -/
def Hook.mentionedBy : Option Hook → List RecordRef
  | none => []
  | some hook => hook.mentioned

namespace Registry

/-- The hooks that wait, in whichever queue, mention only records below a bound. -/
def MentionsBelow (bound : Nat) (registry : Registry) : Prop :=
  ∀ tracker, ∀ item ∈ (registry.tracker tracker).queue.items,
    ∀ ref ∈ Hook.mentionedBy item.hook, ref < bound

/--
If the hooks that wait mention only records below a bound they still do, and live
records from the bound on stay live.
-/
def Overlooks (bound : Nat) (registry registry' : Registry) : Prop :=
  registry.MentionsBelow bound →
    registry'.MentionsBelow bound ∧
      ∀ ref, bound ≤ ref →
        (registry.record ref).state = .live → (registry'.record ref).state = .live

variable {bound : Nat} {registry registry' registry'' : Registry}

/-- Only the trackers that there are can have hooks in their queues. -/
theorem mentionsBelow_iff :
    registry.MentionsBelow bound ↔
      ∀ tracker ∈ registry.trackers.toList, ∀ item ∈ tracker.queue.items,
        ∀ ref ∈ Hook.mentionedBy item.hook, ref < bound := by
  constructor
  · intro below tracker listed
    rcases Array.mem_iff_getElem.mp (Array.mem_toList_iff.mp listed) with ⟨index, inside, rfl⟩
    have there := below index
    rwa [Registry.tracker, Array.getD_eq_getD_getElem?, Array.getElem?_eq_getElem inside] at there
  · intro below index item waits
    rw [Registry.tracker, Array.getD_eq_getD_getElem?] at waits
    cases found : registry.trackers[index]? with
    | none =>
        rw [found] at waits
        exact absurd waits List.not_mem_nil
    | some tracker =>
        rw [found] at waits
        exact below tracker (Array.mem_toList_iff.mpr (Array.mem_of_getElem? found)) item waits

instance (bound : Nat) (registry : Registry) : Decidable (registry.MentionsBelow bound) :=
  decidable_of_iff _ mentionsBelow_iff.symm

theorem MentionsBelow.mono
    {bound' : Nat}
    (below : registry.MentionsBelow bound)
    (more : bound ≤ bound') :
    registry.MentionsBelow bound' :=
  fun tracker item waits ref among => (below tracker item waits ref among).trans_le more

namespace Overlooks

theorem refl (registry : Registry) : Overlooks bound registry registry :=
  fun below => ⟨below, fun _ _ => id⟩

theorem trans
    (first : Overlooks bound registry registry')
    (second : Overlooks bound registry' registry'') :
    Overlooks bound registry registry'' := by
  intro below
  rcases first below with ⟨below', live⟩
  rcases second below' with ⟨below'', live'⟩
  exact ⟨below'', fun ref beyond still => live' ref beyond (live ref beyond still)⟩

/-- What changes no record and no queue. -/
theorem of_eq
    (records : registry'.records = registry.records)
    (queue : ∀ ref, (registry'.tracker ref).queue = (registry.tracker ref).queue) :
    Overlooks bound registry registry' := by
  intro below
  constructor
  · intro tracker item waits
    rw [queue] at waits
    exact below tracker item waits
  · intro ref _ live
    rwa [record, records]

/-- The new items of a queue mention only records below the bound. -/
theorem updateQueue
    (registry : Registry)
    (ref : TrackerRef)
    {change : PendingQueue PendingRelease → PendingQueue PendingRelease}
    (items :
      registry.MentionsBelow bound →
        ∀ item ∈ (change (registry.tracker ref).queue).items,
          ∀ record ∈ Hook.mentionedBy item.hook, record < bound) :
    Overlooks bound registry (registry.updateQueue ref change) := by
  intro below
  refine ⟨fun tracker item waits => ?_, fun _ _ => id⟩
  rw [Registry.updateQueue, tracker_updateTracker] at waits
  split at waits
  · next found =>
      rcases found with ⟨rfl, -⟩
      exact items below item waits
  · exact below tracker item waits

theorem updateTracker
    (registry : Registry)
    (ref : TrackerRef)
    {change : Tracker → Tracker}
    (kept : ∀ tracker, (change tracker).queue = tracker.queue) :
    Overlooks bound registry (registry.updateTracker ref change) :=
  of_eq rfl fun other => read_updateTracker Tracker.queue registry ref other kept

theorem enter
    (registry : Registry)
    (event : Event) :
    Overlooks bound registry (registry.enter event) :=
  of_eq rfl fun _ => rfl

theorem unregister
    (registry : Registry)
    (ref : TrackerRef)
    (record : RecordRef) :
    Overlooks bound registry (registry.unregister ref record) :=
  updateTracker registry ref fun _ => rfl

theorem addRecord
    (registry : Registry)
    (ref : TrackerRef)
    (handle : Handle)
    (typeName : String) :
    Overlooks bound registry (registry.addRecord ref handle typeName).2 := by
  intro below
  have listed :
      Overlooks bound { registry with records := (registry.addRecord ref handle typeName).2.records }
        (registry.addRecord ref handle typeName).2 :=
    updateTracker _ ref fun _ => rfl
  refine ⟨(listed below).1, fun record _ live => ?_⟩
  have inside : record < registry.records.size := lt_size_of_state (by simp [live])
  rwa [record_addRecord_of_lt inside]

/-- A record changes its state, be it below the bound or no longer live. -/
theorem alter
    {ref : RecordRef}
    (settled : bound ≤ ref → (registry.record ref).state ≠ .live)
    (change : Record → Record) :
    Overlooks bound registry (registry.alter ref change) := by
  intro below
  refine ⟨below, fun other beyond live => ?_⟩
  rw [record_alter]
  split
  · next found =>
      rcases found with ⟨rfl, -⟩
      exact absurd live (settled beyond)
  · exact live

/-! ## Hooks -/

theorem offerRelease
    {record : RecordRef}
    {hook : Option Hook}
    (registry : Registry)
    (ref : TrackerRef)
    (old : record < bound)
    (mentioned : ∀ other ∈ Hook.mentionedBy hook, other < bound) :
    Overlooks bound registry (registry.offerRelease ref record hook).2 := by
  have moved : Overlooks bound registry (registry.setState record .deferred) :=
    alter (fun beyond => absurd old beyond.not_gt) _
  rw [Registry.offerRelease]
  split
  · simp only
    split
    · refine (moved.trans (updateQueue _ ref fun below item waits => ?_)).trans (enter _ _)
      rcases List.mem_append.mp waits with before | pushed
      · exact below ref item before
      · rw [List.mem_singleton.mp pushed]
        exact mentioned
    · exact moved
  · exact refl registry

/-- Dropping a wrapper, if letting go and discarding overlook the records from the bound on. -/
theorem dropWith
    {letGo : TrackerRef → Registry → Registry}
    {discard : Registry → Registry}
    {record : RecordRef}
    (lets : ∀ ref (registry : Registry), Overlooks bound registry (letGo ref registry))
    (discards : ∀ registry : Registry, Overlooks bound registry (discard registry))
    (ref : TrackerRef)
    (hook : Option Hook)
    (registry : Registry)
    (old : record < bound)
    (mentioned : ∀ other ∈ Hook.mentionedBy hook, other < bound) :
    Overlooks bound registry (registry.dropWith letGo discard ref record hook) := by
  rw [Registry.dropWith]
  split
  · have offered := offerRelease registry ref old mentioned
    generalize registry.offerRelease ref record hook = result at offered ⊢
    rcases result with ⟨left, registry'⟩
    cases left with
    | none => exact offered.trans (lets _ _)
    | some _ => exact (offered.trans (discards _)).trans (lets _ _)
  · exact (lets _ _).trans (discards _)

theorem discardWith
    {letGo : TrackerRef → Registry → Registry}
    (lets : ∀ ref (registry : Registry), Overlooks bound registry (letGo ref registry))
    (hook : Hook)
    (registry : Registry)
    (mentioned : ∀ ref ∈ hook.mentioned, ref < bound) :
    Overlooks bound registry (hook.discardWith letGo registry) := by
  induction hook generalizing registry with
  | done home => exact lets home registry
  | log _ _ step => exact step registry mentioned
  | defer _ _ _ step => exact step registry (List.forall_mem_cons.mp mentioned).2
  | drop tracker record rest step =>
      rcases List.forall_mem_cons.mp mentioned with ⟨old, later⟩
      exact (dropWith lets refl tracker none registry old (List.forall_mem_nil _)).trans (step _ later)
  | dropHooked tracker record carried rest carriedStep step =>
      rcases List.forall_mem_cons.mp mentioned with ⟨old, both⟩
      rcases List.forall_mem_append.mp both with ⟨inner, later⟩
      exact (dropWith lets (fun registry => carriedStep registry inner) tracker (some carried)
        registry old inner).trans (step _ later)
  | fail _ _ step => exact step registry mentioned
  | panic _ _ step => exact step registry mentioned

theorem runWith
    {letGo : TrackerRef → Registry → Registry}
    (lets : ∀ ref (registry : Registry), Overlooks bound registry (letGo ref registry))
    (owner : RecordRef)
    (hook : Hook)
    (registry : Registry)
    (mentioned : ∀ ref ∈ hook.mentioned, ref < bound) :
    Overlooks bound registry (hook.runWith letGo owner registry).2 := by
  induction hook generalizing registry with
  | done home => exact lets home registry
  | log text rest step => exact (enter registry _).trans (step _ mentioned)
  | defer tracker record rest step =>
      rcases List.forall_mem_cons.mp mentioned with ⟨old, later⟩
      exact (offerRelease registry tracker old (List.forall_mem_nil _)).trans (step _ later)
  | drop tracker record rest step =>
      rcases List.forall_mem_cons.mp mentioned with ⟨old, later⟩
      exact (dropWith lets refl tracker none registry old (List.forall_mem_nil _)).trans (step _ later)
  | dropHooked tracker record carried rest _ step =>
      rcases List.forall_mem_cons.mp mentioned with ⟨old, both⟩
      rcases List.forall_mem_append.mp both with ⟨inner, later⟩
      exact (dropWith lets (fun registry => discardWith lets carried registry inner) tracker
        (some carried) registry old inner).trans (step _ later)
  | fail _ rest _ => exact discardWith lets rest registry mentioned
  | panic _ rest _ => exact discardWith lets rest registry mentioned

theorem discardBatchWith
    {letGo : TrackerRef → Registry → Registry}
    (lets : ∀ ref (registry : Registry), Overlooks bound registry (letGo ref registry))
    (batch : List PendingRelease)
    (registry : Registry)
    (mentioned : ∀ item ∈ batch, ∀ ref ∈ Hook.mentionedBy item.hook, ref < bound) :
    Overlooks bound registry (registry.discardBatchWith letGo batch) := by
  induction batch generalizing registry with
  | nil => exact refl registry
  | cons item rest step =>
      rcases List.forall_mem_cons.mp mentioned with ⟨first, later⟩
      refine trans ?_ (step _ later)
      rcases item with ⟨record, _ | hook⟩
      · exact refl registry
      · exact discardWith lets hook registry first

/-- The last to let a tracker go drops what waits in its queue, and that mentions no more. -/
theorem letGoWithin
    (depth : Nat)
    (ref : TrackerRef)
    (registry : Registry) :
    Overlooks bound registry (registry.letGoWithin depth ref) := by
  induction depth generalizing ref registry with
  | zero => exact updateTracker registry ref fun _ => rfl
  | succ depth step =>
      have left : Overlooks bound registry (registry.leave ref) := updateTracker registry ref fun _ => rfl
      simp only [Registry.letGoWithin]
      split
      · intro below
        have emptied : Overlooks bound (registry.leave ref)
            ((registry.leave ref).updateQueue ref fun _ => .empty) :=
          updateQueue _ ref fun _ => List.forall_mem_nil _
        exact (left.trans (emptied.trans
          (discardBatchWith step _ _ ((left below).1 ref)))) below
      · exact left

theorem run
    {hook : Hook}
    (owner : RecordRef)
    (registry : Registry)
    (mentioned : ∀ ref ∈ hook.mentioned, ref < bound) :
    Overlooks bound registry (hook.run owner registry).2 :=
  runWith (fun ref registry => letGoWithin _ ref registry) owner hook registry mentioned

/-! ## Drains -/

theorem of_tells
    {kind : Event → Prop}
    (tells : registry.Tells kind registry') :
    Overlooks bound registry registry' := by
  rcases tells with ⟨events, rfl, -⟩
  exact of_eq rfl fun _ => rfl

theorem takeUp
    {item : PendingRelease}
    (registry : Registry)
    (mentioned : ∀ ref ∈ Hook.mentionedBy item.hook, ref < bound) :
    Overlooks bound registry (registry.takeUp item) := by
  rcases item with ⟨record, _ | hook⟩
  · exact enter registry _
  · exact ((enter registry _).trans (enter _ _)).trans (run record _ mentioned)

/-- A drain settles only records that were deferred. -/
theorem deal
    {home : TrackerRef}
    {item : PendingRelease}
    (dealt : Deal home item registry registry')
    (mentioned : ∀ ref ∈ Hook.mentionedBy item.hook, ref < bound) :
    Overlooks bound registry registry' := by
  have taken := takeUp registry mentioned
  cases dealt with
  | pass tells _ => exact taken.trans (of_tells tells)
  | settle tells deferred change _ tells' =>
      have settled := (taken.trans (of_tells tells)).trans
        (alter (fun _ live => by rw [deferred] at live; cases live) change)
      exact (settled.trans (unregister _ home item.record)).trans (of_tells tells')

end Overlooks

end Registry

end Custody
