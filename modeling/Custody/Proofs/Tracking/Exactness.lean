import Custody.Proofs.Tracking.Accounts
import Mathlib.Data.List.Nodup

/-!
# Exact books

A tracker lists its records by object.  Its books are exact if they list, for
every object, precisely the records that own a reference to it, in the order in
which they were registered, and no object without any.  Records are numbered
from one on, so that no number is used twice.

Whoever changes the state of a record and strikes it does so in two steps; the
books are exact again after the second.
-/

namespace Custody

namespace Owners

variable {owners : Owners} {handle other : Handle} {refs : List RecordRef}

/-- The only entry for an object is the list of its owners. -/
theorem of_eq_of_mem
    (keys : (owners.map Prod.fst).Nodup)
    (member : (handle, refs) ∈ owners) :
    owners.of handle = refs := by
  induction owners with
  | nil => cases member
  | cons entry rest step =>
      rcases entry with ⟨key, records⟩
      rw [List.map_cons, List.nodup_cons] at keys
      rw [of_cons]
      rcases List.mem_cons.mp member with same | later
      · cases same
        rw [if_pos rfl]
      · have distinct : key ≠ handle := by
          rintro rfl
          exact keys.1 (List.mem_map.mpr ⟨_, later, rfl⟩)
        rw [if_neg distinct]
        exact step keys.2 later

theorem of_restrict_self
    (keys : (owners.map Prod.fst).Nodup)
    (keep : RecordRef → Bool) :
    (owners.restrict handle keep).of handle = (owners.of handle).filter keep := by
  induction owners with
  | nil => rfl
  | cons entry rest step =>
      rcases entry with ⟨key, records⟩
      rw [List.map_cons, List.nodup_cons] at keys
      by_cases same : key = handle
      · subst same
        have missing : Owners.of rest key = [] := by
          by_contra present
          rcases List.exists_mem_of_ne_nil _ present with ⟨ref, member⟩
          exact keys.1 (List.mem_map.mpr ⟨_, mem_of_mem_of member, rfl⟩)
        cases kept : records.filter keep with
        | nil => simp [restrict, of_cons, kept, missing]
        | cons _ _ => simp [restrict, of_cons, kept]
      · simp [restrict, of_cons, same, step keys.2]

/-- Every object on the books has owners. -/
def Inhabited (owners : Owners) : Prop :=
  ∀ handle refs, (handle, refs) ∈ owners → refs ≠ []

theorem Inhabited.add
    (inhabited : owners.Inhabited)
    (handle : Handle)
    (record : RecordRef) :
    (owners.add handle record).Inhabited := by
  intro key refs member
  rcases mem_add member with old | ⟨-, before, rfl, -⟩
  · exact inhabited key refs old
  · simp

theorem Inhabited.restrict
    (inhabited : owners.Inhabited)
    (handle : Handle)
    (keep : RecordRef → Bool) :
    (owners.restrict handle keep).Inhabited := by
  induction owners with
  | nil => exact inhabited
  | cons entry rest step =>
      rcases entry with ⟨key, records⟩
      have later : Inhabited rest := fun other refs among =>
        inhabited other refs (List.mem_cons_of_mem _ among)
      intro other refs member
      by_cases same : key = handle
      · cases kept : records.filter keep with
        | nil =>
            simp only [Owners.restrict, if_pos same, kept] at member
            exact later other refs member
        | cons first others =>
            simp only [Owners.restrict, if_pos same, kept, List.mem_cons] at member
            rcases member with first | among
            · cases first
              simp
            · exact later other refs among
      · simp only [Owners.restrict, if_neg same, List.mem_cons] at member
        rcases member with first | among
        · cases first
          exact inhabited _ _ List.mem_cons_self
        · exact step later other refs among

end Owners

namespace Registry

variable {registry registry' : Registry} {tracker : TrackerRef} {ref : RecordRef}
variable {handle : Handle}

/-- Whether a record owns a reference to an object. -/
def ownsAt (registry : Registry) (handle : Handle) (ref : RecordRef) : Bool :=
  (registry.record ref).state.owns && decide ((registry.record ref).handle = handle)

/-- The records that own a reference to an object, in the order of registration. -/
def ownersInOrder (registry : Registry) (handle : Handle) : List RecordRef :=
  (List.range registry.records.size).filter (registry.ownsAt handle)

theorem ownsAt_iff :
    registry.ownsAt handle ref = true ↔
      (registry.record ref).state.owns = true ∧ (registry.record ref).handle = handle := by
  simp [ownsAt]

theorem mem_ownersInOrder :
    ref ∈ registry.ownersInOrder handle ↔
      (registry.record ref).state.owns = true ∧ (registry.record ref).handle = handle := by
  rw [ownersInOrder, List.mem_filter, List.mem_range, ownsAt_iff]
  exact ⟨fun member => member.2, fun owns => ⟨lt_size_of_owns owns.1, owns⟩⟩

theorem nodup_ownersInOrder
    (registry : Registry)
    (handle : Handle) :
    (registry.ownersInOrder handle).Nodup :=
  List.nodup_range.filter _

/-- What changes neither the number of records nor what they own leaves the owners in place. -/
theorem ownersInOrder_congr
    (size : registry'.records.size = registry.records.size)
    (same : ∀ ref, (registry'.record ref).references = (registry.record ref).references)
    (handle : Handle) :
    registry'.ownersInOrder handle = registry.ownersInOrder handle := by
  rw [ownersInOrder, ownersInOrder, size]
  apply List.filter_congr
  intro ref _
  have owned (registry : Registry) :
      registry.ownsAt handle ref = true ↔ (registry.record ref).references = {handle} :=
    ownsAt_iff.trans
      ⟨fun owns => by rw [Record.references_of_owns owns.1, owns.2], Record.owns_of_references⟩
  rw [Bool.eq_iff_iff, owned, owned, same]

/--
The books of a tracker list each object with the records that own a reference to
it, in the order of registration, and records are numbered from one on.
-/
structure Exact (registry : Registry) (tracker : TrackerRef) : Prop where
  there : tracker < registry.trackers.size
  keys : ((registry.tracker tracker).owners.map Prod.fst).Nodup
  inhabited : (registry.tracker tracker).owners.Inhabited
  listed : ∀ handle, registry.ownersOf tracker handle = registry.ownersInOrder handle
  numbered : ∀ ref < registry.records.size, (registry.record ref).id = ref + 1
  nextId : (registry.tracker tracker).nextId = registry.records.size + 1

theorem tracker_updateTracker_self
    (there : tracker < registry.trackers.size)
    (change : Tracker → Tracker) :
    (registry.updateTracker tracker change).tracker tracker =
      change (registry.tracker tracker) := by
  rw [tracker_updateTracker, if_pos ⟨rfl, there⟩]

theorem queue_updateQueue
    (there : tracker < registry.trackers.size)
    (change : PendingQueue PendingRelease → PendingQueue PendingRelease) :
    ((registry.updateQueue tracker change).tracker tracker).queue =
      change (registry.tracker tracker).queue := by
  rw [updateQueue, tracker_updateTracker_self there]

@[simp]
theorem size_updateTracker
    (registry : Registry)
    (tracker : TrackerRef)
    (change : Tracker → Tracker) :
    (registry.updateTracker tracker change).trackers.size = registry.trackers.size := by
  simp [updateTracker]

/-! ## A new record -/

theorem size_addRecord
    (registry : Registry)
    (tracker : TrackerRef)
    (handle : Handle)
    (typeName : String) :
    (registry.addRecord tracker handle typeName).2.records.size = registry.records.size + 1 := by
  simp [addRecord, updateTracker]

theorem tracker_addRecord_self
    (there : tracker < registry.trackers.size)
    (handle : Handle)
    (typeName : String) :
    (registry.addRecord tracker handle typeName).2.tracker tracker =
      { registry.tracker tracker with
        owners := (registry.tracker tracker).owners.add handle registry.records.size
        nextId := (registry.tracker tracker).nextId + 1 } :=
  @tracker_updateTracker_self { registry with records := _ } tracker there _

theorem record_addRecord_self
    (registry : Registry)
    (tracker : TrackerRef)
    (handle : Handle)
    (typeName : String) :
    (registry.addRecord tracker handle typeName).2.record registry.records.size =
      { id := (registry.tracker tracker).nextId
        handle
        typeName
        generation := (registry.tracker tracker).queue.generation
        state := .live
        collected := false } := by
  rw [record_eq]
  simp [addRecord, updateTracker]

namespace Exact

/-! ## Changes that the books do not show -/

theorem congr
    (books : registry.Exact tracker)
    (trackers : registry'.trackers.size = registry.trackers.size)
    (owners : (registry'.tracker tracker).owners = (registry.tracker tracker).owners)
    (nextId : (registry'.tracker tracker).nextId = (registry.tracker tracker).nextId)
    (size : registry'.records.size = registry.records.size)
    (ids : ∀ ref, (registry'.record ref).id = (registry.record ref).id)
    (references :
      ∀ ref, (registry'.record ref).references = (registry.record ref).references) :
    registry'.Exact tracker where
  there := by
    rw [trackers]
    exact books.there
  keys := by
    rw [owners]
    exact books.keys
  inhabited := by
    rw [owners]
    exact books.inhabited
  listed := by
    intro handle
    rw [ownersInOrder_congr size references, ← books.listed handle, ownersOf, owners, ownersOf]
  numbered := by
    rw [size]
    exact fun ref bound => (ids ref).trans (books.numbered ref bound)
  nextId := by
    rw [nextId, size]
    exact books.nextId

theorem of_defers
    (books : registry.Exact tracker)
    {kind : Event → Prop}
    (defers : registry.Defers kind registry') :
    registry'.Exact tracker := by
  refine books.congr defers.trackers (congrArg Prod.fst (defers.books tracker))
    (congrArg (·.2.1) (defers.books tracker)) defers.size ?_ defers.references
  intro ref
  rcases defers.record ref with same | ⟨-, deferred⟩
  · rw [same]
  · rw [deferred]

/-- A tracker may change in everything but its owners and the number of its next record. -/
theorem updateTracker
    (books : registry.Exact tracker)
    (other : TrackerRef)
    {change : Tracker → Tracker}
    (owners : ∀ tracker, (change tracker).owners = tracker.owners)
    (nextId : ∀ tracker, (change tracker).nextId = tracker.nextId) :
    (registry.updateTracker other change).Exact tracker :=
  books.congr (size_updateTracker _ _ _)
    (registry.read_updateTracker Tracker.owners other tracker owners)
    (registry.read_updateTracker Tracker.nextId other tracker nextId) rfl (fun _ => rfl)
    fun _ => rfl

/-! ## Registering -/

/-- A record that is new owns its object, and comes after all that own it already. -/
theorem ownersInOrder_addRecord
    (registry : Registry)
    (tracker : TrackerRef)
    (handle : Handle)
    (typeName : String)
    (other : Handle) :
    (registry.addRecord tracker handle typeName).2.ownersInOrder other =
      registry.ownersInOrder other ++ if handle = other then [registry.records.size] else [] := by
  have size := registry.size_addRecord tracker handle typeName
  have new := registry.record_addRecord_self tracker handle typeName
  have ownsNew :
      (registry.addRecord tracker handle typeName).2.ownsAt other registry.records.size =
        decide (handle = other) := by
    simp [ownsAt, new, RecordState.owns]
  rw [ownersInOrder, size, List.range_succ, List.filter_append, ownersInOrder]
  congr 1
  · apply List.filter_congr
    intro ref member
    rw [ownsAt, ownsAt, record_addRecord_of_lt (List.mem_range.mp member)]
  · rw [List.filter_singleton, ownsNew]
    simp

/-- A new record has the next number, and is the last among the owners of its object. -/
theorem addRecord
    (books : registry.Exact tracker)
    (handle : Handle)
    (typeName : String) :
    (registry.addRecord tracker handle typeName).2.Exact tracker := by
  have size := registry.size_addRecord tracker handle typeName
  have after := tracker_addRecord_self books.there handle typeName
  constructor
  · exact books.there.trans_eq (by simp [Registry.addRecord])
  · rw [after]
    exact Owners.nodup_keys_add books.keys handle _
  · rw [after]
    exact books.inhabited.add handle _
  · intro other
    have before := books.listed other
    rw [ownersOf] at before ⊢
    rw [after, ownersInOrder_addRecord, ← before]
    by_cases same : handle = other
    · subst same
      simp
    · have distinct : other ≠ handle := fun equal => same equal.symm
      simp [Owners.of_add_of_ne _ _ distinct, same]
  · rw [size]
    intro ref bound
    rcases Nat.lt_succ_iff_lt_or_eq.mp bound with old | rfl
    · rw [record_addRecord_of_lt old]
      exact books.numbered ref old
    · rw [registry.record_addRecord_self tracker handle typeName]
      exact books.nextId
  · rw [after, size]
    exact congrArg (· + 1) books.nextId

/-! ## Striking -/

/-- A record that no longer owns its object is no longer among the owners. -/
theorem ownersInOrder_alter_settled
    {change : Record → Record}
    (settled : (change (registry.record ref)).state.owns = false)
    (object : Handle) :
    (registry.alter ref change).ownersInOrder object =
      (registry.ownersInOrder object).filter fun other => decide (other ≠ ref) := by
  rw [ownersInOrder, size_alter, ownersInOrder, List.filter_filter]
  apply List.filter_congr
  intro other inside
  by_cases same : other = ref
  · subst same
    simp [ownsAt, record_alter, List.mem_range.mp inside, settled]
  · simp [ownsAt, record_alter, same]

/-- What the tracker's books say when a record was altered and then struck from them. -/
theorem tracker_strike_self
    (books : registry.Exact tracker)
    (ref : RecordRef)
    {change : Record → Record}
    (id : ∀ record, (change record).id = record.id)
    (handle : ∀ record, (change record).handle = record.handle) :
    ((registry.alter ref change).unregister tracker ref).tracker tracker =
      { registry.tracker tracker with
        owners :=
          (registry.tracker tracker).owners.restrict (registry.record ref).handle fun other =>
            decide ((registry.record other).id ≠ (registry.record ref).id) } := by
  have there : tracker < (registry.alter ref change).trackers.size := books.there
  rw [unregister, tracker_updateTracker_self there]
  simp only [registry.read_alter Record.id ref _ id, registry.read_alter Record.handle ref _ handle]
  rfl

/-- A record that owned its reference and no longer does is struck from the books. -/
theorem strike
    (books : registry.Exact tracker)
    {change : Record → Record}
    (id : ∀ record, (change record).id = record.id)
    (handle : ∀ record, (change record).handle = record.handle)
    (owned : (registry.record ref).state.owns = true)
    (settled : (change (registry.record ref)).state.owns = false) :
    ((registry.alter ref change).unregister tracker ref).Exact tracker := by
  have bound := lt_size_of_owns owned
  have after := books.tracker_strike_self ref id handle
  have keeps (other : RecordRef) (inside : other < registry.records.size) :
      (registry.record other).id ≠ (registry.record ref).id ↔ other ≠ ref := by
    rw [books.numbered other inside, books.numbered ref bound, ne_eq, Nat.add_right_cancel_iff]
  constructor
  · exact books.there.trans_eq (size_updateTracker _ _ _).symm
  · rw [after]
    exact books.keys.sublist (Owners.keys_restrict_sublist _ _ _)
  · rw [after]
    exact books.inhabited.restrict _ _
  · intro object
    have before := books.listed object
    rw [ownersOf] at before ⊢
    change _ = (registry.alter ref change).ownersInOrder object
    rw [after, ownersInOrder_alter_settled settled, ← before]
    by_cases same : object = (registry.record ref).handle
    · subst same
      rw [Owners.of_restrict_self books.keys, before]
      apply List.filter_congr
      intro other member
      have inside := lt_size_of_owns (mem_ownersInOrder.mp member).1
      simp only [keeps other inside]
    · rw [Owners.of_restrict_of_ne _ _ same, before]
      refine (List.filter_eq_self.mpr fun other member => ?_).symm
      have elsewhere := (mem_ownersInOrder.mp member).2
      rw [decide_eq_true_iff]
      rintro rfl
      exact same elsewhere.symm
  · intro other inside
    have inside' : other < registry.records.size := by
      rwa [← registry.size_alter ref change]
    exact (registry.read_alter Record.id ref other id).trans (books.numbered other inside')
  · rw [after]
    exact books.nextId.trans (congrArg (· + 1) (registry.size_alter ref change).symm)

/-! ## Counting -/

/-- Every record that owns a reference is on the books once, and no other is. -/
theorem all_perm
    (books : registry.Exact tracker) :
    (registry.tracker tracker).owners.all.Perm
      ((List.range registry.records.size).filter fun ref => (registry.record ref).state.owns) := by
  have entry {handle : Handle} {refs : List RecordRef}
      (member : (handle, refs) ∈ (registry.tracker tracker).owners) :
      refs = registry.ownersInOrder handle :=
    (Owners.of_eq_of_mem books.keys member).symm.trans (books.listed handle)
  rw [List.perm_ext_iff_of_nodup]
  · intro ref
    rw [Owners.all, List.mem_flatMap, List.mem_filter, List.mem_range]
    constructor
    · rintro ⟨⟨handle, refs⟩, member, among⟩
      rw [entry member, mem_ownersInOrder] at among
      exact ⟨lt_size_of_owns among.1, among.1⟩
    · rintro ⟨-, owns⟩
      have among : ref ∈ registry.ownersOf tracker (registry.record ref).handle := by
        rw [books.listed, mem_ownersInOrder]
        exact ⟨owns, rfl⟩
      exact ⟨_, Owners.mem_of_mem_of among, among⟩
  · rw [Owners.all, List.nodup_flatMap]
    constructor
    · rintro ⟨handle, refs⟩ member
      rw [entry member]
      exact registry.nodup_ownersInOrder handle
    · refine (List.pairwise_map.mp books.keys).imp_of_mem ?_
      rintro ⟨handle, refs⟩ ⟨handle', refs'⟩ member member' distinct ref among among'
      rw [entry member, mem_ownersInOrder] at among
      rw [entry member', mem_ownersInOrder] at among'
      exact distinct (among.2.symm.trans among'.2)
  · exact List.nodup_range.filter _

/-- As many records are registered as own a reference. -/
theorem registered_eq
    (books : registry.Exact tracker) :
    (registry.tracker tracker).registered =
      registry.records.countP fun record => record.state.owns := by
  rw [Tracker.registered, books.all_perm.length_eq, ← Array.countP_toList,
    registry.toList_records, List.countP_map, List.countP_eq_length_filter]
  rfl

/-- How many records are registered depends on their states alone. -/
theorem registered_congr
    {tracker' : TrackerRef}
    (books : registry.Exact tracker)
    (books' : registry'.Exact tracker')
    (size : registry'.records.size = registry.records.size)
    (states : ∀ ref, (registry'.record ref).state = (registry.record ref).state) :
    (registry'.tracker tracker').registered = (registry.tracker tracker).registered := by
  rw [Tracker.registered, Tracker.registered, books.all_perm.length_eq, books'.all_perm.length_eq,
    size]
  simp only [states]

/--
If some records own a reference besides those that do elsewhere, that many more are
registered.
-/
theorem registered_eq_add
    {tracker' : TrackerRef}
    {refs : List RecordRef}
    (books : registry.Exact tracker)
    (books' : registry'.Exact tracker')
    (distinct : refs.Nodup)
    (owns :
      ∀ ref,
        (registry.record ref).state.owns = true ↔
          (registry'.record ref).state.owns = true ∨ ref ∈ refs)
    (apart : ∀ ref ∈ refs, (registry'.record ref).state.owns = false) :
    (registry.tracker tracker).registered =
      (registry'.tracker tracker').registered + refs.length := by
  have perm :
      ((List.range registry.records.size).filter fun ref => (registry.record ref).state.owns).Perm
        (((List.range registry'.records.size).filter fun ref =>
          (registry'.record ref).state.owns) ++ refs) := by
    rw [List.perm_ext_iff_of_nodup (List.nodup_range.filter _)]
    · intro ref
      simp only [List.mem_append, List.mem_filter, List.mem_range, owns]
      constructor
      · rintro ⟨-, owned | listed⟩
        · exact .inl ⟨lt_size_of_owns owned, owned⟩
        · exact .inr listed
      · intro either
        have owned := (owns ref).mpr (either.imp_left And.right)
        exact ⟨lt_size_of_owns owned, either.imp_left And.right⟩
    · refine List.nodup_append.mpr ⟨List.nodup_range.filter _, distinct, ?_⟩
      rintro ref among _ listed rfl
      have owned := (List.mem_filter.mp among).2
      rw [apart ref listed] at owned
      cases owned
  rw [Tracker.registered, Tracker.registered, books.all_perm.length_eq, books'.all_perm.length_eq,
    perm.length_eq, List.length_append]

end Exact

end Registry

end Custody
