import Custody.Proofs.Tracking.Progress
import Mathlib.Algebra.BigOperators.Group.Finset.Piecewise
import Mathlib.Algebra.Order.BigOperators.Group.Finset
import Mathlib.Algebra.Order.Group.Multiset
import Mathlib.Tactic.Abel

/-!
# What records hold

A record that is live or deferred owns one reference to its object.  A tracker
lists such records by object.  A tracker is accurate if it lists each of them
once at most, and none that owns no reference or one to another object.

Deferring changes neither what is held nor what is listed.  A record that leaves
is struck from the list of its object, and its reference goes elsewhere.
-/

namespace Custody

namespace Owners

variable {owners : Owners} {handle handle' : Handle} {refs : List RecordRef}

/-- An object that has owners is listed with them. -/
theorem mem_of_mem_of
    {ref : RecordRef}
    (member : ref ∈ owners.of handle) :
    (handle, owners.of handle) ∈ owners := by
  rw [of] at member ⊢
  cases found : owners.lookup handle with
  | none => simp [found] at member
  | some refs =>
      rcases List.lookup_eq_some_iff.mp found with ⟨before, after, split, -⟩
      simp [split]

theorem keys_add
    (owners : Owners)
    (handle : Handle)
    (record : RecordRef) :
    (owners.add handle record).map Prod.fst =
      if handle ∈ owners.map Prod.fst then
        owners.map Prod.fst
      else
        owners.map Prod.fst ++ [handle] := by
  induction owners with
  | nil => simp [add]
  | cons entry rest step =>
      rcases entry with ⟨key, records⟩
      by_cases same : key = handle
      · simp [add, same]
      · have distinct : handle ≠ key := fun equal => same equal.symm
        simp only [add, if_neg same, List.map_cons, step, List.mem_cons, distinct, false_or]
        split <;> simp

theorem nodup_keys_add
    (nodup : (owners.map Prod.fst).Nodup)
    (handle : Handle)
    (record : RecordRef) :
    ((owners.add handle record).map Prod.fst).Nodup := by
  rw [keys_add]
  split
  · exact nodup
  · next missing =>
      refine List.nodup_append.mpr ⟨nodup, List.nodup_singleton _, ?_⟩
      rintro key listed other isNew rfl
      rw [List.mem_singleton.mp isNew] at listed
      exact missing listed

/-- An entry is the one that was extended, or it was there before. -/
theorem mem_add
    {record : RecordRef}
    (member : (handle, refs) ∈ owners.add handle' record) :
    (handle, refs) ∈ owners ∨
      handle = handle' ∧
        ∃ before, refs = before ++ [record] ∧ (before = [] ∨ (handle, before) ∈ owners) := by
  induction owners with
  | nil =>
      simp only [add, List.mem_singleton, Prod.mk.injEq] at member
      exact .inr ⟨member.1, [], by simp [member.2]⟩
  | cons entry rest step =>
      rcases entry with ⟨key, records⟩
      by_cases same : key = handle'
      · simp only [add, if_pos same, List.mem_cons, Prod.mk.injEq] at member
        rcases member with ⟨rfl, rfl⟩ | later
        · exact .inr ⟨same, records, rfl, .inr (by simp)⟩
        · exact .inl (List.mem_cons_of_mem _ later)
      · simp only [add, if_neg same, List.mem_cons] at member
        rcases member with first | later
        · exact .inl (by simp [first])
        · rcases step later with old | ⟨isHandle, before, extended, origin⟩
          · exact .inl (List.mem_cons_of_mem _ old)
          · exact .inr ⟨isHandle, before, extended, origin.imp_right (List.mem_cons_of_mem _)⟩

theorem keys_restrict_sublist
    (owners : Owners)
    (handle : Handle)
    (keep : RecordRef → Bool) :
    ((owners.restrict handle keep).map Prod.fst).Sublist (owners.map Prod.fst) := by
  induction owners with
  | nil => exact .refl _
  | cons entry rest step =>
      rcases entry with ⟨key, records⟩
      by_cases same : key = handle
      · cases kept : records.filter keep with
        | nil => simp [restrict, same, kept]
        | cons _ _ => simp [restrict, same, kept]
      · simpa [restrict, same] using step

/-- An entry is that of another object, or it keeps some of the owners of this one. -/
theorem mem_restrict
    {keep : RecordRef → Bool}
    {other : Handle}
    (keys : (owners.map Prod.fst).Nodup)
    (member : (other, refs) ∈ owners.restrict handle keep) :
    other ≠ handle ∧ (other, refs) ∈ owners ∨
      other = handle ∧ ∃ before, (other, before) ∈ owners ∧ refs = before.filter keep := by
  induction owners with
  | nil => simp [restrict] at member
  | cons entry rest step =>
      rcases entry with ⟨key, records⟩
      rw [List.map_cons, List.nodup_cons] at keys
      have elsewhere (later : (other, refs) ∈ rest) : other ≠ key := by
        rintro rfl
        exact keys.1 (List.mem_map.mpr ⟨_, later, rfl⟩)
      by_cases same : key = handle
      · subst same
        cases kept : records.filter keep with
        | nil =>
            simp only [restrict, if_true, kept] at member
            exact .inl ⟨elsewhere member, List.mem_cons_of_mem _ member⟩
        | cons first others =>
            simp only [restrict, if_true, kept, List.mem_cons, Prod.mk.injEq] at member
            rcases member with ⟨rfl, rfl⟩ | later
            · exact .inr ⟨rfl, records, by simp, kept.symm⟩
            · exact .inl ⟨elsewhere later, List.mem_cons_of_mem _ later⟩
      · simp only [restrict, if_neg same, List.mem_cons, Prod.mk.injEq] at member
        rcases member with ⟨rfl, rfl⟩ | later
        · exact .inl ⟨same, by simp⟩
        · rcases step keys.2 later with ⟨distinct, old⟩ | ⟨isHandle, before, old, kept⟩
          · exact .inl ⟨distinct, List.mem_cons_of_mem _ old⟩
          · exact .inr ⟨isHandle, before, List.mem_cons_of_mem _ old, kept⟩

end Owners

/-- The reference of a record, as long as the record owns it. -/
def Record.references (record : Record) : Multiset Handle :=
  if record.state.owns then {record.handle} else 0

theorem Record.references_of_owns
    {record : Record}
    (owned : record.state.owns = true) :
    record.references = {record.handle} :=
  if_pos owned

theorem Record.owns_of_references
    {record : Record}
    {handle : Handle}
    (references : record.references = {handle}) :
    record.state.owns = true ∧ record.handle = handle := by
  rw [Record.references] at references
  split at references
  · next owned => exact ⟨owned, Multiset.singleton_inj.mp references⟩
  · exact absurd references.symm (Multiset.singleton_ne_zero handle)

namespace Registry

variable {registry registry' : Registry} {ref : RecordRef} {tracker : TrackerRef}

/-! ## References -/

/-- The references of records: one for each that is live or deferred. -/
def held (registry : Registry) : Multiset Handle :=
  ∑ ref ∈ Finset.range registry.records.size, (registry.record ref).references

theorem held_congr
    (size : registry'.records.size = registry.records.size)
    (same : ∀ ref, (registry'.record ref).references = (registry.record ref).references) :
    registry'.held = registry.held := by
  rw [held]
  rw [size]
  exact Finset.sum_congr rfl fun ref _ => same ref

theorem held_alter
    (change : Record → Record)
    (bound : ref < registry.records.size) :
    (registry.alter ref change).held + (registry.record ref).references =
      registry.held + (change (registry.record ref)).references := by
  have listed : ref ∈ Finset.range registry.records.size := Finset.mem_range.mpr bound
  have others :
      ∑ other ∈ (Finset.range registry.records.size).erase ref,
          ((registry.alter ref change).record other).references =
        ∑ other ∈ (Finset.range registry.records.size).erase ref,
          (registry.record other).references := by
    apply Finset.sum_congr rfl
    intro other member
    rw [record_alter, if_neg fun same => Finset.ne_of_mem_erase member same.1]
  unfold held
  rw [size_alter, ← Finset.add_sum_erase _ _ listed, ← Finset.add_sum_erase _ _ listed, others,
    record_alter, if_pos ⟨rfl, bound⟩]
  abel

/-- Only registered records own a reference. -/
theorem lt_size_of_owns
    (owned : (registry.record ref).state.owns = true) :
    ref < registry.records.size := by
  apply lt_size_of_state
  intro detached
  rw [detached] at owned
  cases owned

/-- A record that owned its reference no longer does. -/
theorem held_alter_of_owns
    (change : Record → Record)
    (owned : (registry.record ref).state.owns = true)
    (settled : (change (registry.record ref)).state.owns = false) :
    (registry.record ref).handle ::ₘ (registry.alter ref change).held = registry.held := by
  have bound := lt_size_of_owns owned
  have total := registry.held_alter change bound
  rw [Record.references_of_owns owned, Record.references, if_neg (by simp [settled]),
    add_zero] at total
  rw [← total, add_comm, Multiset.singleton_add]

/-- The records that own a reference to an object. -/
def owning (registry : Registry) (handle : Handle) : Finset RecordRef :=
  (Finset.range registry.records.size).filter fun ref =>
    (registry.record ref).state.owns = true ∧ (registry.record ref).handle = handle

theorem mem_owning
    {handle : Handle} :
    ref ∈ registry.owning handle ↔ (registry.record ref).references = {handle} := by
  rw [owning, Finset.mem_filter]
  constructor
  · rintro ⟨-, owned, isHandle⟩
    rw [Record.references_of_owns owned, isHandle]
  · intro references
    rcases Record.owns_of_references references with ⟨owned, isHandle⟩
    exact ⟨Finset.mem_range.mpr (lt_size_of_owns owned), owned, isHandle⟩

/-- Every record that owns a reference to an object counts. -/
theorem count_held
    (registry : Registry)
    (handle : Handle) :
    registry.held.count handle = (registry.owning handle).card := by
  have each (record : Record) :
      record.references.count handle =
        if record.state.owns = true ∧ record.handle = handle then 1 else 0 := by
    rw [Record.references]
    by_cases owned : record.state.owns = true
    · simp [owned, Multiset.count_singleton, eq_comm]
    · simp [owned]
  rw [held, Multiset.count_sum', owning, Finset.card_filter]
  exact Finset.sum_congr rfl fun ref _ => each _

theorem mem_held
    {handle : Handle} :
    handle ∈ registry.held ↔ ∃ ref, ref ∈ registry.owning handle := by
  rw [← Multiset.count_pos, count_held, Finset.card_pos]
  rfl

theorem mem_held_of_owns
    (owned : (registry.record ref).state.owns = true) :
    (registry.record ref).handle ∈ registry.held :=
  mem_held.mpr ⟨ref, mem_owning.mpr (Record.references_of_owns owned)⟩

theorem held_addRecord
    (registry : Registry)
    (tracker : TrackerRef)
    (handle : Handle)
    (typeName : String) :
    (registry.addRecord tracker handle typeName).2.held = handle ::ₘ registry.held := by
  have size :
      (registry.addRecord tracker handle typeName).2.records.size = registry.records.size + 1 := by
    simp [addRecord, updateTracker]
  have added :
      ((registry.addRecord tracker handle typeName).2.record registry.records.size).references =
        {handle} := by
    rw [record_eq]
    simp [addRecord, updateTracker, Record.references, RecordState.owns]
  have others :
      ∑ ref ∈ Finset.range registry.records.size,
          ((registry.addRecord tracker handle typeName).2.record ref).references =
        registry.held := by
    apply Finset.sum_congr rfl
    intro ref member
    rw [record_addRecord_of_lt (Finset.mem_range.mp member)]
  rw [held, size, Finset.sum_range_succ, others, added, add_comm, Multiset.singleton_add]

/-- A deferred record owns what it owned when it was live. -/
theorem Defers.references
    {kind : Event → Prop}
    (defers : registry.Defers kind registry')
    (ref : RecordRef) :
    (registry'.record ref).references = (registry.record ref).references := by
  rcases defers.record ref with same | ⟨live, deferred⟩
  · rw [same]
  · simp [deferred, live, Record.references, RecordState.owns]

theorem Defers.held
    {kind : Event → Prop}
    (defers : registry.Defers kind registry') :
    registry'.held = registry.held :=
  held_congr defers.size defers.references

/-! ## Lists of owners -/

/-- A tracker that others still hold loses one holder. -/
theorem holders_leave
    (held : 1 < (registry.tracker tracker).holders) :
    ((registry.leave tracker).tracker tracker).holders + 1 =
      (registry.tracker tracker).holders := by
  have bound : tracker < registry.trackers.size := by
    by_contra outside
    have missing : registry.trackers[tracker]? = none := by simpa using outside
    simp [Registry.tracker, missing, Tracker.new] at held
  rw [leave, tracker_updateTracker, if_pos ⟨rfl, bound⟩]
  simp only
  omega

/-- Nothing else happens when a tracker that others still hold is let go. -/
theorem letGo_of_held
    (held : 1 < (registry.tracker tracker).holders) :
    registry.letGo tracker = registry.leave tracker := by
  have left := holders_leave held
  rw [letGo]
  cases registry.trackers.size with
  | zero => rfl
  | succ depth =>
      simp only [letGoWithin]
      rw [if_neg]
      omega

/-- Striking a record closes no tracker. -/
@[simp]
theorem isOpen_unregister
    (registry : Registry)
    (tracker other : TrackerRef)
    (ref : RecordRef) :
    ((registry.unregister tracker ref).tracker other).isOpen =
      (registry.tracker other).isOpen :=
  registry.read_updateTracker Tracker.isOpen tracker other fun _ => rfl

theorem isOpen_addRecord
    (registry : Registry)
    (tracker other : TrackerRef)
    (handle : Handle)
    (typeName : String) :
    (((registry.addRecord tracker handle typeName).2).tracker other).isOpen =
      (registry.tracker other).isOpen :=
  read_updateTracker Tracker.isOpen _ tracker other fun _ => rfl

theorem isOpen_completeRelease
    (registry : Registry)
    (tracker other : TrackerRef)
    (ref : RecordRef) :
    ((registry.completeRelease tracker ref).tracker other).isOpen =
      (registry.tracker other).isOpen :=
  isOpen_unregister _ _ _ _

theorem isOpen_quarantine
    (registry : Registry)
    (tracker other : TrackerRef)
    (ref : RecordRef) :
    ((registry.quarantine tracker ref).tracker other).isOpen =
      (registry.tracker other).isOpen := by
  rw [quarantine]
  split
  · exact isOpen_unregister _ _ _ _
  · exact isOpen_unregister _ _ _ _

/-- A tracker lists a new record with its object; one that does not exist lists nothing. -/
theorem owners_addRecord
    (registry : Registry)
    (tracker : TrackerRef)
    (handle : Handle)
    (typeName : String) :
    ((registry.addRecord tracker handle typeName).2.tracker tracker).owners =
        (registry.tracker tracker).owners.add handle registry.records.size ∨
      ((registry.addRecord tracker handle typeName).2.tracker tracker).owners =
        (registry.tracker tracker).owners := by
  rw [addRecord]
  simp only [tracker_updateTracker]
  split
  · exact .inl rfl
  · exact .inr rfl

/--
A tracker lists each object once, each owner of it once, and no record that does
not own a reference to it.
-/
structure Accurate (registry : Registry) (tracker : TrackerRef) : Prop where
  keys : ((registry.tracker tracker).owners.map Prod.fst).Nodup
  nodup : ∀ handle refs, (handle, refs) ∈ (registry.tracker tracker).owners → refs.Nodup
  owning :
    ∀ handle refs,
      (handle, refs) ∈ (registry.tracker tracker).owners →
        ∀ ref ∈ refs, (registry.record ref).references = {handle}

namespace Accurate

theorem of_empty
    (empty : (registry.tracker tracker).owners = []) :
    registry.Accurate tracker where
  keys := by simp [empty]
  nodup := by simp [empty]
  owning := by simp [empty]

/-- The same lists are accurate for the same references. -/
theorem congr
    (accurate : registry.Accurate tracker)
    (owners : (registry'.tracker tracker).owners = (registry.tracker tracker).owners)
    (same : ∀ ref, (registry'.record ref).references = (registry.record ref).references) :
    registry'.Accurate tracker where
  keys := by
    rw [owners]
    exact accurate.keys
  nodup := by
    rw [owners]
    exact accurate.nodup
  owning := by
    rw [owners]
    intro handle refs listed ref member
    rw [same]
    exact accurate.owning handle refs listed ref member

theorem of_defers
    (accurate : registry.Accurate tracker)
    {kind : Event → Prop}
    (defers : registry.Defers kind registry') :
    registry'.Accurate tracker :=
  accurate.congr (congrArg Prod.fst (defers.books tracker)) defers.references

/-- A record that is struck may change, but for its object. -/
theorem unregister
    (accurate : registry.Accurate tracker)
    (trackers : registry'.trackers = registry.trackers)
    (handle : (registry'.record ref).handle = (registry.record ref).handle)
    (others : ∀ other ≠ ref, registry'.record other = registry.record other) :
    (registry'.unregister tracker ref).Accurate tracker := by
  have before : registry'.tracker tracker = registry.tracker tracker := by
    rw [Registry.tracker, Registry.tracker, trackers]
  have after :
      ((registry'.unregister tracker ref).tracker tracker).owners =
          (registry.tracker tracker).owners.restrict (registry'.record ref).handle
            (fun other => decide ((registry'.record other).id ≠ (registry'.record ref).id)) ∨
        ((registry'.unregister tracker ref).tracker tracker).owners = [] := by
    rw [Registry.unregister]
    rw [tracker_updateTracker]
    split
    · rw [before]
      exact .inl rfl
    · next outside =>
        right
        have missing : registry'.trackers[tracker]? = none := by
          simpa using outside
        simp [Registry.tracker, missing, Tracker.new]
  rcases after with restricted | emptied
  · refine ⟨?_, ?_, ?_⟩
    · rw [restricted]
      exact accurate.keys.sublist (Owners.keys_restrict_sublist _ _ _)
    · intro other refs listed
      rw [restricted] at listed
      rcases Owners.mem_restrict accurate.keys listed with ⟨-, old⟩ | ⟨-, refs', old, rfl⟩
      · exact accurate.nodup other refs old
      · exact (accurate.nodup other refs' old).filter _
    · intro other refs listed owner member
      rw [restricted] at listed
      show (registry'.record owner).references = {other}
      rcases Owners.mem_restrict accurate.keys listed with
        ⟨distinct, old⟩ | ⟨-, refs', old, rfl⟩
      · have owning := accurate.owning other refs old owner member
        rw [others owner, owning]
        rintro rfl
        exact distinct ((Record.owns_of_references owning).2.symm.trans handle.symm)
      · rcases List.mem_filter.mp member with ⟨member', kept⟩
        rw [others owner, accurate.owning other refs' old owner member']
        rintro rfl
        simp at kept
  · exact of_empty emptied

theorem strike
    (accurate : registry.Accurate tracker)
    {change : Record → Record}
    (handle : ∀ record, (change record).handle = record.handle) :
    ((registry.alter ref change).unregister tracker ref).Accurate tracker := by
  refine accurate.unregister rfl ?_ ?_
  · exact registry.read_alter Record.handle ref ref handle
  · intro other distinct
    rw [record_alter, if_neg fun same => distinct same.1]

theorem completeRelease
    (accurate : registry.Accurate tracker)
    (ref : RecordRef) :
    (registry.completeRelease tracker ref).Accurate tracker :=
  accurate.strike fun _ => rfl

theorem quarantine
    (accurate : registry.Accurate tracker)
    (ref : RecordRef) :
    (registry.quarantine tracker ref).Accurate tracker := by
  rw [Registry.quarantine]
  split
  · exact accurate.strike fun _ => rfl
  · exact accurate.unregister rfl rfl fun _ _ => rfl

/-- A new record is listed for its object. -/
theorem addRecord
    (accurate : registry.Accurate tracker)
    (handle : Handle)
    (typeName : String) :
    (registry.addRecord tracker handle typeName).2.Accurate tracker := by
  have old (other : Handle) (refs : List RecordRef)
      (listed : (other, refs) ∈ (registry.tracker tracker).owners) (ref : RecordRef)
      (member : ref ∈ refs) :
      ref < registry.records.size ∧
        ((registry.addRecord tracker handle typeName).2.record ref).references = {other} := by
    have owning := accurate.owning other refs listed ref member
    have bound := lt_size_of_owns (Record.owns_of_references owning).1
    rw [record_addRecord_of_lt bound]
    exact ⟨bound, owning⟩
  have new :
      ((registry.addRecord tracker handle typeName).2.record registry.records.size).references =
        {handle} := by
    rw [record_eq]
    simp [Registry.addRecord, updateTracker, Record.references, RecordState.owns]
  rcases registry.owners_addRecord tracker handle typeName with added | same
  · refine ⟨?_, ?_, ?_⟩
    · rw [added]
      exact Owners.nodup_keys_add accurate.keys handle _
    · intro other refs listed
      rw [added] at listed
      rcases Owners.mem_add listed with before | ⟨-, before, rfl, origin⟩
      · exact accurate.nodup other refs before
      · rcases origin with rfl | before'
        · simp
        · refine List.nodup_append.mpr ⟨accurate.nodup other before before', by simp, ?_⟩
          intro ref member position isNew
          rw [List.mem_singleton.mp isNew]
          exact Nat.ne_of_lt (old other before before' ref member).1
    · intro other refs listed ref member
      rw [added] at listed
      rcases Owners.mem_add listed with before | ⟨rfl, before, rfl, origin⟩
      · exact (old other refs before ref member).2
      · rcases List.mem_append.mp member with early | isNew
        · rcases origin with rfl | before'
          · simp at early
          · exact (old other before before' ref early).2
        · rw [List.mem_singleton.mp isNew]
          exact new
  · refine ⟨?_, ?_, ?_⟩
    · rw [same]
      exact accurate.keys
    · rw [same]
      exact accurate.nodup
    · rw [same]
      exact fun other refs listed ref member => (old other refs listed ref member).2

/-! ### Counting owners -/

/-- So many records own a reference to an object that there are as many references. -/
theorem length_le_count_held
    {refs : List RecordRef}
    {handle : Handle}
    (nodup : refs.Nodup)
    (owners : ∀ ref ∈ refs, (registry.record ref).references = {handle}) :
    refs.length ≤ registry.held.count handle := by
  rw [count_held, ← List.toFinset_card_of_nodup nodup]
  apply Finset.card_le_card
  intro ref member
  exact mem_owning.mpr (owners ref (List.mem_toFinset.mp member))

/-- A record that owns its reference, and the other owners listed for its object. -/
theorem others_lt_count_held
    (accurate : registry.Accurate tracker)
    (owned : (registry.record ref).state.owns = true) :
    (registry.ownersOf tracker (registry.record ref).handle).countP
        (fun other => decide ((registry.record other).id ≠ (registry.record ref).id)) <
      registry.held.count (registry.record ref).handle := by
  let others := (registry.ownersOf tracker (registry.record ref).handle).filter fun other =>
    decide ((registry.record other).id ≠ (registry.record ref).id)
  have listed (other : RecordRef) (member : other ∈ others) :
      other ≠ ref ∧ (registry.record other).references = {(registry.record ref).handle} := by
    rcases List.mem_filter.mp member with ⟨among, distinct⟩
    refine ⟨?_, accurate.owning _ _ (Owners.mem_of_mem_of among) other among⟩
    rintro rfl
    simp at distinct
  have nodup : others.Nodup := by
    apply List.Nodup.filter
    cases empty : registry.ownersOf tracker (registry.record ref).handle with
    | nil => exact List.nodup_nil
    | cons first rest =>
        have among : first ∈ registry.ownersOf tracker (registry.record ref).handle := by
          simp [empty]
        rw [← empty]
        exact accurate.nodup _ _ (Owners.mem_of_mem_of among)
  have bounded : (ref :: others).length ≤ registry.held.count (registry.record ref).handle := by
    apply length_le_count_held
    · exact List.nodup_cons.mpr ⟨fun member => (listed ref member).1 rfl, nodup⟩
    · intro other member
      rcases List.mem_cons.mp member with rfl | later
      · exact Record.references_of_owns owned
      · exact (listed other later).2
  rw [List.countP_eq_length_filter]
  exact bounded

end Accurate

end Registry

end Custody
