import Custody.Proofs.Heap.Operations
import Mathlib.Data.List.Permutation

/-!
# The representation of a heap

A heap is coherent if its vacant list names each empty slot once and its totals
agree with its slots.  Every primitive change keeps it coherent, whoever asks
for the change: nothing is assumed of the references that are given back.

Without such an assumption a count may go below zero while a cascade runs.  What
carries the cascade is that the objects it still has to take up are those whose
count is not positive, each listed once.  An object is listed when its count
gets to zero and not when it falls further, so that none is listed twice, and
none that is still there when the cascade is over has lost all its references.
-/

namespace Custody.Heap

/-- The vacant list and the totals agree with the slots. -/
structure Coherent (heap : Heap) : Prop extends Tidy heap where
  vacant_of_empty :
    ∀ {index : UInt32} {slot},
      heap.slots[index.toNat]? = some slot → slot.entry = none → index ∈ heap.vacant
  live_eq : heap.stats.live = heap.occupied
  allocations_eq : heap.stats.allocations = heap.stats.live + heap.stats.frees

/-- The objects in `work` are those that have no reference left, each listed once. -/
structure Due (heap : Heap) (work : List Handle) : Prop where
  mem_iff :
    ∀ handle,
      handle ∈ work ↔ ∃ entry, heap.find? handle = some entry ∧ entry.refcount ≤ 0
  nodup : work.Nodup

/-- A coherent heap in which every object has a reference. -/
structure WellFormed (heap : Heap) : Prop extends Coherent heap where
  due : heap.Due []

variable {heap heap' : Heap} {handle : Handle} {entry : Entry} {work rest : List Handle}

/-! ## Coherence -/

namespace Coherent

theorem empty : empty.Coherent where
  toTidy := tidy_empty
  vacant_of_empty := by simp [Heap.empty]
  live_eq := rfl
  allocations_eq := rfl

theorem mem_vacant_iff
    (coherent : heap.Coherent)
    (index : UInt32) :
    index ∈ heap.vacant ↔
      ∃ slot, heap.slots[index.toNat]? = some slot ∧ slot.entry = none := by
  constructor
  · exact coherent.vacant_empty index
  · rintro ⟨slot, at_index, isEmpty⟩
    exact coherent.vacant_of_empty at_index isEmpty

theorem live_pos
    (coherent : heap.Coherent)
    (found : heap.find? handle = some entry) :
    0 < heap.stats.live := by
  rw [coherent.live_eq, ← occupied_vacate found]
  exact Nat.succ_pos _

theorem write
    (coherent : heap.Coherent)
    (entry' : Entry)
    (found : heap.find? handle = some entry) :
    (heap.write handle entry').Coherent where
  toTidy := coherent.toTidy.write entry' found
  vacant_of_empty := by
    intro index slot at_index isEmpty
    by_cases same : handle.index.toNat = index.toNat
    · rcases find?_eq_some found with ⟨slot', at_index', -, -⟩
      simp only [Heap.write, Array.getElem?_modify, same, if_true] at at_index
      rw [same] at at_index'
      simp only [at_index', Option.map_some, Option.some.injEq] at at_index
      subst at_index
      cases isEmpty
    · simp only [Heap.write, Array.getElem?_modify, same, if_false] at at_index
      exact coherent.vacant_of_empty at_index isEmpty
  live_eq := by
    rw [occupied_write entry' found]
    exact coherent.live_eq
  allocations_eq := coherent.allocations_eq

theorem vacate
    (coherent : heap.Coherent)
    (found : heap.find? handle = some entry) :
    (heap.vacate handle).Coherent where
  toTidy := coherent.toTidy.vacate found
  vacant_of_empty := by
    intro index slot at_index isEmpty
    by_cases same : handle.index.toNat = index.toNat
    · rw [← UInt32.toNat_inj.mp same]
      exact List.mem_cons_self
    · simp only [Heap.vacate, Array.getElem?_modify, same, if_false] at at_index
      exact List.mem_cons_of_mem _ (coherent.vacant_of_empty at_index isEmpty)
  live_eq := by
    have occupied := occupied_vacate found
    have live := coherent.live_eq
    simp only [Heap.vacate] at occupied ⊢
    omega
  allocations_eq := by
    have positive := coherent.live_pos found
    have allocations := coherent.allocations_eq
    simp only [Heap.vacate]
    omega

theorem releaseChild
    (coherent : heap.Coherent)
    (work : List Handle)
    (child : Handle) :
    (Heap.releaseChild (heap, work) child).1.Coherent := by
  cases found : heap.find? child with
  | none =>
      rw [releaseChild_of_missing found]
      exact coherent
  | some entry =>
      rw [releaseChild_of_found found]
      exact coherent.write _ found

theorem releaseChildren
    (coherent : heap.Coherent)
    (work children : List Handle) :
    (heap.releaseChildren work children).1.Coherent := by
  induction children generalizing heap work with
  | nil => exact coherent
  | cons child rest step => exact step (releaseChild coherent work child) _

theorem cascade
    (coherent : heap.Coherent)
    (work : List Handle) :
    (heap.cascade work).Coherent := by
  induction heap, work using Heap.cascade.induct with
  | case1 heap =>
      rw [cascade_nil]
      exact coherent
  | case2 heap handle rest missing step =>
      rw [cascade_of_missing missing]
      exact step coherent
  | case3 heap handle rest entry found next step =>
      rw [cascade_of_found found]
      exact step ((coherent.vacate found).releaseChildren _ _)

end Coherent

/-! ## Allocating -/

theorem occupied_allocate
    {payload : Payload}
    (tidy : heap.Tidy)
    (addressable : (heap.allocate payload).2.Addressable) :
    (heap.allocate payload).2.occupied = heap.occupied + 1 := by
  rcases allocate_cases tidy addressable with ⟨slot, at_index, isEmpty, -, slots⟩ | ⟨-, -, slots⟩
  · have counted :=
      countP_modify_isOccupied (fun _ => ⟨slot.generation + 1, some ⟨1, payload⟩⟩) at_index
    simpa [occupied, slots, Slot.isOccupied, isEmpty] using counted
  · rw [occupied, slots, Array.countP_push]
    rfl

theorem Coherent.allocate
    {payload : Payload}
    (coherent : heap.Coherent)
    (addressable : (heap.allocate payload).2.Addressable) :
    (heap.allocate payload).2.Coherent := by
  have occupied := occupied_allocate coherent.toTidy addressable
  have live := coherent.live_eq
  have allocations := coherent.allocations_eq
  cases listed : heap.vacant with
  | nil =>
      refine ⟨coherent.toTidy.allocate payload, ?_, ?_, ?_⟩
      · intro index slot at_index isEmpty
        have added : (heap.slots.push ⟨0, some ⟨1, payload⟩⟩)[index.toNat]? = some slot := by
          simpa [Heap.allocate, listed] using at_index
        rw [Array.getElem?_push] at added
        split at added
        · cases added
          cases isEmpty
        · have old := coherent.vacant_of_empty added isEmpty
          rw [listed] at old
          cases old
      · rw [occupied, ← live]
        simp [Heap.allocate, listed]
      · simp only [Heap.allocate, listed]
        omega
  | cons first vacant =>
      refine ⟨coherent.toTidy.allocate payload, ?_, ?_, ?_⟩
      · intro index slot at_index isEmpty
        simp only [Heap.allocate, listed, Array.getElem?_modify] at at_index ⊢
        split at at_index
        · rcases Option.map_eq_some_iff.mp at_index with ⟨-, -, rfl⟩
          cases isEmpty
        · next distinct =>
            have old := coherent.vacant_of_empty at_index isEmpty
            rw [listed] at old
            rcases List.mem_cons.mp old with rfl | remains
            · exact absurd rfl distinct
            · exact remains
      · rw [occupied, ← live]
        simp [Heap.allocate, listed]
      · simp only [Heap.allocate, listed]
        omega

/-! ## Objects that have no reference left -/

theorem due_nil_iff :
    heap.Due [] ↔ ∀ handle entry, heap.find? handle = some entry → 0 < entry.refcount := by
  constructor
  · intro due handle entry found
    by_contra spent
    exact List.not_mem_nil ((due.mem_iff handle).mpr ⟨entry, found, not_lt.mp spent⟩)
  · intro positive
    constructor
    · intro handle
      constructor
      · intro member
        cases member
      · rintro ⟨entry, found, spent⟩
        exact absurd (positive handle entry found) (not_lt.mpr spent)
    · exact List.nodup_nil

namespace Due

theorem releaseChild
    (due : heap.Due work)
    (child : Handle) :
    (Heap.releaseChild (heap, work) child).1.Due (Heap.releaseChild (heap, work) child).2 := by
  cases found : heap.find? child with
  | none =>
      rw [releaseChild_of_missing found]
      exact due
  | some entry =>
      have listed := due.mem_iff child
      simp only [found, Option.some.injEq, exists_eq_left'] at listed
      rw [releaseChild_of_found found]
      constructor
      · intro other
        by_cases same : other = child
        · subst same
          rw [find?_write_self _ found]
          -- The count gets to zero once; below zero the object is listed already.
          by_cases last : entry.refcount - 1 = 0
          · simp [last]
          · simp only [last, if_false, listed, Option.some.injEq, exists_eq_left']
            omega
        · rw [find?_write_of_ne _ found same, ← due.mem_iff other]
          split
          · simp [same]
          · exact Iff.rfl
      · split
        · next last =>
            have unlisted : child ∉ work := by
              rw [listed]
              omega
            exact List.nodup_cons.mpr ⟨unlisted, due.nodup⟩
        · exact due.nodup

theorem releaseChildren
    (due : heap.Due work)
    (children : List Handle) :
    (heap.releaseChildren work children).1.Due (heap.releaseChildren work children).2 := by
  induction children generalizing heap work with
  | nil => exact due
  | cons child rest step => exact step (releaseChild due child)

theorem vacate
    (due : heap.Due (handle :: rest))
    (found : heap.find? handle = some entry) :
    (heap.vacate handle).Due rest := by
  rcases List.nodup_cons.mp due.nodup with ⟨unlisted, nodup⟩
  constructor
  · intro other
    by_cases same : other = handle
    · subst same
      simp [unlisted]
    · rw [find?_vacate_of_ne found same, ← due.mem_iff]
      simp [same]
  · exact nodup

theorem exists_find?
    (due : heap.Due (handle :: rest)) :
    ∃ entry, heap.find? handle = some entry ∧ entry.refcount ≤ 0 :=
  (due.mem_iff handle).mp List.mem_cons_self

/-- A cascade leaves nothing behind that has no reference. -/
theorem cascade (due : heap.Due work) :
    (heap.cascade work).Due [] := by
  induction heap, work using Heap.cascade.induct with
  | case1 heap =>
      rw [cascade_nil]
      exact due
  | case2 heap handle rest missing step =>
      rcases due.exists_find? with ⟨entry, found, -⟩
      rw [missing] at found
      cases found
  | case3 heap handle rest entry found next step =>
      rw [cascade_of_found found]
      exact step ((due.vacate found).releaseChildren _)

end Due

/-! ## Runs -/

namespace WellFormed

theorem empty : Heap.empty.WellFormed where
  toCoherent := .empty
  due := by
    rw [due_nil_iff]
    simp [find?, Heap.empty]

theorem refcount_pos
    (wellFormed : heap.WellFormed)
    (found : heap.find? handle = some entry) :
    0 < entry.refcount :=
  due_nil_iff.mp wellFormed.due handle entry found

/-- An object may be written to as long as it keeps a reference. -/
theorem write
    {entry' : Entry}
    (wellFormed : heap.WellFormed)
    (found : heap.find? handle = some entry)
    (positive : 0 < entry'.refcount) :
    (heap.write handle entry').WellFormed where
  toCoherent := wellFormed.toCoherent.write entry' found
  due := by
    rw [due_nil_iff]
    intro other entry'' found'
    by_cases same : other = handle
    · subst same
      rw [find?_write_self _ found] at found'
      cases found'
      exact positive
    · rw [find?_write_of_ne _ found same] at found'
      exact wellFormed.refcount_pos found'

theorem allocate
    {payload : Payload}
    (wellFormed : heap.WellFormed)
    (addressable : (heap.allocate payload).2.Addressable) :
    (heap.allocate payload).2.WellFormed where
  toCoherent := wellFormed.toCoherent.allocate addressable
  due := by
    rw [due_nil_iff]
    intro other entry found
    by_cases same : other = (heap.allocate payload).1
    · rw [same, find?_allocate_self wellFormed.toTidy addressable] at found
      cases found
      exact Int.one_pos
    · rw [find?_allocate_of_ne wellFormed.toTidy addressable same] at found
      exact wellFormed.refcount_pos found

/-- Every operation keeps a heap well-formed, whatever handle it is passed. -/
theorem step
    (wellFormed : heap.WellFormed)
    {fresh : Option Handle}
    (step : heap.Step fresh heap')
    (addressable : heap'.Addressable) :
    heap'.WellFormed := by
  cases step with
  | idle => exact wellFormed
  | allocate payload => exact wellFormed.allocate addressable
  | incref found =>
      have positive := wellFormed.refcount_pos found
      exact wellFormed.write found (Int.lt_add_one_of_le positive.le)
  | decref found =>
      exact ⟨(wellFormed.toCoherent.releaseChild [] _).cascade _,
        (wellFormed.due.releaseChild _).cascade⟩
  | setPayload found payload =>
      have positive := wellFormed.refcount_pos found
      exact wellFormed.write found positive

theorem after
    {operations : List Operation}
    (wellFormed : heap.WellFormed)
    (addressable : (heap.after operations).Addressable) :
    (heap.after operations).WellFormed := by
  induction operations generalizing heap with
  | nil => exact wellFormed
  | cons operation rest run =>
      rw [Heap.after] at addressable ⊢
      have next := wellFormed.step (step_perform heap operation) addressable.of_after
      exact run next addressable

/-- Whatever occupies a slot has a reference. -/
theorem refcount_pos_of_slot
    {slot : Slot}
    (wellFormed : heap.WellFormed)
    (addressable : heap.Addressable)
    (listed : slot ∈ heap.slots)
    (holds : slot.entry = some entry) :
    0 < entry.refcount := by
  rcases Array.mem_iff_getElem.mp listed with ⟨index, bound, rfl⟩
  exact wellFormed.refcount_pos ((find?_getElem addressable bound).trans holds)

end WellFormed

/--
Whatever was asked of a heap, with whatever handles: each object has a reference,
the vacant list names each empty slot once and no other, the totals are those of
the slots, and what fails changes nothing.

The total of live objects is decremented by truncated subtraction.  It never
truncates: otherwise there would be more live and freed objects than allocations.
-/
theorem represented_after
    (operations : List Operation)
    (addressable : (empty.after operations).Addressable) :
    let heap := empty.after operations
    (∀ slot ∈ heap.slots, ∀ entry, slot.entry = some entry → 1 ≤ entry.refcount) ∧
      heap.vacant.Nodup ∧
      (∀ index, index ∈ heap.vacant ↔
        ∃ slot, heap.slots[index.toNat]? = some slot ∧ slot.entry = none) ∧
      heap.stats.live = heap.occupied ∧
      heap.stats.allocations = heap.stats.live + heap.stats.frees ∧
      ∀ operation reason,
        (heap.perform operation).1 = .failed reason → (heap.perform operation).2 = heap := by
  intro heap
  have wellFormed : heap.WellFormed := WellFormed.empty.after addressable
  refine ⟨?_, wellFormed.vacant_nodup, wellFormed.mem_vacant_iff, wellFormed.live_eq,
    wellFormed.allocations_eq, ?_⟩
  · intro slot listed entry holds
    exact wellFormed.refcount_pos_of_slot addressable listed holds
  · intro operation reason failed
    exact perform_eq_of_failed failed

/-- A list that holds an object twice, and itself once, without owning that much is given back. -/
def overreleased : Heap :=
  empty.after
    [.allocate (.int 7), .allocate (.list [⟨0, 0⟩, ⟨0, 0⟩, ⟨1, 0⟩]), .decref ⟨1, 0⟩]

/-- The list and the object it held went, each once; the list cannot be given back again. -/
theorem represented_after_overreleased :
    overreleased.Addressable ∧
      overreleased.stats = ⟨0, 2, 2⟩ ∧
      overreleased.vacant = [0, 1] ∧
      overreleased.vacant.Nodup ∧
      overreleased.stats.live = overreleased.occupied ∧
      (overreleased.perform (.decref ⟨1, 0⟩)).1 = .failed (.freed ⟨1, 0⟩) ∧
      (overreleased.perform (.decref ⟨1, 0⟩)).2 = overreleased := by
  have addressable : overreleased.Addressable := by decide_cbv
  have failed : (overreleased.perform (.decref ⟨1, 0⟩)).1 = .failed (.freed ⟨1, 0⟩) := by
    decide_cbv
  rcases represented_after _ addressable with ⟨-, nodup, -, live, -, unchanged⟩
  exact ⟨addressable, by cbv, by cbv, nodup, live, failed, unchanged _ _ failed⟩

end Custody.Heap
