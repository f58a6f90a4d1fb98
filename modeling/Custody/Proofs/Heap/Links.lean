import Custody.Heap.Lemmas
import Mathlib.Algebra.BigOperators.Group.List.Basic
import Mathlib.Algebra.Order.Group.Multiset
import Mathlib.Tactic.Abel

/-!
# Links between objects

The links of a heap are the references that its live objects own, each as often
as it occurs among their children.  Every primitive change of the heap has an
equation that says what it does to the links.

An allocation relies on two facts about the heap: the indices it lists as vacant
belong to empty slots, each listed once, and it has no more slots than it made
allocations.  A heap of which this is true is tidy.
-/

namespace Custody

/-- The references that the occupant of a slot owns. -/
def Slot.links (slot : Slot) : Multiset Handle :=
  match slot.entry with
  | some entry => entry.payload.children
  | none => 0

namespace Heap

/-- The references that live objects own, each as often as it occurs. -/
def links (heap : Heap) : Multiset Handle :=
  (heap.slots.toList.map Slot.links).sum

/-- The number of allocations below which no handle is ever issued twice. -/
def capacity : Nat :=
  2 ^ 32 - 1

/-- Whether fewer allocations were made than there are handles. -/
def HasRoom (heap : Heap) : Prop :=
  heap.stats.allocations < capacity

instance (heap : Heap) : Decidable heap.HasRoom :=
  inferInstanceAs (Decidable (heap.stats.allocations < capacity))

/-- Whether every slot has an index of its own, and none has that of the null handle. -/
def Addressable (heap : Heap) : Prop :=
  heap.slots.size ≤ capacity

instance (heap : Heap) : Decidable heap.Addressable :=
  inferInstanceAs (Decidable (_ ≤ _))

/-- The vacant indices are those of empty slots, and no slot was made without need. -/
structure Tidy (heap : Heap) : Prop where
  vacant_nodup : heap.vacant.Nodup
  vacant_empty :
    ∀ index ∈ heap.vacant,
      ∃ slot, heap.slots[index.toNat]? = some slot ∧ slot.entry = none
  size_le : heap.slots.size ≤ heap.stats.allocations

theorem tidy_empty : empty.Tidy where
  vacant_nodup := List.nodup_nil
  vacant_empty := by simp [empty]
  size_le := by simp [empty]

theorem Tidy.addressable
    {heap : Heap}
    (tidy : heap.Tidy)
    (room : heap.HasRoom) :
    heap.Addressable :=
  tidy.size_le.trans room.le

theorem ne_null_of_index_lt
    {handle : Handle}
    (inside : handle.index.toNat < capacity) :
    handle ≠ .null := by
  rintro rfl
  exact absurd inside (by decide)

/-- The latest handle of a slot names its occupant. -/
theorem find?_getElem
    {heap : Heap}
    {index : Nat}
    (addressable : heap.Addressable)
    (bound : index < heap.slots.size) :
    heap.find? ⟨UInt32.ofNat index, heap.slots[index].generation⟩ = heap.slots[index].entry := by
  have inside : index < capacity := bound.trans_le addressable
  have fits : index < 2 ^ 32 := inside.trans (by decide)
  have index_toNat : (UInt32.ofNat index).toNat = index := by simpa using fits
  have notNull : (⟨UInt32.ofNat index, heap.slots[index].generation⟩ : Handle) ≠ .null :=
    ne_null_of_index_lt (by rwa [index_toNat])
  simp [find?, Handle.isNull, notNull, index_toNat, bound]

@[simp]
theorem links_empty : empty.links = 0 :=
  rfl

/-! ## Changing the occupant of a slot -/

private theorem sum_links_modify
    {slots : List Slot}
    {index : Nat}
    {slot : Slot}
    (change : Slot → Slot)
    (at_index : slots[index]? = some slot) :
    ((slots.modify index change).map Slot.links).sum + slot.links =
      (slots.map Slot.links).sum + (change slot).links := by
  induction slots generalizing index with
  | nil => simp at at_index
  | cons first rest step =>
      cases index with
      | zero =>
          rcases by simpa using at_index with rfl : first = slot
          simp only [List.modify_zero_cons, List.map_cons, List.sum_cons]
          abel
      | succ index =>
          have later := step (by simpa using at_index)
          simp only [List.modify_succ_cons, List.map_cons, List.sum_cons]
          rw [add_assoc, later, add_assoc]

private theorem links_modify
    {heap : Heap}
    {index : Nat}
    {slot : Slot}
    (heap' : Heap)
    (change : Slot → Slot)
    (slots : heap'.slots = heap.slots.modify index change)
    (at_index : heap.slots[index]? = some slot) :
    heap'.links + slot.links = heap.links + (change slot).links := by
  have listed : heap.slots.toList[index]? = some slot := by simpa using at_index
  simpa [links, slots] using sum_links_modify change listed

theorem links_write
    {heap : Heap}
    {handle : Handle}
    {entry : Entry}
    (entry' : Entry)
    (found : heap.find? handle = some entry) :
    (heap.write handle entry').links + entry.payload.children =
      heap.links + (entry'.payload.children : Multiset Handle) := by
  rcases find?_eq_some found with ⟨slot, at_index, -, holds⟩
  simpa [Slot.links, holds] using
    links_modify (heap.write handle entry') (fun slot => { slot with entry := some entry' }) rfl
      at_index

/-- Writing a count leaves the links alone. -/
theorem links_write_refcount
    {heap : Heap}
    {handle : Handle}
    {entry : Entry}
    (refcount : Int)
    (found : heap.find? handle = some entry) :
    (heap.write handle { entry with refcount }).links = heap.links := by
  have equation := links_write { entry with refcount } found
  exact add_right_cancel equation

theorem links_vacate
    {heap : Heap}
    {handle : Handle}
    {entry : Entry}
    (found : heap.find? handle = some entry) :
    (heap.vacate handle).links + entry.payload.children = heap.links := by
  rcases find?_eq_some found with ⟨slot, at_index, -, holds⟩
  simpa [Slot.links, holds] using
    links_modify (heap.vacate handle) (fun slot => { slot with entry := none }) rfl at_index

theorem Tidy.write
    {heap : Heap}
    {handle : Handle}
    {entry : Entry}
    (tidy : heap.Tidy)
    (entry' : Entry)
    (found : heap.find? handle = some entry) :
    (heap.write handle entry').Tidy where
  vacant_nodup := tidy.vacant_nodup
  vacant_empty := by
    rcases find?_eq_some found with ⟨slot, at_index, -, holds⟩
    intro index member
    rcases tidy.vacant_empty index member with ⟨empty, at_vacant, vacant⟩
    have distinct : handle.index.toNat ≠ index.toNat := by
      intro same
      rw [same, at_vacant] at at_index
      simp_all
    exact ⟨empty, by simpa [Heap.write, Array.getElem?_modify, distinct] using at_vacant, vacant⟩
  size_le := by simpa [Heap.write] using tidy.size_le

theorem Tidy.vacate
    {heap : Heap}
    {handle : Handle}
    {entry : Entry}
    (tidy : heap.Tidy)
    (found : heap.find? handle = some entry) :
    (heap.vacate handle).Tidy where
  vacant_nodup := by
    rcases find?_eq_some found with ⟨slot, at_index, -, holds⟩
    refine List.nodup_cons.mpr ⟨fun member => ?_, tidy.vacant_nodup⟩
    rcases tidy.vacant_empty _ member with ⟨empty, at_vacant, vacant⟩
    rw [at_index] at at_vacant
    simp_all
  vacant_empty := by
    rcases find?_eq_some found with ⟨slot, at_index, -, holds⟩
    intro index member
    by_cases same : handle.index.toNat = index.toNat
    · exact ⟨{ slot with entry := none },
        by simp [Heap.vacate, Array.getElem?_modify, ← same, at_index], rfl⟩
    · have listed : index ∈ heap.vacant := by
        rcases List.mem_cons.mp member with rfl | listed
        · exact absurd rfl same
        · exact listed
      rcases tidy.vacant_empty index listed with ⟨empty, at_vacant, vacant⟩
      exact ⟨empty, by simpa [Heap.vacate, Array.getElem?_modify, same] using at_vacant, vacant⟩
  size_le := by simpa [Heap.vacate] using tidy.size_le

/-! ## Allocating -/

/-- The latest object in a handle's slot, still there or not, was the handle's. -/
def IsCurrent (heap : Heap) (handle : Handle) : Prop :=
  ∃ slot,
    heap.slots[handle.index.toNat]? = some slot ∧ slot.generation = handle.generation

theorem isCurrent_of_find?
    {heap : Heap}
    {handle : Handle}
    {entry : Entry}
    (found : heap.find? handle = some entry) :
    heap.IsCurrent handle := by
  rcases find?_eq_some found with ⟨slot, at_index, generation, -⟩
  exact ⟨slot, at_index, generation⟩

@[simp]
theorem allocations_allocate (heap : Heap) (payload : Payload) :
    (heap.allocate payload).2.stats.allocations = heap.stats.allocations + 1 := by
  rw [allocate]
  split <;> rfl

theorem size_allocate (heap : Heap) (payload : Payload) :
    (heap.allocate payload).2.slots.size =
      heap.slots.size + if heap.vacant = [] then 1 else 0 := by
  cases listed : heap.vacant with
  | nil => simp [allocate, listed]
  | cons index vacant => simp [allocate, listed]

/-- There is an index for each slot as long as there are handles. -/
theorem Tidy.addressable_allocate
    {heap : Heap}
    (tidy : heap.Tidy)
    (room : heap.HasRoom)
    (payload : Payload) :
    (heap.allocate payload).2.Addressable := by
  have made := tidy.size_le
  rw [HasRoom] at room
  rw [Addressable, size_allocate]
  split
  · omega
  · omega

theorem Addressable.of_allocate
    {heap : Heap}
    {payload : Payload}
    (addressable : (heap.allocate payload).2.Addressable) :
    heap.Addressable := by
  rw [Addressable, size_allocate] at addressable
  exact (Nat.le_add_right _ _).trans addressable

theorem HasRoom.of_allocate
    {heap : Heap}
    {payload : Payload}
    (room : (heap.allocate payload).2.HasRoom) :
    heap.HasRoom := by
  rw [HasRoom] at room ⊢
  rw [allocations_allocate] at room
  omega

/-- What an allocation did, with the slot it took over or added. -/
theorem allocate_cases
    {heap : Heap}
    {payload : Payload}
    (tidy : heap.Tidy)
    (addressable : (heap.allocate payload).2.Addressable) :
    (∃ slot,
        heap.slots[(heap.allocate payload).1.index.toNat]? = some slot ∧
          slot.entry = none ∧
          (heap.allocate payload).1.generation = slot.generation + 1 ∧
          (heap.allocate payload).2.slots =
            heap.slots.modify (heap.allocate payload).1.index.toNat fun _ =>
              ⟨slot.generation + 1, some ⟨1, payload⟩⟩) ∨
      ((heap.allocate payload).1.index.toNat = heap.slots.size ∧
        (heap.allocate payload).1.generation = 0 ∧
        (heap.allocate payload).2.slots = heap.slots.push ⟨0, some ⟨1, payload⟩⟩) := by
  cases listed : heap.vacant with
  | nil =>
      right
      rw [Addressable, size_allocate, listed, if_pos rfl, capacity] at addressable
      have bound : heap.slots.size < 2 ^ 32 := by omega
      simpa [allocate, listed] using bound
  | cons index vacant =>
      left
      rcases tidy.vacant_empty index (by simp [listed]) with ⟨slot, at_index, isEmpty⟩
      exact ⟨slot, by simp [allocate, listed, at_index, isEmpty]⟩

theorem index_allocate_lt
    {heap : Heap}
    {payload : Payload}
    (tidy : heap.Tidy)
    (addressable : (heap.allocate payload).2.Addressable) :
    (heap.allocate payload).1.index.toNat < (heap.allocate payload).2.slots.size := by
  rcases allocate_cases tidy addressable with ⟨slot, at_index, -, -, slots⟩ | ⟨index, -, slots⟩
  · simpa [slots] using (Array.getElem?_eq_some_iff.mp at_index).1
  · simp [slots, index]

/-- The handle of a new object is not the null handle. -/
theorem allocate_ne_null
    {heap : Heap}
    {payload : Payload}
    (tidy : heap.Tidy)
    (addressable : (heap.allocate payload).2.Addressable) :
    (heap.allocate payload).1 ≠ .null :=
  ne_null_of_index_lt ((index_allocate_lt tidy addressable).trans_le addressable)

theorem find?_allocate_self
    {heap : Heap}
    {payload : Payload}
    (tidy : heap.Tidy)
    (addressable : (heap.allocate payload).2.Addressable) :
    (heap.allocate payload).2.find? (heap.allocate payload).1 = some ⟨1, payload⟩ := by
  have notNull := allocate_ne_null tidy addressable
  rcases allocate_cases tidy addressable with
    ⟨slot, at_index, -, generation, slots⟩ | ⟨index, generation, slots⟩
  · simp [find?, Handle.isNull, notNull, slots, Array.getElem?_modify, at_index, generation]
  · simp [find?, Handle.isNull, notNull, slots, index, generation]

/-- The handle of a new object is no slot's latest yet. -/
theorem not_isCurrent_allocate
    {heap : Heap}
    {payload : Payload}
    (tidy : heap.Tidy)
    (addressable : (heap.allocate payload).2.Addressable) :
    ¬ heap.IsCurrent (heap.allocate payload).1 := by
  rintro ⟨slot', at_index', generation'⟩
  rcases allocate_cases tidy addressable with
    ⟨slot, at_index, -, generation, -⟩ | ⟨index, -, -⟩
  · rcases by simpa [at_index] using at_index' with rfl : slot = slot'
    have shifted : slot.generation = slot.generation + 1 := generation'.trans generation
    simp at shifted
  · simp [index] at at_index'

/-- The handle of a new object named nothing before. -/
theorem find?_allocate_fresh
    {heap : Heap}
    {payload : Payload}
    (tidy : heap.Tidy)
    (addressable : (heap.allocate payload).2.Addressable) :
    heap.find? (heap.allocate payload).1 = none := by
  cases found : heap.find? (heap.allocate payload).1 with
  | none => rfl
  | some entry =>
      exact absurd (isCurrent_of_find? found) (not_isCurrent_allocate tidy addressable)

theorem find?_allocate_of_ne
    {heap : Heap}
    {payload : Payload}
    {other : Handle}
    (tidy : heap.Tidy)
    (addressable : (heap.allocate payload).2.Addressable)
    (distinct : other ≠ (heap.allocate payload).1) :
    (heap.allocate payload).2.find? other = heap.find? other := by
  have generations
      (same : (heap.allocate payload).1.index.toNat = other.index.toNat) :
      (heap.allocate payload).1.generation ≠ other.generation := by
    intro equal
    exact distinct (by
      cases other
      cases issued : (heap.allocate payload).1
      simp_all [UInt32.toNat_inj])
  rcases allocate_cases tidy addressable with
    ⟨slot, at_index, isEmpty, generation, slots⟩ | ⟨index, generation, slots⟩
  · unfold find?
    rw [slots, Array.getElem?_modify]
    by_cases same : (heap.allocate payload).1.index.toNat = other.index.toNat
    · have stale : slot.generation + 1 ≠ other.generation := generation ▸ generations same
      simp [← same, at_index, isEmpty, stale]
    · simp [same]
  · unfold find?
    rw [slots, Array.getElem?_push]
    by_cases same : other.index.toNat = heap.slots.size
    · have stale : (0 : UInt32) ≠ other.generation :=
        generation ▸ generations (index.trans same.symm)
      simp [same, stale]
    · simp [same]

theorem links_allocate
    {heap : Heap}
    {payload : Payload}
    (tidy : heap.Tidy)
    (addressable : (heap.allocate payload).2.Addressable) :
    (heap.allocate payload).2.links = heap.links + (payload.children : Multiset Handle) := by
  rcases allocate_cases tidy addressable with
    ⟨slot, at_index, isEmpty, -, slots⟩ | ⟨-, -, slots⟩
  · simpa [Slot.links, isEmpty] using links_modify _ _ slots at_index
  · simp [links, slots, Slot.links]

theorem Tidy.allocate
    {heap : Heap}
    (tidy : heap.Tidy)
    (payload : Payload) :
    (heap.allocate payload).2.Tidy := by
  cases listed : heap.vacant with
  | nil =>
      refine ⟨?_, ?_, ?_⟩
      · simp [Heap.allocate, listed]
      · simp [Heap.allocate, listed]
      · simpa [Heap.allocate, listed] using tidy.size_le
  | cons index vacant =>
      have unique := tidy.vacant_nodup
      rw [listed, List.nodup_cons] at unique
      refine ⟨?_, ?_, ?_⟩
      · simpa [Heap.allocate, listed] using unique.2
      · intro other member
        have remains : other ∈ vacant := by simpa [Heap.allocate, listed] using member
        rcases tidy.vacant_empty other (by simp [listed, remains]) with ⟨slot, at_index, isEmpty⟩
        have distinct : index.toNat ≠ other.toNat := by
          intro same
          exact unique.1 (UInt32.toNat_inj.mp same ▸ remains)
        exact ⟨slot,
          by simpa [Heap.allocate, listed, Array.getElem?_modify, distinct] using at_index,
          isEmpty⟩
      · have := tidy.size_le
        simp only [Heap.allocate, listed, Array.size_modify]
        omega

end Heap

end Custody
