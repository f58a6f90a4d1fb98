import Custody.Proofs.Heap.Links

/-!
# Balance

A heap is balanced for a multiset of references held from outside if every
count is the number of those references plus the number of links, and every
reference and link names a live object.

While a cascade runs, some objects have lost their last reference and are still
there.  A heap that is settling is balanced but for those: they are exactly the
objects whose count is zero, and the cascade still has to take them up.  Giving
a reference back moves from one settling state to another, and so does every
object that the cascade frees, whose links turn into outside references that
are given back next.
-/

namespace Custody.Heap

/--
The counts of a heap agree with its links and the references in `credit`, and
the objects in `work` are those without references.
-/
structure Settling
    (heap : Heap)
    (credit : Multiset Handle)
    (work : List Handle) :
    Prop where
  tidy : heap.Tidy
  counted :
    ∀ {handle entry},
      heap.find? handle = some entry →
        entry.refcount = (credit + heap.links).count handle
  present : ∀ handle ∈ credit + heap.links, ∃ entry, heap.find? handle = some entry
  due :
    ∀ handle,
      handle ∈ work ↔ ∃ entry, heap.find? handle = some entry ∧ entry.refcount = 0
  nodup : work.Nodup

/-- The counts of a heap agree with its links and the references in `credit`. -/
abbrev Balanced (heap : Heap) (credit : Multiset Handle) : Prop :=
  heap.Settling credit []

theorem balanced_empty : empty.Balanced 0 where
  tidy := tidy_empty
  counted := by simp [find?, empty]
  present := by simp
  due := by simp [find?, empty]
  nodup := List.nodup_nil

namespace Settling

variable {heap : Heap} {credit : Multiset Handle} {work : List Handle}
variable {handle : Handle} {entry : Entry}

/-- An object without references is no link's target. -/
theorem not_mem_of_due
    (settling : heap.Settling credit work)
    (found : heap.find? handle = some entry)
    (spent : entry.refcount = 0) :
    handle ∉ credit + heap.links := by
  rw [← Multiset.count_eq_zero]
  have count := settling.counted found
  omega

/-! ## Taking and giving back a reference -/

/-- Set the count of an object, with as many references more or less. -/
private theorem write
    {credit' : Multiset Handle}
    {work' : List Handle}
    (settling : heap.Settling credit work)
    (found : heap.find? handle = some entry)
    (refcount : Int)
    (others : ∀ other ≠ handle, credit'.count other = credit.count other)
    (own : refcount = (credit' + heap.links).count handle)
    (due : ∀ other, other ∈ work' ↔
      if other = handle then refcount = 0 else other ∈ work)
    (nodup : work'.Nodup) :
    (heap.write handle { entry with refcount }).Settling credit' work' where
  tidy := settling.tidy.write _ found
  counted := by
    intro other entry' found'
    rw [links_write_refcount refcount found]
    by_cases same : other = handle
    · subst same
      rw [find?_write_self _ found] at found'
      cases found'
      exact own
    · rw [find?_write_of_ne _ found same] at found'
      rw [settling.counted found', Multiset.count_add, Multiset.count_add, others other same]
  present := by
    intro other member
    rw [links_write_refcount refcount found] at member
    by_cases same : other = handle
    · subst same
      exact ⟨_, find?_write_self _ found⟩
    · rw [find?_write_of_ne _ found same]
      refine settling.present other ?_
      rw [← Multiset.count_pos, Multiset.count_add] at member ⊢
      rwa [← others other same]
  due := by
    intro other
    rw [due]
    by_cases same : other = handle
    · subst same
      simp [find?_write_self _ found]
    · rw [find?_write_of_ne _ found same, if_neg same]
      exact settling.due other
  nodup := nodup

/-- Taking a reference to an object that has some. -/
theorem incref
    (balanced : heap.Balanced credit)
    (found : heap.find? handle = some entry) :
    (heap.write handle { entry with refcount := entry.refcount + 1 }).Balanced
      (handle ::ₘ credit) := by
  have count := balanced.counted found
  refine balanced.write found _ ?_ ?_ ?_ List.nodup_nil
  · intro other distinct
    exact Multiset.count_cons_of_ne distinct _
  · rw [Multiset.cons_add, Multiset.count_cons_self]
    omega
  · intro other
    simp only [List.not_mem_nil, false_iff]
    split
    · omega
    · exact not_false

/-- Giving back a reference, without freeing anything yet. -/
theorem releaseChild
    (settling : heap.Settling (handle ::ₘ credit) work) :
    (Heap.releaseChild (heap, work) handle).1.Settling credit
      (Heap.releaseChild (heap, work) handle).2 := by
  rcases settling.present handle (by simp) with ⟨entry, found⟩
  have count := settling.counted found
  rw [Multiset.cons_add, Multiset.count_cons_self] at count
  have fresh : handle ∉ work := by
    intro member
    rcases (settling.due handle).mp member with ⟨entry', found', spent⟩
    rw [found] at found'
    cases found'
    omega
  simp only [Heap.releaseChild, found]
  refine settling.write found _ ?_ (by omega) ?_ ?_
  · intro other distinct
    exact (Multiset.count_cons_of_ne distinct _).symm
  · intro other
    by_cases same : other = handle
    · subst same
      by_cases spent : entry.refcount - 1 = 0 <;> simp [spent, fresh]
    · by_cases spent : entry.refcount - 1 = 0 <;> simp [spent, same]
  · by_cases spent : entry.refcount - 1 = 0
    · simpa [spent, fresh] using settling.nodup
    · simpa [spent] using settling.nodup

theorem releaseChildren
    {children : List Handle}
    (settling : heap.Settling (children + credit) work) :
    (heap.releaseChildren work children).1.Settling credit
      (heap.releaseChildren work children).2 := by
  induction children generalizing heap work with
  | nil => simpa using settling
  | cons child rest step =>
      rw [← Multiset.cons_coe, Multiset.cons_add] at settling
      exact step settling.releaseChild

/-! ## Freeing -/

/-- Freeing an object without references makes its links outside references. -/
theorem vacate
    {rest : List Handle}
    (settling : heap.Settling credit (handle :: rest))
    (found : heap.find? handle = some entry) :
    (heap.vacate handle).Settling (entry.payload.children + credit) rest := by
  rcases List.nodup_cons.mp settling.nodup with ⟨unlisted, nodup⟩
  rcases (settling.due handle).mp (by simp) with ⟨entry', found', spent⟩
  rw [found] at found'
  cases found'
  have total :
      (entry.payload.children : Multiset Handle) + credit + (heap.vacate handle).links =
        credit + heap.links := by
    rw [← links_vacate found]
    abel
  have unreferenced := settling.not_mem_of_due found spent
  refine ⟨settling.tidy.vacate found, ?_, ?_, ?_, nodup⟩
  · intro other entry' found'
    have distinct : other ≠ handle := by
      rintro rfl
      simp at found'
    rw [find?_vacate_of_ne found distinct] at found'
    rw [total]
    exact settling.counted found'
  · intro other member
    rw [total] at member
    have distinct : other ≠ handle := by
      rintro rfl
      exact unreferenced member
    rw [find?_vacate_of_ne found distinct]
    exact settling.present other member
  · intro other
    by_cases same : other = handle
    · subst same
      simp [unlisted]
    · rw [find?_vacate_of_ne found same, ← settling.due]
      simp [same]

/-- A cascade frees everything that has lost its last reference. -/
theorem cascade
    (settling : heap.Settling credit work) :
    (heap.cascade work).Balanced credit := by
  induction heap, work using Heap.cascade.induct with
  | case1 heap =>
      rw [cascade_nil]
      exact settling
  | case2 heap handle rest missing step =>
      rcases (settling.due handle).mp (by simp) with ⟨entry, found, -⟩
      rw [missing] at found
      cases found
  | case3 heap handle rest entry found next step =>
      rw [cascade_of_found found]
      exact step (settling.vacate found).releaseChildren

/-- Giving back a reference answers the count that remains and restores the balance. -/
theorem decref
    (balanced : heap.Balanced (handle ::ₘ credit)) :
    ∃ heap',
      heap.decref handle = .ok (((credit + heap.links).count handle : Nat), heap') ∧
        heap'.Balanced credit := by
  rcases balanced.present handle (by simp) with ⟨entry, found⟩
  have count := balanced.counted found
  rw [Multiset.cons_add, Multiset.count_cons_self] at count
  have remaining : entry.refcount - 1 = ((credit + heap.links).count handle : Nat) := by
    omega
  refine ⟨_, ?_, (releaseChild balanced).cascade⟩
  rw [decref_of_found found, remaining]

/-! ## Making and changing objects -/

/-- A new object takes the references to its children over from outside. -/
theorem allocate
    {payload : Payload}
    (balanced : heap.Balanced (payload.children + credit))
    (room : heap.HasRoom) :
    (heap.allocate payload).2.Balanced ((heap.allocate payload).1 ::ₘ credit) := by
  have addressable := balanced.tidy.addressable_allocate room payload
  have fresh := find?_allocate_fresh balanced.tidy addressable
  have made := find?_allocate_self balanced.tidy addressable
  have total :
      (heap.allocate payload).1 ::ₘ credit + (heap.allocate payload).2.links =
        (heap.allocate payload).1 ::ₘ (payload.children + credit + heap.links) := by
    rw [links_allocate balanced.tidy addressable, Multiset.cons_add]
    congr 1
    abel
  have unreferenced :
      (heap.allocate payload).1 ∉ (payload.children : Multiset Handle) + credit + heap.links := by
    intro member
    rcases balanced.present _ member with ⟨entry, found⟩
    rw [fresh] at found
    cases found
  refine ⟨balanced.tidy.allocate payload, ?_, ?_, ?_, List.nodup_nil⟩
  · intro handle entry found
    rw [total]
    by_cases same : handle = (heap.allocate payload).1
    · rw [same, made] at found
      cases found
      rw [same, Multiset.count_cons_self, Multiset.count_eq_zero.mpr unreferenced]
      rfl
    · rw [find?_allocate_of_ne balanced.tidy addressable same] at found
      rw [Multiset.count_cons_of_ne same]
      exact balanced.counted found
  · intro handle member
    rw [total] at member
    by_cases same : handle = (heap.allocate payload).1
    · exact ⟨_, same ▸ made⟩
    · rw [find?_allocate_of_ne balanced.tidy addressable same]
      exact balanced.present handle ((Multiset.mem_cons.mp member).resolve_left same)
  · intro handle
    simp only [List.not_mem_nil, false_iff]
    rintro ⟨entry, found, spent⟩
    by_cases same : handle = (heap.allocate payload).1
    · rw [same, made] at found
      cases found
      cases spent
    · rw [find?_allocate_of_ne balanced.tidy addressable same] at found
      exact List.not_mem_nil ((balanced.due handle).mpr ⟨entry, found, spent⟩)

/-- Changing the children of an object exchanges links for outside references. -/
theorem setPayload
    {credit' : Multiset Handle}
    (payload : Payload)
    (balanced : heap.Balanced credit)
    (found : heap.find? handle = some entry)
    (exchange :
      credit' + (payload.children : Multiset Handle) =
        credit + (entry.payload.children : Multiset Handle)) :
    (heap.write handle { entry with payload }).Balanced credit' := by
  have links := links_write { entry with payload } found
  have total :
      credit' + (heap.write handle { entry with payload }).links = credit + heap.links := by
    apply add_right_cancel (b := (entry.payload.children : Multiset Handle))
    rw [add_assoc, links, add_right_comm credit, ← exchange]
    abel
  refine ⟨balanced.tidy.write _ found, ?_, ?_, ?_, List.nodup_nil⟩
  · intro other entry' found'
    rw [total]
    by_cases same : other = handle
    · subst same
      rw [find?_write_self _ found] at found'
      cases found'
      have count := balanced.counted found
      exact count
    · rw [find?_write_of_ne _ found same] at found'
      exact balanced.counted found'
  · intro other member
    rw [total] at member
    by_cases same : other = handle
    · subst same
      exact ⟨_, find?_write_self _ found⟩
    · rw [find?_write_of_ne _ found same]
      exact balanced.present other member
  · intro other
    rw [balanced.due]
    by_cases same : other = handle
    · subst same
      simp [find?_write_self _ found, found]
    · rw [find?_write_of_ne _ found same]

end Settling

end Custody.Heap
