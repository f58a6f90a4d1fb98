import Custody.Proofs.Heap.Graph

/-!
# Freeing is confluent

In which order references are given back does not matter in the end.  A set of
objects in which each is referred to from outside, or by another one of the set,
survives any cascade as long as those outside references are there.  The objects
that are left in a balanced heap make up such a set.  So whichever way two heaps
came about by giving back the same references, each of them has all that the
other one has.

This is true of cyclic graphs too, where what is left need not be reached from
outside.
-/

namespace Custody.Heap

/-- Objects that are there, each referred to from outside or by another of them. -/
structure Upholds
    (heap : Heap)
    (credit : Multiset Handle)
    (kept : Handle → Prop) :
    Prop where
  live : ∀ handle, kept handle → heap.isLive handle = true
  supported :
    ∀ handle, kept handle → handle ∈ credit ∨ ∃ parent, kept parent ∧ heap.Points parent handle

variable {heap heap' heap'' : Heap} {credit credit' : Multiset Handle} {kept : Handle → Prop}

namespace Upholds

theorem mono
    (upholds : heap.Upholds credit kept)
    (more : ∀ handle ∈ credit, handle ∈ credit') :
    heap.Upholds credit' kept where
  live := upholds.live
  supported := fun handle isKept => (upholds.supported handle isKept).imp_left (more handle)

/-- As long as nothing of the set goes, the set upholds itself. -/
theorem of_shrinks
    (upholds : heap.Upholds credit kept)
    (shrinks : heap.Shrinks heap')
    (live : ∀ handle, kept handle → heap'.isLive handle = true) :
    heap'.Upholds credit kept := by
  refine ⟨live, fun handle isKept => (upholds.supported handle isKept).imp_right ?_⟩
  rintro ⟨parent, isKept', payload, holds, among⟩
  exact ⟨parent, isKept', payload, (shrinks.payload?_eq (live parent isKept')).trans holds, among⟩

/-- A set that upholds itself did so before something else went. -/
theorem of_shrunk
    (upholds : heap'.Upholds credit kept)
    (shrinks : heap.Shrinks heap') :
    heap.Upholds credit kept where
  live := by
    intro handle isKept
    have there := upholds.live handle isKept
    rcases (isLive_iff heap' handle).mp there with ⟨entry, found⟩
    have holds := shrinks.payload?_eq there
    rw [payload?, found, Option.map_some] at holds
    rcases Option.map_eq_some_iff.mp holds.symm with ⟨entry', found', -⟩
    exact (isLive_iff heap handle).mpr ⟨entry', found'⟩
  supported := by
    intro handle isKept
    refine (upholds.supported handle isKept).imp_right ?_
    rintro ⟨parent, isKept', points⟩
    exact ⟨parent, isKept', shrinks.points points⟩

/-- What is due to be freed is not in the set. -/
theorem not_kept_of_due
    {work : List Handle}
    {handle : Handle}
    (upholds : heap.Upholds credit kept)
    (settling : heap.Settling credit work)
    (room : heap.HasRoom)
    (due : handle ∈ work) :
    ¬ kept handle := by
  intro isKept
  rcases (settling.due handle).mp due with ⟨entry, found, spent⟩
  have unreferenced := settling.not_mem_of_due found spent
  rcases upholds.supported handle isKept with outside | ⟨parent, -, points⟩
  · exact unreferenced (Multiset.mem_add.mpr (.inl outside))
  · have linked := (mem_links settling.tidy room handle).mpr ⟨parent, points⟩
    exact unreferenced (Multiset.mem_add.mpr (.inr linked))

end Upholds

/-! ## Giving references back -/

theorem isLive_releaseChild
    (state : Heap × List Handle)
    (child handle : Handle) :
    (releaseChild state child).1.isLive handle = state.1.isLive handle := by
  rw [releaseChild]
  split
  · rfl
  · next entry found =>
      by_cases same : handle = child
      · subst same
        simp [isLive, find?_write_self _ found, found]
      · simp [isLive, find?_write_of_ne _ found same]

theorem isLive_releaseChildren
    (heap : Heap)
    (work children : List Handle)
    (handle : Handle) :
    (heap.releaseChildren work children).1.isLive handle = heap.isLive handle := by
  induction children generalizing heap work with
  | nil => rfl
  | cons child rest step => exact (step _ _).trans (isLive_releaseChild (heap, work) child handle)

/-- A cascade leaves alone what upholds itself. -/
theorem Upholds.cascade
    {work : List Handle}
    (upholds : heap.Upholds credit kept)
    (settling : heap.Settling credit work)
    (room : heap.HasRoom) :
    (heap.cascade work).Upholds credit kept := by
  induction heap, work using Heap.cascade.induct with
  | case1 heap =>
      rw [cascade_nil]
      exact upholds
  | case2 heap handle rest missing step =>
      rcases (settling.due handle).mp (by simp) with ⟨entry, found, -⟩
      rw [missing] at found
      cases found
  | case3 heap handle rest entry found next step =>
      have unkept := upholds.not_kept_of_due settling room List.mem_cons_self
      have shrinks : heap.Shrinks next.1 :=
        (Shrinks.vacate found).trans (.releaseChildren _ _ _)
      have live (other : Handle) (isKept : kept other) : next.1.isLive other = true := by
        have distinct : other ≠ handle := by
          rintro rfl
          exact unkept isKept
        rw [isLive_releaseChildren, isLive, find?_vacate_of_ne found distinct]
        exact upholds.live other isKept
      rw [cascade_of_found found]
      exact step (upholds.of_shrinks shrinks live) (settling.vacate found).releaseChildren
        (shrinks.hasRoom_iff.mpr room)

/--
Of a heap that shrinks, whatever upholds itself is left; `credit` is held from
outside all the time.
-/
structure Sheds (heap : Heap) (credit : Multiset Handle) (heap' : Heap) : Prop
    extends Shrinks heap heap' where
  upholds : ∀ kept, heap.Upholds credit kept → heap'.Upholds credit kept

namespace Sheds

theorem refl
    (heap : Heap)
    (credit : Multiset Handle) :
    heap.Sheds credit heap :=
  ⟨.refl heap, fun _ => id⟩

theorem trans
    (first : heap.Sheds credit heap')
    (second : heap'.Sheds credit heap'') :
    heap.Sheds credit heap'' :=
  ⟨first.toShrinks.trans second.toShrinks, fun kept before =>
    second.upholds kept (first.upholds kept before)⟩

/-- The less is held from outside, the less is left. -/
theorem mono
    (sheds : heap.Sheds credit heap')
    (fewer : ∀ handle ∈ credit', handle ∈ credit) :
    heap.Sheds credit' heap' :=
  ⟨sheds.toShrinks, fun kept before =>
    before.of_shrinks sheds.toShrinks (sheds.upholds kept (before.mono fewer)).live⟩

/-- Giving a reference back frees nothing that upholds itself without it. -/
theorem decref
    {handle : Handle}
    {remaining : Int}
    (balanced : heap.Balanced (handle ::ₘ credit))
    (room : heap.HasRoom)
    (released : heap.decref handle = .ok (remaining, heap')) :
    heap.Sheds credit heap' := by
  refine ⟨.decref released, fun kept before => ?_⟩
  rcases balanced.present handle (by simp) with ⟨entry, found⟩
  have settling := balanced.releaseChild
  have shrinks := Shrinks.releaseChild (heap, []) handle
  have upholds := before.of_shrinks shrinks fun other isKept =>
    (isLive_releaseChild _ _ _).trans (before.live other isKept)
  rw [decref_of_found found] at released
  cases released
  exact upholds.cascade settling (shrinks.hasRoom_iff.mpr room)

end Sheds

/-! ## What is left -/

/-- The live objects of a balanced heap uphold themselves. -/
theorem Settling.upholds
    (balanced : heap.Balanced credit)
    (room : heap.HasRoom) :
    heap.Upholds credit fun handle => heap.isLive handle = true := by
  refine ⟨fun _ => id, fun handle live => ?_⟩
  rcases Multiset.mem_add.mp (balanced.mem_of_isLive live) with outside | linked
  · exact .inl outside
  · rcases (mem_links balanced.tidy room handle).mp linked with ⟨parent, payload, holds, among⟩
    rcases Option.map_eq_some_iff.mp holds with ⟨entry', found', -⟩
    exact .inr ⟨parent, (isLive_iff heap parent).mpr ⟨entry', found'⟩, payload, holds, among⟩

/-- What a handle names is given by its payload and by who refers to it. -/
theorem Settling.find?_eq
    {work : List Handle}
    (settling : heap.Settling credit work)
    (handle : Handle) :
    heap.find? handle =
      (heap.payload? handle).map fun payload =>
        ⟨((credit + heap.links).count handle : Nat), payload⟩ := by
  cases found : heap.find? handle with
  | none => simp [payload?, found]
  | some entry =>
      rw [payload?, found, Option.map_some, Option.map_some, ← settling.counted found]

variable {heap₁ heap₂ : Heap}

/-- The links depend on the payloads of the objects alone. -/
theorem links_congr
    (tidy : heap.Tidy)
    (tidy' : heap'.Tidy)
    (room : heap.HasRoom)
    (room' : heap'.HasRoom)
    (generations : heap'.slots.map Slot.generation = heap.slots.map Slot.generation)
    (payloads : ∀ handle, heap'.payload? handle = heap.payload? handle) :
    heap'.links = heap.links := by
  have size : heap'.slots.size = heap.slots.size := by
    simpa using congrArg Array.size generations
  refine congrArg List.sum (List.ext_getElem (by simp [size]) fun index inside inside' => ?_)
  simp only [List.length_map, Array.length_toList] at inside inside'
  have generation : heap'.slots[index].generation = heap.slots[index].generation := by
    have same := congrArg (fun slots : Array UInt32 => slots[index]?) generations
    simpa [inside, inside'] using same
  simp only [List.getElem_map, Array.getElem_toList]
  rw [links_getElem (tidy'.addressable room') inside,
    links_getElem (tidy.addressable room) inside', generation, payloads]

/--
Of two heaps that were left of one, with the same held from outside, each has the
other's objects.
-/
theorem isLive_of_sheds
    {handle : Handle}
    (room : heap.HasRoom)
    (sheds₁ : heap.Sheds credit heap₁)
    (sheds₂ : heap.Sheds credit heap₂)
    (balanced : heap₂.Balanced credit)
    (live : heap₂.isLive handle = true) :
    heap₁.isLive handle = true := by
  have upholds := balanced.upholds (sheds₂.hasRoom_iff.mpr room)
  exact (sheds₁.upholds _ (upholds.of_shrunk sheds₂.toShrinks)).live handle live

/--
Two balanced heaps that were left of one, with the same held from outside, have
the same objects with the same payloads and counts.
-/
theorem find?_eq_of_sheds
    (room : heap.HasRoom)
    (sheds₁ : heap.Sheds credit heap₁)
    (sheds₂ : heap.Sheds credit heap₂)
    (balanced₁ : heap₁.Balanced credit)
    (balanced₂ : heap₂.Balanced credit)
    (handle : Handle) :
    heap₁.find? handle = heap₂.find? handle := by
  have live (handle : Handle) : heap₁.isLive handle = heap₂.isLive handle :=
    Bool.eq_iff_iff.mpr ⟨isLive_of_sheds room sheds₂ sheds₁ balanced₁,
      isLive_of_sheds room sheds₁ sheds₂ balanced₂⟩
  have payloads (handle : Handle) : heap₁.payload? handle = heap₂.payload? handle := by
    cases there : heap₂.isLive handle with
    | true =>
        rw [sheds₁.payload?_eq ((live handle).trans there), sheds₂.payload?_eq there]
    | false =>
        have gone := (live handle).trans there
        simp only [isLive, Option.isSome_eq_false_iff, Option.isNone_iff_eq_none] at there gone
        simp [payload?, there, gone]
  have links : heap₁.links = heap₂.links :=
    links_congr balanced₂.tidy balanced₁.tidy (sheds₂.hasRoom_iff.mpr room)
      (sheds₁.hasRoom_iff.mpr room) (sheds₁.generations.trans sheds₂.generations.symm) payloads
  rw [balanced₁.find?_eq, balanced₂.find?_eq, payloads, links]

end Custody.Heap
