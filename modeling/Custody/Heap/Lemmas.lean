import Custody.Heap.Basic

/-!
# Looking up after a change

What a handle names after a slot was written or cleared.  A change through a
handle that names an object leaves every other handle alone, even one that
shares its slot: such a handle belongs to another generation and names nothing
before and after.

Freeing has one equation for each case that it tells apart.  Giving back a
reference to an object is giving it back to the object as a child, followed by
the freeing of what that listed.
-/

namespace Custody.Heap

@[simp]
theorem find?_null (heap : Heap) :
    heap.find? .null = none := by
  simp [find?, Handle.isNull]

theorem ne_null_of_find?
    {heap : Heap}
    {handle : Handle}
    {entry : Entry}
    (found : heap.find? handle = some entry) :
    handle ≠ .null := by
  rintro rfl
  simp at found

theorem ne_of_missing
    {heap : Heap}
    {handle other : Handle}
    {entry : Entry}
    (found : heap.find? handle = some entry)
    (missing : heap.find? other = none) :
    other ≠ handle := by
  rintro rfl
  rw [missing] at found
  cases found

theorem isLive_iff
    (heap : Heap)
    (handle : Handle) :
    heap.isLive handle = true ↔ ∃ entry, heap.find? handle = some entry := by
  simp [isLive, Option.isSome_iff_exists]

theorem resolve_eq_ok_iff
    (heap : Heap)
    (handle : Handle)
    (entry : Entry) :
    heap.resolve handle = .ok entry ↔ heap.find? handle = some entry := by
  unfold resolve
  split <;> simp_all

/-- Changing the occupant of a handle's slot leaves the other handles alone. -/
private theorem find?_modify_of_ne
    {heap heap' : Heap}
    {handle other : Handle}
    {entry : Entry}
    (change : Option Entry)
    (slots :
      heap'.slots =
        heap.slots.modify handle.index.toNat fun slot => { slot with entry := change })
    (found : heap.find? handle = some entry)
    (distinct : other ≠ handle) :
    heap'.find? other = heap.find? other := by
  obtain ⟨slot, at_index, generation, -⟩ := find?_eq_some found
  unfold find?
  rw [slots, Array.getElem?_modify]
  by_cases same : handle.index.toNat = other.index.toNat
  · have index : other.index = handle.index := UInt32.toNat_inj.mp same.symm
    have stale : handle.generation ≠ other.generation := by
      intro equal
      exact distinct (by cases other; cases handle; simp_all)
    simp [← same, at_index, generation, stale]
  · simp [same]

@[simp]
theorem find?_write_self
    {heap : Heap}
    {handle : Handle}
    {entry : Entry}
    (entry' : Entry)
    (found : heap.find? handle = some entry) :
    (heap.write handle entry').find? handle = some entry' := by
  have notNull := ne_null_of_find? found
  obtain ⟨slot, at_index, generation, -⟩ := find?_eq_some found
  simp [find?, write, Array.getElem?_modify, at_index, generation, Handle.isNull, notNull]

theorem find?_write_of_ne
    {heap : Heap}
    {handle other : Handle}
    {entry : Entry}
    (entry' : Entry)
    (found : heap.find? handle = some entry)
    (distinct : other ≠ handle) :
    (heap.write handle entry').find? other = heap.find? other :=
  find?_modify_of_ne (some entry') rfl found distinct

@[simp]
theorem find?_vacate_self
    (heap : Heap)
    (handle : Handle) :
    (heap.vacate handle).find? handle = none := by
  unfold find? vacate
  rw [Array.getElem?_modify]
  cases heap.slots[handle.index.toNat]? <;> simp

theorem find?_vacate_of_ne
    {heap : Heap}
    {handle other : Handle}
    {entry : Entry}
    (found : heap.find? handle = some entry)
    (distinct : other ≠ handle) :
    (heap.vacate handle).find? other = heap.find? other :=
  find?_modify_of_ne none rfl found distinct

/-! ## Freeing -/

section Freeing

variable {heap : Heap} {handle child : Handle} {entry : Entry}

theorem releaseChild_of_missing
    (missing : heap.find? child = none)
    (work : List Handle) :
    releaseChild (heap, work) child = (heap, work) := by
  rw [releaseChild, missing]

theorem releaseChild_of_found
    (found : heap.find? child = some entry)
    (work : List Handle) :
    releaseChild (heap, work) child =
      (heap.write child { entry with refcount := entry.refcount - 1 },
        if entry.refcount - 1 = 0 then child :: work else work) := by
  rw [releaseChild, found]

@[simp]
theorem releaseChildren_nil (heap : Heap) (work : List Handle) :
    heap.releaseChildren work [] = (heap, work) :=
  rfl

theorem releaseChildren_cons
    (heap : Heap)
    (work rest : List Handle)
    (child : Handle) :
    heap.releaseChildren work (child :: rest) =
      (releaseChild (heap, work) child).1.releaseChildren
        (releaseChild (heap, work) child).2 rest :=
  rfl

@[simp]
theorem cascade_nil (heap : Heap) : heap.cascade [] = heap := by
  rw [cascade]

theorem cascade_of_missing
    (missing : heap.find? handle = none)
    (rest : List Handle) :
    heap.cascade (handle :: rest) = heap.cascade rest := by
  rw [cascade]
  split
  · rfl
  · next found => simp [missing] at found

theorem cascade_of_found
    (found : heap.find? handle = some entry)
    (rest : List Handle) :
    heap.cascade (handle :: rest) =
      ((heap.vacate handle).releaseChildren rest entry.payload.children).1.cascade
        ((heap.vacate handle).releaseChildren rest entry.payload.children).2 := by
  rw [cascade]
  split
  · next missing => simp [found] at missing
  · next entry' found' =>
      rw [found] at found'
      cases found'
      rfl

theorem decref_of_found (found : heap.find? handle = some entry) :
    heap.decref handle =
      .ok (entry.refcount - 1,
        (releaseChild (heap, []) handle).1.cascade (releaseChild (heap, []) handle).2) := by
  have resolved := (resolve_eq_ok_iff heap handle entry).mpr found
  rw [releaseChild_of_found found]
  by_cases spent : entry.refcount - 1 = 0
  · simp [decref, resolved, spent, bind, Except.bind, pure, Except.pure]
  · simp [decref, resolved, spent, bind, Except.bind, pure, Except.pure]

theorem found_of_decref
    {heap' : Heap}
    {remaining : Int}
    (released : heap.decref handle = .ok (remaining, heap')) :
    ∃ entry,
      heap.find? handle = some entry ∧
        (remaining, heap') =
          (entry.refcount - 1,
            (releaseChild (heap, []) handle).1.cascade (releaseChild (heap, []) handle).2) := by
  cases resolved : heap.resolve handle with
  | error reason => simp [decref, resolved, bind, Except.bind] at released
  | ok entry =>
      have found := (resolve_eq_ok_iff heap handle entry).mp resolved
      rw [decref_of_found found] at released
      exact ⟨entry, found, (Except.ok.inj released).symm⟩

theorem incref_of_found (found : heap.find? handle = some entry) :
    heap.incref handle =
      .ok (heap.write handle { entry with refcount := entry.refcount + 1 }) := by
  rw [incref, (resolve_eq_ok_iff heap handle entry).mpr found]
  rfl

theorem found_of_incref
    {heap' : Heap}
    (taken : heap.incref handle = .ok heap') :
    ∃ entry,
      heap.find? handle = some entry ∧
        heap' = heap.write handle { entry with refcount := entry.refcount + 1 } := by
  cases resolved : heap.resolve handle with
  | error reason => simp [incref, resolved, bind, Except.bind] at taken
  | ok entry =>
      have found := (resolve_eq_ok_iff heap handle entry).mp resolved
      rw [incref_of_found found] at taken
      exact ⟨entry, found, (Except.ok.inj taken).symm⟩

theorem setPayload_of_found
    (found : heap.find? handle = some entry)
    (payload : Payload) :
    heap.setPayload handle payload = .ok (heap.write handle { entry with payload }) := by
  rw [setPayload, (resolve_eq_ok_iff heap handle entry).mpr found]
  rfl

theorem found_of_setPayload
    {heap' : Heap}
    {payload : Payload}
    (changed : heap.setPayload handle payload = .ok heap') :
    ∃ entry,
      heap.find? handle = some entry ∧ heap' = heap.write handle { entry with payload } := by
  cases resolved : heap.resolve handle with
  | error reason => simp [setPayload, resolved, bind, Except.bind] at changed
  | ok entry =>
      have found := (resolve_eq_ok_iff heap handle entry).mp resolved
      rw [setPayload_of_found found] at changed
      exact ⟨entry, found, (Except.ok.inj changed).symm⟩

end Freeing

end Custody.Heap
