import Custody.Heap.Payload

/-!
# The reference-counted heap

A heap is an array of slots.  An occupied slot holds a payload and the number
of references to it; a vacant slot waits in a list, most recently vacated
first, and the next allocation takes the head of that list.

Dropping the last reference to an object frees it, which drops one reference to
each of its children and may free them in turn.  `Heap.cascade` does this with a
list of objects still to be freed, so the depth of the object graph does not
matter.  Every object it takes up leaves its slot vacant; that is why it ends.
-/

namespace Custody

/-- Why a handle cannot be used. -/
inductive HeapError where
  | null
  | freed (handle : Handle)
deriving DecidableEq, Repr

/-- The text of a heap error. -/
def HeapError.message : HeapError → String
  | .null => "null foreign handle"
  | .freed handle => "foreign object " ++ handle.render ++ " has already been freed"

/-- An object in its slot. -/
structure Entry where
  refcount : Int
  payload : Payload
deriving Repr

/-- A slot: the generation of its latest occupant, and that occupant if it is still there. -/
structure Slot where
  generation : UInt32
  entry : Option Entry
deriving Repr

/-- Whether a slot holds an object. -/
def Slot.isOccupied (slot : Slot) : Bool :=
  slot.entry.isSome

/-- How many objects there are, and how many allocations and frees led there. -/
structure HeapStats where
  live : Nat
  allocations : Nat
  frees : Nat
deriving DecidableEq, Repr

/-- The slots, the vacant ones among them, and the running totals. -/
structure Heap where
  slots : Array Slot
  vacant : List UInt32
  stats : HeapStats

namespace Heap

/-- The heap without slots. -/
def empty : Heap where
  slots := #[]
  vacant := []
  stats := ⟨0, 0, 0⟩

/-- The number of slots that hold an object. -/
def occupied (heap : Heap) : Nat :=
  heap.slots.countP Slot.isOccupied

/-! ## Looking up -/

/-- The object a handle names, if its slot still holds that generation. -/
def find? (heap : Heap) (handle : Handle) : Option Entry :=
  if handle.isNull then
    none
  else
    match heap.slots[handle.index.toNat]? with
    | some slot => if slot.generation = handle.generation then slot.entry else none
    | none => none

/-- The object a handle names, or the reason why there is none. -/
def resolve
    (heap : Heap)
    (handle : Handle) :
    Except HeapError Entry :=
  match heap.find? handle with
  | some entry => .ok entry
  | none => .error (if handle.isNull then .null else .freed handle)

/-- Whether a handle names an object. -/
def isLive (heap : Heap) (handle : Handle) : Bool :=
  (heap.find? handle).isSome

/-- The payload of the object a handle names. -/
def payload? (heap : Heap) (handle : Handle) : Option Payload :=
  (heap.find? handle).map Entry.payload

/-- The payload of the object a handle names, or the reason why there is none. -/
def payload
    (heap : Heap)
    (handle : Handle) :
    Except HeapError Payload :=
  (heap.resolve handle).map Entry.payload

/-- The number of references to the object a handle names. -/
def refcount? (heap : Heap) (handle : Handle) : Option Int :=
  (heap.find? handle).map Entry.refcount

/-! ## Writing -/

/-- Replace the occupant of a handle's slot. -/
def write
    (heap : Heap)
    (handle : Handle)
    (entry : Entry) :
    Heap :=
  { heap with
    slots := heap.slots.modify handle.index.toNat fun slot =>
      { slot with entry := some entry } }

/-- Clear the slot of a handle and list it as vacant. -/
def vacate (heap : Heap) (handle : Handle) : Heap where
  slots := heap.slots.modify handle.index.toNat fun slot =>
    { slot with entry := none }
  vacant := handle.index :: heap.vacant
  stats :=
    { heap.stats with
      live := heap.stats.live - 1
      frees := heap.stats.frees + 1 }

/--
Place a payload in the most recently vacated slot, or in a new one.  The caller
owns the single reference to the object.
-/
def allocate (heap : Heap) (payload : Payload) : Handle × Heap :=
  let stats :=
    { heap.stats with
      live := heap.stats.live + 1
      allocations := heap.stats.allocations + 1 }
  let entry : Entry := ⟨1, payload⟩
  match heap.vacant with
  | index :: vacant =>
      let generation :=
        match heap.slots[index.toNat]? with
        | some slot => slot.generation + 1
        | none => 0
      (⟨index, generation⟩,
        { slots := heap.slots.modify index.toNat fun _ => ⟨generation, some entry⟩
          vacant
          stats })
  | [] =>
      (⟨UInt32.ofNat heap.slots.size, 0⟩,
        { slots := heap.slots.push ⟨0, some entry⟩
          vacant := []
          stats })

/-- Replace the payload of a live object, keeping its references. -/
def setPayload
    (heap : Heap)
    (handle : Handle)
    (payload : Payload) :
    Except HeapError Heap := do
  let entry ← heap.resolve handle
  return heap.write handle { entry with payload }

/-- Take one more reference to an object. -/
def incref
    (heap : Heap)
    (handle : Handle) :
    Except HeapError Heap := do
  let entry ← heap.resolve handle
  return heap.write handle { entry with refcount := entry.refcount + 1 }

/-! ## Occupancy -/

theorem find?_eq_some
    {heap : Heap}
    {handle : Handle}
    {entry : Entry}
    (found : heap.find? handle = some entry) :
    ∃ slot,
      heap.slots[handle.index.toNat]? = some slot ∧
        slot.generation = handle.generation ∧
        slot.entry = some entry := by
  unfold find? at found
  split at found
  · cases found
  · split at found
    · next slot at_index =>
        split at found
        · next current => exact ⟨slot, at_index, current, found⟩
        · cases found
    · cases found

theorem countP_modify_isOccupied
    {slots : Array Slot}
    {index : Nat}
    {slot : Slot}
    (change : Slot → Slot)
    (at_index : slots[index]? = some slot) :
    (slots.modify index change).countP Slot.isOccupied + (if slot.isOccupied then 1 else 0) =
      slots.countP Slot.isOccupied + if (change slot).isOccupied then 1 else 0 := by
  obtain ⟨bound, rfl⟩ := Array.getElem?_eq_some_iff.mp at_index
  have counted : (if slots[index].isOccupied then 1 else 0) ≤ slots.countP Slot.isOccupied := by
    split
    · next occupied => exact Array.countP_pos_iff.mpr ⟨_, Array.getElem_mem bound, occupied⟩
    · exact Nat.zero_le _
  have as_set :
      slots.modify index change = slots.set index (change slots[index]) := by
    apply Array.ext
    · rw [Array.size_modify, Array.size_set]
    · intro position _ _
      rw [Array.getElem_modify, Array.getElem_set]
      split
      · next same => simp only [same]
      · rfl
  rw [as_set, Array.countP_set]
  omega

theorem occupied_write
    {heap : Heap}
    {handle : Handle}
    {entry : Entry}
    (entry' : Entry)
    (found : heap.find? handle = some entry) :
    (heap.write handle entry').occupied = heap.occupied := by
  obtain ⟨slot, at_index, -, holds⟩ := find?_eq_some found
  have counted :=
    countP_modify_isOccupied (fun slot => { slot with entry := some entry' }) at_index
  simpa [occupied, write, Slot.isOccupied, holds] using counted

theorem occupied_vacate
    {heap : Heap}
    {handle : Handle}
    {entry : Entry}
    (found : heap.find? handle = some entry) :
    (heap.vacate handle).occupied + 1 = heap.occupied := by
  obtain ⟨slot, at_index, -, holds⟩ := find?_eq_some found
  have counted := countP_modify_isOccupied (fun slot => { slot with entry := none }) at_index
  simpa [occupied, vacate, Slot.isOccupied, holds] using counted

/-! ## Freeing -/

/--
Give back one reference to a child of a freed object.  A child whose last
reference this was joins the objects still to be freed; a child that is already
gone is passed over.
-/
def releaseChild
    (state : Heap × List Handle)
    (child : Handle) :
    Heap × List Handle :=
  match state.1.find? child with
  | none => state
  | some entry =>
      let remaining := entry.refcount - 1
      (state.1.write child { entry with refcount := remaining },
        if remaining = 0 then child :: state.2 else state.2)

/-- Give back one reference to each of several children. -/
def releaseChildren
    (heap : Heap)
    (work : List Handle)
    (children : List Handle) :
    Heap × List Handle :=
  children.foldl releaseChild (heap, work)

theorem occupied_releaseChild
    (state : Heap × List Handle)
    (child : Handle) :
    (releaseChild state child).1.occupied = state.1.occupied := by
  unfold releaseChild
  split
  · rfl
  · next found => exact occupied_write _ found

theorem occupied_releaseChildren
    (heap : Heap)
    (work : List Handle)
    (children : List Handle) :
    (heap.releaseChildren work children).1.occupied = heap.occupied := by
  have general :
      ∀ state : Heap × List Handle,
        (children.foldl releaseChild state).1.occupied = state.1.occupied := by
    induction children with
    | nil => intro state; rfl
    | cons child rest step =>
        intro state
        rw [List.foldl_cons, step, occupied_releaseChild]
  exact general (heap, work)

/--
Free the listed objects, head first, together with everything whose last
reference they held.
-/
def cascade (heap : Heap) (work : List Handle) : Heap :=
  match work with
  | [] => heap
  | handle :: rest =>
      match _found : heap.find? handle with
      | none => cascade heap rest
      | some entry =>
          let next := (heap.vacate handle).releaseChildren rest entry.payload.children
          cascade next.1 next.2
termination_by (heap.occupied, work.length)
decreasing_by
  · exact Prod.Lex.right _ (by simp)
  · apply Prod.Lex.left
    rw [occupied_releaseChildren]
    have := occupied_vacate _found
    omega

/--
Give back one reference to an object, freeing it if that was the last.  The
count that remains is returned.
-/
def decref
    (heap : Heap)
    (handle : Handle) :
    Except HeapError (Int × Heap) := do
  let entry ← heap.resolve handle
  let remaining := entry.refcount - 1
  let heap := heap.write handle { entry with refcount := remaining }
  return (remaining, if remaining = 0 then heap.cascade [handle] else heap)

end Heap

end Custody
