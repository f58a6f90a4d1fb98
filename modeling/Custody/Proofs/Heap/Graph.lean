import Custody.Proofs.Heap.Balance
import Mathlib.Logic.Relation

/-!
# The object graph

Objects point at their children.  A heap is layered if every object can be given
a layer such that children lie strictly below their parents, that is, if no walk
from child to child comes back to where it was.

Counting and freeing never add to the graph, and neither does a new object
show what the others reach.  Only a new link can close a cycle, and it does
not if its target does not already reach its source.

In a balanced and layered heap the live objects are those that are reached from
the references held from outside.
-/

namespace Custody.Heap

/-! ## Who points at whom -/

/-- An object is among the children of another. -/
def Points (heap : Heap) (parent child : Handle) : Prop :=
  ∃ payload, heap.payload? parent = some payload ∧ child ∈ payload.children

/-- An object is met on a walk from child to child. -/
def Reaches (heap : Heap) : Handle → Handle → Prop :=
  Relation.ReflTransGen heap.Points

/--
An assignment of a link closes no cycle.  Only exception instances have links
to assign.
-/
def OpenEnded (heap : Heap) (source : Handle) (link : Option Handle) : Prop :=
  ∀ info target,
    heap.payload? source = some (.exception info) →
      link = some target → ¬ heap.Reaches target source

private theorem mem_sum_links
    (child : Handle)
    (slots : List Slot) :
    child ∈ (slots.map Slot.links).sum ↔ ∃ slot ∈ slots, child ∈ slot.links := by
  induction slots with
  | nil => simp
  | cons first rest step => simp [Multiset.mem_add, step]

/-- The links of a slot are those of the object that the slot's latest handle names. -/
theorem links_getElem
    {heap : Heap}
    {index : Nat}
    (addressable : heap.Addressable)
    (bound : index < heap.slots.size) :
    heap.slots[index].links =
      (heap.payload? ⟨UInt32.ofNat index, heap.slots[index].generation⟩).elim 0 fun payload =>
        (payload.children : Multiset Handle) := by
  rw [payload?, find?_getElem addressable bound, Slot.links]
  cases heap.slots[index].entry with
  | none => rfl
  | some entry => rfl

/-- What an object points at is among the links, and nothing else is. -/
theorem mem_links
    {heap : Heap}
    (tidy : heap.Tidy)
    (room : heap.HasRoom)
    (child : Handle) :
    child ∈ heap.links ↔ ∃ parent, heap.Points parent child := by
  constructor
  · intro member
    rcases (mem_sum_links child _).mp member with ⟨slot, listed, among⟩
    rcases List.mem_iff_getElem.mp listed with ⟨index, bound, rfl⟩
    rw [Array.length_toList] at bound
    rw [Array.getElem_toList, links_getElem (tidy.addressable room) bound] at among
    cases holds : heap.payload? ⟨UInt32.ofNat index, heap.slots[index].generation⟩ with
    | none => simp [holds] at among
    | some payload => exact ⟨_, payload, holds, by simpa [holds] using among⟩
  · rintro ⟨parent, payload, holds, among⟩
    rcases Option.map_eq_some_iff.mp holds with ⟨entry, found, rfl⟩
    rw [← links_vacate found]
    exact Multiset.mem_add.mpr (.inr among)

/-- No object has a link to this one. -/
def Unlinked (heap : Heap) (handle : Handle) : Prop :=
  ∀ parent, ¬ heap.Points parent handle

theorem Unlinked.not_reaches
    {heap : Heap}
    {handle other : Handle}
    (unlinked : heap.Unlinked handle)
    (distinct : other ≠ handle) :
    ¬ heap.Reaches other handle := by
  intro reaches
  rcases reaches.cases_tail with same | ⟨parent, -, points⟩
  · exact distinct same.symm
  · exact unlinked parent points

/-- A walk to the source of a new link does not need that link. -/
theorem Reaches.of_links_at
    {heap heap' : Heap}
    {source target : Handle}
    (linked :
      ∀ parent child, heap'.Points parent child → heap.Points parent child ∨ parent = source)
    (reaches : heap'.Reaches target source) :
    heap.Reaches target source := by
  induction reaches using Relation.ReflTransGen.head_induction_on with
  | refl => exact .refl
  | head points _ step =>
      rcases linked _ _ points with old | rfl
      · exact .head old step
      · exact .refl

/-- A new object holds its payload, and the others what they held before. -/
theorem payload?_allocate
    {heap : Heap}
    {payload : Payload}
    (tidy : heap.Tidy)
    (room : heap.HasRoom)
    (handle : Handle) :
    (heap.allocate payload).2.payload? handle =
      if handle = (heap.allocate payload).1 then some payload else heap.payload? handle := by
  have addressable := tidy.addressable_allocate room payload
  split
  · next same => rw [same, payload?, find?_allocate_self tidy addressable, Option.map_some]
  · next distinct => rw [payload?, find?_allocate_of_ne tidy addressable distinct, payload?]

/-- What is there holds what it held before an object was made. -/
theorem payload?_allocate_of_isLive
    {heap : Heap}
    {payload : Payload}
    {handle : Handle}
    (tidy : heap.Tidy)
    (room : heap.HasRoom)
    (live : heap.isLive handle = true) :
    (heap.allocate payload).2.payload? handle = heap.payload? handle := by
  rw [payload?_allocate tidy room, if_neg]
  rintro rfl
  have fresh := find?_allocate_fresh tidy (tidy.addressable_allocate room payload)
  simp [isLive, fresh] at live

/-- A new object points at its children, and the others at what they pointed at before. -/
theorem points_allocate
    {heap : Heap}
    {payload : Payload}
    {parent child : Handle}
    (tidy : heap.Tidy)
    (room : heap.HasRoom)
    (points : (heap.allocate payload).2.Points parent child) :
    heap.Points parent child ∨ parent = (heap.allocate payload).1 ∧ child ∈ payload.children := by
  rcases points with ⟨payload', holds, among⟩
  rw [payload?_allocate tidy room] at holds
  split at holds
  · next same =>
      cases holds
      exact .inr ⟨same, among⟩
  · exact .inl ⟨payload', holds, among⟩

/-! ## Counting and freeing -/

private theorem generations_modify
    (heap : Heap)
    (index : Nat)
    (change : Option Entry) :
    (heap.slots.modify index fun slot => { slot with entry := change }).map Slot.generation =
      heap.slots.map Slot.generation := by
  refine Array.ext (by simp) fun position _ _ => ?_
  simp only [Array.getElem_map, Array.getElem_modify]
  split
  · rfl
  · rfl

theorem generations_write
    (heap : Heap)
    (handle : Handle)
    (entry : Entry) :
    (heap.write handle entry).slots.map Slot.generation = heap.slots.map Slot.generation :=
  generations_modify heap _ _

theorem generations_vacate
    (heap : Heap)
    (handle : Handle) :
    (heap.vacate handle).slots.map Slot.generation = heap.slots.map Slot.generation :=
  generations_modify heap _ _

/--
Nothing was made and no payload changed: what is there was there with the same
payload, and the slots are those of the same occupants.
-/
structure Shrinks (heap heap' : Heap) : Prop where
  payload :
    ∀ {handle payload},
      heap'.payload? handle = some payload → heap.payload? handle = some payload
  generations : heap'.slots.map Slot.generation = heap.slots.map Slot.generation
  allocations : heap'.stats.allocations = heap.stats.allocations

namespace Shrinks

variable {heap heap' heap'' : Heap} {handle : Handle} {entry : Entry}

theorem refl (heap : Heap) : heap.Shrinks heap where
  payload := id
  generations := rfl
  allocations := rfl

theorem trans
    (first : heap.Shrinks heap')
    (second : heap'.Shrinks heap'') :
    heap.Shrinks heap'' where
  payload := fun holds => first.payload (second.payload holds)
  generations := second.generations.trans first.generations
  allocations := second.allocations.trans first.allocations

/-- Every slot still knows its latest occupant. -/
theorem current
    (shrinks : heap.Shrinks heap')
    (current : heap.IsCurrent handle) :
    heap'.IsCurrent handle := by
  rcases current with ⟨slot, at_index, generation⟩
  have known : (heap'.slots.map Slot.generation)[handle.index.toNat]? = some slot.generation := by
    simp [shrinks.generations, at_index]
  rw [Array.getElem?_map, Option.map_eq_some_iff] at known
  rcases known with ⟨slot', at_index', same⟩
  exact ⟨slot', at_index', same.trans generation⟩

theorem size_eq (shrinks : heap.Shrinks heap') :
    heap'.slots.size = heap.slots.size := by
  simpa using congrArg Array.size shrinks.generations

theorem write
    (refcount : Int)
    (found : heap.find? handle = some entry) :
    heap.Shrinks (heap.write handle { entry with refcount }) where
  payload := by
    intro other payload holds
    by_cases same : other = handle
    · subst same
      simpa [payload?, find?_write_self _ found, found] using holds
    · simpa [payload?, find?_write_of_ne _ found same] using holds
  generations := generations_write _ _ _
  allocations := rfl

theorem vacate
    (found : heap.find? handle = some entry) :
    heap.Shrinks (heap.vacate handle) where
  payload := by
    intro other payload holds
    by_cases same : other = handle
    · subst same
      simp [payload?] at holds
    · simpa [payload?, find?_vacate_of_ne found same] using holds
  generations := generations_vacate _ _
  allocations := rfl

theorem releaseChild
    (state : Heap × List Handle)
    (child : Handle) :
    state.1.Shrinks (Heap.releaseChild state child).1 := by
  rw [Heap.releaseChild]
  split
  · exact refl _
  · next found => exact write _ found

theorem releaseChildren
    (heap : Heap)
    (work children : List Handle) :
    heap.Shrinks (heap.releaseChildren work children).1 := by
  induction children generalizing heap work with
  | nil => exact refl heap
  | cons child rest step => exact (releaseChild (heap, work) child).trans (step _ _)

theorem cascade
    (heap : Heap)
    (work : List Handle) :
    heap.Shrinks (heap.cascade work) := by
  induction heap, work using Heap.cascade.induct with
  | case1 heap =>
      rw [cascade_nil]
      exact refl heap
  | case2 heap handle rest missing step =>
      rw [cascade_of_missing missing]
      exact step
  | case3 heap handle rest entry found next step =>
      rw [cascade_of_found found]
      exact ((vacate found).trans (releaseChildren _ _ _)).trans step

theorem decref
    {remaining : Int}
    (released : heap.decref handle = .ok (remaining, heap')) :
    heap.Shrinks heap' := by
  rcases found_of_decref released with ⟨entry, -, same⟩
  cases same
  exact (releaseChild (heap, []) handle).trans (cascade _ _)

theorem incref
    (taken : heap.incref handle = .ok heap') :
    heap.Shrinks heap' := by
  rcases found_of_incref taken with ⟨entry, found, rfl⟩
  exact write _ found

theorem points
    {parent child : Handle}
    (shrinks : heap.Shrinks heap')
    (points : heap'.Points parent child) :
    heap.Points parent child := by
  rcases points with ⟨payload, holds, among⟩
  exact ⟨payload, shrinks.payload holds, among⟩

/-- What is still there has its payload still. -/
theorem payload?_eq
    (shrinks : heap.Shrinks heap')
    (live : heap'.isLive handle = true) :
    heap'.payload? handle = heap.payload? handle := by
  rcases (isLive_iff heap' handle).mp live with ⟨entry, found⟩
  have holds : heap'.payload? handle = some entry.payload := by simp [payload?, found]
  rw [holds, shrinks.payload holds]

/-- What was not there is not there now. -/
theorem find?_eq_none
    (shrinks : heap.Shrinks heap')
    (missing : heap.find? handle = none) :
    heap'.find? handle = none := by
  cases found : heap'.find? handle with
  | none => rfl
  | some left =>
      have holds : heap.payload? handle = some left.payload :=
        shrinks.payload (by simp [payload?, found])
      simp [payload?, missing] at holds

theorem hasRoom_iff (shrinks : heap.Shrinks heap') :
    heap'.HasRoom ↔ heap.HasRoom := by
  rw [HasRoom, shrinks.allocations, HasRoom]

theorem reaches
    {source target : Handle}
    (shrinks : heap.Shrinks heap')
    (reaches : heap'.Reaches source target) :
    heap.Reaches source target :=
  Relation.ReflTransGen.mono (fun _ _ => shrinks.points) _ _ reaches

end Shrinks

/-! ## Layers -/

/-- Every object can be given a layer above those of its children. -/
def Layered (heap : Heap) : Prop :=
  ∃ layer : Handle → Nat,
    ∀ parent child, heap.Points parent child → layer parent < layer child

theorem layered_empty : empty.Layered :=
  ⟨fun _ => 0, by
    rintro parent child ⟨payload, holds, -⟩
    simp [payload?, find?, empty] at holds⟩

theorem Layered.of_shrinks
    {heap heap' : Heap}
    (layered : heap.Layered)
    (shrinks : heap.Shrinks heap') :
    heap'.Layered := by
  rcases layered with ⟨layer, above⟩
  exact ⟨layer, fun parent child points => above parent child (shrinks.points points)⟩

/-- An object that no other has as a child lies on top of the rest. -/
theorem Layered.of_new
    {heap heap' : Heap}
    {fresh : Handle}
    (layered : heap.Layered)
    (old : ∀ parent child, parent ≠ fresh → heap'.Points parent child → heap.Points parent child)
    (unreferenced : ∀ parent, ¬ heap'.Points parent fresh) :
    heap'.Layered := by
  rcases layered with ⟨layer, above⟩
  refine ⟨fun handle => if handle = fresh then 0 else layer handle + 1, ?_⟩
  intro parent child points
  have other : child ≠ fresh := by
    rintro rfl
    exact unreferenced parent points
  by_cases same : parent = fresh
  · simp [same, other]
  · simp only [same, other, if_false]
    exact Nat.succ_lt_succ (above parent child (old parent child same points))

/-- A link to an object that does not reach its source closes no cycle. -/
theorem Layered.of_link
    {heap heap' : Heap}
    {source : Handle}
    (layered : heap.Layered)
    (targets : Handle → Prop)
    (linked :
      ∀ parent child,
        heap'.Points parent child →
          heap.Points parent child ∨ parent = source ∧ targets child)
    (open_ended : ∀ target, targets target → ¬ heap.Reaches target source) :
    heap'.Layered := by
  rcases layered with ⟨layer, above⟩
  classical
  let below := fun handle => ∃ target, targets target ∧ heap.Reaches target handle
  refine ⟨fun handle => layer handle + if below handle then layer source + 1 else 0, ?_⟩
  intro parent child points
  rcases linked parent child points with old | ⟨rfl, isTarget⟩
  · have inherited : below parent → below child := by
      rintro ⟨target, isTarget, reaches⟩
      exact ⟨target, isTarget, reaches.tail old⟩
    have step := above parent child old
    by_cases upper : below parent
    · simp only [upper, inherited upper, if_true]
      omega
    · simp only [upper, if_false]
      omega
  · have upper : ¬ below parent := by
      rintro ⟨target, isTarget, reaches⟩
      exact open_ended target isTarget reaches
    have lower : below child := ⟨child, isTarget, .refl⟩
    simp only [upper, lower, if_false, if_true]
    omega

/-! ## Live objects -/

theorem Settling.isLive_of_points
    {heap : Heap}
    {credit : Multiset Handle}
    {work : List Handle}
    {parent child : Handle}
    (settling : heap.Settling credit work)
    (room : heap.HasRoom)
    (points : heap.Points parent child) :
    heap.isLive child = true := by
  have member := (mem_links settling.tidy room child).mpr ⟨parent, points⟩
  exact (isLive_iff heap child).mpr
    (settling.present child (Multiset.mem_add.mpr (.inr member)))

/-- An object of a balanced heap is referred to. -/
theorem Settling.mem_of_isLive
    {heap : Heap}
    {credit : Multiset Handle}
    {handle : Handle}
    (balanced : heap.Balanced credit)
    (live : heap.isLive handle = true) :
    handle ∈ credit + heap.links := by
  rcases (isLive_iff heap handle).mp live with ⟨entry, found⟩
  have count := balanced.counted found
  have counted : entry.refcount ≠ 0 := fun spent =>
    List.not_mem_nil ((balanced.due handle).mpr ⟨entry, found, spent⟩)
  rw [← Multiset.count_pos]
  omega

/-- The live objects are those reached from the references held from outside. -/
theorem Settling.isLive_iff_reached
    {heap : Heap}
    {credit : Multiset Handle}
    (balanced : heap.Balanced credit)
    (room : heap.HasRoom)
    (layered : heap.Layered)
    (handle : Handle) :
    heap.isLive handle = true ↔ ∃ root ∈ credit, heap.Reaches root handle := by
  constructor
  · rcases layered with ⟨layer, above⟩
    -- A live object has a reference; if that is a link, its source lies one layer up.
    induction depth : layer handle using Nat.strong_induction_on generalizing handle with
    | h depth step =>
        subst depth
        intro live
        rcases Multiset.mem_add.mp (balanced.mem_of_isLive live) with outside | linked
        · exact ⟨handle, outside, .refl⟩
        · rcases (mem_links balanced.tidy room handle).mp linked with ⟨parent, points⟩
          have parentLive : heap.isLive parent = true := by
            rcases points with ⟨payload, holds, -⟩
            rcases Option.map_eq_some_iff.mp holds with ⟨entry, found, -⟩
            exact (isLive_iff heap parent).mpr ⟨entry, found⟩
          rcases step (layer parent) (above parent handle points) parent rfl parentLive with
            ⟨root, outside, reaches⟩
          exact ⟨root, outside, reaches.tail points⟩
  · rintro ⟨root, outside, reaches⟩
    rcases reaches.cases_tail with same | ⟨parent, -, points⟩
    · subst same
      exact (isLive_iff heap handle).mpr
        (balanced.present handle (Multiset.mem_add.mpr (.inl outside)))
    · exact balanced.isLive_of_points room points

end Custody.Heap
