import Custody.Proofs.Heap.Representation
import Mathlib.Algebra.BigOperators.Group.Finset.Basic
import Mathlib.Order.Bounds.Basic

/-!
# What a cascade frees

A set of objects is closed if it has every object whose references are all held
by members of the set, where a reference is counted as often as it occurs among
the children.  A cascade frees the least closed set: an object of it is freed no
earlier than its last reference is given back, and an object that is left has a
reference that no freed object held.

The graph may be anything: it may have cycles, share children, repeat them and
name objects that are gone, and the counts need not agree with it.

The proof follows the cascade.  Freeing an object and giving back its references
takes it out of the graph and lowers the counts by as much as the object
contributed, so the closed sets of what is left are those of the whole without
the object.
-/

namespace Custody.Heap

/-- The children of the object a handle names; none if there is no such object. -/
def childrenOf (heap : Heap) (handle : Handle) : List Handle :=
  ((heap.payload? handle).map Payload.children).getD []

/-- How often a handle occurs among the children of the given objects. -/
def occurrences (heap : Heap) (parents : Finset Handle) (handle : Handle) : Nat :=
  ∑ parent ∈ parents, (heap.childrenOf parent).count handle

/-- Every object of which the members hold all references is a member. -/
def Closed (heap : Heap) (gone : Finset Handle) : Prop :=
  ∀ handle entry,
    heap.find? handle = some entry →
      entry.refcount ≤ heap.occurrences gone handle → handle ∈ gone

/-- What is left of `heap` when the objects in `gone` are freed is `heap'`. -/
structure Frees (heap : Heap) (gone : Finset Handle) (heap' : Heap) : Prop where
  live : ∀ handle ∈ gone, heap.isLive handle = true
  find?_eq :
    ∀ handle,
      heap'.find? handle =
        if handle ∈ gone then
          none
        else
          (heap.find? handle).map fun entry =>
            { entry with refcount := entry.refcount - heap.occurrences gone handle }
  vacant_eq :
    ∃ order : List Handle,
      order.Nodup ∧ order.toFinset = gone ∧
        heap'.vacant = order.map Handle.index ++ heap.vacant
  vacant_nodup : heap'.vacant.Nodup
  live_eq : heap'.stats.live + gone.card = heap.stats.live
  frees_eq : heap'.stats.frees = heap.stats.frees + gone.card
  allocations_eq : heap'.stats.allocations = heap.stats.allocations
  generations_eq : heap'.slots.map Slot.generation = heap.slots.map Slot.generation

variable {heap heap' : Heap} {handle : Handle} {entry : Entry} {gone : Finset Handle}
variable {work rest : List Handle}

/-! ## Children and their occurrences -/

theorem childrenOf_of_found (found : heap.find? handle = some entry) :
    heap.childrenOf handle = entry.payload.children := by
  simp [childrenOf, payload?, found]

theorem childrenOf_congr (same : heap'.payload? handle = heap.payload? handle) :
    heap'.childrenOf handle = heap.childrenOf handle := by
  rw [childrenOf, same, childrenOf]

theorem occurrences_insert
    (outside : handle ∉ gone)
    (other : Handle) :
    heap.occurrences (insert handle gone) other =
      (heap.childrenOf handle).count other + heap.occurrences gone other := by
  exact Finset.sum_insert outside

theorem occurrences_congr
    (same : ∀ parent ∈ gone, heap'.childrenOf parent = heap.childrenOf parent)
    (other : Handle) :
    heap'.occurrences gone other = heap.occurrences gone other := by
  apply Finset.sum_congr rfl
  intro parent member
  rw [same parent member]

/-! ## Giving back the references of one object -/

theorem find?_releaseChild
    (heap : Heap)
    (work : List Handle)
    (child other : Handle) :
    (releaseChild (heap, work) child).1.find? other =
      (heap.find? other).map fun entry =>
        { entry with refcount := entry.refcount - [child].count other } := by
  cases found : heap.find? child with
  | none =>
      rw [releaseChild_of_missing found]
      by_cases same : other = child
      · subst same
        simp [found]
      · simp [Ne.symm same]
  | some entry =>
      rw [releaseChild_of_found found]
      by_cases same : other = child
      · subst same
        simp [find?_write_self _ found, found]
      · simp [find?_write_of_ne _ found same, Ne.symm same]

/-- Each object loses as many references as it occurs among the children. -/
theorem find?_releaseChildren
    (heap : Heap)
    (work children : List Handle)
    (other : Handle) :
    (heap.releaseChildren work children).1.find? other =
      (heap.find? other).map fun entry =>
        { entry with refcount := entry.refcount - children.count other } := by
  induction children generalizing heap work with
  | nil => simp
  | cons child rest step =>
      rw [releaseChildren_cons, step, find?_releaseChild, Option.map_map]
      congr 1
      funext entry
      have split : (child :: rest).count other = [child].count other + rest.count other := by
        rw [← List.count_append, List.singleton_append]
      simp only [Function.comp_apply, split, Nat.cast_add]
      congr 1
      omega

/-- Giving back references touches neither the vacant list nor the totals. -/
theorem releaseChildren_unchanged
    (heap : Heap)
    (work children : List Handle) :
    (heap.releaseChildren work children).1.vacant = heap.vacant ∧
      (heap.releaseChildren work children).1.stats = heap.stats := by
  induction children generalizing heap work with
  | nil => exact ⟨rfl, rfl⟩
  | cons child rest step =>
      rw [releaseChildren_cons]
      rcases step (releaseChild (heap, work) child).1 (releaseChild (heap, work) child).2 with
        ⟨vacant, stats⟩
      rw [vacant, stats, releaseChild]
      split
      · exact ⟨rfl, rfl⟩
      · exact ⟨rfl, rfl⟩

/-- The heap after one object was freed and its references were given back. -/
def without (heap : Heap) (handle : Handle) (rest : List Handle) : Heap :=
  ((heap.vacate handle).releaseChildren rest (heap.childrenOf handle)).1

theorem find?_without_self
    (heap : Heap)
    (handle : Handle)
    (rest : List Handle) :
    (heap.without handle rest).find? handle = none := by
  rw [without, find?_releaseChildren, find?_vacate_self, Option.map_none]

theorem find?_without_of_ne
    {other : Handle}
    (found : heap.find? handle = some entry)
    (rest : List Handle)
    (distinct : other ≠ handle) :
    (heap.without handle rest).find? other =
      (heap.find? other).map fun entry =>
        { entry with refcount := entry.refcount - (heap.childrenOf handle).count other } := by
  rw [without, find?_releaseChildren, find?_vacate_of_ne found distinct]

theorem childrenOf_without_of_ne
    {other : Handle}
    (found : heap.find? handle = some entry)
    (rest : List Handle)
    (distinct : other ≠ handle) :
    (heap.without handle rest).childrenOf other = heap.childrenOf other := by
  apply childrenOf_congr
  rw [payload?, find?_without_of_ne found rest distinct, Option.map_map]
  rfl

/-- What the freed object held is what the others do not. -/
theorem occurrences_without
    (found : heap.find? handle = some entry)
    (rest : List Handle)
    (outside : handle ∉ gone)
    (other : Handle) :
    heap.occurrences (insert handle gone) other =
      (heap.childrenOf handle).count other + (heap.without handle rest).occurrences gone other := by
  rw [occurrences_insert outside]
  congr 1
  apply Eq.symm
  apply occurrences_congr
  intro parent member
  apply childrenOf_without_of_ne found
  rintro rfl
  exact outside member

/-- A set is closed with a freed object as it is closed without it in what is left. -/
theorem closed_insert_iff
    (found : heap.find? handle = some entry)
    (rest : List Handle)
    (outside : handle ∉ gone) :
    heap.Closed (insert handle gone) ↔ (heap.without handle rest).Closed gone := by
  constructor
  · intro closed other entry' found' held
    have distinct : other ≠ handle := by
      rintro rfl
      rw [find?_without_self] at found'
      cases found'
    rw [find?_without_of_ne found rest distinct] at found'
    rcases Option.map_eq_some_iff.mp found' with ⟨before, found'', rfl⟩
    have member := closed other before found'' (by
      rw [occurrences_without found rest outside, Nat.cast_add]
      simp only at held
      omega)
    exact (Finset.mem_insert.mp member).resolve_left distinct
  · intro closed other entry' found' held
    by_cases same : other = handle
    · exact same ▸ Finset.mem_insert_self _ _
    · apply Finset.mem_insert_of_mem
      rw [occurrences_without found rest outside, Nat.cast_add] at held
      apply closed other { entry' with refcount := _ }
      · rw [find?_without_of_ne found rest same, found', Option.map_some]
      · simp only
        omega

/-- The least closed set has what is due, and otherwise what is least in what is left. -/
theorem isLeast_closed_insert
    (found : heap.find? handle = some entry)
    (spent : entry.refcount ≤ 0)
    (rest : List Handle)
    (outside : handle ∉ gone)
    (least : IsLeast {gone | (heap.without handle rest).Closed gone} gone) :
    IsLeast {gone | heap.Closed gone} (insert handle gone) := by
  constructor
  · exact (closed_insert_iff found rest outside).mpr least.1
  · intro other closed
    have member : handle ∈ other :=
      closed handle entry found (spent.trans (Int.natCast_nonneg _))
    have whole : insert handle (other.erase handle) = other := Finset.insert_erase member
    have closed' : (heap.without handle rest).Closed (other.erase handle) := by
      rw [← closed_insert_iff found rest (Finset.notMem_erase handle other), whole]
      exact closed
    have below : gone ⊆ other.erase handle := least.2 closed'
    intro candidate among
    rcases Finset.mem_insert.mp among with rfl | among
    · exact member
    · exact Finset.mem_of_mem_erase (below among)

/-- An object is freed, and then what its references held alone. -/
theorem Frees.of_without
    (coherent : heap.Coherent)
    (found : heap.find? handle = some entry)
    (rest : List Handle)
    (outside : handle ∉ gone)
    (frees : (heap.without handle rest).Frees gone heap') :
    heap.Frees (insert handle gone) heap' := by
  rcases releaseChildren_unchanged (heap.vacate handle) rest (heap.childrenOf handle) with
    ⟨vacant, stats⟩
  have shrinks : heap.Shrinks (heap.without handle rest) :=
    (Shrinks.vacate found).trans (.releaseChildren _ _ _)
  constructor
  · intro other among
    rcases Finset.mem_insert.mp among with rfl | among
    · exact (isLive_iff heap _).mpr ⟨entry, found⟩
    · rcases (isLive_iff _ other).mp (frees.live other among) with ⟨left, found'⟩
      have distinct : other ≠ handle := ne_of_mem_of_not_mem among outside
      rw [find?_without_of_ne found rest distinct] at found'
      rcases Option.map_eq_some_iff.mp found' with ⟨before, found'', -⟩
      exact (isLive_iff heap other).mpr ⟨before, found''⟩
  · intro other
    rw [frees.find?_eq]
    by_cases same : other = handle
    · subst same
      simp [outside, find?_without_self]
    · simp only [Finset.mem_insert, same, false_or, find?_without_of_ne found rest same,
        Option.map_map]
      split
      · rfl
      · congr 1
        funext before
        rw [occurrences_without found rest outside]
        simp only [Function.comp_apply, Nat.cast_add]
        congr 1
        omega
  · rcases frees.vacant_eq with ⟨order, nodup, members, listed⟩
    refine ⟨order ++ [handle], ?_, ?_, ?_⟩
    · have unlisted : handle ∉ order := by
        rw [← List.mem_toFinset, members]
        exact outside
      rw [← List.concat_eq_append]
      exact nodup.concat unlisted
    · rw [List.toFinset_append, members, List.toFinset_cons, List.toFinset_nil,
        insert_empty_eq, Finset.union_singleton]
    · rw [listed, without, vacant]
      simp [Heap.vacate]
  · exact frees.vacant_nodup
  · have counted := frees.live_eq
    have positive := coherent.live_pos found
    rw [without, stats] at counted
    rw [Finset.card_insert_of_notMem outside]
    simp only [Heap.vacate] at counted
    omega
  · rw [frees.frees_eq, without, stats, Finset.card_insert_of_notMem outside]
    simp only [Heap.vacate]
    omega
  · exact frees.allocations_eq.trans shrinks.allocations
  · exact frees.generations_eq.trans shrinks.generations

/-- What is freed is not there any more. -/
theorem Frees.not_mem_of_missing
    (frees : heap.Frees gone heap')
    (missing : heap.find? handle = none) :
    handle ∉ gone := by
  intro member
  have live := frees.live handle member
  simp [isLive, missing] at live

/-! ## Freeing everything that is due -/

/-- A cascade that takes up what is due frees the least closed set. -/
theorem exists_frees_cascade
    (coherent : heap.Coherent)
    (due : heap.Due work) :
    ∃ gone, IsLeast {gone | heap.Closed gone} gone ∧ heap.Frees gone (heap.cascade work) := by
  induction heap, work using Heap.cascade.induct with
  | case1 heap =>
      rw [cascade_nil]
      refine ⟨∅, ⟨?_, ?_⟩, ?_⟩
      · intro handle entry found held
        have positive := due_nil_iff.mp due handle entry found
        simp only [occurrences, Finset.sum_empty, Nat.cast_zero] at held
        exact absurd positive (not_lt.mpr held)
      · intro other closed
        exact Finset.empty_subset other
      · constructor
        · simp
        · simp [occurrences]
        · exact ⟨[], List.nodup_nil, rfl, rfl⟩
        · exact coherent.vacant_nodup
        · rfl
        · rfl
        · rfl
        · rfl
  | case2 heap handle rest missing step =>
      rcases due.exists_find? with ⟨entry, found, -⟩
      rw [missing] at found
      cases found
  | case3 heap handle rest entry found next step =>
      rcases due.exists_find? with ⟨entry', found', spent⟩
      rw [found] at found'
      cases found'
      rcases step ((coherent.vacate found).releaseChildren _ _)
          ((due.vacate found).releaseChildren _) with ⟨gone, least, frees⟩
      have left : heap.without handle rest = next.1 := by
        rw [without, childrenOf_of_found found]
      rw [← left] at least
      have freed : (heap.without handle rest).Frees gone (next.1.cascade next.2) := by
        rw [left]
        exact frees
      have outside : handle ∉ gone :=
        freed.not_mem_of_missing (find?_without_self heap handle rest)
      rw [cascade_of_found found]
      exact ⟨insert handle gone, isLeast_closed_insert found spent rest outside least,
        .of_without coherent found rest outside freed⟩

/-! ## Giving back a reference -/

theorem childrenOf_write_refcount
    (found : heap.find? handle = some entry)
    (refcount : Int)
    (other : Handle) :
    (heap.write handle { entry with refcount }).childrenOf other = heap.childrenOf other := by
  apply childrenOf_congr
  by_cases same : other = handle
  · subst same
    simp [payload?, find?_write_self _ found, found]
  · simp [payload?, find?_write_of_ne _ found same]

/-- An object without references is in every closed set. -/
theorem closed_write_zero_iff (found : heap.find? handle = some entry) :
    (heap.write handle { entry with refcount := 0 }).Closed gone ↔
      handle ∈ gone ∧ heap.Closed gone := by
  have occurrences (other : Handle) :
      (heap.write handle { entry with refcount := 0 }).occurrences gone other =
        heap.occurrences gone other :=
    occurrences_congr (fun parent _ => childrenOf_write_refcount found 0 parent) other
  constructor
  · intro closed
    have member : handle ∈ gone :=
      closed handle _ (find?_write_self _ found) (Int.natCast_nonneg _)
    refine ⟨member, ?_⟩
    intro other entry' found' held
    by_cases same : other = handle
    · exact same ▸ member
    · rw [← find?_write_of_ne _ found same] at found'
      rw [← occurrences] at held
      exact closed other entry' found' held
  · rintro ⟨member, closed⟩
    intro other entry' found' held
    by_cases same : other = handle
    · exact same ▸ member
    · rw [find?_write_of_ne _ found same] at found'
      rw [occurrences] at held
      exact closed other entry' found' held

/-- The count of an object that is freed does not matter. -/
theorem Frees.of_write_zero
    (found : heap.find? handle = some entry)
    (member : handle ∈ gone)
    (frees : (heap.write handle { entry with refcount := 0 }).Frees gone heap') :
    heap.Frees gone heap' := by
  constructor
  · intro other among
    by_cases same : other = handle
    · exact (isLive_iff heap other).mpr ⟨entry, same ▸ found⟩
    · rw [← frees.live other among, isLive, isLive, find?_write_of_ne _ found same]
  · intro other
    rw [frees.find?_eq]
    by_cases freed : other ∈ gone
    · rw [if_pos freed, if_pos freed]
    · have distinct : other ≠ handle := (ne_of_mem_of_not_mem member freed).symm
      rw [if_neg freed, if_neg freed, find?_write_of_ne _ found distinct,
        occurrences_congr fun parent _ => childrenOf_write_refcount found 0 parent]
  · exact frees.vacant_eq
  · exact frees.vacant_nodup
  · exact frees.live_eq
  · exact frees.frees_eq
  · exact frees.allocations_eq
  · exact frees.generations_eq.trans (generations_write _ _ _)

/-- Giving back the last reference frees the least closed set that has the object. -/
theorem WellFormed.frees_of_last
    (wellFormed : heap.WellFormed)
    (found : heap.find? handle = some entry)
    (last : entry.refcount = 1) :
    ∃ heap' gone,
      heap.decref handle = .ok (0, heap') ∧
        IsLeast {gone | handle ∈ gone ∧ heap.Closed gone} gone ∧ heap.Frees gone heap' := by
  have released :
      releaseChild (heap, []) handle =
        (heap.write handle { entry with refcount := 0 }, [handle]) := by
    simp [releaseChild_of_found found, last]
  have due := wellFormed.due.releaseChild handle
  rw [released] at due
  rcases exists_frees_cascade (wellFormed.toCoherent.write _ found) due with ⟨gone, least, frees⟩
  simp only [closed_write_zero_iff found] at least
  refine ⟨_, gone, ?_, least, frees.of_write_zero found least.1.1⟩
  rw [decref_of_found found, released, last]
  rfl

/-- Giving back another reference lowers the count and nothing else. -/
theorem decref_of_shared
    (found : heap.find? handle = some entry)
    (shared : 1 < entry.refcount) :
    heap.decref handle =
      .ok (entry.refcount - 1,
        heap.write handle { entry with refcount := entry.refcount - 1 }) := by
  have left : entry.refcount - 1 ≠ 0 := by omega
  rw [decref_of_found found, releaseChild_of_found found]
  simp [left]

/--
Giving back a reference to an object that has more lowers its count by one and
changes nothing else.  Giving back the last one frees the least set that has the
object and every other whose references its members hold, each once, and lowers
the counts of the others by what the freed objects held.
-/
theorem decref_frees_least
    (operations : List Operation)
    {handle : Handle}
    {entry : Entry}
    (addressable : (empty.after operations).Addressable)
    (found : (empty.after operations).find? handle = some entry) :
    let heap := empty.after operations
    ∃ heap',
      heap.decref handle = .ok (entry.refcount - 1, heap') ∧
        (1 < entry.refcount →
          (∀ other,
            heap'.find? other =
              if other = handle then
                some { entry with refcount := entry.refcount - 1 }
              else
                heap.find? other) ∧
            heap'.vacant = heap.vacant ∧
            heap'.stats = heap.stats ∧
            heap'.slots.map Slot.generation = heap.slots.map Slot.generation) ∧
        (entry.refcount ≤ 1 →
          ∃ gone,
            IsLeast {gone | handle ∈ gone ∧ heap.Closed gone} gone ∧
              heap.Frees gone heap') := by
  intro heap
  have wellFormed : heap.WellFormed := WellFormed.empty.after addressable
  by_cases shared : 1 < entry.refcount
  · refine ⟨_, decref_of_shared found shared, ?_, ?_⟩
    · intro _
      refine ⟨?_, rfl, rfl, generations_write _ _ _⟩
      intro other
      split
      · next same => rw [same, find?_write_self _ found]
      · next distinct => rw [find?_write_of_ne _ found distinct]
    · intro few
      exact absurd shared (not_lt.mpr few)
  · have last : entry.refcount = 1 := by
      have positive := wellFormed.refcount_pos found
      omega
    rcases wellFormed.frees_of_last found last with ⟨heap', gone, released, least, frees⟩
    refine ⟨heap', ?_, ?_, ?_⟩
    · rw [released, last]
      rfl
    · intro more
      exact absurd more shared
    · intro _
      exact ⟨gone, least, frees⟩

/--
Two lists that hold each other, one of them a number twice and the other that
number once and a handle of nothing.  The number has one reference more.
-/
def entangled : Heap :=
  empty.after
    [.allocate (.int 7), .allocate (.list []), .allocate (.list [⟨1, 0⟩, ⟨0, 0⟩, ⟨9, 4⟩]),
      .setPayload ⟨1, 0⟩ (.list [⟨0, 0⟩, ⟨0, 0⟩, ⟨2, 0⟩]),
      .incref ⟨0, 0⟩, .incref ⟨0, 0⟩, .incref ⟨0, 0⟩]

/-- Both lists go with the last reference to one of them, and the number keeps one reference. -/
theorem decref_frees_least_entangled :
    entangled.Addressable ∧
      entangled.refcount? ⟨2, 0⟩ = some 1 ∧
      entangled.refcount? ⟨0, 0⟩ = some 4 ∧
      ∃ heap' gone,
        entangled.decref ⟨2, 0⟩ = .ok (0, heap') ∧
          heap'.refcount? ⟨0, 0⟩ = some 1 ∧
          heap'.vacant = [1, 2] ∧
          IsLeast {gone | ⟨2, 0⟩ ∈ gone ∧ entangled.Closed gone} gone ∧
          entangled.Frees gone heap' := by
  have addressable : entangled.Addressable := by decide_cbv
  have found : entangled.find? ⟨2, 0⟩ = some ⟨1, .list [⟨1, 0⟩, ⟨0, 0⟩, ⟨9, 4⟩]⟩ := by cbv
  rcases decref_frees_least _ addressable found with ⟨heap', released, -, last⟩
  rcases last le_rfl with ⟨gone, least, frees⟩
  have left :
      (entangled.decref ⟨2, 0⟩).map (fun result => (result.2.refcount? ⟨0, 0⟩, result.2.vacant)) =
        .ok (some 1, [1, 2]) := by
    cbv
  rw [entangled, released] at left
  rcases Prod.mk.inj (Except.ok.inj left) with ⟨refcount, vacant⟩
  exact ⟨addressable, by cbv, by cbv, heap', gone, released, refcount, vacant, least, frees⟩

end Custody.Heap
