import Custody.Proofs.Heap.Payloads
import Mathlib.Data.Finset.Card
import Mathlib.Data.List.Nodup
import Mathlib.Logic.Relation

/-!
# Walks that end

A function that follows references from object to object is given a bound on how
far it may go.  A walk that ends at all ends within the reach of the heap: every
further step that is needed takes another object, and there are no more objects
than slots.

A walk ends wherever the objects on its way can be ranked downwards.
-/

namespace Custody.Heap

variable {heap : Heap} {handle : Handle} {bound depth : Nat}

/-- Objects that are there have slots of their own. -/
theorem length_le_size
    {handles : List Handle}
    (distinct : handles.Nodup)
    (live : ∀ handle ∈ handles, heap.isLive handle = true) :
    handles.length ≤ heap.slots.size := by
  have slotted (handle : Handle) (among : handle ∈ handles) :
      ∃ slot, heap.slots[handle.index.toNat]? = some slot ∧
        slot.generation = handle.generation := by
    rcases (isLive_iff heap handle).mp (live handle among) with ⟨entry, found⟩
    rcases find?_eq_some found with ⟨slot, at_index, generation, -⟩
    exact ⟨slot, at_index, generation⟩
  have apart : (handles.map fun handle => handle.index.toNat).Nodup := by
    refine distinct.map_on fun first among second among' same => ?_
    rcases slotted first among with ⟨slot, at_index, generation⟩
    rcases slotted second among' with ⟨slot', at_index', generation'⟩
    rw [same, at_index', Option.some.injEq] at at_index
    subst at_index
    cases first
    cases second
    simp_all [UInt32.toNat_inj]
  have within : (handles.map fun handle => handle.index.toNat) ⊆ List.range heap.slots.size := by
    intro index among
    rcases List.mem_map.mp among with ⟨handle, member, rfl⟩
    rcases slotted handle member with ⟨slot, at_index, -⟩
    exact List.mem_range.mpr (Array.getElem?_eq_some_iff.mp at_index).choose
  simpa using (apart.subperm within).length_le

/-! ## Walks along a relation -/

variable {next next' : Handle → Handle → Prop}

/-- Every walk from a handle has fewer steps than the bound. -/
def EndsWithin (next : Handle → Handle → Prop) : Nat → Handle → Prop
  | 0, _ => False
  | bound + 1, handle => ∀ other, next handle other → EndsWithin next bound other

namespace EndsWithin

theorem mono
    (deeper : depth ≤ bound)
    (ends : EndsWithin next depth handle) :
    EndsWithin next bound handle := by
  induction depth generalizing bound handle with
  | zero => exact ends.elim
  | succ depth step =>
      obtain ⟨bound, rfl⟩ : ∃ more, bound = more + 1 := ⟨bound - 1, by omega⟩
      exact fun other goes => step (by omega) (ends other goes)

/-- With fewer ways to go there are fewer walks. -/
theorem of_fewer
    (fewer : ∀ {handle other}, next' handle other → next handle other)
    (ends : EndsWithin next bound handle) :
    EndsWithin next' bound handle := by
  induction bound generalizing handle with
  | zero => exact ends
  | succ bound step => exact fun other goes => step (ends other (fewer goes))

/-- A rank that falls with each step bounds the walks. -/
theorem of_rank
    {rank : Handle → Nat}
    (falls : ∀ handle other, next handle other → rank other < rank handle)
    (low : rank handle < bound) :
    EndsWithin next bound handle := by
  induction bound generalizing handle with
  | zero => exact absurd low (Nat.not_lt_zero _)
  | succ bound step =>
      intro other goes
      have lower := falls handle other goes
      exact step (by omega)

/--
If walks from a handle need one more step than a number, there is a walk of
exactly so many steps, and it does not come by any object twice.
-/
private theorem exists_chain
    (live : ∀ {handle other}, next handle other → heap.isLive handle = true)
    (shallow : ¬ EndsWithin next depth handle)
    (deep : EndsWithin next (depth + 1) handle) :
    ∃ chain : List Handle,
      chain.length = depth ∧ chain.Nodup ∧
        ∀ member ∈ chain,
          heap.isLive member = true ∧ EndsWithin next (depth + 1) member := by
  induction depth generalizing handle with
  | zero => exact ⟨[], rfl, List.nodup_nil, nofun⟩
  | succ depth step =>
      obtain ⟨other, goes, missing⟩ :
          ∃ other, next handle other ∧ ¬ EndsWithin next depth other := by
        by_contra none
        exact shallow fun other goes => by_contra fun missing => none ⟨other, goes, missing⟩
      rcases step missing (deep other goes) with ⟨chain, length, distinct, members⟩
      refine ⟨handle :: chain, by rw [List.length_cons, length], ?_, ?_⟩
      · exact List.nodup_cons.mpr ⟨fun member => shallow (members handle member).2, distinct⟩
      · intro member isMember
        rcases List.mem_cons.mp isMember with rfl | later
        · exact ⟨live goes, deep⟩
        · exact ⟨(members member later).1, (members member later).2.mono (Nat.le_succ _)⟩

/-- Walks among objects that end at all end within the reach of the heap. -/
theorem reach
    (live : ∀ {handle other}, next handle other → heap.isLive handle = true)
    (ends : EndsWithin next bound handle) :
    EndsWithin next heap.reach handle := by
  induction bound with
  | zero => exact ends.elim
  | succ bound step =>
      by_cases shallow : EndsWithin next bound handle
      · exact step shallow
      · rcases exists_chain live shallow ends with ⟨chain, length, distinct, members⟩
        have few := length_le_size distinct fun member among => (members member among).1
        exact ends.mono (by rw [Heap.reach]; omega)

end EndsWithin

/-- Where a rank falls with each step no walk comes back to where it was. -/
theorem not_transGen_of_rank
    {rank : Handle → Nat}
    (falls : ∀ handle other, next handle other → rank other < rank handle) :
    ¬ Relation.TransGen next handle handle := by
  intro returns
  have lower : ∀ {other}, Relation.TransGen next handle other → rank other < rank handle := by
    intro other walk
    induction walk with
    | single goes => exact falls _ _ goes
    | tail _ goes before => exact (falls _ _ goes).trans before
  exact (lower returns).false

end Custody.Heap
