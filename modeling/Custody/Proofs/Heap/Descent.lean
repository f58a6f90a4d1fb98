import Custody.Proofs.Heap.Lineage

/-!
# Deriving is a partial order

A class derives from those that are met along the links from class to base, itself
among them.  The search for a class among them is bounded, and finds exactly these.

As no way along the links leads back, two classes that derive from each other are
the same.
-/

namespace Custody.Heap

variable {heap : Heap} {sub mid super : Handle}

/-- A class is met along base links from another one. -/
def Derives (heap : Heap) : Handle → Handle → Prop :=
  Relation.ReflTransGen fun type base => heap.baseOf type = some base

/-- The search along the base links ends wherever they lead to what is searched for. -/
theorem Derives.exists_bound
    (derives : heap.Derives sub super) :
    ∃ bound, heap.subclassWithin super bound sub = some true := by
  induction derives using Relation.ReflTransGen.head_induction_on with
  | refl => exact ⟨1, by rw [subclassWithin, if_pos rfl]⟩
  | head goes _ further =>
      rcases further with ⟨bound, found⟩
      refine ⟨bound + 1, ?_⟩
      rw [subclassWithin, goes]
      split
      · rfl
      · exact found

theorem derives_of_subclassWithin
    {bound : Nat}
    (found : heap.subclassWithin super bound sub = some true) :
    heap.Derives sub super := by
  induction bound generalizing sub with
  | zero => cases found
  | succ bound step =>
      rw [subclassWithin] at found
      split at found
      · next same => exact same ▸ .refl
      · split at found
        · next base goes => exact .head goes (step found)
        · cases found

/-- What is found along the base links is what the class derives from. -/
theorem isSubclass_iff_derives :
    heap.isSubclass sub super = true ↔ heap.Derives sub super := by
  rw [isSubclass_eq_true_iff]
  constructor
  · rintro ⟨bound, found⟩
    exact derives_of_subclassWithin found
  · exact Derives.exists_bound

instance (heap : Heap) (sub super : Handle) : Decidable (heap.Derives sub super) :=
  decidable_of_iff _ isSubclass_iff_derives

/-- Where classes derive from each other there is only one class. -/
theorem Founded.isSubclass_antisymm
    (founded : heap.Founded)
    (below : heap.isSubclass sub super = true)
    (above : heap.isSubclass super sub = true) :
    sub = super := by
  rw [isSubclass_iff_derives] at below above
  rcases Relation.reflTransGen_iff_eq_or_transGen.mp below with same | further
  · exact same.symm
  · -- all the way down and up again
    have returns := further.trans_left above
    exact absurd (returns.lift id fun _ _ => holds_of_baseOf) (founded.not_returns _)

end Custody.Heap
