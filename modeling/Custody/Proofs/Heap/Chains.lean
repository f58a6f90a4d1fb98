import Custody.Proofs.Heap.Ledger

/-!
# Chains that nothing else leads into

A chain of entries is written into the heap from its end to its start.  Its first
entry may be linked to by one object outside, and every other entry is linked to by
the one before it and by nothing else.  So the count of each entry is one more than
the references that are held to it from outside, and when nothing is left that leads
to the first entry, nothing is left of the chain.
-/

namespace Custody.Heap

variable {heap heap' : Heap} {credit : Multiset Handle} {before head : Option Handle}
variable {entries : List Handle} {frames : List Frame} {parent child new : Handle}
variable {payload : Payload}

/-! ## Objects with one parent -/

/-- The links to an object that only one object has are those of that object. -/
theorem count_links_of_only
    (tidy : heap.Tidy)
    (room : heap.HasRoom)
    (holds : heap.payload? parent = some payload)
    (only : ∀ other, heap.Points other child → other = parent) :
    heap.links.count child = payload.children.count child := by
  rcases Option.map_eq_some_iff.mp holds with ⟨entry, found, rfl⟩
  have shrinks : heap.Shrinks (heap.vacate parent) := .vacate found
  have gone : (heap.vacate parent).payload? parent = none := by
    rw [payload?, find?_vacate_self, Option.map_none]
  have others : child ∉ (heap.vacate parent).links := by
    rw [mem_links (tidy.vacate found) (shrinks.hasRoom_iff.mpr room)]
    rintro ⟨other, points⟩
    obtain rfl := only other (shrinks.points points)
    rcases points with ⟨payload, holds', -⟩
    cases gone.symm.trans holds'
  rw [← links_vacate found, Multiset.count_add, Multiset.count_eq_zero.mpr others, zero_add,
    Multiset.coe_count]

/-- The count of an object that only one object has a link to. -/
theorem Settling.refcount?_of_only
    (balanced : heap.Balanced credit)
    (room : heap.HasRoom)
    (holds : heap.payload? parent = some payload)
    (among : child ∈ payload.children)
    (only : ∀ other, heap.Points other child → other = parent) :
    heap.refcount? child =
      some ((credit.count child + payload.children.count child : Nat) : Int) := by
  have live := balanced.isLive_of_points room ⟨payload, holds, among⟩
  rcases (isLive_iff heap child).mp live with ⟨entry, found⟩
  rw [refcount?, found, Option.map_some, balanced.counted found, Multiset.count_add,
    count_links_of_only balanced.tidy room holds only]

/-! ## Chains -/

/--
A chain of entries with the frames that they show, from the first to the last.  The
first is linked to by the object before it, if there is one, and nothing else links
to any of them.
-/
inductive Spells (heap : Heap) :
    Option Handle → Option Handle → List Handle → List Frame → Prop where
  | nil {before : Option Handle} : Spells heap before none [] []
  | cons {before next : Option Handle} {entry : Handle} {entries : List Handle} {frame : Frame}
      {frames : List Frame}
      (written : heap.payload? entry = some (.traceback ⟨frame, next⟩))
      (only : ∀ other, heap.Points other entry → some other = before)
      (rest : Spells heap (some entry) next entries frames) :
      Spells heap before (some entry) (entry :: entries) (frame :: frames)

namespace Spells

theorem isLive
    (spells : heap.Spells before head entries frames) :
    ∀ entry ∈ entries, heap.isLive entry = true := by
  induction spells with
  | nil => exact List.forall_mem_nil _
  | cons written _ _ step => exact List.forall_mem_cons.mpr ⟨isLive_of_payload? written, step⟩

theorem head_eq (spells : heap.Spells before head entries frames) : head = entries.head? := by
  cases spells with
  | nil => rfl
  | cons => rfl

theorem length_eq
    (spells : heap.Spells before head entries frames) :
    entries.length = frames.length := by
  induction spells with
  | nil => rfl
  | cons _ _ _ step => rw [List.length_cons, List.length_cons, step]

/-- A chain stays while its entries keep their payloads and get no further links. -/
theorem congr
    (spells : heap.Spells before head entries frames)
    (same : ∀ entry ∈ entries, heap'.payload? entry = heap.payload? entry)
    (old : ∀ entry ∈ entries, ∀ other, heap'.Points other entry → heap.Points other entry) :
    heap'.Spells before head entries frames := by
  induction spells with
  | nil => exact .nil
  | cons written only _ step =>
      rw [List.forall_mem_cons] at same old
      exact .cons (same.1.trans written) (fun other points => only other (old.1 other points))
        (step same.2 old.2)

/-- A chain that nothing led into is linked to by an object that gets a link to its head. -/
theorem lead
    (spells : heap.Spells none head entries frames)
    (distinct : entries.Nodup)
    (same : ∀ entry ∈ entries, heap'.payload? entry = heap.payload? entry)
    (linked :
      ∀ parent child,
        heap'.Points parent child →
          heap.Points parent child ∨ parent = new ∧ head = some child) :
    heap'.Spells (some new) head entries frames := by
  cases spells with
  | nil => exact .nil
  | @cons _ next entry entries frame frames written only rest =>
      rw [List.forall_mem_cons] at same
      rw [List.nodup_cons] at distinct
      refine .cons (same.1.trans written) (fun other points => ?_) (rest.congr same.2 ?_)
      · rcases linked other entry points with old | ⟨rfl, -⟩
        · cases only other old
        · rfl
      · intro further among other points
        rcases linked other further points with old | ⟨-, isHead⟩
        · exact old
        · cases isHead
          exact absurd among distinct.1

/-- A chain stays while objects are freed, if its head does. -/
theorem of_shrinks
    (spells : heap.Spells before head entries frames)
    (shrinks : heap.Shrinks heap')
    (there : ∀ parent child, heap'.Points parent child → heap'.isLive child = true)
    (live : ∀ entry, head = some entry → heap'.isLive entry = true) :
    heap'.Spells before head entries frames := by
  induction spells with
  | nil => exact .nil
  | @cons before next entry entries frame frames written only _ step =>
      have written' := (shrinks.payload?_eq (live entry rfl)).trans written
      refine .cons written' (fun other points => only other (shrinks.points points))
        (step fun further isNext => ?_)
      exact there entry further ⟨_, written', by simp [Payload.children, isNext]⟩

/-- The object before a chain holds it once, and so does each entry the one that follows. -/
theorem refcounts
    (spells : heap.Spells (some parent) head entries frames)
    (balanced : heap.Balanced credit)
    (room : heap.HasRoom)
    (holds : heap.payload? parent = some payload)
    (once : ∀ entry, head = some entry → payload.children.count entry = 1) :
    ∀ entry ∈ entries, heap.refcount? entry = some ((credit.count entry + 1 : Nat) : Int) := by
  induction entries generalizing parent head frames payload with
  | nil => exact List.forall_mem_nil _
  | cons entry entries step =>
      cases spells with
      | @cons _ next _ _ frame frames written only rest =>
          have counted := once entry rfl
          refine List.forall_mem_cons.mpr ⟨?_, step rest written fun further isNext => ?_⟩
          · rw [balanced.refcount?_of_only room holds (List.count_pos_iff.mp (by omega))
              fun other points => Option.some.inj (only other points), counted]
          · simp [Payload.children, isNext]

/-- Nothing is left of a chain once the object before it is gone and nobody holds an entry. -/
theorem not_isLive
    (spells : heap.Spells before head entries frames)
    (shrinks : heap.Shrinks heap')
    (balanced : heap'.Balanced credit)
    (room : heap'.HasRoom)
    (gone : ∀ parent, before = some parent → heap'.isLive parent = false)
    (unheld : ∀ entry ∈ entries, entry ∉ credit) :
    ∀ entry ∈ entries, heap'.isLive entry = false := by
  induction spells with
  | nil => exact List.forall_mem_nil _
  | @cons before next entry entries frame frames written only _ step =>
      rw [List.forall_mem_cons] at unheld
      have dead : heap'.isLive entry = false := by
        rw [← Bool.not_eq_true]
        intro live
        rcases Multiset.mem_add.mp (balanced.mem_of_isLive live) with held | linked
        · exact unheld.1 held
        · rcases (mem_links balanced.tidy room entry).mp linked with ⟨other, points⟩
          have missing := gone other (only other (shrinks.points points)).symm
          rcases points with ⟨payload, holds, -⟩
          rw [isLive_of_payload? holds] at missing
          cases missing
      refine List.forall_mem_cons.mpr ⟨dead, step (fun parent isEntry => ?_) unheld.2⟩
      rwa [← Option.some.inj isEntry]

end Spells

end Custody.Heap
