import Custody.Proofs.Heap.Display
import Mathlib.Algebra.Order.BigOperators.Group.List
import Mathlib.Algebra.Order.Group.Nat

/-!
# Objects hold what was there before them

A new object is made of handles that are known by then, and its own handle is
not yet among them.  What an object holds is never written again, but for the
cause and the traceback of an exception.  So nothing leads from an object back
to it unless by way of these links, whether or not the objects on the way are
still there: a slot that is used again goes under another handle.

Whatever follows references other than causes and tracebacks therefore comes to
an end, and the reach of the heap is far enough to see it.
-/

namespace Custody.Heap

variable {heap heap' : Heap} {handle : Handle} {payload : Payload} {depth bound : Nat}

/-- An object was made of others, which it holds for as long as it is there. -/
def Holds (heap : Heap) (parent child : Handle) : Prop :=
  ∃ payload, heap.payload? parent = some payload ∧ child ∈ payload.core.children

/-- The null handle, and every handle under which an object was there at some time. -/
def Known (heap : Heap) (handle : Handle) : Prop :=
  handle = .null ∨
    ∃ earlier, empty.Evolves earlier ∧ earlier.Evolves heap ∧ earlier.isLive handle = true

/--
The heap came about by operations that write nothing but links, every reference
in it is to a known handle, and what is held ranks below what holds it.
-/
structure Founded (heap : Heap) : Prop where
  origin : empty.Evolves heap
  known : ∀ {parent child}, heap.Points parent child → heap.Known child
  ranked :
    ∃ rank : Handle → Nat, ∀ parent child, heap.Holds parent child → rank child < rank parent

/-! ## Known handles -/

namespace Known

theorem null (heap : Heap) : heap.Known .null :=
  .inl rfl

theorem of_isLive
    (origin : empty.Evolves heap)
    (live : heap.isLive handle = true) :
    heap.Known handle :=
  .inr ⟨heap, origin, .refl, live⟩

/-- What is known stays known. -/
theorem evolves
    (known : heap.Known handle)
    (evolves : heap.Evolves heap') :
    heap'.Known handle := by
  rcases known with null | ⟨earlier, origin, since, live⟩
  · exact .inl null
  · exact .inr ⟨earlier, origin, since.trans evolves, live⟩

end Known

/-- A new object is there. -/
theorem isLive_allocate
    (origin : empty.Evolves heap)
    (room : heap.HasRoom) :
    (heap.allocate payload).2.isLive (heap.allocate payload).1 = true := by
  have holds :
      (heap.allocate payload).2.payload? (heap.allocate payload).1 = some payload := by
    rw [payload?_allocate (origin.wellFormed room).toTidy room, if_pos rfl]
  exact isLive_of_payload? holds

/-- The handle of a new object was not known before. -/
theorem not_known_allocate
    (origin : empty.Evolves heap)
    (room : (heap.allocate payload).2.HasRoom) :
    ¬ heap.Known (heap.allocate payload).1 := by
  have made : heap.Evolves (heap.allocate payload).2 := .single (.allocate payload)
  have before := made.hasRoom room
  have tidy := (origin.wellFormed before).toTidy
  have addressable := tidy.addressable_allocate before payload
  have live : (heap.allocate payload).2.isLive (heap.allocate payload).1 = true :=
    isLive_allocate origin before
  rintro (null | ⟨earlier, first, since, there⟩)
  · exact allocate_ne_null tidy addressable null
  · have gone : heap.isLive (heap.allocate payload).1 = false := by
      rw [isLive, find?_allocate_fresh tidy addressable, Option.isSome_none]
    rw [first.isLive_eq_false since made room there gone] at live
    cases live

/-! ## What is held -/

/-- Whatever an object holds it points at. -/
theorem Holds.points
    {parent child : Handle}
    (holds : heap.Holds parent child) :
    heap.Points parent child := by
  rcases holds with ⟨payload, written, among⟩
  exact ⟨payload, written, payload.mem_children_of_core among⟩

theorem Holds.isLive
    {parent child : Handle}
    (holds : heap.Holds parent child) :
    heap.isLive parent = true :=
  isLive_of_payload? holds.choose_spec.1

/-- A class holds its base. -/
theorem holds_of_baseOf
    {base : Handle}
    (derives : heap.baseOf handle = some base) :
    heap.Holds handle base := by
  rw [baseOf] at derives
  split at derives
  · next info written =>
      exact ⟨_, written, by simp [Payload.core, Payload.children, derives]⟩
  · cases derives

/-- Lists and exceptions hold what they show. -/
theorem holds_of_mem_shown
    {part : Handle}
    (isShown : part ∈ heap.shown handle) :
    heap.Holds handle part := by
  rw [shown] at isShown
  split at isShown
  · next written => exact ⟨_, written, isShown⟩
  · next written => exact ⟨_, written, by simp [Payload.core, Payload.children, isShown]⟩
  · cases isShown

namespace Founded

/-! ## What keeps a heap founded -/

theorem empty : Heap.empty.Founded where
  origin := .refl
  known := by
    rintro parent child ⟨payload, written, -⟩
    simp [payload?, find?, Heap.empty] at written
  ranked := by
    refine ⟨fun _ => 0, ?_⟩
    rintro parent child ⟨payload, written, -⟩
    simp [payload?, find?, Heap.empty] at written

/-- Counting and freeing add no reference. -/
theorem of_shrinks
    (founded : heap.Founded)
    (evolves : heap.Evolves heap')
    (shrinks : heap.Shrinks heap') :
    heap'.Founded where
  origin := founded.origin.trans evolves
  known := fun points => (founded.known (shrinks.points points)).evolves evolves
  ranked := by
    rcases founded.ranked with ⟨rank, falls⟩
    refine ⟨rank, fun parent child holds => falls parent child ?_⟩
    rcases holds with ⟨payload, written, among⟩
    exact ⟨payload, shrinks.payload written, among⟩

/-- A new object ranks above all that it holds. -/
theorem allocate
    (founded : heap.Founded)
    (room : (heap.allocate payload).2.HasRoom)
    (known : ∀ child ∈ payload.children, heap.Known child) :
    (heap.allocate payload).2.Founded := by
  have made : heap.Evolves (heap.allocate payload).2 := .single (.allocate payload)
  have before := made.hasRoom room
  have tidy := (founded.origin.wellFormed before).toTidy
  have fresh := not_known_allocate founded.origin room
  refine ⟨founded.origin.trans made, fun {parent child} points => ?_, ?_⟩
  · rcases points_allocate tidy before points with old | ⟨-, among⟩
    · exact (founded.known old).evolves made
    · exact (known child among).evolves made
  · rcases founded.ranked with ⟨rank, falls⟩
    refine ⟨fun handle =>
      if handle = (heap.allocate payload).1 then (payload.core.children.map rank).sum + 1
      else rank handle, ?_⟩
    rintro parent child ⟨payload', written, among⟩
    rw [payload?_allocate tidy before] at written
    simp only
    split at written
    · next isNew =>
        cases written
        have other : child ≠ (heap.allocate payload).1 := by
          rintro rfl
          exact fresh (known _ (payload.mem_children_of_core among))
        have below := List.le_sum_of_mem (List.mem_map_of_mem (f := rank) among)
        rw [if_pos isNew, if_neg other]
        omega
    · next isOld =>
        have holds : heap.Holds parent child := ⟨payload', written, among⟩
        have other : child ≠ (heap.allocate payload).1 := by
          rintro rfl
          exact fresh (founded.known holds.points)
        rw [if_neg isOld, if_neg other]
        exact falls parent child holds

/-- An exception may be given any known links. -/
theorem relink
    {info info' : ExceptionInfo}
    (founded : heap.Founded)
    (written : heap.payload? handle = some (.exception info))
    (kept : (Payload.exception info').core = (Payload.exception info).core)
    (changed : heap.setPayload handle (.exception info') = .ok heap')
    (known : ∀ child ∈ (Payload.exception info').children, heap.Known child) :
    heap'.Founded := by
  have altered : heap.Evolves heap' := .single (.relink written kept changed)
  refine ⟨founded.origin.trans altered, ?_, ?_⟩
  · rintro parent child ⟨payload, written', among⟩
    rw [payload?_setPayload changed] at written'
    split at written'
    · cases written'
      exact (known child among).evolves altered
    · exact (founded.known ⟨payload, written', among⟩).evolves altered
  · rcases founded.ranked with ⟨rank, falls⟩
    refine ⟨rank, fun parent child holds => falls parent child ?_⟩
    rcases holds with ⟨payload, written', among⟩
    rw [payload?_setPayload changed] at written'
    split at written'
    · next same =>
        cases written'
        rw [kept] at among
        exact ⟨_, same ▸ written, among⟩
    · exact ⟨payload, written', among⟩

/-! ## What follows -/

/-- Nothing that an object holds leads back to it. -/
theorem not_returns
    (founded : heap.Founded)
    (handle : Handle) :
    ¬ Relation.TransGen heap.Holds handle handle := by
  rcases founded.ranked with ⟨rank, falls⟩
  exact not_transGen_of_rank falls

/-- All ways along what objects hold end within the reach of the heap. -/
theorem endsWithin
    (founded : heap.Founded)
    (far : heap.reach ≤ bound)
    (handle : Handle) :
    EndsWithin heap.Holds bound handle := by
  rcases founded.ranked with ⟨rank, falls⟩
  have ends : EndsWithin heap.Holds (rank handle + 1) handle := .of_rank falls (Nat.lt_succ_self _)
  exact (ends.reach Holds.isLive).mono far

end Founded

/-! ## Classes -/

theorem subclassWithin_mono
    {super sub : Handle}
    {answer : Bool}
    (deeper : depth ≤ bound)
    (decided : heap.subclassWithin super depth sub = some answer) :
    heap.subclassWithin super bound sub = some answer := by
  induction depth generalizing bound sub with
  | zero => cases decided
  | succ depth step =>
      obtain ⟨bound, rfl⟩ : ∃ more, bound = more + 1 := ⟨bound - 1, by omega⟩
      rw [subclassWithin] at decided ⊢
      split at decided
      · next same => rwa [if_pos same]
      · next apart =>
          rw [if_neg apart]
          split at decided
          · exact step (by omega) decided
          · exact decided

/-- Whether a class derives from another is decided if walks along its bases to the other end. -/
theorem isSome_subclassWithin_iff
    {super sub : Handle} :
    (heap.subclassWithin super bound sub).isSome = true ↔
      EndsWithin (fun type base => type ≠ super ∧ heap.baseOf type = some base) bound sub := by
  induction bound generalizing sub with
  | zero => exact ⟨nofun, nofun⟩
  | succ bound step =>
      rw [subclassWithin]
      by_cases same : sub = super
      · simp [same, EndsWithin]
      · rw [if_neg same]
        cases derives : heap.baseOf sub with
        | none => simp [EndsWithin, derives]
        | some base => simp [EndsWithin, same, derives, step]

/-- What is decided at all is decided within the reach of the heap. -/
theorem subclassWithin_reach
    {super sub : Handle}
    {answer : Bool}
    (decided : heap.subclassWithin super bound sub = some answer) :
    heap.subclassWithin super heap.reach sub = some answer := by
  have ends := isSome_subclassWithin_iff.mp (Option.isSome_of_eq_some decided)
  have within := isSome_subclassWithin_iff.mpr
    (ends.reach fun goes => (holds_of_baseOf goes.2).isLive)
  rcases Option.isSome_iff_exists.mp within with ⟨answer', decided'⟩
  have more := subclassWithin_mono (le_max_left bound heap.reach) decided
  rw [subclassWithin_mono (le_max_right bound heap.reach) decided'] at more
  rwa [more] at decided'

theorem isSubclass_eq_true_iff
    {sub super : Handle} :
    heap.isSubclass sub super = true ↔
      ∃ bound, heap.subclassWithin super bound sub = some true := by
  rw [isSubclass]
  constructor
  · intro derives
    refine ⟨heap.reach, ?_⟩
    cases decided : heap.subclassWithin super heap.reach sub with
    | none => simp [decided] at derives
    | some answer => simpa [decided] using derives
  · rintro ⟨bound, decided⟩
    rw [subclassWithin_reach decided, Option.getD_some]

@[simp]
theorem isSubclass_refl (heap : Heap) (type : Handle) : heap.isSubclass type type = true := by
  simp [isSubclass, reach, subclassWithin]

theorem subclassWithin_trans
    {sub mid super : Handle}
    (first : heap.subclassWithin mid depth sub = some true)
    (second : heap.subclassWithin super bound mid = some true) :
    heap.subclassWithin super (depth + bound) sub = some true := by
  induction depth generalizing sub with
  | zero => cases first
  | succ depth step =>
      rw [subclassWithin] at first
      split at first
      · next same =>
          rw [same]
          exact subclassWithin_mono (by omega) second
      · rw [Nat.add_right_comm, subclassWithin]
        split
        · rfl
        · split at first
          · exact step first
          · cases first

theorem isSubclass_trans
    {sub mid super : Handle}
    (first : heap.isSubclass sub mid = true)
    (second : heap.isSubclass mid super = true) :
    heap.isSubclass sub super = true := by
  rw [isSubclass_eq_true_iff] at first second ⊢
  rcases first with ⟨bound, first⟩
  rcases second with ⟨bound', second⟩
  exact ⟨bound + bound', subclassWithin_trans first second⟩

/-- A class derives from the same classes in another heap that agrees about its bases. -/
theorem Agree.isSubclass_eq
    {among : Handle → Prop}
    (agree : Agree among heap heap')
    (super : Handle)
    (isAmong : among handle) :
    heap'.isSubclass handle super = heap.isSubclass handle super := by
  rw [Bool.eq_iff_iff, isSubclass_eq_true_iff, isSubclass_eq_true_iff]
  exact exists_congr fun bound => by rw [agree.subclassWithin_eq super bound isAmong]

/-- What derives from a class is a class. -/
theorem isType_of_isSubclass
    {sub super : Handle}
    (derives : heap.isSubclass sub super = true)
    (isClass : heap.isType super = true) :
    heap.isType sub = true := by
  rcases eq_or_isType_of_isSubclass derives with rfl | isType
  · exact isClass
  · exact isType

namespace Founded

/-- Whether a class derives from another is decided along its bases. -/
theorem subclassWithin_eq
    (founded : heap.Founded)
    (far : heap.reach ≤ bound)
    (sub super : Handle) :
    heap.subclassWithin super bound sub = some (heap.isSubclass sub super) := by
  have within : (heap.subclassWithin super heap.reach sub).isSome = true := by
    rw [isSome_subclassWithin_iff]
    exact (founded.endsWithin le_rfl sub).of_fewer fun goes => holds_of_baseOf goes.2
  rcases Option.isSome_iff_exists.mp within with ⟨answer, decided⟩
  rw [isSubclass, subclassWithin_mono far decided, decided, Option.getD_some]

/-! ## Texts -/

/-- The literal of an object is written to its last part. -/
theorem reprWithin_eq
    (founded : heap.Founded)
    (far : heap.reach ≤ bound)
    (handle : Handle) :
    heap.reprWithin bound handle = some (heap.repr handle) := by
  have within : (heap.reprWithin heap.reach handle).isSome = true := by
    rw [isSome_reprWithin_iff]
    exact (founded.endsWithin le_rfl handle).of_fewer holds_of_mem_shown
  rcases Option.isSome_iff_exists.mp within with ⟨text, written⟩
  rw [repr, reprWithin_mono far written, written, Option.getD_some]

/-- The text of an object is written to its last part. -/
theorem strWithin_eq
    (founded : heap.Founded)
    (far : heap.reach ≤ bound)
    (handle : Handle) :
    heap.strWithin bound handle = some (heap.str handle) := by
  have within : (heap.strWithin heap.reach handle).isSome = true := by
    rw [isSome_strWithin, founded.reprWithin_eq le_rfl handle, Option.isSome_some]
  rcases Option.isSome_iff_exists.mp within with ⟨text, written⟩
  rw [str, strWithin_mono far written, written, Option.getD_some]

end Founded

end Custody.Heap
