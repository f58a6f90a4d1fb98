import Custody.Proofs.Heap.Descent
import Custody.Proofs.Interpreter.Walks

/-!
# What matches a pattern

A pattern is a class, or a list of patterns.  When all its lists are opened, down to the
innermost, what is found in it are its leaves.  A class or an instance matches a pattern
if it is met at one of the leaves: its class derives from the leaf, or is the leaf.

What is found at a leaf does not depend on where the leaf stands in the pattern, and a
search for it comes to its end because no list is in itself.
-/

namespace Custody

/-! ## Lists, item by item -/

section Lists

variable {α : Type} {items : List α} {matching matching' : α → Option Bool} {answer : Bool}

theorem List.exists_of_anyM
    (found : items.anyM matching = some true) :
    ∃ item ∈ items, matching item = some true := by
  induction items with
  | nil => simp [List.anyM] at found
  | cons item rest step =>
      simp only [List.anyM, Option.bind_eq_bind, Option.bind_eq_some_iff] at found
      rcases found with ⟨first, decided, others⟩
      cases first with
      | true => exact ⟨item, List.mem_cons_self, decided⟩
      | false =>
          rcases step others with ⟨other, among, decided'⟩
          exact ⟨other, List.mem_cons_of_mem _ among, decided'⟩

theorem List.of_anyM_eq_false
    (none : items.anyM matching = some false) :
    ∀ item ∈ items, matching item = some false := by
  induction items with
  | nil => nofun
  | cons item rest step =>
      simp only [List.anyM, Option.bind_eq_bind, Option.bind_eq_some_iff] at none
      rcases none with ⟨first, decided, others⟩
      cases first with
      | true => cases others
      | false => exact List.forall_mem_cons.mpr ⟨decided, step others⟩

/-- If each answer is at least as good, so is the answer for all. -/
theorem List.anyM_rises
    (rises :
      ∀ item ∈ items, ∀ answer, matching item = some answer →
        ∃ answer', matching' item = some answer' ∧ (answer = true → answer' = true))
    (decided : items.anyM matching = some answer) :
    ∃ answer', items.anyM matching' = some answer' ∧ (answer = true → answer' = true) := by
  induction items with
  | nil => exact ⟨false, rfl, fun found => by cases decided; exact found⟩
  | cons item rest step =>
      rw [List.forall_mem_cons] at rises
      simp only [List.anyM, Option.bind_eq_bind, Option.bind_eq_some_iff] at decided
      rcases decided with ⟨first, found, others⟩
      rcases rises.1 first found with ⟨first', found', better⟩
      cases first' with
      | true => exact ⟨true, by simp [List.anyM, found'], fun _ => rfl⟩
      | false =>
          cases first with
          | true => cases better rfl
          | false =>
              rcases step rises.2 others with ⟨answer', decided', better'⟩
              exact ⟨answer', by simpa [List.anyM, found'] using decided', better'⟩

end Lists

/-! ## Leaves -/

namespace Heap

variable {heap : Heap} {leaf type : Handle}

/-- What is found in a pattern that is opened as long as it is a list. -/
inductive Leaf (heap : Heap) : Handle → Handle → Prop where
  | closed {pattern : Handle} (notList : ∀ items, heap.payload? pattern ≠ some (.list items)) :
      heap.Leaf pattern pattern
  | item {pattern item leaf : Handle} {items : List Handle}
      (written : heap.payload? pattern = some (.list items))
      (among : item ∈ items)
      (further : heap.Leaf item leaf) :
      heap.Leaf pattern leaf

/-- A class is met at a leaf if it derives from it or, where that is no class, is the same. -/
def MeetsAt (heap : Heap) (type leaf : Handle) : Prop :=
  leaf.isNull = false ∧
    if heap.isType leaf then heap.isSubclass type leaf = true else type = leaf

/-- At a class is met what derives from it. -/
theorem meetsAt_iff_of_isType
    (isClass : heap.isType leaf = true) :
    heap.MeetsAt type leaf ↔ heap.isSubclass type leaf = true := by
  rw [MeetsAt, if_pos isClass]
  exact and_iff_right (isNull_of_isLive (isLive_of_isType isClass))

/-- A class is met at classes only. -/
theorem MeetsAt.isSubclass
    (meets : heap.MeetsAt type leaf)
    (isClass : heap.isType type = true) :
    heap.isType leaf = true ∧ heap.isSubclass type leaf = true := by
  cases isClass' : heap.isType leaf with
  | true => exact ⟨rfl, (meetsAt_iff_of_isType isClass').mp meets⟩
  | false =>
      have same := meets.2
      rw [isClass', if_neg Bool.false_ne_true] at same
      rw [same, isClass'] at isClass
      cases isClass

end Heap

/-! ## Matching -/

namespace Interpreter

variable {interp : Interpreter} {given pattern leaf type : Handle} {depth : Nat} {answer : Bool}

/-- What is no list is matched by what is met there. -/
theorem matchesWithin_closed
    (present : given.isNull = false)
    (classed : interp.classGiven given = some type)
    (notList : ∀ items, interp.heap.payload? pattern ≠ some (.list items))
    (depth : Nat) :
    ∃ answer,
      interp.matchesWithin given (depth + 1) pattern = some answer ∧
        (answer = true ↔ interp.heap.MeetsAt type pattern) := by
  rw [matchesWithin, present, Bool.false_or, classed, Heap.MeetsAt, Heap.isType]
  cases absent : pattern.isNull with
  | true => simp
  | false =>
      cases written : interp.heap.payload? pattern with
      | none => simp
      | some payload =>
          cases payload with
          | list items => exact absurd written (notList items)
          | _ => simp

/-- A list is matched by what matches an item of it. -/
theorem matchesWithin_list
    {items : List Handle}
    (present : given.isNull = false)
    (written : interp.heap.payload? pattern = some (.list items))
    (depth : Nat) :
    interp.matchesWithin given (depth + 1) pattern =
      items.anyM (interp.matchesWithin given depth) := by
  rw [matchesWithin, present, Heap.isNull_of_isLive (Heap.isLive_of_payload? written),
    Bool.or_self, if_neg Bool.false_ne_true, written]

/-- What matches a pattern is met at a leaf of it. -/
theorem exists_leaf_of_matchesWithin
    (present : given.isNull = false)
    (classed : interp.classGiven given = some type)
    (found : interp.matchesWithin given depth pattern = some true) :
    ∃ leaf, interp.heap.Leaf pattern leaf ∧ interp.heap.MeetsAt type leaf := by
  induction depth generalizing pattern with
  | zero => cases found
  | succ depth step =>
      by_cases isList : ∃ items, interp.heap.payload? pattern = some (.list items)
      · rcases isList with ⟨items, written⟩
        rw [matchesWithin_list present written] at found
        rcases List.exists_of_anyM found with ⟨item, among, found'⟩
        rcases step found' with ⟨leaf, further, meets⟩
        exact ⟨leaf, .item written among further, meets⟩
      · rw [not_exists] at isList
        rcases matchesWithin_closed present classed isList depth with ⟨answer, decided, meets⟩
        cases decided.symm.trans found
        exact ⟨pattern, .closed isList, meets.mp rfl⟩

/-- A search that comes to its end finds whatever leaf there is. -/
theorem matchesWithin_of_leaf
    (present : given.isNull = false)
    (classed : interp.classGiven given = some type)
    (leaves : interp.heap.Leaf pattern leaf)
    (meets : interp.heap.MeetsAt type leaf)
    (decided : interp.matchesWithin given depth pattern = some answer) :
    answer = true := by
  induction leaves generalizing depth answer with
  | closed notList =>
      cases depth with
      | zero => cases decided
      | succ depth =>
          rcases matchesWithin_closed present classed notList depth with ⟨answer', decided', meets'⟩
          cases decided'.symm.trans decided
          exact meets'.mpr meets
  | item written among _ step =>
      cases depth with
      | zero => cases decided
      | succ depth =>
          rw [matchesWithin_list present written] at decided
          cases answer with
          | true => rfl
          | false => exact step meets (List.of_anyM_eq_false decided _ among)

/-- Only a search that comes to its end finds something. -/
theorem matchesWithin_of_givenMatches
    (found : interp.givenMatches given pattern = true) :
    interp.matchesWithin given interp.heap.reach pattern = some true := by
  rw [givenMatches] at found
  cases decided : interp.matchesWithin given interp.heap.reach pattern with
  | none => simp [decided] at found
  | some answer => simpa [decided] using found

/-- What is there matches a pattern if and only if it is met at a leaf. -/
theorem givenMatches_iff
    (founded : interp.heap.Founded)
    (present : given.isNull = false)
    (classed : interp.classGiven given = some type) :
    interp.givenMatches given pattern = true ↔
      ∃ leaf, interp.heap.Leaf pattern leaf ∧ interp.heap.MeetsAt type leaf := by
  have decided := matchesWithin_eq founded le_rfl given pattern
  constructor
  · intro found
    exact exists_leaf_of_matchesWithin present classed (decided.trans (congrArg some found))
  · rintro ⟨leaf, leaves, meets⟩
    exact matchesWithin_of_leaf present classed leaves meets decided

/-- A class is matched by what derives from it. -/
theorem givenMatches_iff_of_isType
    (isClass : interp.heap.isType pattern = true) :
    interp.givenMatches given pattern = true ↔
      given.isNull = false ∧
        ∃ type,
          interp.classGiven given = some type ∧ interp.heap.isSubclass type pattern = true := by
  have present := Heap.isNull_of_isLive (Heap.isLive_of_isType isClass)
  rw [Heap.isType] at isClass
  split at isClass
  · next written =>
      rw [givenMatches, Heap.reach, matchesWithin, present, Bool.or_false, written]
      cases given.isNull with
      | true => simp
      | false => cases interp.classGiven given <;> simp
  · cases isClass

/-- What is there has a class. -/
theorem exists_classGiven
    (live : interp.heap.isLive given = true) :
    ∃ type, interp.classGiven given = some type := by
  rw [classGiven]
  split
  · exact ⟨given, rfl⟩
  · rcases exists_typeOf live with ⟨type, typed⟩
    exact ⟨type, by rw [typed]; rfl⟩

/--
Classes are ordered by what they derive from, what is there matches what it is met at, and
what matches a class matches those that the class derives from.
-/
structure MatchesBySubclass (interp : Interpreter) : Prop where
  refl : ∀ type, interp.heap.isSubclass type type = true
  trans :
    ∀ sub mid super,
      interp.heap.isSubclass sub mid = true → interp.heap.isSubclass mid super = true →
        interp.heap.isSubclass sub super = true
  antisymm :
    ∀ type type',
      interp.heap.isSubclass type type' = true → interp.heap.isSubclass type' type = true →
        type = type'
  leaves :
    ∀ given, interp.heap.isLive given = true →
      ∃ type,
        interp.classGiven given = some type ∧
          ∀ pattern,
            interp.givenMatches given pattern = true ↔
              ∃ leaf, interp.heap.Leaf pattern leaf ∧ interp.heap.MeetsAt type leaf
  upward :
    ∀ given sub super,
      interp.heap.isType sub = true → interp.heap.isType super = true →
        interp.heap.isSubclass sub super = true → interp.givenMatches given sub = true →
          interp.givenMatches given super = true

theorem Visited.matchesBySubclass
    (visited : Visited interp)
    (room : interp.heap.HasRoom) :
    interp.MatchesBySubclass := by
  have founded := visited.founded.heap room
  refine
    { refl := fun type => Heap.isSubclass_refl interp.heap type
      trans := fun sub mid super => Heap.isSubclass_trans
      antisymm := fun type type' => founded.isSubclass_antisymm
      leaves := fun given live => ?_
      upward := fun given sub super isClass isClass' derives found => ?_ }
  · rcases exists_classGiven live with ⟨type, classed⟩
    exact ⟨type, classed, fun pattern =>
      givenMatches_iff founded (Heap.isNull_of_isLive live) classed⟩
  · rcases (givenMatches_iff_of_isType isClass).mp found with ⟨present, type, classed, below⟩
    exact (givenMatches_iff_of_isType isClass').mpr
      ⟨present, type, classed, Heap.isSubclass_trans below derives⟩

/-! ## Matching later on -/

section Later

variable {interp' : Interpreter} {given' : Handle} {among : Handle → Prop}

theorem classGiven_of_isType
    (isClass : interp.heap.isType given = true) :
    interp.classGiven given = some given := by
  rw [classGiven, if_pos isClass]

/--
A class that derives from all that another one derived from matches what that one matched,
as long as the pattern is there.
-/
theorem matchesWithin_rises
    (agree : Heap.Agree among interp.heap interp'.heap)
    (isClass : interp.heap.isType given = true)
    (isClass' : interp'.heap.isType given' = true)
    (narrows :
      ∀ super, interp.heap.isSubclass given super = true →
        interp'.heap.isSubclass given' super = true)
    (isAmong : among pattern)
    (decided : interp.matchesWithin given depth pattern = some answer) :
    ∃ answer',
      interp'.matchesWithin given' depth pattern = some answer' ∧
        (answer = true → answer' = true) := by
  have present := Heap.isNull_of_isLive (Heap.isLive_of_isType isClass)
  have present' := Heap.isNull_of_isLive (Heap.isLive_of_isType isClass')
  induction depth generalizing pattern answer with
  | zero => cases decided
  | succ depth step =>
      by_cases isList : ∃ items, interp.heap.payload? pattern = some (.list items)
      · rcases isList with ⟨items, written⟩
        have written' : interp'.heap.payload? pattern = some (.list items) := by
          rcases agree.payload?_cases isAmong with ⟨-, same⟩ | ⟨_, _, holds, -⟩
          · exact same.trans written
          · cases holds.symm.trans written
        rw [matchesWithin_list present written] at decided
        rw [matchesWithin_list present' written']
        exact List.anyM_rises
          (fun item within _ => step (agree.closed isAmong written within)) decided
      · rw [not_exists] at isList
        have isList' (items) : interp'.heap.payload? pattern ≠ some (.list items) := by
          intro written
          rcases agree.payload?_cases isAmong with ⟨-, same⟩ | ⟨_, _, -, holds, -⟩
          · exact isList items (same.symm.trans written)
          · cases holds.symm.trans written
        rcases matchesWithin_closed present (classGiven_of_isType isClass) isList depth with
          ⟨first, decided₁, meets⟩
        rcases matchesWithin_closed present' (classGiven_of_isType isClass') isList' depth with
          ⟨answer', decided', meets'⟩
        cases decided₁.symm.trans decided
        refine ⟨answer', decided', fun found => meets'.mpr ?_⟩
        rcases (meets.mp found).isSubclass isClass with ⟨isClass₁, derives⟩
        rw [← agree.isType_eq isAmong] at isClass₁
        exact (Heap.meetsAt_iff_of_isType isClass₁).mpr (narrows _ derives)

theorem givenMatches_rises
    (agree : Heap.Agree among interp.heap interp'.heap)
    (isClass : interp.heap.isType given = true)
    (isClass' : interp'.heap.isType given' = true)
    (narrows :
      ∀ super, interp.heap.isSubclass given super = true →
        interp'.heap.isSubclass given' super = true)
    (isAmong : among pattern)
    (further : interp.heap.reach ≤ interp'.heap.reach)
    (found : interp.givenMatches given pattern = true) :
    interp'.givenMatches given' pattern = true := by
  rcases matchesWithin_rises agree isClass isClass' narrows isAmong
    (matchesWithin_of_givenMatches found) with ⟨answer', decided', better⟩
  rw [givenMatches, matchesWithin_mono further decided', Option.getD_some, better rfl]

end Later

end Interpreter

end Custody
