import Custody.Heap.Display
import Custody.Proofs.Heap.Evolution
import Custody.Proofs.Heap.Walks

/-!
# The text of an object lasts

The text of an object is made of what the objects hold that it shows, and these
do not include the links that an exception is given later.  So it stays the same
for as long as they are there.

A text is written to a bounded depth, and the bound is larger in a larger heap.
This makes no difference: every further level that a text needs takes another
object, so that what can be written at all can be written within the bound.
-/

namespace Custody

/-- A payload has what it holds apart from links. -/
theorem Payload.mem_children_of_core
    (payload : Payload)
    {child : Handle}
    (isChild : child ∈ payload.core.children) :
    child ∈ payload.children := by
  cases payload with
  | exception info =>
      simp only [core, children, Option.toList_none, List.append_nil] at isChild ⊢
      exact List.mem_append_left _ (List.mem_append_left _ isChild)
  | _ => exact isChild

/-! ## Lists, element by element -/

section Lists

variable {α β : Type} {items : List α} {change change' : α → Option β} {parts : List β}

theorem List.isSome_mapM_iff :
    (items.mapM change).isSome = true ↔ ∀ item ∈ items, (change item).isSome = true := by
  induction items with
  | nil => simp
  | cons item rest step =>
      simp only [List.mapM_cons, List.mem_cons, forall_eq_or_imp, ← step]
      cases change item with
      | none => simp
      | some part => cases rest.mapM change <;> simp

theorem List.mapM_mono
    (weaker : ∀ item part, change item = some part → change' item = some part)
    (mapped : items.mapM change = some parts) :
    items.mapM change' = some parts := by
  induction items generalizing parts with
  | nil => exact mapped
  | cons item rest step =>
      simp only [List.mapM_cons, Option.bind_eq_bind, Option.bind_eq_some_iff] at mapped ⊢
      rcases mapped with ⟨part, first, others, later, result⟩
      exact ⟨part, weaker item part first, others, step later, result⟩

theorem List.mapM_congr
    (same : ∀ item ∈ items, change' item = change item) :
    items.mapM change' = items.mapM change := by
  induction items with
  | nil => rfl
  | cons item rest step =>
      rw [List.mapM_cons, List.mapM_cons, same item List.mem_cons_self,
        step fun other among => same other (List.mem_cons_of_mem _ among)]

end Lists

namespace Heap

variable {heap heap' : Heap} {handle : Handle} {depth bound : Nat} {text : String}

/-! ## Literals, level by level -/

/-- The objects whose literals stand within the literal of an object. -/
def shown (heap : Heap) (handle : Handle) : List Handle :=
  match heap.payload? handle with
  | some (.list items) => items
  | some (.exception info) => info.args
  | _ => []

/-- The literal of an object, given those that stand within it. -/
def written
    (heap : Heap)
    (handle : Handle)
    (parts : List String) :
    String :=
  match heap.payload? handle with
  | none => freedText
  | some .none => "None"
  | some (.bool true) => "True"
  | some (.bool false) => "False"
  | some (.int value) => toString value
  | some (.str value) => Text.literal value
  | some (.list _) => "[" ++ commaSeparated parts ++ "]"
  | some (.type info) => "<class '" ++ info.qualifiedName ++ "'>"
  | some (.exception info) => heap.className info.type ++ "(" ++ commaSeparated parts ++ ")"
  | some (.traceback _) => "<traceback object>"

theorem reprWithin_succ
    (heap : Heap)
    (depth : Nat)
    (handle : Handle) :
    heap.reprWithin (depth + 1) handle =
      ((heap.shown handle).mapM (heap.reprWithin depth)).map (heap.written handle) := by
  rw [reprWithin, shown]
  unfold written
  cases heap.payload? handle with
  | none => rfl
  | some payload =>
      cases payload with
      | bool value => cases value <;> rfl
      | _ => rfl

/-- Only an object that is there shows others. -/
theorem isLive_of_mem_shown
    {part : Handle}
    (among : part ∈ heap.shown handle) :
    heap.isLive handle = true := by
  rw [shown] at among
  split at among
  · next holds => exact isLive_of_payload? holds
  · next holds => exact isLive_of_payload? holds
  · cases among

theorem reprWithin_mono
    (deeper : depth ≤ bound)
    (written : heap.reprWithin depth handle = some text) :
    heap.reprWithin bound handle = some text := by
  induction depth generalizing bound handle text with
  | zero => cases written
  | succ depth step =>
      obtain ⟨bound, rfl⟩ : ∃ more, bound = more + 1 := ⟨bound - 1, by omega⟩
      rw [reprWithin_succ, Option.map_eq_some_iff] at written ⊢
      rcases written with ⟨parts, mapped, result⟩
      exact ⟨parts, List.mapM_mono (fun _ _ => step (by omega)) mapped, result⟩

/-! ## The bound is large enough -/

/-- A literal can be written to a depth if walks to what it shows end there. -/
theorem isSome_reprWithin_iff :
    (heap.reprWithin depth handle).isSome = true ↔
      EndsWithin (fun whole part => part ∈ heap.shown whole) depth handle := by
  induction depth generalizing handle with
  | zero => exact ⟨nofun, nofun⟩
  | succ depth step =>
      rw [reprWithin_succ, Option.isSome_map, List.isSome_mapM_iff]
      exact forall₂_congr fun part _ => step

/-- What can be written at all can be written within the reach of the heap. -/
theorem isSome_reprWithin_reach
    (written : (heap.reprWithin depth handle).isSome = true) :
    (heap.reprWithin heap.reach handle).isSome = true := by
  rw [isSome_reprWithin_iff] at written ⊢
  exact written.reach isLive_of_mem_shown

/-! ## Texts -/

/-- A text can be written to the depth to which the literal can. -/
theorem isSome_strWithin
    (heap : Heap)
    (depth : Nat)
    (handle : Handle) :
    (heap.strWithin depth handle).isSome = (heap.reprWithin depth handle).isSome := by
  induction depth generalizing handle with
  | zero => rfl
  | succ depth step =>
      rw [strWithin]
      split
      · next missing => rw [reprWithin, missing]
      · next holds =>
          rw [reprWithin, holds]
          rfl
      · next info holds =>
          rw [reprWithin_succ, shown, holds]
          simp only [Option.isSome_map]
          split
          · next none => simp [none]
          · next arg single =>
              rw [step, Bool.eq_iff_iff, List.isSome_mapM_iff]
              simp [single]
          · rw [Option.isSome_map]
      · rfl

theorem strWithin_mono
    (deeper : depth ≤ bound)
    (written : heap.strWithin depth handle = some text) :
    heap.strWithin bound handle = some text := by
  induction depth generalizing bound handle with
  | zero => cases written
  | succ depth step =>
      obtain ⟨bound, rfl⟩ : ∃ more, bound = more + 1 := ⟨bound - 1, by omega⟩
      rw [strWithin] at written ⊢
      split at written
      · exact written
      · exact written
      · split at written
        · exact written
        · exact step (by omega) written
        · rw [Option.map_eq_some_iff] at written ⊢
          rcases written with ⟨parts, mapped, result⟩
          exact ⟨parts, List.mapM_mono (fun _ _ => reprWithin_mono (by omega)) mapped, result⟩
      · exact reprWithin_mono deeper written

theorem strWithin_reach
    (written : heap.strWithin depth handle = some text) :
    heap.strWithin heap.reach handle = some text := by
  have within : (heap.strWithin heap.reach handle).isSome = true := by
    have some_written : (heap.reprWithin depth handle).isSome = true := by
      rw [← isSome_strWithin, written]
      rfl
    rw [isSome_strWithin]
    exact isSome_reprWithin_reach some_written
  rcases Option.isSome_iff_exists.mp within with ⟨text', result⟩
  rw [result, ← strWithin_mono (le_max_left depth heap.reach) written,
    strWithin_mono (le_max_right depth heap.reach) result]

/-! ## Two heaps -/

/-- Nothing points at an object that is gone. -/
def Whole (heap : Heap) : Prop :=
  ∀ {parent child}, heap.Points parent child → heap.isLive child = true

/--
Certain objects hold the same in two heaps, but for the links of exceptions, and
what they hold is among them.
-/
structure Agree (among : Handle → Prop) (heap heap' : Heap) : Prop where
  closed :
    ∀ {parent payload child},
      among parent →
        heap.payload? parent = some payload → child ∈ payload.core.children → among child
  core :
    ∀ {handle},
      among handle →
        (heap'.payload? handle).map Payload.core = (heap.payload? handle).map Payload.core

namespace Agree

variable {among : Handle → Prop}

/-- An object holds the same, or is an exception of the same class with the same arguments. -/
theorem payload?_cases
    (agree : Agree among heap heap')
    (isAmong : among handle) :
    (∀ info, heap.payload? handle ≠ some (.exception info)) ∧
        heap'.payload? handle = heap.payload? handle ∨
      ∃ info info',
        heap.payload? handle = some (.exception info) ∧
          heap'.payload? handle = some (.exception info') ∧
            info'.type = info.type ∧ info'.args = info.args := by
  have same := agree.core isAmong
  revert same
  cases heap.payload? handle with
  | none => cases heap'.payload? handle <;> simp
  | some payload =>
      cases heap'.payload? handle with
      | none => simp
      | some payload' => cases payload <;> cases payload' <;> simp +contextual [Payload.core]

theorem className_eq
    (agree : Agree among heap heap')
    (isAmong : among handle) :
    heap'.className handle = heap.className handle := by
  rw [className, className]
  rcases agree.payload?_cases isAmong with ⟨-, same⟩ | ⟨info, info', holds, holds', -, -⟩
  · rw [same]
  · rw [holds, holds']

theorem isType_eq
    (agree : Agree among heap heap')
    (isAmong : among handle) :
    heap'.isType handle = heap.isType handle := by
  rw [isType, isType]
  rcases agree.payload?_cases isAmong with ⟨-, same⟩ | ⟨info, info', holds, holds', -, -⟩
  · rw [same]
  · rw [holds, holds']

theorem baseOf_eq
    (agree : Agree among heap heap')
    (isAmong : among handle) :
    heap'.baseOf handle = heap.baseOf handle := by
  rw [baseOf, baseOf]
  rcases agree.payload?_cases isAmong with ⟨-, same⟩ | ⟨info, info', holds, holds', -, -⟩
  · rw [same]
  · rw [holds, holds']

theorem subclassWithin_eq
    (agree : Agree among heap heap')
    (super : Handle)
    (steps : Nat)
    (isAmong : among handle) :
    heap'.subclassWithin super steps handle = heap.subclassWithin super steps handle := by
  induction steps generalizing handle with
  | zero => rfl
  | succ steps step =>
      rw [subclassWithin, subclassWithin, agree.baseOf_eq isAmong]
      split
      · rfl
      · split
        · next base derives =>
            apply step
            rw [baseOf] at derives
            split at derives
            · next info holds =>
                exact agree.closed isAmong holds (by simp [Payload.core, Payload.children, derives])
            · cases derives
        · rfl

theorem shown_eq
    (agree : Agree among heap heap')
    (isAmong : among handle) :
    heap'.shown handle = heap.shown handle := by
  rw [shown, shown]
  rcases agree.payload?_cases isAmong with ⟨plain, same⟩ | ⟨info, info', holds, holds', -, args⟩
  · rw [same]
  · rw [holds, holds']
    exact args

theorem written_eq
    (agree : Agree among heap heap')
    (isAmong : among handle) :
    heap'.written handle = heap.written handle := by
  funext parts
  rw [written, written]
  rcases agree.payload?_cases isAmong with ⟨plain, same⟩ | ⟨info, info', holds, holds', type, -⟩
  · rw [same]
    split
    case h_9 info holds => exact absurd holds (plain info)
    all_goals rfl
  · rw [holds, holds']
    simp only
    rw [type, agree.className_eq
      (agree.closed isAmong holds (by simp [Payload.core, Payload.children]))]

/-- What an object shows is among the objects too. -/
theorem shown
    {part : Handle}
    (agree : Agree among heap heap')
    (isAmong : among handle)
    (isShown : part ∈ heap.shown handle) :
    among part := by
  rw [Heap.shown] at isShown
  split at isShown
  · next holds => exact agree.closed isAmong holds isShown
  · next holds =>
      exact agree.closed isAmong holds (by simp [Payload.core, Payload.children, isShown])
  · cases isShown

theorem reprWithin_eq
    (agree : Agree among heap heap')
    (depth : Nat)
    (isAmong : among handle) :
    heap'.reprWithin depth handle = heap.reprWithin depth handle := by
  induction depth generalizing handle with
  | zero => rfl
  | succ depth step =>
      rw [reprWithin_succ, reprWithin_succ, agree.shown_eq isAmong, agree.written_eq isAmong,
        List.mapM_congr fun part isShown => step (agree.shown isAmong isShown)]

theorem strWithin_eq
    (agree : Agree among heap heap')
    (depth : Nat)
    (isAmong : among handle) :
    heap'.strWithin depth handle = heap.strWithin depth handle := by
  induction depth generalizing handle with
  | zero => rfl
  | succ depth step =>
      have literal := agree.reprWithin_eq (depth + 1) isAmong
      have parts : ∀ part ∈ heap.shown handle,
          heap'.reprWithin depth part = heap.reprWithin depth part :=
        fun part isShown => agree.reprWithin_eq depth (agree.shown isAmong isShown)
      have texts : ∀ part ∈ heap.shown handle,
          heap'.strWithin depth part = heap.strWithin depth part :=
        fun part isShown => step (agree.shown isAmong isShown)
      rw [strWithin, strWithin, literal]
      rcases agree.payload?_cases isAmong with
        ⟨plain, same⟩ | ⟨info, info', holds, holds', type, args⟩
      · rw [same]
        split
        · rfl
        · rfl
        · next info holds => exact absurd holds (plain info)
        · rfl
      · rw [Heap.shown, holds] at parts texts
        rw [holds, holds']
        simp only [args]
        split
        · rfl
        · next arg single => exact texts arg (by simp [single])
        · rw [List.mapM_congr parts]

/-- The text of an object is the same. -/
theorem str_eq
    (agree : Agree among heap heap')
    (isAmong : among handle) :
    heap'.str handle = heap.str handle := by
  rw [str, str]
  cases written : heap.strWithin heap.reach handle with
  | some text =>
      rw [← agree.strWithin_eq _ isAmong] at written
      rw [strWithin_reach written]
  | none =>
      cases written' : heap'.strWithin heap'.reach handle with
      | none => rfl
      | some text =>
          rw [agree.strWithin_eq _ isAmong] at written'
          rw [strWithin_reach written'] at written
          cases written

/-! ### Heaps that agree -/

/-- What is left of a heap agrees with it. -/
theorem of_shrinks
    (shrinks : heap.Shrinks heap')
    (whole : heap'.Whole) :
    Agree (fun handle => heap'.isLive handle = true) heap heap' where
  closed := by
    intro parent payload child live holds isChild
    rw [← shrinks.payload?_eq live] at holds
    exact whole ⟨payload, holds, payload.mem_children_of_core isChild⟩
  core := fun live => by rw [shrinks.payload?_eq live]

/-- A heap agrees with the one that has a new object as well. -/
theorem of_allocate
    {payload : Payload}
    (tidy : heap.Tidy)
    (room : heap.HasRoom)
    (whole : heap.Whole) :
    Agree (fun handle => heap.isLive handle = true) heap (heap.allocate payload).2 where
  closed := fun _ holds isChild => whole ⟨_, holds, Payload.mem_children_of_core _ isChild⟩
  core := fun live => by rw [payload?_allocate_of_isLive tidy room live]

/-- Heaps that agree go on agreeing if the objects go on holding the same. -/
theorem trans
    {heap'' : Heap}
    (agree : Agree among heap heap')
    (core :
      ∀ {handle},
        among handle →
          (heap''.payload? handle).map Payload.core = (heap'.payload? handle).map Payload.core) :
    Agree among heap heap'' where
  closed := agree.closed
  core := fun isAmong => (core isAmong).trans (agree.core isAmong)

/-- A heap agrees with a later one about all that is there at both times. -/
theorem of_evolves
    (origin : empty.Evolves heap)
    (evolves : heap.Evolves heap')
    (room : heap'.HasRoom)
    (whole : heap.Whole)
    (whole' : heap'.Whole) :
    Agree (fun handle => heap.isLive handle = true ∧ heap'.isLive handle = true) heap heap' where
  closed := by
    rintro parent payload child ⟨live, live'⟩ holds isChild
    refine ⟨whole ⟨payload, holds, payload.mem_children_of_core isChild⟩, ?_⟩
    rcases exists_payload?_of_isLive live' with ⟨payload', holds'⟩
    have same := origin.core_payload? evolves room live live'
    rw [holds, holds', Option.map_some, Option.map_some, Option.some.injEq] at same
    rw [← same] at isChild
    exact whole' ⟨payload', holds', payload'.mem_children_of_core isChild⟩
  core := fun both => origin.core_payload? evolves room both.1 both.2

end Agree

end Heap

end Custody
