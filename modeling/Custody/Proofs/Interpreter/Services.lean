import Custody.Interpreter.ExceptionTable
import Custody.Interpreter.Items
import Custody.Interpreter.Warnings
import Custody.Proofs.Interpreter.Normalizing

/-!
# Items, warnings and tables keep the ledger

An item is a new reference; a filter owns one to its category, and a table of
exceptions one to each class that it found.
-/

namespace Custody

namespace Interpreter

variable {acyclic : Prop} {interp interp' : Interpreter} {credit : Multiset Handle}

namespace Ledger

/-! ## Active calls -/

theorem pushFrame
    (ledger : interp.Ledger acyclic credit)
    (frame : Frame) :
    (interp.pushFrame frame).Ledger acyclic credit :=
  ledger.exchange rfl rfl rfl

theorem popFrame
    (ledger : interp.Ledger acyclic credit) :
    interp.popFrame.Ledger acyclic credit :=
  ledger.exchange rfl rfl rfl

/-! ## Items -/

theorem getItem
    (ledger : interp.Ledger acyclic credit)
    (container : Handle)
    (index : Int) :
    (interp.getItem container index).2.Ledger acyclic
      ((interp.getItem container index).1.toOption.toList + credit) := by
  rw [Interpreter.getItem]
  split
  · exact (ledger.raise _ _).congr _ (by simp [Except.toOption])
  · next items holds =>
      split
      · next item found =>
          rcases Option.bind_eq_some_iff.mp found with ⟨position, -, listed⟩
          have there : (interp.retain item).Ledger acyclic (item ::ₘ credit) :=
            ledger.retain fun room => ledger.heap.isLive_of_points room
              ⟨_, Heap.payload_eq_ok_iff.mp holds, List.mem_of_getElem? listed⟩
          exact there.congr _ (by simp [Except.toOption])
      · exact (ledger.raise _ _).congr _ (by simp [Except.toOption])
  · next text holds =>
      cases found : (position? index text.toList.length).bind (text.toList[·]?) with
      | some char =>
          have made := (ledger.congr (([] : List Handle) + credit) (by simp)).allocate
            (.str char.toString)
          simpa [found, Except.toOption] using made
      | none =>
          simpa [found, Except.toOption] using ledger.raise _ _
  · exact (ledger.raise _ _).congr _ (by simp [Except.toOption])

/-- What getting an item raises has its traceback. -/
theorem traced_getItem
    {container : Handle}
    {index : Int}
    {raised : Raised}
    (ledger : interp.Ledger acyclic credit)
    (failed : interp.getItem container index = (.error raised, interp'))
    (room : interp'.heap.HasRoom) :
    interp'.PendingTraced := by
  rw [Interpreter.getItem] at failed
  split at failed
  · cases failed
    exact ledger.traced_raise (by decide) room
  · split at failed
    · cases failed
    · cases failed
      exact ledger.traced_raise (by decide) room
  · simp only at failed
    split at failed
    · cases failed
    · cases failed
      exact ledger.traced_raise (by decide) room
  · cases failed
    exact ledger.traced_raise (by decide) room

/-! ## Warnings -/

/-- A warning that is raised has its traceback. -/
theorem traced_warn
    {category : Handle}
    {message : String}
    {level : Nat}
    {raised : Raised}
    (ledger : interp.Ledger acyclic credit)
    (live : interp.heap.isLive category = true)
    (failed : interp.warn category message level = (.error raised, interp'))
    (room : interp'.heap.HasRoom) :
    interp'.PendingTraced := by
  rw [Interpreter.warn] at failed
  split at failed
  · cases failed
  · cases failed
    exact ledger.traced_raiseInstance live room
  · cases failed

theorem warn
    (ledger : interp.Ledger acyclic credit)
    (category : Handle)
    (message : String)
    (level : Nat) :
    (interp.warn category message level).2.Ledger acyclic credit := by
  rw [Interpreter.warn]
  split
  · exact ledger
  · exact ledger.raiseInstance _ _
  · exact ledger.exchange rfl rfl rfl

theorem takeWarnings
    (ledger : interp.Ledger acyclic credit) :
    interp.takeWarnings.2.Ledger acyclic credit :=
  ledger.exchange rfl rfl rfl

theorem addFilter
    {category : Handle}
    {action : WarningAction}
    (ledger : interp.Ledger acyclic credit)
    (added : interp.addFilter category action = .ok interp') :
    interp'.Ledger acyclic credit := by
  rcases Except.bind_eq_ok_iff.mp added with ⟨held, taken, result⟩
  simp only [pure, Except.pure, Except.ok.injEq] at result
  subst result
  refine (ledger.incref taken).exchange rfl rfl ?_
  simp only [Interpreter.held, List.map_cons, ← Multiset.cons_coe, Multiset.add_cons,
    Multiset.cons_add]

/-- Give back the reference of each of several entries. -/
theorem releaseAll
    {α : Type}
    {entries : List α}
    {handleOf : α → Handle}
    (ledger : interp.Ledger acyclic ((entries.map handleOf : List Handle) + credit)) :
    (entries.foldl (fun interp entry => interp.release (handleOf entry)) interp).Ledger
      acyclic credit := by
  induction entries generalizing interp with
  | nil => exact ledger.congr _ (by simp)
  | cons entry rest step =>
      refine step (ledger.congr _ ?_).release
      rw [List.map_cons, ← Multiset.cons_coe, Multiset.cons_add]

theorem resetFilters
    (ledger : interp.Ledger acyclic credit) :
    interp.resetFilters.Ledger acyclic credit := by
  refine releaseAll (ledger.exchange rfl rfl ?_)
  simp only [Interpreter.held, List.map_nil, Multiset.coe_nil, add_zero]
  abel

end Ledger

theorem OnHeap.releaseAll
    {α : Type}
    (handleOf : α → Handle)
    (entries : List α)
    (interp : Interpreter) :
    interp.OnHeap
      (entries.foldl (fun interp entry => interp.release (handleOf entry)) interp) := by
  induction entries generalizing interp with
  | nil => exact refl interp
  | cons entry rest step => exact (release interp (handleOf entry)).trans (step _)

/-- Only the heap shows that the filters were given back. -/
theorem resetFilters_eq (interp : Interpreter) :
    ∃ heap, interp.resetFilters = { interp with filters := [], heap } :=
  OnHeap.releaseAll Prod.fst interp.filters { interp with filters := [] }

end Interpreter

/-! ## Tables of exceptions -/

namespace ExceptionTable

variable {acyclic : Prop} {interp : Interpreter} {credit : Multiset Handle}

/-- The references of a table: one for each class that it found. -/
def references (table : ExceptionTable) : Multiset Handle :=
  table.entries.flatMap fun entry => entry.2.toList

theorem ledger_find
    (ledger : interp.Ledger acyclic credit)
    (name : String) :
    (find interp name).2.Ledger acyclic ((find interp name).1.toList + credit) := by
  have nothing : interp.Ledger acyclic ((none : Option Handle).toList + credit) :=
    ledger.congr _ (by simp)
  rw [find]
  split
  · exact nothing
  · split
    · split
      · next taken => exact ledger.incref taken
      · exact nothing
    · exact nothing

theorem ledger_findAll
    (names : List String)
    (ledger : interp.Ledger acyclic credit) :
    (findAll names interp).2.Ledger acyclic
      ((⟨(findAll names interp).1⟩ : ExceptionTable).references + credit) := by
  induction names generalizing interp credit with
  | nil => exact ledger.congr _ (by simp [findAll, references])
  | cons name rest step =>
      have found := step (ledger_find ledger name)
      refine found.congr _ ?_
      simp only [findAll, references, List.flatMap_cons, ← Multiset.coe_add]
      abel

theorem ledger_resolve
    (ledger : interp.Ledger acyclic credit) :
    (resolve interp).2.Ledger acyclic ((resolve interp).1.references + credit) := by
  have found := ledger_findAll names ledger
  rw [resolve]
  generalize findAll names interp = result at found ⊢
  exact found

theorem ledger_release
    {table : ExceptionTable}
    (ledger : interp.Ledger acyclic (table.references + credit)) :
    (table.release interp).2.Ledger acyclic ((table.release interp).1.references + credit) := by
  have released :
      ∀ (entries : List (String × Option Handle)) (interp : Interpreter),
        interp.Ledger acyclic ((⟨entries⟩ : ExceptionTable).references + credit) →
          (entries.foldl (fun interp entry => interp.release? entry.2) interp).Ledger
            acyclic credit := by
    intro entries
    induction entries with
    | nil => exact fun _ ledger => ledger.congr _ (by simp [references])
    | cons entry rest step =>
        intro interp ledger
        refine step _ (ledger.congr _ ?_).release?
        simp only [references, List.flatMap_cons, ← Multiset.coe_add, add_assoc]
  refine (released table.entries interp ledger).congr _ ?_
  simp [release, references, List.flatMap_map]

end ExceptionTable

end Custody
