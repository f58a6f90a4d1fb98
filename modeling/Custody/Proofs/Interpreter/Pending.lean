import Custody.Proofs.Interpreter.Instances

/-!
# The pending error keeps the ledger

Whatever becomes pending brings its references along, and whatever was pending
before gives its references back.
-/

namespace Custody.Interpreter

variable {acyclic : Prop} {interp interp' : Interpreter} {credit : Multiset Handle}

/-! ## Replacing -/

theorem Ledger.replacePending
    {pending : Option Triple}
    (ledger : interp.Ledger acyclic (Triple.referencesOf pending + credit)) :
    (interp.replacePending pending).Ledger acyclic credit := by
  have moved := interp.held_pending pending
  rw [Interpreter.replacePending]
  cases before : interp.pending with
  | none =>
      refine ledger.exchange rfl rfl ?_
      simp only [before, Triple.referencesOf_none, add_zero] at moved
      rw [moved]
      abel
  | some old =>
      refine Ledger.releaseTriple (ledger.exchange rfl rfl ?_)
      simp only [before, Triple.referencesOf_some] at moved
      rw [add_right_comm, add_comm old.references, moved]
      abel

theorem shrinks_replacePending
    (interp : Interpreter)
    (pending : Option Triple) :
    interp.heap.Shrinks (interp.replacePending pending).heap := by
  rw [replacePending]
  split
  · exact shrinks_releaseTriple { interp with pending } _
  · exact .refl _

@[simp]
theorem pending_release
    (interp : Interpreter)
    (handle : Handle) :
    (interp.release handle).pending = interp.pending :=
  (OnHeap.release interp handle).pending

@[simp]
theorem pending_releaseTriple
    (interp : Interpreter)
    (triple : Triple) :
    (interp.releaseTriple triple).pending = interp.pending :=
  (OnHeap.releaseTriple interp triple).pending

@[simp]
theorem pending_replacePending
    (interp : Interpreter)
    (pending : Option Triple) :
    (interp.replacePending pending).pending = pending := by
  rw [replacePending]
  split
  · exact pending_releaseTriple _ _
  · rfl

/-! ## What is pending and what is counted -/

theorem release_withPending
    (interp : Interpreter)
    (pending : Option Triple)
    (handle : Handle) :
    ({ interp with pending } : Interpreter).release handle =
      { interp.release handle with pending } := by
  rw [release, release, decref, decref]
  cases interp.heap.decref handle with
  | error reason => rfl
  | ok result => rfl

theorem release?_withPending
    (interp : Interpreter)
    (pending : Option Triple)
    (handle : Option Handle) :
    ({ interp with pending } : Interpreter).release? handle =
      { interp.release? handle with pending } := by
  cases handle with
  | none => rfl
  | some handle => exact interp.release_withPending pending handle

theorem releaseTriple_withPending
    (interp : Interpreter)
    (pending : Option Triple)
    (triple : Triple) :
    ({ interp with pending } : Interpreter).releaseTriple triple =
      { interp.releaseTriple triple with pending } := by
  rw [releaseTriple, releaseTriple, interp.release_withPending pending,
    (interp.release triple.type).release?_withPending pending,
    ((interp.release triple.type).release? triple.value).release?_withPending pending]

/-- What is given back does not depend on what is pending next. -/
theorem replacePending_eq
    (interp : Interpreter)
    (pending : Option Triple) :
    interp.replacePending pending = { interp.clear with pending } := by
  rw [clear, replacePending, replacePending]
  split
  · next old _ =>
      rw [interp.releaseTriple_withPending pending old, interp.releaseTriple_withPending none old]
  · rfl

/-- A triple whose type is an object becomes pending as it is. -/
theorem restore_eq
    {triple : Triple}
    (isObject : triple.type.isNull = false) :
    interp.restore triple = { interp.clear with pending := some triple } := by
  rw [restore, isObject, if_neg Bool.false_ne_true, replacePending_eq]

theorem pending_setErrorObject
    {type : Handle}
    {value : Option Handle}
    (set : interp.setErrorObject type value = .ok interp') :
    interp'.pending = some ⟨type, value, none⟩ := by
  rcases Except.bind_eq_ok_iff.mp set with ⟨typed, -, result⟩
  cases value with
  | none =>
      simp only [pure, Except.pure, Except.ok.injEq] at result
      subst result
      exact pending_replacePending _ _
  | some value =>
      rcases Except.bind_eq_ok_iff.mp result with ⟨valued, -, result⟩
      simp only [pure, Except.pure, Except.ok.injEq] at result
      subst result
      exact pending_replacePending _ _

namespace Ledger

theorem clear
    (ledger : interp.Ledger acyclic credit) :
    interp.clear.Ledger acyclic credit :=
  replacePending (ledger.congr _ (by simp))

/-! ## Setting -/

theorem setError
    {type : Handle}
    {message : String}
    (ledger : interp.Ledger acyclic credit)
    (set : interp.setError type message = .ok interp') :
    interp'.Ledger acyclic credit := by
  rcases Except.bind_eq_ok_iff.mp set with ⟨held, taken, result⟩
  simp only [pure, Except.pure, Except.ok.injEq] at result
  subst result
  have worded := ((ledger.incref taken).congr (([] : List Handle) + type ::ₘ credit)
    (by simp)).allocate (.str message)
  refine replacePending (worded.congr _ ?_)
  simp [Triple.references, Multiset.cons_swap]

theorem setErrorObject
    {type : Handle}
    {value : Option Handle}
    (ledger : interp.Ledger acyclic credit)
    (set : interp.setErrorObject type value = .ok interp') :
    interp'.Ledger acyclic credit := by
  rcases Except.bind_eq_ok_iff.mp set with ⟨typed, taken, result⟩
  have typeHeld := ledger.incref taken
  cases value with
  | none =>
      simp only [pure, Except.pure, Except.ok.injEq] at result
      subst result
      exact replacePending (typeHeld.congr _ (by simp [Triple.references]))
  | some value =>
      rcases Except.bind_eq_ok_iff.mp result with ⟨valued, taken, result⟩
      simp only [pure, Except.pure, Except.ok.injEq] at result
      subst result
      refine replacePending ((typeHeld.incref taken).congr _ ?_)
      simp [Triple.references, Multiset.cons_swap]

/-! ## Taking and putting back -/

theorem fetch
    {triple : Triple}
    (ledger : interp.Ledger acyclic credit)
    (fetched : interp.fetch = some (triple, interp')) :
    interp'.Ledger acyclic (triple.references + credit) := by
  simp only [Interpreter.fetch, Option.map_eq_some_iff, Prod.mk.injEq] at fetched
  rcases fetched with ⟨pending, before, rfl, rfl⟩
  have moved := interp.held_pending none
  simp only [before, Triple.referencesOf_some, Triple.referencesOf_none, add_zero] at moved
  refine ledger.exchange rfl rfl ?_
  rw [add_right_comm, add_comm pending.references, moved]
  abel

/-- The type of a triple whose references are owned is not null, as long as there is room. -/
theorem given
    {triple : Triple}
    (ledger : interp.Ledger acyclic (triple.references + credit)) :
    interp.Ledger acyclic (triple.given + credit) := by
  rw [Triple.given]
  split
  · next isNull =>
      refine ledger.of_full fun room => ?_
      have live := ledger.isLive_of_mem room
        (Multiset.mem_add.mpr (.inl (Multiset.mem_cons_self triple.type _)))
      rw [Heap.isNull_of_isLive live] at isNull
      cases isNull
  · exact ledger

theorem restore
    {triple : Triple}
    (ledger : interp.Ledger acyclic (triple.given + credit)) :
    (interp.restore triple).Ledger acyclic credit := by
  rw [Interpreter.restore]
  by_cases isNull : triple.type.isNull
  · simp only [Triple.given, isNull, if_true] at ledger ⊢
    apply replacePending
    apply release?
    apply release?
    refine ledger.congr _ ?_
    simp only [Triple.referencesOf_none]
    abel
  · simp only [Triple.given, isNull] at ledger ⊢
    exact replacePending ledger

end Ledger

end Custody.Interpreter
