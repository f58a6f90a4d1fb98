import Custody.Interpreter.Items
import Custody.Interpreter.Warnings
import Custody.Proofs.Interpreter.Normalizing

/-!
# What a call tells about the pending error

A call that raises answers with nothing but the sign that it did; the error is
pending.  The sign is a promise: raising does nothing if the class to raise is not
there.  It is kept as long as the built-in classes and the categories of the
warning filters are there, and no other class is ever raised: a warning is raised
only if a filter covers its category, which is then there if that of the filter is.

A call that does not raise uses the heap and leaves the pending error alone.
-/

namespace Custody

theorem Heap.isLive_of_isSubclass
    {heap : Heap}
    {sub super : Handle}
    (derives : heap.isSubclass sub super = true)
    (live : heap.isLive super = true) :
    heap.isLive sub = true := by
  rcases eq_or_isType_of_isSubclass derives with rfl | isClass
  · exact live
  · exact isLive_of_isType isClass

namespace Interpreter

variable {α : Type} {acyclic : Prop} {interp interp' interp'' : Interpreter}
variable {credit : Multiset Handle}

/-! ## Using the heap -/

namespace OnHeap

theorem allocate
    (interp : Interpreter)
    (payload : Payload) :
    interp.OnHeap (interp.allocate payload).2 :=
  ⟨_, rfl⟩

theorem retainAll
    (items : List Handle)
    (interp : Interpreter) :
    interp.OnHeap (items.foldl Interpreter.retain interp) := by
  induction items generalizing interp with
  | nil => exact refl interp
  | cons item rest step => exact (retain interp item).trans (step _)

theorem replaceLink
    {handle : Handle}
    {link : Option Handle}
    {change : ExceptionInfo → Option Handle × ExceptionInfo}
    (replaced : interp.replaceLink handle link change = .ok interp') :
    interp.OnHeap interp' := by
  rcases Except.bind_eq_ok_iff.mp replaced with ⟨payload, -, result⟩
  cases payload with
  | exception info =>
      rcases Except.bind_eq_ok_iff.mp result with ⟨heap, -, result⟩
      simp only [pure, Except.pure, Except.ok.injEq] at result
      subst result
      exact trans ⟨heap, rfl⟩ (release? _ _)
  | _ =>
      simp only [pure, Except.pure, Except.ok.injEq] at result
      subst result
      exact release? interp link

theorem attach
    (interp : Interpreter)
    (value : Handle)
    (traceback : Option Handle) :
    interp.OnHeap (interp.attach value traceback) := by
  cases traceback with
  | none => exact refl interp
  | some entry =>
      simp only [Interpreter.attach]
      cases linked : (interp.retain entry).setTraceback value (some entry) with
      | error reason => exact retain interp entry
      | ok interp' => exact (retain interp entry).trans (replaceLink linked)

theorem attachTraceback
    (interp : Interpreter)
    (value : Handle)
    (traceback : Option Handle) :
    interp.OnHeap (interp.attachTraceback value traceback) := by
  rcases interp.attachTraceback_eq value traceback with same | ⟨-, -, attached⟩
  · rw [same]
    exact refl interp
  · rw [attached]
    exact attach interp value traceback

theorem argumentsOf
    (interp : Interpreter)
    (value : Option Handle) :
    interp.OnHeap (interp.argumentsOf value).2 := by
  unfold Interpreter.argumentsOf
  split
  · exact refl interp
  · split
    · exact release interp _
    · exact (retainAll _ interp).trans (release _ _)
    · exact refl interp

theorem narrow
    (interp : Interpreter)
    (type own : Handle) :
    interp.OnHeap (interp.narrow type own) := by
  rw [Interpreter.narrow]
  split
  · exact refl interp
  · exact (retain interp own).trans (release _ type)

theorem instantiate
    (interp : Interpreter)
    (type : Handle)
    (value : Option Handle) :
    interp.OnHeap (interp.instantiate type value).2 :=
  ((argumentsOf interp value).trans (retain _ type)).trans (allocate _ _)

/-- A normalization that succeeds touches nothing but the heap. -/
theorem normalize
    {triple triple' : Triple}
    (normalized : interp.normalize triple = (.ok triple', interp')) :
    interp.OnHeap interp' := by
  rcases interp.normalize_cases triple with ⟨-, result⟩ | ⟨value, info, -, -, -, -, result⟩ | result
  · rw [normalized] at result
    cases result
  · rcases Prod.mk.inj (normalized.symm.trans result) with ⟨-, rfl⟩
    exact (narrow interp _ _).trans (attachTraceback _ _ _)
  · rcases Prod.mk.inj (normalized.symm.trans result) with ⟨-, rfl⟩
    exact (instantiate interp _ _).trans (attachTraceback _ _ _)

/-! ### Whatever is pending -/

theorem withPending
    (onHeap : interp.OnHeap interp')
    (pending : Option Triple) :
    ({ interp with pending } : Interpreter).OnHeap { interp' with pending } := by
  rcases onHeap with ⟨heap, rfl⟩
  exact ⟨heap, rfl⟩

theorem newException
    {type value : Handle}
    {message : Option String}
    (made : interp.newException type message = .ok (value, interp')) :
    interp.OnHeap interp' := by
  rcases Except.bind_eq_ok_iff.mp made with ⟨held, taken, made⟩
  cases message with
  | none =>
      cases made
      exact (incref taken).trans (allocate _ _)
  | some message =>
      cases made
      exact ((incref taken).trans (allocate _ _)).trans (allocate _ _)

theorem chainFrames
    (frames : List Frame)
    (chain : Option Handle)
    (interp : Interpreter) :
    interp.OnHeap (interp.chainFrames frames chain).2 := by
  induction frames generalizing interp chain with
  | nil => exact refl interp
  | cons frame outer later => exact (allocate interp _).trans (later _ _)

theorem replacePending
    (interp : Interpreter)
    (pending pending' : Option Triple) :
    ({ interp with pending := pending' } : Interpreter).OnHeap
      { interp.replacePending pending with pending := pending' } := by
  rw [Interpreter.replacePending]
  split
  · next old _ => exact (releaseTriple { interp with pending } old).withPending pending'
  · exact refl _

/-- Raising touches nothing but the heap and what is pending. -/
theorem raiseInstance
    (interp : Interpreter)
    (type : Handle)
    (message : String)
    (pending : Option Triple) :
    ({ interp with pending } : Interpreter).OnHeap
      { interp.raiseInstance type message with pending } := by
  cases made : interp.newException type (some message) with
  | error reason =>
      rw [Interpreter.raiseInstance, made]
      exact refl _
  | ok result =>
      rcases result with ⟨value, started⟩
      rw [raiseInstance_eq made]
      have raised := (((newException made).trans (chainFrames started.frames none started)).trans
        (attach _ value started.newTraceback.1)).trans (retain _ type)
      exact (raised.withPending pending).trans (replacePending _ _ pending)

end OnHeap

/-! ## Raising -/

/-- The classes that may be raised are there. -/
structure Armed (interp : Interpreter) : Prop where
  named : ∀ name ∈ classNames, ∃ type, interp.lookup name = some type
  builtin : ∀ name type, interp.lookup name = some type → interp.heap.isLive type = true
  filter : ∀ filter ∈ interp.filters, interp.heap.isLive filter.1 = true

/-- An error was raised and is pending, or none was and what is pending is what was before. -/
def Signals (interp : Interpreter) (result : Except Raised α × Interpreter) : Prop :=
  match result.1 with
  | .ok _ => result.2.pending = interp.pending
  | .error _ => result.2.pending ≠ none

/-- The interpreter holds references to whatever it may raise. -/
theorem Ledger.armed
    (ledger : interp.Ledger acyclic credit)
    (room : interp.heap.HasRoom) :
    interp.Armed where
  named := ledger.named
  builtin := fun name type found => ledger.isLive_of_held room (mem_held_of_lookup found)
  filter := by
    intro filter listed
    apply ledger.isLive_of_held room
    exact Multiset.mem_add.mpr (.inr (Multiset.mem_coe.mpr (List.mem_map_of_mem listed)))

/-- Only a class that is not there is not raised. -/
theorem pending_raiseInstance_ne_none
    {type : Handle}
    (live : interp.heap.isLive type = true)
    (message : String) :
    (interp.raiseInstance type message).pending ≠ none := by
  rcases exists_newException (some message) live with ⟨value, started, made⟩
  rw [raiseInstance_eq made, pending_replacePending]
  exact Option.some_ne_none _

namespace Armed

theorem incref
    {handle : Handle}
    (armed : interp.Armed)
    (taken : interp.incref handle = .ok interp') :
    interp'.Armed := by
  have retained : interp.retain handle = interp' := by rw [retain, taken]
  have live (other : Handle) (there : interp.heap.isLive other = true) :
      interp'.heap.isLive other = true := by
    rw [← retained]
    exact isLive_retain handle there
  rcases OnHeap.incref taken with ⟨heap, rfl⟩
  exact ⟨armed.named, fun name type found => live type (armed.builtin name type found),
    fun filter listed => live filter.1 (armed.filter filter listed)⟩

/-- What is pending has no part in what may be raised. -/
theorem withPending
    (armed : interp.Armed)
    (pending : Option Triple) :
    ({ interp with pending } : Interpreter).Armed :=
  ⟨armed.named, armed.builtin, armed.filter⟩

/-- Raising by name raises a class that is there. -/
theorem exists_raise
    (armed : interp.Armed)
    (name message : String) :
    ∃ type,
      interp.heap.isLive type = true ∧
        interp.raise name message = interp.raiseInstance type message := by
  refine ⟨_, ?_, rfl⟩
  cases found : interp.lookup name with
  | some type => exact armed.builtin name type found
  | none =>
      rcases armed.named "SystemError" (by decide) with ⟨type, fallback⟩
      rw [Option.getD_none, Interpreter.builtin, fallback]
      exact armed.builtin _ type fallback

theorem raise
    (armed : interp.Armed)
    (name message : String) :
    (interp.raise name message).pending ≠ none := by
  rcases armed.exists_raise name message with ⟨type, live, raised⟩
  rw [raised]
  exact pending_raiseInstance_ne_none live message

theorem signals_getItem
    (armed : interp.Armed)
    (container : Handle)
    (index : Int) :
    interp.Signals (interp.getItem container index) := by
  rw [getItem]
  split
  · exact armed.raise _ _
  · split
    · exact (OnHeap.retain interp _).pending
    · exact armed.raise _ _
  · simp only
    split
    · exact (OnHeap.allocate interp _).pending
    · exact armed.raise _ _
  · exact armed.raise _ _

theorem signals_normalize
    (armed : interp.Armed)
    (triple : Triple) :
    interp.Signals (interp.normalize triple) := by
  rcases interp.normalize_cases triple with ⟨-, result⟩ | ⟨value, info, -, -, -, -, result⟩ | result
  · rw [result]
    exact armed.raise _ _
  · rw [result]
    exact ((OnHeap.narrow interp _ _).trans (.attachTraceback _ _ _)).pending
  · rw [result]
    exact ((OnHeap.instantiate interp _ _).trans (.attachTraceback _ _ _)).pending

/-- A category that is raised is covered by a filter, and so it is there. -/
theorem isLive_of_warningAction
    {category : Handle}
    (armed : interp.Armed)
    (raises : interp.warningAction category = .raise) :
    interp.heap.isLive category = true := by
  rw [warningAction] at raises
  split at raises
  · next filter action covering =>
      have covered := List.find?_some covering
      exact Heap.isLive_of_isSubclass covered
        (armed.filter _ (List.mem_of_find?_eq_some covering))
  · cases raises

theorem signals_warn
    (armed : interp.Armed)
    (category : Handle)
    (message : String)
    (level : Nat) :
    interp.Signals (interp.warn category message level) := by
  rw [warn]
  split
  · rfl
  · next raises =>
      exact pending_raiseInstance_ne_none (armed.isLive_of_warningAction raises) message
  · rfl

end Armed

/-- Whatever is there to be raised, a normalization that succeeds leaves what is pending. -/
theorem pending_normalize
    {triple triple' : Triple}
    (normalized : interp.normalize triple = (.ok triple', interp')) :
    interp'.pending = interp.pending :=
  (OnHeap.normalize normalized).pending

end Interpreter

end Custody
