import Custody.Interpreter.Pending
import Custody.Proofs.Heap.Ledger

/-!
# The ledger of an interpreter

An interpreter holds references on its own account: one for each name of a
built-in class, one to the `None` object, one for each class that stands for a
host error, one for each component of the pending error, and one for each
warning filter.  It keeps its ledger for the references in `credit`, which
others hold, if its heap keeps its ledger for those and its own together.

A function that returns a new reference adds it to `credit`; one that takes a
reference over removes it; one that borrows leaves `credit` alone.
-/

namespace Custody

/-- The references of a triple. -/
def Triple.references (triple : Triple) : Multiset Handle :=
  triple.type ::ₘ (triple.value.toList + triple.traceback.toList)

/-- What a triple is made of. -/
def Triple.components (triple : Triple) : List Handle :=
  triple.type :: triple.value.toList ++ triple.traceback.toList

@[simp]
theorem Triple.coe_components (triple : Triple) :
    (triple.components : Multiset Handle) = triple.references := by
  simp [components, references]

/-- The references of a triple that may be absent. -/
def Triple.referencesOf (triple : Option Triple) : Multiset Handle :=
  (triple.map Triple.references).getD 0

/-- The references that come with a triple that is put back; the null type is none. -/
def Triple.given (triple : Triple) : Multiset Handle :=
  if triple.type.isNull then
    triple.value.toList + triple.traceback.toList
  else
    triple.references

@[simp]
theorem Triple.referencesOf_none :
    Triple.referencesOf none = 0 :=
  rfl

@[simp]
theorem Triple.referencesOf_some (triple : Triple) :
    Triple.referencesOf (some triple) = triple.references :=
  rfl

namespace Interpreter

/--
The references that an interpreter holds on its own account: one for each
built-in name, the `None` object, each host class, each component of the pending
error and each warning filter.
-/
def held (interp : Interpreter) : Multiset Handle :=
  interp.builtins.map Prod.snd + {interp.noneObject} +
    (interp.hostClasses.map Prod.snd : List Handle) +
    Triple.referencesOf interp.pending +
    (interp.filters.map Prod.fst : List Handle)

/-- The names of the built-in classes, without the aliases. -/
def classNames : List String :=
  "object" :: builtinTypes ++ exceptionHierarchy.map Prod.fst

/--
The heap of an interpreter keeps its ledger for the references in `credit` and
those that the interpreter holds itself.
-/
structure Ledger
    (acyclic : Prop)
    (interp : Interpreter)
    (credit : Multiset Handle) :
    Prop where
  heap : interp.heap.Ledger acyclic (credit + interp.held)
  named : ∀ name ∈ classNames, ∃ handle, interp.lookup name = some handle

/-! ## What is held -/

theorem mem_held_of_lookup
    {interp : Interpreter}
    {name : String}
    {handle : Handle}
    (found : interp.lookup name = some handle) :
    handle ∈ interp.held := by
  have listed : handle ∈ interp.builtins.map Prod.snd := by
    rcases List.lookup_eq_some_iff.mp found with ⟨before, after, split, -⟩
    rw [split]
    simp
  simp only [held, Multiset.mem_add]
  exact .inl (.inl (.inl (.inl (Multiset.mem_coe.mpr listed))))

theorem noneObject_mem_held (interp : Interpreter) :
    interp.noneObject ∈ interp.held := by
  simp [held]

theorem mem_held_of_hostClass
    {interp : Interpreter}
    {key : String}
    {handle : Handle}
    (found : interp.hostClasses.lookup key = some handle) :
    handle ∈ interp.held := by
  have listed : handle ∈ interp.hostClasses.map Prod.snd := by
    rcases List.lookup_eq_some_iff.mp found with ⟨before, after, split, -⟩
    rw [split]
    simp
  simp only [held, Multiset.mem_add]
  exact .inl (.inl (.inr (Multiset.mem_coe.mpr listed)))

theorem mem_held_of_pending
    {interp : Interpreter}
    {triple : Triple}
    {handle : Handle}
    (pending : interp.pending = some triple)
    (member : handle ∈ triple.references) :
    handle ∈ interp.held := by
  simp only [held, Multiset.mem_add]
  exact .inl (.inr (by simpa [pending, Triple.referencesOf] using member))

theorem held_pending
    (interp : Interpreter)
    (pending : Option Triple) :
    ({ interp with pending } : Interpreter).held + Triple.referencesOf interp.pending =
      interp.held + Triple.referencesOf pending := by
  unfold held
  abel

theorem held_hostClasses
    (interp : Interpreter)
    (key : String)
    (type : Handle) :
    ({ interp with hostClasses := (key, type) :: interp.hostClasses } : Interpreter).held =
      type ::ₘ interp.held := by
  unfold held
  simp only [List.map_cons, ← Multiset.cons_coe, Multiset.add_cons, Multiset.cons_add]

/-! ## Counts only -/

theorem incref_eq_ok_iff
    {interp interp' : Interpreter}
    {handle : Handle} :
    interp.incref handle = .ok interp' ↔
      ∃ heap, interp.heap.incref handle = .ok heap ∧ { interp with heap } = interp' := by
  simp [incref, Except.bind_eq_ok_iff, pure, Except.pure]

theorem decref_eq_ok_iff
    {interp interp' : Interpreter}
    {handle : Handle}
    {remaining : Int} :
    interp.decref handle = .ok (remaining, interp') ↔
      ∃ heap,
        interp.heap.decref handle = .ok (remaining, heap) ∧ { interp with heap } = interp' := by
  simp only [decref, Except.bind_eq_ok_iff, pure, Except.pure, Except.ok.injEq, Prod.mk.injEq,
    Prod.exists]
  constructor
  · rintro ⟨_, heap, released, rfl, rfl⟩
    exact ⟨heap, released, rfl⟩
  · rintro ⟨heap, released, rfl⟩
    exact ⟨remaining, heap, released, rfl, rfl⟩

/-- The heap may have been used; nothing else has changed. -/
def OnHeap (interp interp' : Interpreter) : Prop :=
  ∃ heap, interp' = { interp with heap }

namespace OnHeap

variable {interp interp' interp'' : Interpreter} {handle : Handle}

theorem refl (interp : Interpreter) : interp.OnHeap interp :=
  ⟨interp.heap, rfl⟩

theorem trans
    (first : interp.OnHeap interp')
    (second : interp'.OnHeap interp'') :
    interp.OnHeap interp'' := by
  rcases first with ⟨_, rfl⟩
  rcases second with ⟨heap, rfl⟩
  exact ⟨heap, rfl⟩

theorem pending (onHeap : interp.OnHeap interp') : interp'.pending = interp.pending := by
  rcases onHeap with ⟨heap, rfl⟩
  rfl

theorem builtins (onHeap : interp.OnHeap interp') : interp'.builtins = interp.builtins := by
  rcases onHeap with ⟨heap, rfl⟩
  rfl

theorem hostClasses (onHeap : interp.OnHeap interp') :
    interp'.hostClasses = interp.hostClasses := by
  rcases onHeap with ⟨heap, rfl⟩
  rfl

theorem incref (taken : interp.incref handle = .ok interp') : interp.OnHeap interp' := by
  rcases incref_eq_ok_iff.mp taken with ⟨heap, -, rfl⟩
  exact ⟨heap, rfl⟩

theorem decref
    {remaining : Int}
    (released : interp.decref handle = .ok (remaining, interp')) :
    interp.OnHeap interp' := by
  rcases decref_eq_ok_iff.mp released with ⟨heap, -, rfl⟩
  exact ⟨heap, rfl⟩

theorem retain
    (interp : Interpreter)
    (handle : Handle) :
    interp.OnHeap (interp.retain handle) := by
  rw [Interpreter.retain]
  split
  · next taken => exact incref taken
  · exact refl interp

theorem release
    (interp : Interpreter)
    (handle : Handle) :
    interp.OnHeap (interp.release handle) := by
  rw [Interpreter.release]
  split
  · next released => exact decref released
  · exact refl interp

theorem release?
    (interp : Interpreter)
    (handle : Option Handle) :
    interp.OnHeap (interp.release? handle) := by
  cases handle with
  | none => exact refl interp
  | some handle => exact release interp handle

theorem releaseTriple
    (interp : Interpreter)
    (triple : Triple) :
    interp.OnHeap (interp.releaseTriple triple) :=
  ((release _ _).trans (release? _ _)).trans (release? _ _)

end OnHeap

/-- A live object can be given one more reference. -/
theorem incref_of_isLive
    {interp : Interpreter}
    {handle : Handle}
    (live : interp.heap.isLive handle = true) :
    ∃ interp', interp.incref handle = .ok interp' := by
  rcases (Heap.isLive_iff _ handle).mp live with ⟨entry, found⟩
  exact ⟨_, incref_eq_ok_iff.mpr ⟨_, Heap.incref_of_found found, rfl⟩⟩

/-- A reference to a live object can be given back. -/
theorem exists_decref
    {interp : Interpreter}
    {handle : Handle}
    (live : interp.heap.isLive handle = true) :
    ∃ result, interp.decref handle = .ok result := by
  rcases (Heap.isLive_iff _ handle).mp live with ⟨entry, found⟩
  exact ⟨_, decref_eq_ok_iff.mpr ⟨_, Heap.decref_of_found found, rfl⟩⟩

/-- Only of what is there a reference can be taken. -/
theorem isLive_of_incref
    {interp interp' : Interpreter}
    {handle : Handle}
    (taken : interp.incref handle = .ok interp') :
    interp.heap.isLive handle = true := by
  rcases incref_eq_ok_iff.mp taken with ⟨heap, counted, -⟩
  rcases Heap.found_of_incref counted with ⟨entry, found, -⟩
  exact (Heap.isLive_iff _ handle).mpr ⟨entry, found⟩

/-- Only a reference to a live object can be given back. -/
theorem isLive_of_decref
    {interp : Interpreter}
    {handle : Handle}
    {result : Int × Interpreter}
    (released : interp.decref handle = .ok result) :
    interp.heap.isLive handle = true := by
  rcases decref_eq_ok_iff.mp released with ⟨heap, counted, -⟩
  rcases Heap.found_of_decref counted with ⟨entry, found, -⟩
  exact (Heap.isLive_iff _ handle).mpr ⟨entry, found⟩

theorem isLive_retain
    {interp : Interpreter}
    {handle : Handle}
    (other : Handle)
    (live : interp.heap.isLive handle = true) :
    (interp.retain other).heap.isLive handle = true := by
  rw [retain]
  split
  · next taken =>
      rcases incref_eq_ok_iff.mp taken with ⟨heap, counted, rfl⟩
      rcases Heap.found_of_incref counted with ⟨entry, found, rfl⟩
      by_cases same : handle = other
      · subst same
        simp [Heap.isLive, Heap.find?_write_self _ found]
      · simpa [Heap.isLive, Heap.find?_write_of_ne _ found same] using live
  · exact live

@[simp]
theorem hostClasses_retain (interp : Interpreter) (handle : Handle) :
    (interp.retain handle).hostClasses = interp.hostClasses :=
  (OnHeap.retain interp handle).hostClasses

@[simp]
theorem hostClasses_allocate (interp : Interpreter) (payload : Payload) :
    (interp.allocate payload).2.hostClasses = interp.hostClasses :=
  rfl

theorem shrinks_retain
    (interp : Interpreter)
    (handle : Handle) :
    interp.heap.Shrinks (interp.retain handle).heap := by
  rw [retain]
  split
  · next taken =>
      rcases incref_eq_ok_iff.mp taken with ⟨heap, counted, rfl⟩
      exact .incref counted
  · exact .refl _

@[simp]
theorem payload?_retain
    (interp : Interpreter)
    (handle other : Handle) :
    (interp.retain handle).heap.payload? other = interp.heap.payload? other := by
  rw [retain]
  split
  · next taken =>
      rcases incref_eq_ok_iff.mp taken with ⟨heap, counted, rfl⟩
      exact Heap.payload?_incref counted other
  · rfl

theorem shrinks_release
    (interp : Interpreter)
    (handle : Handle) :
    interp.heap.Shrinks (interp.release handle).heap := by
  rw [release]
  split
  · next released =>
      rcases decref_eq_ok_iff.mp released with ⟨heap, counted, rfl⟩
      exact .decref counted
  · exact .refl _

theorem shrinks_release?
    (interp : Interpreter)
    (handle : Option Handle) :
    interp.heap.Shrinks (interp.release? handle).heap := by
  cases handle with
  | none => exact .refl _
  | some handle => exact interp.shrinks_release handle

theorem shrinks_releaseTriple
    (interp : Interpreter)
    (triple : Triple) :
    interp.heap.Shrinks (interp.releaseTriple triple).heap :=
  ((shrinks_release _ _).trans (shrinks_release? _ _)).trans (shrinks_release? _ _)

@[simp]
theorem hasRoom_retain (interp : Interpreter) (handle : Handle) :
    (interp.retain handle).heap.HasRoom ↔ interp.heap.HasRoom := by
  rw [Heap.HasRoom, (interp.shrinks_retain handle).allocations, Heap.HasRoom]

namespace Ledger

variable {acyclic : Prop} {interp interp' : Interpreter}
variable {owned credit credit' : Multiset Handle} {handle : Handle}

/-! ## Reading the ledger -/

/-- Without room there is nothing to keep. -/
theorem of_full
    (ledger : interp.Ledger acyclic credit)
    (full : ¬ interp.heap.HasRoom) :
    interp.Ledger acyclic credit' where
  heap := .of_full full
  named := ledger.named

/-- Outside references written in another way. -/
theorem congr
    (credit' : Multiset Handle)
    (ledger : interp.Ledger acyclic credit)
    (total : credit' = credit) :
    interp.Ledger acyclic credit' :=
  total ▸ ledger

theorem isLive_of_mem
    (ledger : interp.Ledger acyclic credit)
    (room : interp.heap.HasRoom)
    (member : handle ∈ credit) :
    interp.heap.isLive handle = true :=
  ledger.heap.isLive_of_mem room (Multiset.mem_add.mpr (.inl member))

theorem isLive_of_held
    (ledger : interp.Ledger acyclic credit)
    (room : interp.heap.HasRoom)
    (member : handle ∈ interp.held) :
    interp.heap.isLive handle = true :=
  ledger.heap.isLive_of_mem room (Multiset.mem_add.mpr (.inr member))

/--
A change that keeps the ledger, whatever others own, makes no room: without room
they may own anything, even what cannot be there.
-/
theorem hasRoom_of_keeps
    (ledger : interp.Ledger acyclic credit)
    (keeps :
      ∀ rest, interp.Ledger acyclic (owned + rest) → interp'.Ledger acyclic (credit' + rest))
    (room : interp'.heap.HasRoom) :
    interp.heap.HasRoom := by
  by_contra full
  have kept := keeps {.null} (ledger.of_full full)
  have live : interp'.heap.isLive .null = true := kept.isLive_of_mem room (by simp)
  simp [Heap.isLive, Heap.find?, Handle.isNull] at live

/-- A change of what the interpreter holds that comes from, or goes to, the outside. -/
theorem exchange
    (ledger : interp.Ledger acyclic credit)
    (heap : interp'.heap = interp.heap)
    (builtins : interp'.builtins = interp.builtins)
    (total : credit' + interp'.held = credit + interp.held) :
    interp'.Ledger acyclic credit' where
  heap := by
    rw [heap, total]
    exact ledger.heap
  named := by
    intro name listed
    simpa [lookup, builtins] using ledger.named name listed

/-! ## References -/

theorem incref
    (ledger : interp.Ledger acyclic credit)
    (taken : interp.incref handle = .ok interp') :
    interp'.Ledger acyclic (handle ::ₘ credit) := by
  rcases incref_eq_ok_iff.mp taken with ⟨heap, counted, rfl⟩
  refine ⟨?_, ledger.named⟩
  have after := ledger.heap.incref counted
  rwa [← Multiset.cons_add] at after

theorem decref
    {remaining : Int}
    (ledger : interp.Ledger acyclic (handle ::ₘ credit))
    (released : interp.decref handle = .ok (remaining, interp')) :
    interp'.Ledger acyclic credit := by
  rcases decref_eq_ok_iff.mp released with ⟨heap, counted, rfl⟩
  refine ⟨?_, ledger.named⟩
  have before := ledger.heap
  rw [Multiset.cons_add] at before
  exact before.decref counted

theorem retain
    (ledger : interp.Ledger acyclic credit)
    (live : interp.heap.HasRoom → interp.heap.isLive handle = true) :
    (interp.retain handle).Ledger acyclic (handle ::ₘ credit) := by
  rw [Interpreter.retain]
  split
  · next taken => exact ledger.incref taken
  · next failed =>
      refine ledger.of_full fun room => ?_
      rcases incref_of_isLive (live room) with ⟨held, taken⟩
      rw [failed] at taken
      cases taken

theorem release
    (ledger : interp.Ledger acyclic (handle ::ₘ credit)) :
    (interp.release handle).Ledger acyclic credit := by
  rw [Interpreter.release]
  split
  · next released => exact ledger.decref released
  · next failed =>
      refine ledger.of_full fun room => ?_
      have before := ledger.heap room
      rw [Multiset.cons_add] at before
      rcases before.1.decref with ⟨heap, released, -⟩
      simp [Interpreter.decref, released, bind, Except.bind, pure, Except.pure] at failed

theorem release?
    {handle : Option Handle}
    (ledger : interp.Ledger acyclic (handle.toList + credit)) :
    (interp.release? handle).Ledger acyclic credit := by
  cases handle with
  | none => exact ledger.congr _ (by simp)
  | some handle => exact (ledger.congr (handle ::ₘ credit) (by simp)).release

theorem releaseTriple
    {triple : Triple}
    (ledger : interp.Ledger acyclic (triple.references + credit)) :
    (interp.releaseTriple triple).Ledger acyclic credit := by
  rw [Interpreter.releaseTriple]
  apply release?
  apply release?
  apply release
  refine ledger.congr _ ?_
  rw [Triple.references, Multiset.cons_add]
  congr 1
  abel

/-! ## Objects -/

theorem allocate
    (payload : Payload)
    (ledger : interp.Ledger acyclic (payload.children + credit)) :
    (interp.allocate payload).2.Ledger acyclic ((interp.allocate payload).1 ::ₘ credit) := by
  refine ⟨?_, ledger.named⟩
  have before := ledger.heap
  rw [add_assoc] at before
  have after := before.allocate payload
  rw [← Multiset.cons_add] at after
  exact after

end Ledger

end Interpreter

end Custody
