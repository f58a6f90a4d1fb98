import Custody.Proofs.Interpreter.NormalForm

/-!
# Giving a normalized instance a cause

Exchanging the cause of an instance takes over the reference to the new cause and gives
back the one to the old.  Nothing else is written, so that a triple that was normalized
before still is, even if the new cause is the instance itself or leads back to it.
-/

namespace Custody.Interpreter

variable {interp interp' : Interpreter} {credit : Multiset Handle} {triple normal : Triple}
variable {value cause : Handle}

/-- An instance was given another cause, and the one that it had before was given back. -/
def Recauses (interp : Interpreter) (value cause : Handle) (interp' : Interpreter) : Prop :=
  ∃ info heap,
    interp.heap.payload? value = some (.exception info) ∧
      interp.heap.setPayload value (.exception { info with cause := some cause }) = .ok heap ∧
        interp' = ({ interp with heap } : Interpreter).release? info.cause

namespace Recauses

/-- This is what setting a cause does. -/
theorem setCause_eq (recauses : interp.Recauses value cause interp') :
    interp.setCause value (some cause) = .ok interp' := by
  rcases recauses with ⟨info, heap, holds, changed, rfl⟩
  rw [setCause, replaceLink, Heap.payload_eq_ok_iff.mpr holds]
  simp only [bind, Except.bind, changed]
  rfl

/-- Setting a cause does nothing else to an instance. -/
theorem of_setCause
    {info : ExceptionInfo}
    (holds : interp.heap.payload? value = some (.exception info))
    (set : interp.setCause value (some cause) = .ok interp') :
    interp.Recauses value cause interp' := by
  rcases Heap.exists_setPayload (.exception { info with cause := some cause }) holds with
    ⟨heap, changed⟩
  have exchanged := setCause_eq ⟨info, heap, holds, changed, rfl⟩
  exact ⟨info, heap, holds, changed, Except.ok.inj (set.symm.trans exchanged)⟩

theorem evolves (recauses : interp.Recauses value cause interp') : interp.Evolves interp' :=
  .setCause recauses.setCause_eq

theorem pending (recauses : interp.Recauses value cause interp') :
    interp'.pending = interp.pending := by
  rcases recauses with ⟨info, heap, -, -, rfl⟩
  exact (OnHeap.release? _ info.cause).pending

theorem ledger
    (recauses : interp.Recauses value cause interp')
    (ledger : interp.Ledger False (cause ::ₘ credit)) :
    interp'.Ledger False credit :=
  Ledger.setCause (ledger.congr _ (by simp)) False.elim recauses.setCause_eq

/-- Of the instance itself, if others have references to it, nothing but the cause is new. -/
theorem payload?_eq
    (recauses : interp.Recauses value cause interp')
    (live : interp'.heap.isLive value = true) :
    ∃ info,
      interp.heap.payload? value = some (.exception info) ∧
        interp'.heap.payload? value = some (.exception { info with cause := some cause }) := by
  rcases recauses with ⟨info, heap, holds, changed, rfl⟩
  refine ⟨info, holds, ?_⟩
  have shrinks := shrinks_release? ({ interp with heap } : Interpreter) info.cause
  rw [shrinks.payload?_eq live]
  exact (Heap.payload?_setPayload changed value).trans (if_pos rfl)

end Recauses

/-- An instance of a class of exceptions, to which a triple comes that is normalized. -/
structure Settled (interp : Interpreter) (normal : Triple) (value : Handle) : Prop where
  valued : normal.value = some value
  isException : interp.IsException value
  fits : interp.heap.Fits normal.type value normal.traceback
  live : ∀ entry, normal.traceback = some entry → interp.heap.isLive entry = true

/-- Normalizing such a triple changes nothing, whatever is pending. -/
theorem Settled.normalize_eq
    (settled : interp.Settled normal value)
    (pending : Option Triple) :
    ({ interp with pending } : Interpreter).normalize normal =
      (.ok normal, { interp with pending }) := by
  have complete : normal = ⟨normal.type, some value, normal.traceback⟩ := by
    rw [← settled.valued]
  rw [complete]
  exact normalize_of_fits settled.isException settled.fits settled.live

/-- A triple that was normalized still is when its instance has been given another cause. -/
theorem Normalizes.recauses
    {start : Interpreter}
    (normalizes : start.Normalizes triple normal value interp)
    (regular : interp.Regular (cause ::ₘ (normal.references + credit)))
    (recauses : interp.Recauses value cause interp')
    (room : interp'.heap.HasRoom) :
    interp'.Settled normal value ∧ interp'.heap.causeOf value = some cause := by
  have ledger := recauses.ledger regular.ledger
  have evolves := recauses.evolves
  have component (handle : Handle) (among : handle ∈ normal.references) :
      interp'.heap.isLive handle = true :=
    ledger.isLive_of_mem room (Multiset.mem_add.mpr (.inl among))
  have typeLive := component normal.type (by simp [Triple.references])
  have valueLive := component value (by simp [Triple.references, normalizes.valued])
  rcases recauses.payload?_eq valueLive with ⟨info, holds, holds'⟩
  have own : info.type = normal.type :=
    Except.ok.inj ((typeOf_of_exception holds).symm.trans normalizes.typed)
  have room' := evolves.heap.hasRoom room
  have typeLive' := regular.ledger.isLive_of_mem room' (show normal.type ∈ _ by
    simp [Triple.references])
  have agree := Heap.Agree.of_evolves (evolves_initial.trans regular.evolves.heap) evolves.heap room
    (regular.ledger.whole room') (ledger.whole room)
  have isClass : interp'.isExceptionClass normal.type = true :=
    (isExceptionClass_eq agree evolves.builtins ⟨typeLive', typeLive⟩).trans
      normalizes.isExceptionClass
  refine ⟨⟨normalizes.valued, ⟨_, holds', own ▸ isClass⟩, ⟨fun info' same => ?_, ?_⟩, ?_⟩, ?_⟩
  · rw [holds', Option.some.injEq, Payload.exception.injEq] at same
    rw [← same, ← own]
  · intro info' entry same isTraceback _
    rw [holds', Option.some.injEq, Payload.exception.injEq] at same
    have traced := normalizes.traced
    rw [← normalizes.traceback, isTraceback] at traced
    have attached : (interp.heap.tracebackOf value).isSome = true := by
      rw [traced]
      cases start.heap.tracebackOf value <;> rfl
    simpa [Heap.tracebackOf, holds, ← same] using attached
  · intro entry isTraceback
    exact component entry (by simp [Triple.references, isTraceback])
  · simp [Heap.causeOf, holds']

/-! ## Instances of a class -/

/-- What has a class of exceptions for its type is an exception. -/
theorem Regular.exception_of_typeOf
    {type : Handle}
    (regular : interp.Regular credit)
    (room : interp.heap.HasRoom)
    (isClass : interp.isExceptionClass type = true)
    (typed : interp.typeOf value = .ok type) :
    ∃ info, interp.heap.payload? value = some (.exception info) ∧ info.type = type := by
  have isInstance : interp.isInstance value type = true := by
    rw [Interpreter.isInstance, typed]
    exact Heap.isSubclass_refl _ _
  rcases regular.exists_exception room isClass isInstance with ⟨info, holds, -⟩
  exact ⟨info, holds, Except.ok.inj ((typeOf_of_exception holds).symm.trans typed)⟩

/-- Normalizing leaves a triple what it is if its value has the very type of the triple. -/
theorem Regular.normalize_of_typeOf
    (regular : interp.Regular credit)
    (room : interp.heap.HasRoom)
    (isClass : interp.isExceptionClass triple.type = true)
    (isValue : triple.value = some value)
    (typed : interp.typeOf value = .ok triple.type) :
    ∃ interp', interp.normalize triple = (.ok triple, interp') := by
  rcases regular.exception_of_typeOf room isClass typed with ⟨info, holds, own⟩
  have kept : interp.instanceClass? triple.type (some value) = some triple.type := by
    rw [instanceClass?_eq_some_iff]
    exact ⟨info, holds, own ▸ Heap.isSubclass_refl _ _, own⟩
  exact ⟨_, normalize_of_instance isClass isValue kept⟩

theorem Regular.fetch
    (regular : interp.Regular credit)
    (pending : interp.pending = some triple) :
    ({ interp with pending := none } : Interpreter).Regular (triple.references + credit) :=
  ⟨regular.ledger.fetch (fetch_of_pending pending),
    regular.evolves.trans (.fetch (fetch_of_pending pending))⟩

theorem Regular.normalize_of_ok
    (regular : interp.Regular (triple.references + credit))
    (normalized : interp.normalize triple = (.ok normal, interp')) :
    interp'.Regular (normal.references + credit) := by
  have evolves := Evolves.normalize interp triple
  rw [normalized] at evolves
  exact ⟨regular.ledger.normalize_of_ok False.elim normalized, regular.evolves.trans evolves⟩

/-- A built-in class keeps the name that it had in a fresh interpreter. -/
theorem Regular.className_builtin
    {name : String}
    {type : Handle}
    (regular : interp.Regular credit)
    (room : interp.heap.HasRoom)
    (found : interp.lookup name = some type) :
    interp.heap.className type =
      Interpreter.initial.heap.className (Interpreter.initial.builtin name) := by
  rcases regular.isLive_builtin room found with ⟨found', live⟩
  rw [builtin, found', Option.getD_some]
  exact (regular.agree room).className_eq live

/-! ## Refusals -/

/-- What is pending is an instance of a built-in class. -/
def PendingInstance (interp : Interpreter) (name : String) : Prop :=
  ∃ type value traceback,
    interp.lookup name = some type ∧
      interp.pending = some ⟨type, some value, traceback⟩ ∧
        (interp.heap.HasRoom → interp.typeOf value = .ok type)

/-- Such an instance is what it is normalized to. -/
theorem PendingInstance.normalize
    {name : String}
    (isInstance : interp.PendingInstance name)
    (regular : interp.Regular credit)
    (room : interp.heap.HasRoom)
    (isClass : initial.isExceptionClass (initial.builtin name) = true) :
    ∃ type value traceback interp',
      interp.lookup name = some type ∧
        interp.pending = some ⟨type, some value, traceback⟩ ∧
          ({ interp with pending := none } : Interpreter).normalize
              ⟨type, some value, traceback⟩ =
            (.ok ⟨type, some value, traceback⟩, interp') := by
  rcases isInstance with ⟨type, value, traceback, found, pending, typed⟩
  have taken := regular.fetch pending
  have typed' : ({ interp with pending := none } : Interpreter).typeOf value = .ok type :=
    typed room
  rcases taken.normalize_of_typeOf room ((taken.isExceptionClass_builtin room found).trans isClass)
    (show (⟨type, some value, traceback⟩ : Triple).value = some value from rfl) typed' with
    ⟨interp', normalized⟩
  exact ⟨type, value, traceback, interp', found, pending, normalized⟩

/-- What is pending stays an instance of a built-in class while references are given back. -/
theorem PendingInstance.of_shrinks
    {name : String}
    (isInstance : interp.PendingInstance name)
    (shrinks : interp.heap.Shrinks interp'.heap)
    (onHeap : interp.OnHeap interp')
    (ledger : interp'.Ledger False credit) :
    interp'.PendingInstance name := by
  rcases isInstance with ⟨type, value, traceback, found, pending, typed⟩
  have pending' := onHeap.pending.trans pending
  refine ⟨type, value, traceback, ?_, pending', fun room => ?_⟩
  · rw [lookup, onHeap.builtins]
    exact found
  · have live := ledger.isLive_of_held room
      (mem_held_of_pending pending' (show value ∈ _ by simp [Triple.references]))
    exact typeOf_of_payload? (shrinks.payload?_eq live) onHeap.builtins
      (typed (shrinks.hasRoom_iff.mp room))

/--
A triple that cannot be normalized is given back, and the reference to a cause for it too.
An instance of `TypeError` is pending.
-/
theorem Regular.refuses_cause
    (regular : interp.Regular (triple.references + cause ::ₘ credit))
    (room : interp.heap.HasRoom)
    (misfit : interp.isExceptionClass triple.type = false)
    (nothing : interp.pending = none) :
    ∃ raised,
      interp.normalize triple = (.error {}, raised) ∧
        ((raised.release cause).releaseTriple triple).Regular credit ∧
          interp.OnHeap { (raised.release cause).releaseTriple triple with pending := none } ∧
            ((raised.release cause).releaseTriple triple).PendingInstance "TypeError" := by
  rcases regular.refuses room misfit with ⟨-, type, value, traceback, found, pending, spoken⟩
  have refused := normalize_of_misfit misfit
  have evolves := Evolves.normalize interp triple
  have raises := OnHeap.raiseInstance interp
    ((interp.lookup "TypeError").getD (interp.builtin "SystemError"))
    ("exceptions must derive from BaseException, not '" ++
      interp.nameOfMisfit triple.type ++ "'") none
  have bare : ({ interp with pending := none } : Interpreter) = interp := by rw [← nothing]
  rw [bare, ← raise] at raises
  rw [refused] at pending spoken evolves
  refine ⟨_, refused, ?_⟩
  have ledger := (regular.ledger.normalize_of_error refused).congr
    (cause ::ₘ (triple.references + credit)) (Multiset.add_cons _ _ _).symm
  generalize interp.raise "TypeError" _ = raised at *
  have onHeap := (OnHeap.release raised cause).trans (.releaseTriple _ triple)
  have shrinks := (raised.shrinks_release cause).trans (shrinks_releaseTriple _ triple)
  have regular' : ((raised.release cause).releaseTriple triple).Regular credit :=
    ⟨ledger.release.releaseTriple,
      ((regular.evolves.trans evolves).trans (.release raised cause)).trans
        (.releaseTriple _ triple)⟩
  have isInstance : raised.PendingInstance "TypeError" := by
    refine ⟨type, value, traceback, ?_, pending, fun room' => (spoken room').1⟩
    rw [lookup, raises.builtins]
    exact found
  exact ⟨regular', raises.trans (onHeap.withPending none),
    isInstance.of_shrinks shrinks onHeap regular'.ledger⟩

end Custody.Interpreter
