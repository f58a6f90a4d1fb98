import Custody.Proofs.Heap.Lineage
import Custody.Proofs.Interpreter.Evolution
import Custody.Proofs.Interpreter.Normalizing

/-!
# Normalized triples

The value of a normalized triple is an instance of its type, not only of a class
that the type derives from, and has a traceback if the triple has one.  So
normalizing it once more changes nothing.
-/

namespace Custody

/--
If the value of a triple is an exception, the type is its class, and it has a
traceback if the triple has one that is there.
-/
structure Heap.Fits
    (heap : Heap)
    (type value : Handle)
    (traceback : Option Handle) :
    Prop where
  typed : ∀ info, heap.payload? value = some (.exception info) → info.type = type
  traced :
    ∀ info entry,
      heap.payload? value = some (.exception info) →
        traceback = some entry → heap.isLive entry = true → info.traceback.isSome = true

/-- Moreover the triple has a traceback if the value has one that is there. -/
structure Heap.Suits
    (heap : Heap)
    (type value : Handle)
    (traceback : Option Handle) :
    Prop
    extends heap.Fits type value traceback where
  complete :
    ∀ info entry,
      heap.payload? value = some (.exception info) →
        info.traceback = some entry → heap.isLive entry = true → traceback.isSome = true

namespace Heap

variable {heap heap' : Heap}

/-- What is there was there before references were given back. -/
theorem Shrinks.isLive
    {handle : Handle}
    (shrinks : heap.Shrinks heap')
    (live : heap'.isLive handle = true) :
    heap.isLive handle = true := by
  rcases exists_payload?_of_isLive live with ⟨payload, holds⟩
  exact isLive_of_payload? (shrinks.payload holds)

theorem Fits.of_shrinks
    {type value : Handle}
    {traceback : Option Handle}
    (fits : heap.Fits type value traceback)
    (shrinks : heap.Shrinks heap') :
    heap'.Fits type value traceback where
  typed := fun info holds => fits.typed info (shrinks.payload holds)
  traced := by
    intro info entry holds isTraceback live
    exact fits.traced info entry (shrinks.payload holds) isTraceback (shrinks.isLive live)

theorem Suits.of_shrinks
    {type value : Handle}
    {traceback : Option Handle}
    (suits : heap.Suits type value traceback)
    (shrinks : heap.Shrinks heap') :
    heap'.Suits type value traceback where
  toFits := suits.toFits.of_shrinks shrinks
  complete := fun info entry holds isLinked live =>
    suits.complete info entry (shrinks.payload holds) isLinked (shrinks.isLive live)

/-- If the handle of a new object names anything, it names the new object. -/
theorem eq_of_find?_allocate
    {payload : Payload}
    {entry : Entry}
    (addressable : (heap.allocate payload).2.Addressable)
    (found : (heap.allocate payload).2.find? (heap.allocate payload).1 = some entry) :
    entry = ⟨1, payload⟩ := by
  rcases find?_eq_some found with ⟨slot, at_index, -, holds⟩
  cases listed : heap.vacant with
  | nil =>
      rw [Addressable, size_allocate, listed, if_pos rfl, capacity] at addressable
      have bound : heap.slots.size < 2 ^ 32 := by omega
      have index : (UInt32.ofNat heap.slots.size).toNat = heap.slots.size := by simpa using bound
      simp only [allocate, listed, index, Array.getElem?_push_size, Option.some.injEq] at at_index
      subst at_index
      exact (Option.some.inj holds).symm
  | cons index vacant =>
      simp only [allocate, listed, Array.getElem?_modify, if_true, Option.map_eq_some_iff]
        at at_index
      rcases at_index with ⟨-, -, rfl⟩
      exact (Option.some.inj holds).symm

end Heap

namespace Interpreter

variable {interp interp' : Interpreter} {value : Handle} {traceback : Option Handle}

/-- What is no exception is not changed by setting its traceback, which is given back. -/
theorem shrinks_setTraceback_getD
    (plain : ∀ info, interp.heap.payload? value ≠ some (.exception info))
    (traceback : Option Handle) :
    interp.heap.Shrinks ((interp.setTraceback value traceback).toOption.getD interp).heap := by
  cases holds : interp.heap.payload value with
  | error reason =>
      simp only [setTraceback, replaceLink, holds]
      exact .refl _
  | ok payload =>
      cases payload with
      | exception info => exact absurd (Heap.payload_eq_ok_iff.mp holds) (plain info)
      | _ =>
          simp only [setTraceback, replaceLink, holds]
          exact shrinks_release? _ _

/-- A traceback is attached to an exception that has none; otherwise only references change. -/
theorem attachTraceback_cases
    (interp : Interpreter)
    (value : Handle)
    (traceback : Option Handle) :
    interp.heap.Shrinks (interp.attachTraceback value traceback).heap ∧
        (∀ info entry,
          interp.heap.payload? value = some (.exception info) →
            traceback = some entry →
              interp.heap.isLive entry = true → info.traceback.isSome = true) ∨
      ∃ info entry,
        interp.heap.payload? value = some (.exception info) ∧
          traceback = some entry ∧
            (interp.attachTraceback value traceback).heap.payload? value =
              some (.exception { info with traceback := some entry }) := by
  unfold attachTraceback
  split
  · next entry bare =>
      cases taken : interp.incref entry with
      | error reason =>
          refine .inl ⟨.refl _, fun info other _ isTraceback live => ?_⟩
          rcases Option.some.inj isTraceback with rfl
          rcases incref_of_isLive live with ⟨_, taken'⟩
          exact absurd (taken.symm.trans taken') (by simp)
      | ok held =>
          have retained : interp.retain entry = held := by rw [retain, taken]
          have shrinks := retained ▸ interp.shrinks_retain entry
          by_cases isException : ∃ info, interp.heap.payload? value = some (.exception info)
          · rcases isException with ⟨info, holds⟩
            have bare' : info.traceback = none := by simpa [Heap.tracebackOf, holds] using bare
            refine .inr ⟨info, entry, holds, rfl, ?_⟩
            have attached :
                (interp.attach value (some entry)).heap.payload? value =
                  some (.exception { info with traceback := some entry }) := by
              rw [payload?_attach holds bare', if_pos rfl]
            simpa only [attach, retained] using attached
          · have plain (info : ExceptionInfo) : held.heap.payload? value ≠ some (.exception info) :=
              fun holds => isException ⟨info, shrinks.payload holds⟩
            exact .inl ⟨shrinks.trans (shrinks_setTraceback_getD plain _),
              fun info _ holds => absurd ⟨info, holds⟩ isException⟩
  · next complete =>
      refine .inl ⟨.refl _, fun info entry holds isTraceback _ => ?_⟩
      rw [Option.isSome_iff_ne_none]
      exact fun bare => complete entry isTraceback (by simp [Heap.tracebackOf, holds, bare])

/-- A value without traceback takes the one of the triple. -/
theorem fits_attachTraceback
    {type : Handle}
    (typed : ∀ info, interp.heap.payload? value = some (.exception info) → info.type = type) :
    (interp.attachTraceback value traceback).heap.Fits type value traceback := by
  rcases interp.attachTraceback_cases value traceback with
    ⟨shrinks, traced⟩ | ⟨info, entry, holds, isTraceback, attached⟩
  · exact Heap.Fits.of_shrinks ⟨typed, traced⟩ shrinks
  · constructor
    · intro info' holds'
      rw [attached, Option.some.injEq, Payload.exception.injEq] at holds'
      subst holds'
      exact typed info holds
    · intro info' entry' holds' isTraceback' live
      rw [attached, Option.some.injEq, Payload.exception.injEq] at holds'
      subst holds'
      rfl

/-- What normalizing leaves of a triple. -/
theorem fits_normalize
    {triple triple' : Triple}
    (normalized : interp.normalize triple = (.ok triple', interp'))
    (addressable : interp'.heap.Addressable) :
    ∃ value,
      triple'.value = some value ∧ interp'.heap.Fits triple'.type value triple'.traceback := by
  rcases interp.normalize_cases triple with
    ⟨-, result⟩ | ⟨value, info, isValue, -, holds, -, result⟩ | result
  · rw [result] at normalized
    cases normalized
  · rw [result] at normalized
    cases normalized
    refine ⟨value, isValue, fits_attachTraceback fun info' holds' => ?_⟩
    have same := (interp.shrinks_narrow triple.type info.type).payload holds'
    rw [holds, Option.some.injEq, Payload.exception.injEq] at same
    rw [same]
  · rw [result] at normalized
    cases normalized
    refine ⟨_, rfl, fits_attachTraceback fun info holds => ?_⟩
    rcases Option.map_eq_some_iff.mp holds with ⟨entry, found, isException⟩
    have attached := Evolves.attachTraceback (interp.instantiate triple.type triple.value).2
      (interp.instantiate triple.type triple.value).1 triple.traceback
    have made := Heap.eq_of_find?_allocate (attached.heap.size_le.trans addressable) found
    rw [made] at isException
    cases isException
    rfl

/-! ## Once more -/

/-- A value is an exception of a class of exceptions. -/
def IsException (interp : Interpreter) (value : Handle) : Prop :=
  ∃ info,
    interp.heap.payload? value = some (.exception info) ∧
      interp.isExceptionClass info.type = true

/-- A triple that fits its value is normalized. -/
theorem normalize_of_fits
    {type : Handle}
    (isException : interp.IsException value)
    (fits : interp.heap.Fits type value traceback)
    (live : ∀ entry, traceback = some entry → interp.heap.isLive entry = true) :
    interp.normalize ⟨type, some value, traceback⟩ =
      (.ok ⟨type, some value, traceback⟩, interp) := by
  rcases isException with ⟨info, holds, isClass⟩
  have own : info.type = type := fits.typed info holds
  have kept : interp.instanceClass? type (some value) = some type := by
    simp [instanceClass?, holds, own]
  have attached : interp.attachTraceback value traceback = interp := by
    cases traceback with
    | none => rfl
    | some entry =>
        have linked : (interp.heap.tracebackOf value).isSome = true := by
          simpa [Heap.tracebackOf, holds] using fits.traced info entry holds rfl (live entry rfl)
        rcases Option.isSome_iff_exists.mp linked with ⟨other, isLinked⟩
        simp only [attachTraceback, isLinked]
  rw [own] at isClass
  simp only [normalize, isClass, Bool.not_true, Bool.false_eq_true, if_false, kept, if_true,
    attached]

end Interpreter

end Custody
