import Custody.Proofs.Session.Fetching

/-!
# Where the texts of an exception come from

Whatever an exception was made of, a triple that was normalized or a cause that may be
any object, its value was an object of its type when it was captured, and its texts are
the name of that type and the text of that object.

So as long as the value is there the exception says the same of it, however long ago it
was captured and whatever has become of its wrappers.
-/

namespace Custody

variable {session session' : Session}

/-! ## Values of triples -/

namespace Interpreter

variable {interp interp' : Interpreter} {type value : Handle}

/-- Only the traceback of an exception is written when one is attached. -/
theorem typeOf_attachTraceback
    {traceback : Option Handle}
    (isException :
      ∀ payload,
        interp.heap.payload? value = some payload →
          ∃ info, payload = .exception info ∧ info.type = type)
    (live : (interp.attachTraceback value traceback).heap.isLive value = true) :
    (interp.attachTraceback value traceback).typeOf value = .ok type := by
  rcases interp.attachTraceback_cases value traceback with
    ⟨shrinks, -⟩ | ⟨info, entry, holds, -, attached⟩
  · rcases Heap.exists_payload?_of_isLive live with ⟨payload, holds⟩
    rcases isException payload (shrinks.payload holds) with ⟨info, rfl, rfl⟩
    exact typeOf_of_exception holds
  · rcases isException _ holds with ⟨info', same, sameType⟩
    rw [typeOf_of_exception attached, ← sameType, ← Payload.exception.inj same]

/-- The value of a normalized triple, if it is there, is an object of the type. -/
theorem typeOf_normalize
    {triple triple' : Triple}
    (normalized : interp.normalize triple = (.ok triple', interp'))
    (addressable : interp'.heap.Addressable)
    (isValue : triple'.value = some value)
    (live : interp'.heap.isLive value = true) :
    interp'.typeOf value = .ok triple'.type := by
  rcases interp.normalize_cases triple with
    ⟨-, result⟩ | ⟨old, info, isOld, -, holds, -, result⟩ | result
  · rw [result] at normalized
    cases normalized
  · rw [result] at normalized
    cases normalized
    cases isOld.symm.trans isValue
    refine typeOf_attachTraceback (fun payload holds' => ?_) live
    have same := (interp.shrinks_narrow triple.type info.type).payload holds'
    rw [holds, Option.some.injEq] at same
    exact ⟨info, same.symm, rfl⟩
  · rw [result] at normalized
    cases normalized
    cases isValue
    refine typeOf_attachTraceback (fun payload holds => ?_) live
    rcases Option.map_eq_some_iff.mp holds with ⟨entry, found, rfl⟩
    have attached := Evolves.attachTraceback (interp.instantiate triple.type triple.value).2
      (interp.instantiate triple.type triple.value).1 triple.traceback
    rw [Heap.eq_of_find?_allocate (attached.heap.size_le.trans addressable) found]
    exact ⟨_, rfl, rfl⟩

end Interpreter

/-! ## Sources -/

namespace CapturedException

variable {exception : CapturedException} {type value : Handle}

/-- What an exception says, it says of objects that were there. -/
theorem Presents.of_shrinks
    {interp interp' : Interpreter}
    {acyclic : Prop}
    {credit : Multiset Handle}
    (presents : exception.Presents interp type value)
    (shrinks : interp.heap.Shrinks interp'.heap)
    (builtins : interp'.builtins = interp.builtins)
    (ledger : interp'.Ledger acyclic credit)
    (room : interp'.heap.HasRoom)
    (live : interp'.heap.isLive value = true) :
    exception.Presents interp' type value := by
  have typed := Interpreter.typeOf_of_payload? (shrinks.payload?_eq live) builtins presents.typed
  exact presents.of_agree (Heap.Agree.of_shrinks shrinks (ledger.whole room)) builtins
    (ledger.isLive_typeOf room typed) live

/--
The wrappers of a captured exception have records, and if no resolver was asked, what it
says it said of an interpreter from which nothing but references was given back since.
-/
structure Sourced (exception : CapturedException) (session : Session) : Prop where
  inside : ∀ wrapper ∈ exception.wrappers, wrapper.record < session.registry.records.size
  source :
    session.registry.Untroubled →
      session.interp.heap.Addressable →
        ∃ interp : Interpreter,
          interp.heap.Shrinks session.interp.heap ∧
            session.interp.builtins = interp.builtins ∧
              exception.Presents interp (exception.type.handle session)
                (exception.value.handle session)

theorem Reads.sourced
    {taken : Session}
    {traceback : Option Handle}
    (reads : exception.Reads taken type value traceback session')
    (builtins :
      session'.registry.Untroubled → session'.interp.builtins = taken.interp.builtins)
    (typed :
      taken.interp.heap.Addressable →
        taken.interp.heap.isLive value = true → taken.interp.typeOf value = .ok type) :
    exception.Sourced session' where
  inside := reads.inside
  source := by
    intro untroubled addressable
    have shrinks := reads.passes.heap untroubled
    refine ⟨taken.interp, shrinks, builtins untroubled, ?_⟩
    rw [reads.typed.handle, reads.valued.handle]
    exact ⟨typed (shrinks.addressable_iff.mp addressable) (reads.there untroubled),
      reads.typeName, reads.valueText⟩

/-- Every exception that is wrapped has its source. -/
theorem sourced_followsWrapping : FollowsWrapping Sourced where
  normalized := by
    intro session interp triple triple' normalized
    refine brings_ofNormalized fun exception value session' isValue reads builtins => ?_
    have shrinks := shrinks_completeTraceback interp value triple'.traceback
    have same := (onHeap_completeTraceback interp value triple'.traceback).builtins
    refine reads.sourced (fun untroubled => (builtins untroubled).trans same.symm) ?_
    intro addressable live
    have typed := Interpreter.typeOf_normalize normalized (shrinks.addressable_iff.mp addressable)
      isValue (shrinks.isLive live)
    exact Interpreter.typeOf_of_payload? (shrinks.payload?_eq live) same typed
  cause := by
    intro session session₁ type value typed shrinks onHeap
    refine brings_ofNormalized fun exception value' session' isValue reads builtins => ?_
    cases isValue
    have shrinks' := shrinks_completeTraceback session₁.interp value
      (session.interp.heap.tracebackOf value)
    have same := (onHeap_completeTraceback session₁.interp value
      (session.interp.heap.tracebackOf value)).builtins
    refine reads.sourced (fun untroubled => (builtins untroubled).trans same.symm) ?_
    intro _ live
    exact Interpreter.typeOf_of_payload? ((shrinks.trans shrinks').payload?_eq live)
      (same.trans onHeap.builtins) typed

/-! ## Any time later -/

variable {config : Config} {hasTable : Bool} {owned : Multiset Handle}

/-- An exception still describes its value, if that is there, after it was captured. -/
theorem Sourced.presents
    (sourced : exception.Sourced session)
    (employed : session.Employed config hasTable owned)
    (room : session.interp.heap.HasRoom)
    (live : session.interp.heap.isLive (exception.value.handle session) = true) :
    exception.Presents session.interp (exception.type.handle session)
      (exception.value.handle session) := by
  rcases employed.sound.exists_ledger with ⟨_, ledger, -⟩
  have addressable := ((employed.origin room).wellFormed room).toTidy.addressable room
  rcases sourced.source (employed.sound.untroubled room) addressable with
    ⟨interp, shrinks, builtins, presents⟩
  exact presents.of_shrinks shrinks builtins ledger room live

/-- The wrappers of a captured exception keep to their objects. -/
theorem handle_onward
    {start : Session}
    {request : Session.Request}
    (brought : (request.answer start).exception? = some exception)
    (onward : Session.Onward config hasTable (request.perform start).2 session owned)
    (wrapper : Wrapper)
    (among : wrapper ∈ exception.wrappers) :
    wrapper.handle session = wrapper.handle (request.perform start).2 :=
  onward.passes.handle_eq
    ((Session.brought_perform sourced_followsWrapping brought).inside wrapper among)

/-- As long as its value is there an exception describes it as it did when it was captured. -/
theorem presents_onward
    {start : Session}
    {request : Session.Request}
    (brought : (request.answer start).exception? = some exception)
    (onward : Session.Onward config hasTable (request.perform start).2 session owned)
    (room : session.interp.heap.HasRoom)
    (live : session.interp.heap.isLive (exception.value.handle session) = true) :
    exception.Presents session.interp (exception.type.handle session)
      (exception.value.handle session) := by
  have sourced := Session.brought_perform sourced_followsWrapping brought
  rcases onward.exists_employed with ⟨owned', employed'⟩
  have builtins := onward.builtins room
  have evolves := onward.passes.heap (onward.employed.sound.untroubled room)
  have room' := evolves.hasRoom room
  have origin := employed'.origin room'
  rw [handle_onward brought onward exception.value (by simp [wrappers])] at live ⊢
  rw [handle_onward brought onward exception.type (by simp [wrappers])]
  generalize (request.perform start).2 = captured at *
  -- The value was there when it was captured, and its slot has not been used again since.
  have wasLive : captured.interp.heap.isLive (exception.value.handle captured) = true := by
    rcases sourced.source (employed'.sound.untroubled room')
      ((origin.wellFormed room').toTidy.addressable room') with ⟨interp, shrinks, -, presents⟩
    rcases (Heap.isLive_iff _ _).mp (Interpreter.isLive_of_typeOf presents.typed) with
      ⟨entry, found⟩
    exact origin.isLive_of_isCurrent evolves room
      (shrinks.current (Heap.isCurrent_of_find? found)) live
  have presents := sourced.presents employed' room' wasLive
  rcases employed'.sound.exists_ledger with ⟨_, ledger', -⟩
  rcases onward.employed.sound.exists_ledger with ⟨_, ledger, -⟩
  have agree := Heap.Agree.of_evolves origin evolves room (ledger'.whole room')
    (ledger.whole room)
  have typed := Interpreter.typeOf_of_agree agree builtins ⟨wasLive, live⟩ presents.typed
  exact presents.of_agree agree builtins
    ⟨ledger'.isLive_typeOf room' presents.typed, ledger.isLive_typeOf room typed⟩ ⟨wasLive, live⟩

end CapturedException

end Custody
