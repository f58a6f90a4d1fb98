import Custody.Proofs.Heap.Lineage
import Custody.Proofs.Interpreter.Normalized
import Custody.Proofs.Interpreter.Signals

/-!
# What normalizing does for its caller

Whatever the value of a triple is, normalizing leaves an instance whose class is
the new type of the triple, so that there is nothing left to do: normalizing once
more changes nothing at all.  The caller's references to the old triple become
references to the new one.

A triple whose type is no class of exceptions stays as it is, with the references
to it, and the `TypeError` that says so is pending instead of whatever was before.
-/

namespace Custody

namespace Heap

variable {heap : Heap} {handle : Handle}

/-- What is there stays when an object is made. -/
theorem isLive_allocate_of_isLive
    {payload : Payload}
    (tidy : heap.Tidy)
    (room : heap.HasRoom)
    (live : heap.isLive handle = true) :
    (heap.allocate payload).2.isLive handle = true := by
  rcases exists_payload?_of_isLive live with ⟨held, holds⟩
  exact isLive_of_payload? ((payload?_allocate_of_isLive tidy room live).trans holds)

/-- What is not there has no traceback. -/
theorem tracebackOf_of_not_isLive
    (gone : ¬ heap.isLive handle = true) :
    heap.tracebackOf handle = none := by
  rw [tracebackOf]
  split
  · next holds => exact absurd (isLive_of_payload? holds) gone
  · rfl

/-- The text of an exception with a text as its only argument is that text. -/
theorem str_of_message
    {text : Handle}
    {info : ExceptionInfo}
    {message : String}
    (holds : heap.payload? handle = some (.exception info))
    (single : info.args = [text])
    (reads : heap.payload? text = some (.str message)) :
    heap.str handle = message := by
  have written : heap.strWithin 2 handle = some message := by
    simp [strWithin, holds, single, reads]
  rw [str, strWithin_reach written, Option.getD_some]

end Heap

namespace Interpreter

variable {interp interp' : Interpreter} {triple : Triple} {owned credit : Multiset Handle}
variable {acyclic : Prop} {type value : Handle}

/-! ## Classes -/

theorem Ledger.whole
    (ledger : interp.Ledger acyclic credit)
    (room : interp.heap.HasRoom) :
    interp.heap.Whole :=
  fun points => ledger.heap.isLive_of_points room points

theorem Reached.evolves (reached : Reached interp owned) :
    Interpreter.initial.Evolves interp := by
  induction reached with
  | initial => exact .refl _
  | call call _ _ before => exact before.trans (.perform call _)

/-- An interpreter that was fresh once, with its ledger for what others own. -/
structure Regular (interp : Interpreter) (credit : Multiset Handle) : Prop where
  ledger : interp.Ledger False credit
  evolves : initial.Evolves interp

theorem Reached.regular (reached : Reached interp owned) : interp.Regular owned :=
  ⟨reached.ledger, reached.evolves⟩

namespace Regular

/-- What is left of a fresh interpreter holds what it held then. -/
theorem agree
    (regular : interp.Regular credit)
    (room : interp.heap.HasRoom) :
    Heap.Agree
      (fun handle =>
        Interpreter.initial.heap.isLive handle = true ∧ interp.heap.isLive handle = true)
      Interpreter.initial.heap interp.heap :=
  .of_evolves evolves_initial regular.evolves.heap room
    ((ledger_initial False).whole (regular.evolves.heap.hasRoom room)) (regular.ledger.whole room)

/-- A built-in class was there in a fresh interpreter, and is still. -/
theorem isLive_builtin
    {name : String}
    (regular : interp.Regular credit)
    (room : interp.heap.HasRoom)
    (found : interp.lookup name = some type) :
    Interpreter.initial.lookup name = some type ∧
      Interpreter.initial.heap.isLive type = true ∧ interp.heap.isLive type = true := by
  have begun := regular.evolves.heap.hasRoom room
  have found' : Interpreter.initial.lookup name = some type := by
    rw [← found, lookup, lookup, regular.evolves.builtins]
  exact ⟨found', (ledger_initial False).isLive_of_held begun (mem_held_of_lookup found'),
    regular.ledger.isLive_of_held room (mem_held_of_lookup found)⟩

/-- A built-in class derives from what it derived from in a fresh interpreter. -/
theorem isSubclass_builtin
    {name : String}
    (regular : interp.Regular credit)
    (room : interp.heap.HasRoom)
    (found : interp.lookup name = some type)
    (super : Handle) :
    interp.heap.isSubclass type super = Interpreter.initial.heap.isSubclass type super :=
  (regular.agree room).isSubclass_eq super (regular.isLive_builtin room found).2

end Regular

/-- The names of the classes of what is no exception. -/
def plainNames : List String :=
  ["NoneType", "bool", "int", "str", "list", "type", "traceback"]

theorem plainNames_subset : plainNames ⊆ classNames := by
  decide

theorem isSubclass_plain :
    ∀ name ∈ plainNames,
      initial.heap.isSubclass (initial.builtin name) (initial.builtin "BaseException") = false := by
  decide +kernel

/-- What is no exception has one of the built-in classes. -/
theorem typeOf_of_plain
    {payload : Payload}
    (holds : interp.heap.payload? value = some payload)
    (plain : ∀ info, payload ≠ .exception info) :
    ∃ name ∈ plainNames,
      interp.typeOf value = .ok ((interp.lookup name).getD (interp.builtin "object")) := by
  have resolved := Heap.payload_eq_ok_iff.mpr holds
  cases payload with
  | exception info => exact absurd rfl (plain info)
  | none => exact ⟨"NoneType", by decide, by simp only [typeOf, resolved]; rfl⟩
  | bool truth => exact ⟨"bool", by decide, by simp only [typeOf, resolved]; rfl⟩
  | int number => exact ⟨"int", by decide, by simp only [typeOf, resolved]; rfl⟩
  | str text => exact ⟨"str", by decide, by simp only [typeOf, resolved]; rfl⟩
  | list items => exact ⟨"list", by decide, by simp only [typeOf, resolved]; rfl⟩
  | type info => exact ⟨"type", by decide, by simp only [typeOf, resolved]; rfl⟩
  | traceback info => exact ⟨"traceback", by decide, by simp only [typeOf, resolved]; rfl⟩

theorem typeOf_of_exception
    {info : ExceptionInfo}
    (holds : interp.heap.payload? value = some (.exception info)) :
    interp.typeOf value = .ok info.type := by
  simp only [typeOf, Heap.payload_eq_ok_iff.mpr holds]
  rfl

/-- Only an exception is an instance of a class of exceptions. -/
theorem Regular.exists_exception
    (regular : interp.Regular credit)
    (room : interp.heap.HasRoom)
    (isClass : interp.isExceptionClass type = true)
    (isInstance : interp.isInstance value type = true) :
    ∃ info,
      interp.heap.payload? value = some (.exception info) ∧
        interp.heap.isSubclass info.type type = true := by
  rw [Interpreter.isInstance] at isInstance
  split at isInstance
  · next own typed =>
      rcases Heap.exists_payload?_of_isLive (isLive_of_typeOf typed) with ⟨payload, holds⟩
      by_cases isException : ∃ info, payload = .exception info
      · rcases isException with ⟨info, rfl⟩
        rw [typeOf_of_exception holds] at typed
        cases typed
        exact ⟨info, holds, isInstance⟩
      · exfalso
        rcases typeOf_of_plain holds (fun info same => isException ⟨info, same⟩) with
          ⟨name, listed, typed'⟩
        have named : name ∈ classNames := plainNames_subset listed
        rcases regular.ledger.named name named with ⟨class', found⟩
        rcases regular.ledger.named "BaseException" (by decide) with ⟨base, found'⟩
        rw [typed', found, Option.getD_some] at typed
        cases typed
        simp only [isExceptionClass, found', Bool.and_eq_true] at isClass
        have derives := Heap.isSubclass_trans isInstance isClass.2
        rw [regular.isSubclass_builtin room found] at derives
        have apart := isSubclass_plain name listed
        have same : Interpreter.initial.builtins = interp.builtins := regular.evolves.builtins.symm
        rw [builtin, builtin, lookup, lookup, same, ← lookup, ← lookup, found, found'] at apart
        simp [derives] at apart
  · cases isInstance

/-- A class stays a class of exceptions in an interpreter that agrees about its bases. -/
theorem isExceptionClass_eq
    {among : Handle → Prop}
    (agree : Heap.Agree among interp.heap interp'.heap)
    (builtins : interp'.builtins = interp.builtins)
    (isAmong : among type) :
    interp'.isExceptionClass type = interp.isExceptionClass type := by
  rw [isExceptionClass, isExceptionClass, lookup, lookup, builtins]
  cases interp.builtins.lookup "BaseException" with
  | none => rfl
  | some base =>
      simp only
      rw [agree.isType_eq isAmong, agree.isSubclass_eq base isAmong]

/-- What derives from a class of exceptions is one. -/
theorem isExceptionClass_of_isSubclass
    {own : Handle}
    (isClass : interp.isExceptionClass type = true)
    (derives : interp.heap.isSubclass own type = true) :
    interp.isExceptionClass own = true := by
  rw [isExceptionClass] at isClass ⊢
  split at isClass
  · rw [Bool.and_eq_true] at isClass ⊢
    exact ⟨Heap.isType_of_isSubclass derives isClass.1,
      Heap.isSubclass_trans derives isClass.2⟩
  · cases isClass

/-- A built-in class is a class of exceptions if it was one in a fresh interpreter. -/
theorem Regular.isExceptionClass_builtin
    {name : String}
    (regular : interp.Regular credit)
    (room : interp.heap.HasRoom)
    (found : interp.lookup name = some type) :
    interp.isExceptionClass type =
      Interpreter.initial.isExceptionClass (Interpreter.initial.builtin name) := by
  rcases regular.isLive_builtin room found with ⟨found', live⟩
  rw [builtin, found', Option.getD_some]
  exact isExceptionClass_eq (regular.agree room) regular.evolves.builtins live

/-- An object keeps its class in an interpreter that agrees about it. -/
theorem typeOf_of_agree
    {among : Handle → Prop}
    (agree : Heap.Agree among interp.heap interp'.heap)
    (builtins : interp'.builtins = interp.builtins)
    (isAmong : among value)
    (typed : interp.typeOf value = .ok type) :
    interp'.typeOf value = .ok type := by
  rcases Heap.exists_payload?_of_isLive (isLive_of_typeOf typed) with ⟨payload, holds⟩
  rcases agree.payload?_cases isAmong with
    ⟨-, same⟩ | ⟨info, info', wasHeld, isHeld, sameType, -⟩
  · rw [← typed]
    simp only [typeOf, lookup, builtin, builtins, Heap.payload_eq_ok_iff.mpr holds,
      Heap.payload_eq_ok_iff.mpr (same.trans holds)]
  · rwa [typeOf_of_exception isHeld, sameType, ← typeOf_of_exception wasHeld]

/-- An object has the class that it had in an interpreter in which it held the same. -/
theorem typeOf_of_payload?
    (same : interp'.heap.payload? value = interp.heap.payload? value)
    (builtins : interp'.builtins = interp.builtins)
    (typed : interp.typeOf value = .ok type) :
    interp'.typeOf value = .ok type := by
  rcases Heap.exists_payload?_of_isLive (isLive_of_typeOf typed) with ⟨payload, holds⟩
  rw [← typed]
  simp only [typeOf, lookup, builtin, builtins, Heap.payload_eq_ok_iff.mpr holds,
    Heap.payload_eq_ok_iff.mpr (same.trans holds)]

/-! ## Triples that are normalized -/

/--
What a triple is normalized to.  The value is an instance whose class is the new
type, which derives from the old one.  It is the old value if that was an instance
already, and new otherwise; and it keeps its traceback or takes that of the
triple.  Normalizing once more changes nothing.
-/
structure Normalizes
    (interp : Interpreter)
    (triple triple' : Triple)
    (value : Handle)
    (interp' : Interpreter) :
    Prop where
  pending : interp'.pending = interp.pending
  valued : triple'.value = some value
  traceback : triple'.traceback = triple.traceback
  typed : interp'.typeOf value = .ok triple'.type
  derives : interp'.heap.isSubclass triple'.type triple.type = true
  kept :
    ∀ old,
      triple.value = some old → interp.isInstance old triple.type = true → value = old
  made :
    (∀ old, triple.value = some old → interp.isInstance old triple.type = false) →
      triple'.type = triple.type ∧ interp.heap.isLive value = false
  traced :
    interp'.heap.tracebackOf value = (interp.heap.tracebackOf value <|> triple.traceback)
  again : interp'.normalize triple' = (.ok triple', interp')

/-- Attaching a traceback to an instance leaves nothing to be normalized. -/
private theorem attached_normal
    {info : ExceptionInfo}
    {traceback : Option Handle}
    (holds : interp.heap.payload? value = some (.exception info))
    (live : ∀ entry, traceback = some entry → interp.heap.isLive entry = true)
    (isClass : (interp.attachTraceback value traceback).isExceptionClass info.type = true) :
    (interp.attachTraceback value traceback).typeOf value = .ok info.type ∧
      (interp.attachTraceback value traceback).heap.tracebackOf value =
          (info.traceback <|> traceback) ∧
        (interp.attachTraceback value traceback).normalize ⟨info.type, some value, traceback⟩ =
          (.ok ⟨info.type, some value, traceback⟩, interp.attachTraceback value traceback) := by
  have written := payload?_attachTraceback holds live
  have holds' := written value
  rw [if_pos rfl] at holds'
  have fits : (interp.attachTraceback value traceback).heap.Fits info.type value traceback := by
    refine fits_attachTraceback fun info' holds' => ?_
    rw [holds, Option.some.injEq, Payload.exception.injEq] at holds'
    rw [holds']
  have typed := typeOf_of_exception holds'
  refine ⟨typed, ?_, normalize_of_fits ⟨_, holds', isClass⟩ fits ?_⟩
  · simp [Heap.tracebackOf, holds']
  · intro entry isTraceback
    rcases Heap.exists_payload?_of_isLive (live entry isTraceback) with ⟨payload, stays⟩
    have stays' := written entry
    split at stays'
    · exact Heap.isLive_of_payload? stays'
    · exact Heap.isLive_of_payload? (stays'.trans stays)

/-- Attaching a traceback writes nothing but that link. -/
private theorem core_attachTraceback
    {info : ExceptionInfo}
    {traceback : Option Handle}
    (holds : interp.heap.payload? value = some (.exception info))
    (live : ∀ entry, traceback = some entry → interp.heap.isLive entry = true)
    (other : Handle) :
    ((interp.attachTraceback value traceback).heap.payload? other).map Payload.core =
      (interp.heap.payload? other).map Payload.core := by
  rw [payload?_attachTraceback holds live]
  split
  · next same => rw [same, holds]; rfl
  · rfl

/-- An instance is normalized by narrowing the type of the triple to its class. -/
theorem Regular.normalizes_instance
    {info : ExceptionInfo}
    (regular : interp.Regular (triple.references + credit))
    (room : interp.heap.HasRoom)
    (isClass : interp.isExceptionClass triple.type = true)
    (isValue : triple.value = some value)
    (holds : interp.heap.payload? value = some (.exception info))
    (derives : interp.heap.isSubclass info.type triple.type = true) :
    interp.Normalizes triple { triple with type := info.type } value
      (interp.normalize triple).2 := by
  have kept := instanceClass?_eq_some_iff.mpr ⟨info, holds, derives, rfl⟩
  have shrinks := interp.shrinks_narrow triple.type info.type
  have room' := shrinks.hasRoom_iff.mpr room
  have narrowed := regular.ledger.normalizing.1.narrow info.type fun room =>
    regular.ledger.heap.isLive_of_points room ⟨_, holds, by simp [Payload.children]⟩
  have liveType := narrowed.isLive_of_mem room' (Multiset.mem_cons_self info.type _)
  have liveValue : (interp.narrow triple.type info.type).heap.isLive value = true :=
    narrowed.isLive_of_mem room' (by simp [isValue])
  have liveEntry : ∀ entry, triple.traceback = some entry →
      (interp.narrow triple.type info.type).heap.isLive entry = true :=
    fun entry isEntry => narrowed.isLive_of_mem room' (by simp [isEntry])
  have holds' := (shrinks.payload?_eq liveValue).trans holds
  have evolves :=
    (Evolves.narrow interp triple.type info.type).trans (.attachTraceback _ value triple.traceback)
  have agree := (Heap.Agree.of_shrinks shrinks (narrowed.whole room')).trans
    fun _ => core_attachTraceback holds' liveEntry _
  have isClass' := isExceptionClass_of_isSubclass isClass derives
  rw [← isExceptionClass_eq agree evolves.builtins liveType] at isClass'
  rcases attached_normal holds' liveEntry isClass' with ⟨typed, traced, again⟩
  rw [normalize_of_instance isClass isValue kept]
  have isInstance : interp.isInstance value triple.type = true := by
    rw [Interpreter.isInstance, typeOf_of_exception holds]
    exact derives
  exact {
    pending := ((OnHeap.narrow interp _ _).trans (.attachTraceback _ _ _)).pending
    valued := isValue
    traceback := rfl
    typed := typed
    derives := (agree.isSubclass_eq _ liveType).trans derives
    kept := fun old isOld _ => Option.some.inj (isValue.symm.trans isOld)
    made := fun none => absurd isInstance (by simp [none value isValue])
    traced := by rw [traced, Heap.tracebackOf, holds]
    again := by rw [isValue]; exact again }

/-- Whatever else the value is, a new instance is made of it. -/
theorem Regular.normalizes_other
    (regular : interp.Regular (triple.references + credit))
    (room : interp.heap.HasRoom)
    (isClass : interp.isExceptionClass triple.type = true)
    (other : interp.instanceClass? triple.type triple.value = none) :
    interp.Normalizes triple
      { triple with value := some (interp.instantiate triple.type triple.value).1 }
      (interp.instantiate triple.type triple.value).1 (interp.normalize triple).2 := by
  have shrinks :=
    (interp.shrinks_argumentsOf triple.value).trans (shrinks_retain _ triple.type)
  have room' := shrinks.hasRoom_iff.mpr room
  have ready := regular.ledger.normalizing.1.readyToInstantiate
  have tidy := (ready.heap room').1.tidy
  have liveType := ready.isLive_of_mem room'
    (Multiset.mem_add.mpr (.inr (Multiset.mem_cons_self triple.type _)))
  have holds :
      (interp.instantiate triple.type triple.value).2.heap.payload?
          (interp.instantiate triple.type triple.value).1 =
        some (.exception ⟨triple.type, (interp.argumentsOf triple.value).1, none, none⟩) :=
    (Heap.payload?_allocate tidy room' _).trans (if_pos rfl)
  have liveEntry : ∀ entry, triple.traceback = some entry →
      (interp.instantiate triple.type triple.value).2.heap.isLive entry = true :=
    fun entry isEntry => Heap.isLive_allocate_of_isLive tidy room'
      (ready.isLive_of_mem room' (by simp [isEntry]))
  have evolves := (Evolves.instantiate interp triple.type triple.value).trans
    (.attachTraceback _ (interp.instantiate triple.type triple.value).1 triple.traceback)
  have whole : ((interp.argumentsOf triple.value).2.retain triple.type).heap.Whole :=
    ready.whole room'
  have agree := ((Heap.Agree.of_shrinks shrinks whole).trans
    (Heap.Agree.of_allocate tidy room' whole).core).trans
      fun _ => core_attachTraceback holds liveEntry _
  have isClass' := isClass
  rw [← isExceptionClass_eq agree evolves.builtins liveType] at isClass'
  rcases attached_normal holds liveEntry isClass' with ⟨typed, traced, again⟩
  have fresh : ¬ interp.heap.isLive (interp.instantiate triple.type triple.value).1 = true := by
    intro live
    rcases (Heap.isLive_iff _ _).mp live with ⟨entry, found⟩
    exact Heap.not_isCurrent_allocate tidy (tidy.addressable_allocate room' _)
      (shrinks.current (Heap.isCurrent_of_find? found))
  rw [normalize_of_other isClass other]
  exact {
    pending := ((OnHeap.instantiate interp _ _).trans (.attachTraceback _ _ _)).pending
    valued := rfl
    traceback := rfl
    typed := typed
    derives := Heap.isSubclass_refl _ _
    kept := by
      intro old isOld isInstance
      rcases regular.exists_exception room isClass isInstance with ⟨info, holds, derives⟩
      rw [isOld, instanceClass?_eq_some_iff.mpr ⟨info, holds, derives, rfl⟩] at other
      cases other
    made := fun _ => ⟨rfl, by simpa using fresh⟩
    traced := by
      rw [traced, Heap.tracebackOf_of_not_isLive fresh]
    again := again }

/-! ## Triples that are refused -/

/-- A new instance has its message as its only argument. -/
theorem payload?_newException_message
    {message : String}
    {result : Handle × Interpreter}
    (origin : Heap.empty.Evolves interp.heap)
    (made : interp.newException type (some message) = .ok result)
    (room : result.2.heap.HasRoom) :
    ∃ text,
      result.2.heap.payload? result.1 = some (.exception ⟨type, [text], none, none⟩) ∧
        result.2.heap.payload? text = some (.str message) := by
  rcases Except.bind_eq_ok_iff.mp made with ⟨held, taken, made⟩
  simp only [pure, Except.pure, Except.ok.injEq] at made
  subst made
  have begun : Heap.empty.Evolves held.heap := origin.trans (Evolves.incref taken).heap
  have worded := (Evolves.allocate held (.str message)).heap
  have roomAfter : (held.allocate (.str message)).2.heap.HasRoom := room.of_allocate
  have roomBefore := worded.hasRoom roomAfter
  have written : (held.allocate (.str message)).2.heap.payload? (held.allocate (.str message)).1 =
      some (.str message) :=
    (Heap.payload?_allocate (begun.wellFormed roomBefore).toTidy roomBefore _).trans (if_pos rfl)
  have tidy := (Heap.Evolves.wellFormed (begun.trans worded) roomAfter).toTidy
  refine ⟨(held.allocate (.str message)).1, ?_, ?_⟩
  · exact (Heap.payload?_allocate tidy roomAfter _).trans (if_pos rfl)
  · exact (Heap.payload?_allocate_of_isLive tidy roomAfter
      (Heap.isLive_of_payload? written)).trans written

/-- An instance with a message goes on saying it for as long as it is there. -/
theorem message_evolves
    {text : Handle}
    {info : ExceptionInfo}
    {message : String}
    (origin : Heap.empty.Evolves interp.heap)
    (evolves : interp.Evolves interp')
    (room : interp'.heap.HasRoom)
    (whole : interp'.heap.Whole)
    (live : interp'.heap.isLive value = true)
    (holds : interp.heap.payload? value = some (.exception info))
    (single : info.args = [text])
    (reads : interp.heap.payload? text = some (.str message)) :
    interp'.typeOf value = .ok info.type ∧ interp'.heap.str value = message := by
  rcases Heap.exists_payload?_of_isLive live with ⟨payload, holds'⟩
  have same := origin.core_payload? evolves.heap room (Heap.isLive_of_payload? holds) live
  rw [holds, holds', Option.map_some, Option.map_some, Option.some.injEq] at same
  cases payload with
  | exception info' =>
      rw [Payload.core, Payload.core, Payload.exception.injEq, ExceptionInfo.mk.injEq] at same
      rcases same with ⟨isType, args, -, -⟩
      rw [single] at args
      have liveText : interp'.heap.isLive text = true :=
        whole ⟨_, holds', by simp [Payload.children, args]⟩
      have same' := origin.core_payload? evolves.heap room (Heap.isLive_of_payload? reads) liveText
      rcases Heap.exists_payload?_of_isLive liveText with ⟨payload, reads'⟩
      rw [reads, reads', Option.map_some, Option.map_some, Option.some.injEq] at same'
      cases payload with
      | str text' =>
          cases same'
          refine ⟨?_, Heap.str_of_message holds' args reads'⟩
          exact (typeOf_of_exception holds').trans (congrArg Except.ok isType)
      | _ => cases same'
  | _ => cases same

/-- What is raised of a class is an instance of it that says the message. -/
theorem Ledger.message_raiseInstance
    (ledger : interp.Ledger acyclic credit)
    (origin : Heap.empty.Evolves interp.heap)
    (live : interp.heap.isLive type = true)
    (message : String) :
    ∃ value traceback,
      (interp.raiseInstance type message).pending = some ⟨type, some value, traceback⟩ ∧
        ((interp.raiseInstance type message).heap.HasRoom →
          (interp.raiseInstance type message).typeOf value = .ok type ∧
            (interp.raiseInstance type message).heap.str value = message) := by
  rcases exists_newException (some message) live with ⟨value, started, made⟩
  have after := ledger.raiseInstance type message
  rw [raiseInstance_eq made] at after ⊢
  refine ⟨value, started.newTraceback.1, pending_replacePending _ _, fun room' => ?_⟩
  have traced : started.Evolves started.newTraceback.2 := .chainFrames started.frames none started
  have evolves := ((traced.trans (.attach _ value started.newTraceback.1)).trans
    (.retain _ type)).trans (.replacePending _ (some ⟨type, some value, started.newTraceback.1⟩))
  rcases payload?_newException_message origin made (evolves.heap.hasRoom room') with
    ⟨text, holds, reads⟩
  have component : value ∈ (⟨type, some value, started.newTraceback.1⟩ : Triple).references := by
    simp [Triple.references]
  have there := after.isLive_of_held room'
    (mem_held_of_pending (pending_replacePending _ _) component)
  exact message_evolves (origin.trans (Evolves.newException made).heap) evolves room'
    (after.whole room') there holds rfl reads

/-- Raising a built-in class makes an instance of it with the message pending. -/
theorem Regular.pending_raise
    {name : String}
    (regular : interp.Regular credit)
    (room : interp.heap.HasRoom)
    (named : name ∈ classNames)
    (message : String) :
    ∃ type value traceback,
      interp.lookup name = some type ∧
        (interp.raise name message).pending = some ⟨type, some value, traceback⟩ ∧
          ((interp.raise name message).heap.HasRoom →
            (interp.raise name message).typeOf value = .ok type ∧
              (interp.raise name message).heap.str value = message) := by
  rcases regular.ledger.named name named with ⟨type, found⟩
  have live := regular.ledger.isLive_of_held room (mem_held_of_lookup found)
  have raised : interp.raise name message = interp.raiseInstance type message := by
    rw [Interpreter.raise, found, Option.getD_some]
  have origin := evolves_initial.trans regular.evolves.heap
  rcases regular.ledger.message_raiseInstance origin live message with ⟨value, traceback, raises⟩
  rw [raised]
  exact ⟨type, value, traceback, found, raises⟩

/-- Counts are the numbers of references that the caller, the objects and the interpreter have. -/
def Counts (interp : Interpreter) (owned : Multiset Handle) : Prop :=
  ∀ handle entry,
    interp.heap.find? handle = some entry →
      entry.refcount =
        (owned.count handle + interp.heap.links.count handle + interp.held.count handle : Nat)

theorem Reached.counts
    (reached : Reached interp owned)
    (room : interp.heap.HasRoom) :
    interp.Counts owned := by
  intro handle entry found
  have counted := (reached.ledger.heap room).1.counted found
  rw [counted, Multiset.count_add, Multiset.count_add]
  omega

/--
A triple that is refused: it stays as it is, and a `TypeError` is pending that
says what its type is instead of a class of exceptions.
-/
structure Refuses (interp : Interpreter) (triple : Triple) (interp' : Interpreter) : Prop where
  unchanged : interp.normalized triple = triple
  raised :
    ∃ type value traceback,
      interp.lookup "TypeError" = some type ∧
        interp'.pending = some ⟨type, some value, traceback⟩ ∧
          (interp'.heap.HasRoom →
            interp'.typeOf value = .ok type ∧
              interp'.heap.str value =
                "exceptions must derive from BaseException, not '" ++
                  interp.nameOfMisfit triple.type ++ "'")

theorem Regular.refuses
    (regular : interp.Regular credit)
    (room : interp.heap.HasRoom)
    (misfit : interp.isExceptionClass triple.type = false) :
    interp.Refuses triple (interp.normalize triple).2 where
  unchanged := by rw [normalized, normalize_of_misfit misfit]; rfl
  raised := by
    rw [normalize_of_misfit misfit]
    exact regular.pending_raise room (by decide) _

/-! ## Either way -/

/-- A triple whose type is a class of exceptions is normalized, whatever its value. -/
theorem Regular.normalizes
    (regular : interp.Regular (triple.references + credit))
    (room : interp.heap.HasRoom)
    (isClass : interp.isExceptionClass triple.type = true) :
    ∃ triple' value interp',
      interp.normalize triple = (.ok triple', interp') ∧
        interp.Normalizes triple triple' value interp' := by
  cases own : interp.instanceClass? triple.type triple.value with
  | none =>
      refine ⟨_, _, _, ?_, regular.normalizes_other room isClass own⟩
      rw [normalize_of_other isClass own]
  | some type =>
      obtain ⟨value, isValue⟩ : ∃ value, triple.value = some value := by
        cases isValue : triple.value with
        | none => simp [isValue, instanceClass?] at own
        | some value => exact ⟨value, rfl⟩
      rw [isValue] at own
      rcases instanceClass?_eq_some_iff.mp own with ⟨info, holds, derives, rfl⟩
      refine ⟨_, value, _, ?_, regular.normalizes_instance room isClass isValue holds derives⟩
      rw [normalize_of_instance isClass isValue own]

/-- The type of a normalized triple is a class of exceptions. -/
theorem Normalizes.isExceptionClass
    {triple' : Triple}
    (normalizes : interp.Normalizes triple triple' value interp') :
    interp'.isExceptionClass triple'.type = true := by
  by_contra misfit
  have refused := normalize_of_misfit (Bool.eq_false_iff.mpr misfit)
  rw [normalizes.again] at refused
  cases refused

/-- The error that refuses a triple is taken in its place, when that was given back. -/
theorem Regular.retry
    {sign : Raised}
    {next : Triple}
    {raised between : Interpreter}
    (regular : interp.Regular (triple.references + credit))
    (refused : interp.normalize triple = (.error sign, raised))
    (fetched : (raised.releaseTriple triple).fetch = some (next, between)) :
    between.Regular (next.references + credit) where
  ledger := ((regular.ledger.normalize_of_error refused).releaseTriple).fetch fetched
  evolves := by
    have normalized := Evolves.normalize interp triple
    rw [refused] at normalized
    exact ((regular.evolves.trans normalized).trans (.releaseTriple raised triple)).trans
      (.fetch fetched)

/-- The references to a triple become those to what normalizing leaves of it. -/
theorem Reached.normalize
    (reached : Reached interp (triple.references + owned))
    (room : interp.heap.HasRoom)
    (traceback : (interp.normalized triple).traceback = triple.traceback) :
    Reached (interp.normalize triple).2 ((interp.normalized triple).references + owned) := by
  have taken :
      (Call.normalize triple).taken + (triple.traceback.toList + owned) =
        triple.references + owned := by
    rw [Call.taken, Triple.references, Multiset.cons_add, Multiset.cons_add, add_assoc]
  have after := Reached.call (.normalize triple) (taken ▸ reached) fun entry borrowed => by
    refine reached.ledger.isLive_of_mem room ?_
    simp only [Call.borrowed] at borrowed
    simp [Triple.references, Option.mem_toList.mp borrowed]
  have received :
      ((Call.normalize triple).perform interp).1 + (triple.traceback.toList + owned) =
        (interp.normalized triple).references + owned := by
    rw [Call.perform, Triple.references, traceback, ← Multiset.cons_coe, Multiset.cons_add,
      Multiset.cons_add, add_assoc]
  rwa [received] at after

/--
If the type of a triple is a class of exceptions the triple is normalized, and
otherwise it is refused.  Either way the caller owns what it is left with, and
counts are right.
-/
theorem normalize_settles
    (reached : Reached interp (triple.references + owned))
    (room : interp.heap.HasRoom) :
    (interp.isExceptionClass triple.type = true →
      ∃ triple' value interp',
        interp.normalize triple = (.ok triple', interp') ∧
          interp.Normalizes triple triple' value interp' ∧
            Reached interp' (triple'.references + owned) ∧
              (interp'.heap.HasRoom → interp'.Counts (triple'.references + owned))) ∧
      (interp.isExceptionClass triple.type = false →
        ∃ interp',
          interp.normalize triple = (.error {}, interp') ∧
            interp.Refuses triple interp' ∧
              Reached interp' (triple.references + owned) ∧
                (interp'.heap.HasRoom → interp'.Counts (triple.references + owned))) := by
  constructor
  · intro isClass
    rcases reached.regular.normalizes room isClass with ⟨triple', value, interp', ok, normalized⟩
    have left : interp.normalized triple = triple' := by rw [Interpreter.normalized, ok]; rfl
    have after := reached.normalize room (left ▸ normalized.traceback)
    rw [left, ok] at after
    exact ⟨triple', value, interp', ok, normalized, after, after.counts⟩
  · intro misfit
    have refused : interp.Refuses triple (interp.normalize triple).2 :=
      reached.regular.refuses room misfit
    have after := reached.normalize room (by rw [refused.unchanged])
    rw [refused.unchanged] at after
    exact ⟨_, by rw [normalize_of_misfit misfit], refused, after, after.counts⟩

/-- The caller has the class `Exception`, a `ValueError` and a traceback. -/
def prepared : Interpreter :=
  [ Call.incref ⟨12, 0⟩,
    .newException ⟨39, 0⟩ (some "x"),
    .newObject (.traceback ⟨⟨"main", "main.py", 1, none⟩, none⟩) ].foldl
    (fun interp call => (call.perform interp).2) initial

private theorem reached_prepared : Reached prepared {⟨55, 0⟩, ⟨54, 0⟩, ⟨12, 0⟩} := by
  have typed := Reached.initial.receive (.incref ⟨12, 0⟩) rfl (by decide +kernel)
  have valued := typed.receive (.newException ⟨39, 0⟩ (some "x")) rfl (by decide +kernel)
  have traced := valued.receive (.newObject (.traceback ⟨⟨"main", "main.py", 1, none⟩, none⟩)) rfl
    nofun
  refine (congrArg (Reached prepared) ?_).mp traced
  decide +kernel

/--
The type of the instance narrows that of the triple, and the instance takes the
traceback.  A triple that has the traceback as its type is refused.
-/
theorem normalize_settles_prepared :
    (∃ interp',
      prepared.normalize ⟨⟨12, 0⟩, some ⟨54, 0⟩, some ⟨55, 0⟩⟩ =
          (.ok ⟨⟨39, 0⟩, some ⟨54, 0⟩, some ⟨55, 0⟩⟩, interp') ∧
        Reached interp' {⟨39, 0⟩, ⟨54, 0⟩, ⟨55, 0⟩} ∧
          interp'.heap.tracebackOf ⟨54, 0⟩ = some ⟨55, 0⟩) ∧
      ∃ interp',
        prepared.normalize ⟨⟨55, 0⟩, some ⟨54, 0⟩, none⟩ = (.error {}, interp') ∧
          Reached interp' {⟨55, 0⟩, ⟨54, 0⟩, ⟨12, 0⟩} := by
  have room : prepared.heap.HasRoom := by decide +kernel
  constructor
  · have reached : Reached prepared
        ((⟨⟨12, 0⟩, some ⟨54, 0⟩, some ⟨55, 0⟩⟩ : Triple).references + 0) :=
      (congrArg (Reached prepared) (by decide)).mp reached_prepared
    rcases (normalize_settles reached room).1 (by decide +kernel) with
      ⟨triple', value, interp', ok, normalized, after, -⟩
    have left : (prepared.normalize ⟨⟨12, 0⟩, some ⟨54, 0⟩, some ⟨55, 0⟩⟩).1.toOption =
        some ⟨⟨39, 0⟩, some ⟨54, 0⟩, some ⟨55, 0⟩⟩ := by decide +kernel
    rw [ok] at left
    cases left
    cases normalized.valued
    refine ⟨interp', ok, (congrArg (Reached interp') (by decide)).mp after, ?_⟩
    rw [normalized.traced]
    decide +kernel
  · have reached : Reached prepared
        ((⟨⟨55, 0⟩, some ⟨54, 0⟩, none⟩ : Triple).references + {⟨12, 0⟩}) :=
      (congrArg (Reached prepared) (by decide)).mp reached_prepared
    rcases (normalize_settles reached room).2 (by decide +kernel) with
      ⟨interp', failed, -, after, -⟩
    exact ⟨interp', failed, (congrArg (Reached interp') (by decide)).mp after⟩

end Interpreter

end Custody
