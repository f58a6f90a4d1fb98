import Custody.Proofs.Interpreter.Ledger

/-!
# Classes and instances keep the ledger

What making a class or an exception instance, and changing a link of an
instance, do to the references held from outside.  A link takes its reference
over from the caller and the link before it is given back.
-/

namespace Custody

namespace Interpreter

/-- Whatever is there has a class. -/
theorem exists_typeOf
    {interp : Interpreter}
    {handle : Handle}
    (live : interp.heap.isLive handle = true) :
    ∃ type, interp.typeOf handle = .ok type := by
  rcases Heap.exists_payload?_of_isLive live with ⟨payload, holds⟩
  rw [typeOf, Heap.payload_eq_ok_iff.mpr holds]
  cases payload with
  | exception info => exact ⟨info.type, rfl⟩
  | _ => exact ⟨_, rfl⟩

/-- The class has a name. -/
theorem exists_typeName
    {interp : Interpreter}
    {handle : Handle}
    (live : interp.heap.isLive handle = true) :
    ∃ name, interp.typeName handle = .ok name := by
  rcases exists_typeOf live with ⟨type, typed⟩
  exact ⟨_, Except.bind_eq_ok_iff.mpr ⟨type, typed, rfl⟩⟩

/-- What has a class is there. -/
theorem isLive_of_typeOf
    {interp : Interpreter}
    {handle type : Handle}
    (typed : interp.typeOf handle = .ok type) :
    interp.heap.isLive handle = true := by
  rcases Except.bind_eq_ok_iff.mp typed with ⟨payload, written, -⟩
  exact Heap.isLive_of_payload? (Heap.payload_eq_ok_iff.mp written)

/-- There can be a new instance of whatever is there. -/
theorem exists_newException
    {interp : Interpreter}
    {type : Handle}
    (message : Option String)
    (live : interp.heap.isLive type = true) :
    ∃ handle interp', interp.newException type message = .ok (handle, interp') := by
  rcases incref_of_isLive live with ⟨typed, taken⟩
  cases message with
  | none => exact ⟨_, _, Except.bind_eq_ok_iff.mpr ⟨typed, taken, rfl⟩⟩
  | some message => exact ⟨_, _, Except.bind_eq_ok_iff.mpr ⟨typed, taken, rfl⟩⟩

theorem hasRoom_of_newException
    {interp interp' : Interpreter}
    {type handle : Handle}
    {message : Option String}
    (made : interp.newException type message = .ok (handle, interp'))
    (room : interp'.heap.HasRoom) :
    interp.heap.HasRoom := by
  rcases Except.bind_eq_ok_iff.mp made with ⟨typed, taken, result⟩
  rcases incref_eq_ok_iff.mp taken with ⟨heap, counted, rfl⟩
  rw [← (Heap.Shrinks.incref counted).hasRoom_iff]
  cases message with
  | none =>
      simp only [pure, Except.pure, Except.ok.injEq] at result
      rcases Prod.mk.inj result with ⟨rfl, rfl⟩
      exact Heap.HasRoom.of_allocate room
  | some message =>
      simp only [pure, Except.pure, Except.ok.injEq] at result
      rcases Prod.mk.inj result with ⟨rfl, rfl⟩
      exact Heap.HasRoom.of_allocate (Heap.HasRoom.of_allocate room)

/-- A link can be assigned to whatever is there. -/
theorem exists_replaceLink
    {interp : Interpreter}
    {handle : Handle}
    (link : Option Handle)
    (change : ExceptionInfo → Option Handle × ExceptionInfo)
    (live : interp.heap.isLive handle = true) :
    ∃ interp', interp.replaceLink handle link change = .ok interp' := by
  rcases Heap.exists_payload?_of_isLive live with ⟨payload, holds⟩
  rw [replaceLink]
  rw [Heap.payload_eq_ok_iff.mpr holds]
  cases payload with
  | exception info =>
      rcases Heap.exists_setPayload (.exception (change info).2) holds with ⟨heap, changed⟩
      exact ⟨_, Except.bind_eq_ok_iff.mpr ⟨_, rfl, Except.bind_eq_ok_iff.mpr ⟨heap, changed, rfl⟩⟩⟩
  | _ => exact ⟨_, rfl⟩

theorem allocations_replaceLink
    {interp interp' : Interpreter}
    {handle : Handle}
    {link : Option Handle}
    {change : ExceptionInfo → Option Handle × ExceptionInfo}
    (replaced : interp.replaceLink handle link change = .ok interp') :
    interp'.heap.stats.allocations = interp.heap.stats.allocations := by
  rcases Except.bind_eq_ok_iff.mp replaced with ⟨payload, -, result⟩
  cases payload with
  | exception info =>
      rcases Except.bind_eq_ok_iff.mp result with ⟨heap, changed, result⟩
      simp only [pure, Except.pure, Except.ok.injEq] at result
      subst result
      rcases Heap.found_of_setPayload changed with ⟨entry, -, rfl⟩
      exact (shrinks_release? _ _).allocations
  | _ =>
      simp only [pure, Except.pure, Except.ok.injEq] at result
      subst result
      exact (shrinks_release? _ _).allocations

/-- A traceback can be attached to an instance without one; nothing else changes. -/
theorem setTraceback_of_bare
    {interp : Interpreter}
    {handle : Handle}
    {info : ExceptionInfo}
    (traceback : Option Handle)
    (holds : interp.heap.payload? handle = some (.exception info))
    (bare : info.traceback = none) :
    ∃ heap,
      interp.heap.setPayload handle (.exception { info with traceback }) = .ok heap ∧
        interp.setTraceback handle traceback = .ok { interp with heap } := by
  rcases Heap.exists_setPayload (.exception { info with traceback }) holds with ⟨heap, changed⟩
  refine ⟨heap, changed, ?_⟩
  unfold setTraceback replaceLink
  rw [Heap.payload_eq_ok_iff.mpr holds]
  refine Except.bind_eq_ok_iff.mpr ⟨_, rfl, Except.bind_eq_ok_iff.mpr ⟨heap, changed, ?_⟩⟩
  simp [bare, release?, pure, Except.pure]

end Interpreter

namespace Interpreter.Ledger

variable {acyclic : Prop} {interp interp' : Interpreter} {credit : Multiset Handle}
variable {handle : Handle}

/-- The class of an object is there. -/
theorem isLive_typeOf
    {type : Handle}
    (ledger : interp.Ledger acyclic credit)
    (room : interp.heap.HasRoom)
    (typed : interp.typeOf handle = .ok type) :
    interp.heap.isLive type = true := by
  rcases Except.bind_eq_ok_iff.mp typed with ⟨payload, holds, result⟩
  have known (name : String) :
      interp.heap.isLive ((interp.lookup name).getD (interp.builtin "object")) = true := by
    cases found : interp.lookup name with
    | some own => exact ledger.isLive_of_held room (mem_held_of_lookup found)
    | none =>
        rcases ledger.named "object" (by decide) with ⟨object, found⟩
        simpa [builtin, found] using ledger.isLive_of_held room (mem_held_of_lookup found)
  rw [Heap.payload_eq_ok_iff] at holds
  cases payload with
  | exception info =>
      cases result
      exact ledger.heap.isLive_of_points room ⟨_, holds, by simp [Payload.children]⟩
  | _ =>
      cases result
      exact known _

/-! ## New objects -/

theorem newNone
    (ledger : interp.Ledger acyclic credit) :
    interp.newNone.2.Ledger acyclic (interp.newNone.1 ::ₘ credit) :=
  ledger.retain fun room => ledger.isLive_of_held room interp.noneObject_mem_held

theorem newClass
    {name : String}
    {home : Option String}
    {base : Handle}
    (ledger : interp.Ledger acyclic credit)
    (made : interp.newClass name home base = .ok (handle, interp')) :
    interp'.Ledger acyclic (handle ::ₘ credit) := by
  rcases Except.bind_eq_ok_iff.mp made with ⟨held, taken, result⟩
  simp only [pure, Except.pure, Except.ok.injEq] at result
  have after := ((ledger.incref taken).congr (([base] : List Handle) + credit)
    (by simp)).allocate (.type ⟨name, home, some base⟩)
  rwa [result] at after

/-- A new instance is placed on the heap once there is a reference to each of its children. -/
theorem newException_eq
    {type : Handle}
    {message : Option String}
    (ledger : interp.Ledger acyclic credit)
    (made : interp.newException type message = .ok (handle, interp')) :
    ∃ ready : Interpreter, ∃ args,
      ready.Ledger acyclic ((Payload.exception ⟨type, args, none, none⟩).children + credit) ∧
        ready.held = interp.held ∧
          ready.allocate (.exception ⟨type, args, none, none⟩) = (handle, interp') := by
  rcases Except.bind_eq_ok_iff.mp made with ⟨typed, taken, result⟩
  have typeHeld := ledger.incref taken
  rcases incref_eq_ok_iff.mp taken with ⟨heap, -, rfl⟩
  cases message with
  | none =>
      simp only [pure, Except.pure, Except.ok.injEq] at result
      exact ⟨_, [], typeHeld.congr _ (by simp [Payload.children]), rfl, result⟩
  | some message =>
      simp only [pure, Except.pure, Except.ok.injEq] at result
      have worded := (typeHeld.congr (([] : List Handle) + type ::ₘ credit)
        (by simp)).allocate (.str message)
      refine ⟨_, [_], worded.congr _ ?_, rfl, result⟩
      simp [Payload.children, ← Multiset.cons_coe, Multiset.cons_swap]

theorem newException
    {type : Handle}
    {message : Option String}
    (ledger : interp.Ledger acyclic credit)
    (made : interp.newException type message = .ok (handle, interp')) :
    interp'.Ledger acyclic (handle ::ₘ credit) := by
  rcases ledger.newException_eq made with ⟨ready, args, ledger, -, allocated⟩
  have after := ledger.allocate _
  rwa [allocated] at after

/-- A new instance has neither a cause nor a traceback, and nothing has a link to it. -/
theorem payload?_newException
    {type : Handle}
    {message : Option String}
    (ledger : interp.Ledger acyclic credit)
    (made : interp.newException type message = .ok (handle, interp'))
    (room : interp'.heap.HasRoom) :
    interp'.heap.Unlinked handle ∧ handle ∉ credit + interp'.held ∧
      ∃ args, interp'.heap.payload? handle = some (.exception ⟨type, args, none, none⟩) := by
  rcases ledger.newException_eq made with ⟨ready, args, ledger, -, allocated⟩
  rcases Prod.mk.inj allocated with ⟨rfl, rfl⟩
  have before : ready.heap.HasRoom := room.of_allocate
  have tidy := (ledger.heap before).1.tidy
  have addressable := tidy.addressable_allocate before (.exception ⟨type, args, none, none⟩)
  have ledger' := ledger.heap
  rw [add_assoc] at ledger'
  refine ⟨ledger'.unlinked_allocate before, ?_, args, ?_⟩
  · intro member
    rcases ledger'.find?_of_mem before (Multiset.mem_add.mpr (.inr member)) with ⟨entry, found⟩
    have fresh := Heap.find?_allocate_fresh tidy addressable
    exact absurd (fresh.symm.trans found) (by simp)
  · exact congrArg (Option.map _) (Heap.find?_allocate_self tidy addressable)

private theorem hostClass_eq
    {key : String}
    {base : Handle}
    (missing : (interp.hostClasses.lookup key).filter interp.heap.isLive = none)
    (found : interp.lookup "Exception" = some base) :
    let made := (interp.retain base).allocate (.type ⟨lastSegment key, some hostModule, some base⟩)
    interp.hostClass key =
      (made.1,
        { made.2 with
          hostClasses := (key, made.1) :: interp.hostClasses.filter (·.1 ≠ key) }) := by
  simp only [Interpreter.hostClass, missing, builtin, found, Option.getD_some,
    hostClasses_allocate, hostClasses_retain]

theorem hostClass
    (ledger : interp.Ledger acyclic credit)
    (key : String) :
    (interp.hostClass key).2.Ledger acyclic credit := by
  cases missing : (interp.hostClasses.lookup key).filter interp.heap.isLive with
  | some type =>
      simpa [Interpreter.hostClass, missing] using ledger
  | none =>
      rcases ledger.named "Exception" (by decide) with ⟨base, found⟩
      rw [hostClass_eq missing found]
      have based := ledger.retain fun room =>
        ledger.isLive_of_held room (mem_held_of_lookup found)
      have made := (based.congr (([base] : List Handle) + credit) (by simp)).allocate
        (.type ⟨lastSegment key, some hostModule, some base⟩)
      by_cases room : interp.heap.HasRoom
      · refine made.exchange rfl rfl ?_
        -- A class that was made before is held, so that it is live and was found.
        have unlisted : interp.hostClasses.lookup key = none := by
          cases listed : interp.hostClasses.lookup key with
          | none => rfl
          | some type =>
              have live := ledger.isLive_of_held room (mem_held_of_hostClass listed)
              simp [listed, live] at missing
        have unchanged : interp.hostClasses.filter (·.1 ≠ key) = interp.hostClasses := by
          rw [List.filter_eq_self]
          intro entry member
          have other := List.lookup_eq_none_iff.mp unlisted entry member
          have distinct : entry.1 ≠ key := fun same => by simp [same] at other
          simpa using distinct
        have holds := held_hostClasses
          ((interp.retain base).allocate (.type ⟨lastSegment key, some hostModule, some base⟩)).2
          key
          ((interp.retain base).allocate (.type ⟨lastSegment key, some hostModule, some base⟩)).1
        rw [hostClasses_allocate, hostClasses_retain] at holds
        rw [unchanged, holds, Multiset.add_cons, Multiset.cons_add]
      · refine ⟨.of_full fun later => room ?_, made.named⟩
        exact (hasRoom_retain interp base).mp later.of_allocate

/-! ## Links -/

/-- Exchanging a link of an instance takes one reference over and gives one back. -/
theorem replaceLink
    {link : Option Handle}
    {change : ExceptionInfo → Option Handle × ExceptionInfo}
    (ledger : interp.Ledger acyclic (link.toList + credit))
    (moves :
      ∀ info,
        ((change info).1.toList : Multiset Handle) +
            ((Payload.exception (change info).2).children : Multiset Handle) =
          link.toList + ((Payload.exception info).children : Multiset Handle))
    (open_ended : acyclic → interp.heap.HasRoom → interp.heap.OpenEnded handle link)
    (replaced : interp.replaceLink handle link change = .ok interp') :
    interp'.Ledger acyclic credit := by
  rcases Except.bind_eq_ok_iff.mp replaced with ⟨payload, holds, result⟩
  rw [Heap.payload_eq_ok_iff] at holds
  cases payload with
  | exception info =>
      rcases Except.bind_eq_ok_iff.mp result with ⟨heap, changed, result⟩
      simp only [pure, Except.pure, Except.ok.injEq] at result
      subst result
      refine release? ⟨?_, ledger.named⟩
      refine ledger.heap.setPayload holds changed ?_ fun isAcyclic room child among => ?_
      · have total := moves info
        calc
          _ = ((change info).1.toList : Multiset Handle) +
                (Payload.exception (change info).2).children + (credit + interp.held) := by
              show _ + interp.held + _ = _
              abel
          _ = link.toList + credit + interp.held + (Payload.exception info).children := by
              rw [total]
              abel
      · have member :
            child ∈ (link.toList : Multiset Handle) + (Payload.exception info).children := by
          rw [← moves info]
          exact Multiset.mem_add.mpr (.inr (Multiset.mem_coe.mpr among))
        rcases Multiset.mem_add.mp member with linked | old
        · exact .inr (open_ended isAcyclic room info child holds (by simpa using linked))
        · exact .inl (Multiset.mem_coe.mp old)
  | _ =>
      simp only [pure, Except.pure, Except.ok.injEq] at result
      subst result
      exact ledger.release?

theorem setCause
    {cause : Option Handle}
    (ledger : interp.Ledger acyclic (cause.toList + credit))
    (open_ended : acyclic → interp.heap.HasRoom → interp.heap.OpenEnded handle cause)
    (replaced : interp.setCause handle cause = .ok interp') :
    interp'.Ledger acyclic credit := by
  refine ledger.replaceLink ?_ open_ended replaced
  intro info
  simp only [Payload.children_exception]
  abel

theorem setTraceback
    {traceback : Option Handle}
    (ledger : interp.Ledger acyclic (traceback.toList + credit))
    (open_ended : acyclic → interp.heap.HasRoom → interp.heap.OpenEnded handle traceback)
    (replaced : interp.setTraceback handle traceback = .ok interp') :
    interp'.Ledger acyclic credit := by
  refine ledger.replaceLink ?_ open_ended replaced
  intro info
  simp only [Payload.children_exception]
  abel

end Interpreter.Ledger

end Custody
