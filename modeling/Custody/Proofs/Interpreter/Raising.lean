import Custody.Proofs.Interpreter.Pending

/-!
# Raising keeps the ledger

Raising makes a new instance with a new traceback.  The traceback is referenced
twice, by the instance and by the pending error.  Attaching it closes no cycle,
since nothing has a link to the instance yet; nor does normalizing the error
later, since its instance has a traceback already.
-/

namespace Custody.Interpreter

variable {acyclic : Prop} {interp interp' : Interpreter} {credit : Multiset Handle}

/-! ## What normalizing attaches -/

/--
Normalizing a triple closes no cycle: if its value is kept and has no traceback,
attaching that of the triple closes none.
-/
def OpenEnded (interp : Interpreter) (triple : Triple) : Prop :=
  ∀ value,
    triple.value = some value →
      interp.isExceptionClass triple.type = true →
        (interp.instanceClass? triple.type (some value)).isSome = true →
          interp.heap.tracebackOf value = none →
            interp.heap.OpenEnded value triple.traceback

/-- Whatever traceback a triple has, its value has one already. -/
def Traced (interp : Interpreter) (triple : Triple) : Prop :=
  ∀ entry,
    triple.traceback = some entry →
      ∃ value, triple.value = some value ∧ interp.heap.tracebackOf value ≠ none

theorem Traced.openEnded
    {triple : Triple}
    (traced : interp.Traced triple) :
    interp.OpenEnded triple := by
  intro value isValue _ _ bare info target _ isTarget
  rcases traced target isTarget with ⟨value', isValue', attached⟩
  rw [isValue] at isValue'
  cases isValue'
  exact absurd bare attached

theorem Traced.of_shrinks
    {triple : Triple}
    (traced : interp.Traced triple)
    (shrinks : interp.heap.Shrinks interp'.heap)
    (live : ∀ value, triple.value = some value → interp'.heap.isLive value = true) :
    interp'.Traced triple := by
  intro entry isEntry
  rcases traced entry isEntry with ⟨value, isValue, attached⟩
  refine ⟨value, isValue, ?_⟩
  rwa [Heap.tracebackOf, shrinks.payload?_eq (live value isValue)]

/-! ## Tracebacks -/

theorem hasRoom_of_chainFrames
    {frames : List Frame}
    {chain : Option Handle}
    (room : (interp.chainFrames frames chain).2.heap.HasRoom) :
    interp.heap.HasRoom := by
  induction frames generalizing interp chain with
  | nil => exact room
  | cons frame outer step => exact (step room).of_allocate

/-- The entries of a new traceback are new references. -/
theorem Ledger.chainFrames
    {frames : List Frame}
    {chain : Option Handle}
    (ledger : interp.Ledger acyclic (chain.toList + credit)) :
    (interp.chainFrames frames chain).2.Ledger acyclic
      ((interp.chainFrames frames chain).1.toList + credit) := by
  induction frames generalizing interp chain with
  | nil => exact ledger
  | cons frame outer step =>
      have made := ledger.allocate (.traceback ⟨frame, chain⟩)
      rw [← Multiset.singleton_add] at made
      exact step made

/--
A new traceback neither is nor leads to an object that nothing has a link to,
and the object keeps its payload.
-/
theorem Ledger.unlinked_chainFrames
    {frames : List Frame}
    {chain : Option Handle}
    {value : Handle}
    (ledger : interp.Ledger acyclic (chain.toList + value ::ₘ credit))
    (unlinked : interp.heap.HasRoom → interp.heap.Unlinked value)
    (apart : interp.heap.HasRoom → chain ≠ some value)
    (room : (interp.chainFrames frames chain).2.heap.HasRoom) :
    (interp.chainFrames frames chain).2.heap.Unlinked value ∧
      (interp.chainFrames frames chain).1 ≠ some value ∧
        (interp.chainFrames frames chain).2.heap.payload? value = interp.heap.payload? value := by
  induction frames generalizing interp chain with
  | nil => exact ⟨unlinked room, apart room, rfl⟩
  | cons frame outer step =>
      have before := hasRoom_of_chainFrames room
      have tidy := (ledger.heap before).1.tidy
      have addressable := tidy.addressable_allocate before (.traceback ⟨frame, chain⟩)
      have live : interp.heap.isLive value = true := ledger.isLive_of_mem before (by simp)
      have made := ledger.allocate (.traceback ⟨frame, chain⟩)
      rw [← Multiset.singleton_add] at made
      have distinct : value ≠ (interp.allocate (.traceback ⟨frame, chain⟩)).1 := by
        intro same
        have fresh := Heap.find?_allocate_fresh tidy addressable
        rw [same] at live
        simp [Heap.isLive, Interpreter.allocate, fresh] at live
      have stillUnlinked :
          (interp.allocate (.traceback ⟨frame, chain⟩)).2.heap.Unlinked value := by
        intro parent points
        rcases Heap.points_allocate tidy before points with old | ⟨-, among⟩
        · exact unlinked before parent old
        · exact apart before (by simpa [Payload.children] using among)
      obtain ⟨unlinked', apart', holds⟩ :=
        step made (fun _ => stillUnlinked) (fun _ same => distinct (Option.some.inj same).symm) room
      exact ⟨unlinked', apart',
        holds.trans (congrArg _ (Heap.find?_allocate_of_ne tidy addressable distinct))⟩

/-! ## Attaching -/

/--
Attach a traceback to an instance, with one more reference to the traceback, if
there is one.
-/
def attach (interp : Interpreter) (value : Handle) (traceback : Option Handle) : Interpreter :=
  match traceback with
  | none => interp
  | some entry =>
      let held := interp.retain entry
      (held.setTraceback value (some entry)).toOption.getD held

/-- The instance and the pending error have a reference each to the traceback. -/
theorem Ledger.attach
    {value : Handle}
    {traceback : Option Handle}
    (ledger : interp.Ledger acyclic credit)
    (live : interp.heap.HasRoom → interp.heap.isLive value = true)
    (there :
      interp.heap.HasRoom →
        ∀ entry, traceback = some entry → interp.heap.isLive entry = true)
    (open_ended : acyclic → interp.heap.HasRoom → interp.heap.OpenEnded value traceback) :
    (interp.attach value traceback).Ledger acyclic credit := by
  cases traceback with
  | none => exact ledger
  | some entry =>
      have held := ledger.retain (fun room => there room entry rfl)
      have shrinks := interp.shrinks_retain entry
      simp only [Interpreter.attach]
      cases attached : (interp.retain entry).setTraceback value (some entry) with
      | ok result =>
          refine setTraceback (held.congr ((some entry).toList + credit) (by simp)) ?_ attached
          intro isAcyclic room info target holds isTarget reaches
          refine open_ended isAcyclic (shrinks.hasRoom_iff.mp room) info target
            (shrinks.payload holds) isTarget (shrinks.reaches reaches)
      | error reason =>
          refine held.of_full fun room => ?_
          have there := isLive_retain entry (live (shrinks.hasRoom_iff.mp room))
          rcases exists_replaceLink (some entry) _ there with ⟨result, attached'⟩
          exact absurd (attached.symm.trans attached') (by simp)

/-- An instance without a traceback has the attached one, and nothing else is written. -/
theorem payload?_attach
    {value : Handle}
    {traceback : Option Handle}
    {info : ExceptionInfo}
    (holds : interp.heap.payload? value = some (.exception info))
    (bare : info.traceback = none)
    (other : Handle) :
    (interp.attach value traceback).heap.payload? other =
      if other = value then some (.exception { info with traceback })
      else interp.heap.payload? other := by
  cases traceback with
  | none =>
      split
      · next same => rw [same, attach, holds, ← bare]
      · rfl
  | some entry =>
      have holds' := (interp.payload?_retain entry value).trans holds
      rcases setTraceback_of_bare (some entry) holds' bare with ⟨heap, changed, attached⟩
      simp only [attach, attached, Except.toOption, Option.getD_some]
      rw [Heap.payload?_setPayload changed, payload?_retain]

/-- Attaching a traceback to an instance without one adds no other link. -/
theorem points_attach
    {value parent child : Handle}
    {traceback : Option Handle}
    {info : ExceptionInfo}
    (holds : interp.heap.payload? value = some (.exception info))
    (bare : info.traceback = none)
    (points : (interp.attach value traceback).heap.Points parent child) :
    interp.heap.Points parent child ∨ parent = value ∧ traceback = some child := by
  rcases points with ⟨payload, written, among⟩
  rw [payload?_attach holds bare] at written
  split at written
  · next same =>
      cases written
      rcases List.mem_append.mp among with old | new
      · exact .inl ⟨_, same ▸ holds, List.mem_append.mpr (.inl old)⟩
      · exact .inr ⟨same, by simpa using new⟩
  · exact .inl ⟨payload, written, among⟩

@[simp]
theorem hasRoom_attach
    (interp : Interpreter)
    (value : Handle)
    (traceback : Option Handle) :
    (interp.attach value traceback).heap.HasRoom ↔ interp.heap.HasRoom := by
  cases traceback with
  | none => rfl
  | some entry =>
      rw [← interp.hasRoom_retain entry]
      simp only [attach]
      cases attached : (interp.retain entry).setTraceback value (some entry) with
      | error reason => rfl
      | ok result =>
          simp only [Except.toOption, Option.getD_some]
          rw [Heap.HasRoom, allocations_replaceLink attached, Heap.HasRoom]

/-! ## Raising -/

theorem Ledger.newTraceback
    (ledger : interp.Ledger acyclic credit) :
    interp.newTraceback.2.Ledger acyclic (interp.newTraceback.1.toList + credit) :=
  Ledger.chainFrames (ledger.congr _ (by simp))

theorem raiseInstance_eq
    {type value : Handle}
    {message : String}
    {started : Interpreter}
    (made : interp.newException type (some message) = .ok (value, started)) :
    interp.raiseInstance type message =
      ((started.newTraceback.2.attach value started.newTraceback.1).retain type).replacePending
        (some ⟨type, some value, started.newTraceback.1⟩) := by
  cases traced : started.newTraceback.1 with
  | none => simp only [raiseInstance, made, attach, traced]
  | some entry => simp only [raiseInstance, made, attach, traced]

/-- What there is once the instance is made and its traceback attached. -/
private theorem Ledger.raising
    {type value : Handle}
    {message : Option String}
    {started : Interpreter}
    (ledger : interp.Ledger acyclic credit)
    (made : interp.newException type message = .ok (value, started)) :
    let traced := started.newTraceback
    let attached := traced.2.attach value traced.1
    attached.Ledger acyclic (traced.1.toList + value ::ₘ credit) ∧
      (attached.heap.HasRoom →
        ∃ args, attached.heap.payload? value = some (.exception ⟨type, args, none, traced.1⟩)) := by
  intro traced attached
  have valueHeld := ledger.newException made
  have before (room : traced.2.heap.HasRoom) :
      traced.2.heap.Unlinked value ∧ traced.1 ≠ some value ∧
        ∃ args, traced.2.heap.payload? value = some (.exception ⟨type, args, none, none⟩) := by
    obtain ⟨unlinked, apart, same⟩ :=
      Ledger.unlinked_chainFrames
        (valueHeld.congr ((none : Option Handle).toList + value ::ₘ credit) (by simp))
        (fun room => (ledger.payload?_newException made room).1) (fun _ => nofun) room
    obtain ⟨-, -, args, holds⟩ :=
      ledger.payload?_newException made (hasRoom_of_chainFrames room)
    exact ⟨unlinked, apart, args, same.trans holds⟩
  have after : traced.2.Ledger acyclic (traced.1.toList + value ::ₘ credit) :=
    valueHeld.newTraceback
  constructor
  · refine after.attach ?_ ?_ ?_
    · exact fun room => after.isLive_of_mem room (by simp)
    · exact fun room entry isEntry => after.isLive_of_mem room (by simp [isEntry])
    · intro _ room info target _ isTarget
      rcases before room with ⟨unlinked, apart, -⟩
      exact unlinked.not_reaches fun same => apart (same ▸ isTarget)
  · intro room
    rcases before ((hasRoom_attach _ _ _).mp room) with ⟨-, -, args, holds⟩
    exact ⟨args, by rw [payload?_attach holds rfl, if_pos rfl]⟩

theorem hasRoom_of_raiseInstance
    {type : Handle}
    {message : String}
    (room : (interp.raiseInstance type message).heap.HasRoom) :
    interp.heap.HasRoom := by
  cases made : interp.newException type (some message) with
  | error reason =>
      simpa [raiseInstance, made] using room
  | ok result =>
      rcases result with ⟨value, started⟩
      rw [raiseInstance_eq made, (shrinks_replacePending _ _).hasRoom_iff, hasRoom_retain,
        hasRoom_attach] at room
      exact hasRoom_of_newException made (hasRoom_of_chainFrames room)

theorem Ledger.raiseInstance
    (ledger : interp.Ledger acyclic credit)
    (type : Handle)
    (message : String) :
    (interp.raiseInstance type message).Ledger acyclic credit := by
  cases made : interp.newException type (some message) with
  | error reason =>
      simpa [Interpreter.raiseInstance, made] using ledger
  | ok result =>
      rcases result with ⟨value, started⟩
      rcases ledger.raising made with ⟨attached, holds⟩
      rw [raiseInstance_eq made]
      refine replacePending ((attached.retain fun room => ?_).congr _ ?_)
      · rcases holds room with ⟨args, holds⟩
        exact attached.heap.isLive_of_points room
          ⟨_, holds, by simp [Payload.children]⟩
      · simp only [Triple.referencesOf_some, Triple.references, Option.toList_some,
          Multiset.coe_singleton, Multiset.cons_add, Multiset.singleton_add, Multiset.add_cons]

theorem Ledger.raise
    (ledger : interp.Ledger acyclic credit)
    (name message : String) :
    (interp.raise name message).Ledger acyclic credit :=
  ledger.raiseInstance _ _

/-- An error that was raised is pending, and its instance has its traceback. -/
theorem Ledger.pending_raiseInstance
    {type : Handle}
    {message : String}
    (ledger : interp.Ledger acyclic credit)
    (live : interp.heap.isLive type = true)
    (room : (interp.raiseInstance type message).heap.HasRoom) :
    ∃ triple,
      (interp.raiseInstance type message).pending = some triple ∧
        (interp.raiseInstance type message).Traced triple := by
  rcases exists_newException (some message) live with ⟨value, started, made⟩
  rcases ledger.raising made with ⟨-, holds⟩
  have after := ledger.raiseInstance type message
  rw [raiseInstance_eq made] at after room ⊢
  refine ⟨_, pending_replacePending _ _, ?_⟩
  intro entry isEntry
  refine ⟨value, rfl, ?_⟩
  have shrinks :=
    (shrinks_retain (started.newTraceback.2.attach value started.newTraceback.1) type).trans
      (shrinks_replacePending _ (some ⟨type, some value, started.newTraceback.1⟩))
  have component : value ∈
      (⟨type, some value, started.newTraceback.1⟩ : Triple).references := by
    simp [Triple.references]
  have there := after.isLive_of_held room
    (mem_held_of_pending (pending_replacePending _ _) component)
  rcases holds (shrinks.hasRoom_iff.mp room) with ⟨args, holds⟩
  have attached : started.newTraceback.1 = some entry := isEntry
  rw [Heap.tracebackOf, (shrinks.payload?_eq there).trans holds]
  simp [attached]

/-- A built-in class is there to be raised. -/
theorem Ledger.pending_raise
    {name message : String}
    (ledger : interp.Ledger acyclic credit)
    (builtin : name ∈ classNames)
    (room : (interp.raise name message).heap.HasRoom) :
    ∃ triple,
      (interp.raise name message).pending = some triple ∧
        (interp.raise name message).Traced triple := by
  rcases ledger.named name builtin with ⟨type, found⟩
  have raised : interp.raise name message = interp.raiseInstance type message := by
    simp [Interpreter.raise, found]
  rw [raised] at room ⊢
  have live := ledger.isLive_of_held (hasRoom_of_raiseInstance room) (mem_held_of_lookup found)
  exact ledger.pending_raiseInstance live room

/-! ## What is pending -/

/-- Normalizing the pending error closes no cycle. -/
def PendingOpenEnded (interp : Interpreter) : Prop :=
  ∀ triple, interp.pending = some triple → interp.OpenEnded triple

/-- Whatever traceback the pending error has, its value has one already. -/
def PendingTraced (interp : Interpreter) : Prop :=
  ∀ triple, interp.pending = some triple → interp.Traced triple

/-- What was pending is taken as it is. -/
theorem fetch_eq_some
    {triple : Triple}
    (fetched : interp.fetch = some (triple, interp')) :
    interp.pending = some triple ∧ interp' = { interp with pending := none } := by
  simp only [Interpreter.fetch, Option.map_eq_some_iff, Prod.mk.injEq] at fetched
  rcases fetched with ⟨pending, before, rfl, rfl⟩
  exact ⟨before, rfl⟩

theorem fetch_of_pending
    {triple : Triple}
    (pending : interp.pending = some triple) :
    interp.fetch = some (triple, { interp with pending := none }) := by
  rw [Interpreter.fetch, pending, Option.map_some]

theorem PendingOpenEnded.fetch
    {triple : Triple}
    (open_ended : interp.PendingOpenEnded)
    (fetched : interp.fetch = some (triple, interp')) :
    interp'.OpenEnded triple := by
  rcases fetch_eq_some fetched with ⟨pending, rfl⟩
  exact open_ended triple pending

namespace PendingTraced

theorem openEnded
    (traced : interp.PendingTraced) :
    interp.PendingOpenEnded :=
  fun triple pending => (traced triple pending).openEnded

theorem of_pending
    {triple : Triple}
    (pending : interp.pending = some triple)
    (traced : interp.Traced triple) :
    interp.PendingTraced := by
  intro other isPending
  rw [pending] at isPending
  cases isPending
  exact traced

/-- What is pending is held, so that it is still there when other things are gone. -/
theorem of_shrinks
    (traced : interp.PendingTraced)
    (pending : interp'.pending = interp.pending)
    (shrinks : interp.heap.Shrinks interp'.heap)
    (ledger : interp'.Ledger acyclic credit)
    (room : interp'.heap.HasRoom) :
    interp'.PendingTraced := by
  intro triple isPending
  refine (traced triple (pending ▸ isPending)).of_shrinks shrinks fun value isValue => ?_
  exact ledger.isLive_of_held room
    (mem_held_of_pending isPending (by simp [Triple.references, isValue]))

end PendingTraced

theorem Ledger.traced_raiseInstance
    {type : Handle}
    {message : String}
    (ledger : interp.Ledger acyclic credit)
    (live : interp.heap.isLive type = true)
    (room : (interp.raiseInstance type message).heap.HasRoom) :
    (interp.raiseInstance type message).PendingTraced := by
  rcases ledger.pending_raiseInstance live room with ⟨triple, pending, traced⟩
  exact .of_pending pending traced

theorem Ledger.traced_raise
    {name message : String}
    (ledger : interp.Ledger acyclic credit)
    (builtin : name ∈ classNames)
    (room : (interp.raise name message).heap.HasRoom) :
    (interp.raise name message).PendingTraced := by
  rcases ledger.pending_raise builtin room with ⟨triple, pending, traced⟩
  exact .of_pending pending traced

end Custody.Interpreter
