import Custody.Proofs.Session.Chaining
import Custody.Proofs.Session.Solvency

/-!
# An error that takes the place of another

A new `TypeError` takes the place of what was pending.  If that was an error of a class of
exceptions it is normalized, and its value becomes the cause of the new one; whatever else
was pending is given back.  So a category that is no class of warnings is refused with an
error from which the one before it can be had again.

Callbacks run only when the error is captured, and may panic then.
-/

namespace Custody

namespace Interpreter

variable {acyclic : Prop} {interp interp' : Interpreter} {credit credit' : Multiset Handle}
variable {handle type value cause : Handle} {message : String}

/-! ## What is written -/

/-- The entries of a new traceback are written beside what is there. -/
theorem Ledger.payload?_chainFrames
    {frames : List Frame}
    {chain : Option Handle}
    (ledger : interp.Ledger acyclic (chain.toList + credit))
    (live : interp.heap.isLive handle = true)
    (room : (interp.chainFrames frames chain).2.heap.HasRoom) :
    (interp.chainFrames frames chain).2.heap.payload? handle = interp.heap.payload? handle := by
  induction frames generalizing interp chain with
  | nil => rfl
  | cons frame outer step =>
      have before := hasRoom_of_chainFrames room
      have tidy := (ledger.heap before).1.tidy
      have made := ledger.allocate (.traceback ⟨frame, chain⟩)
      rw [← Multiset.singleton_add] at made
      refine (step made (Heap.isLive_allocate_of_isLive tidy before live) room).trans ?_
      exact Heap.payload?_allocate_of_isLive tidy before live

/-- Raising writes to nothing that is there and stays. -/
theorem Ledger.payload?_raiseInstance
    (ledger : interp.Ledger acyclic credit)
    (room : (interp.raiseInstance type message).heap.HasRoom)
    (live : interp.heap.isLive handle = true)
    (stays : (interp.raiseInstance type message).heap.isLive handle = true) :
    (interp.raiseInstance type message).heap.payload? handle = interp.heap.payload? handle := by
  cases made : interp.newException type (some message) with
  | error reason => rw [Interpreter.raiseInstance, made]
  | ok result =>
      rcases result with ⟨value, started⟩
      rw [raiseInstance_eq made] at room stays ⊢
      have shrinks :=
        (shrinks_retain (started.newTraceback.2.attach value started.newTraceback.1) type).trans
          (shrinks_replacePending _ (some ⟨type, some value, started.newTraceback.1⟩))
      have roomTraced := (hasRoom_attach _ _ _).mp (shrinks.hasRoom_iff.mp room)
      have roomStarted := hasRoom_of_chainFrames roomTraced
      have valued := ledger.newException made
      rcases ledger.payload?_newException made roomStarted with ⟨-, -, args, holds⟩
      rcases ledger.payload?_newException_other made roomStarted with ⟨new, same⟩
      have other : handle ≠ value := by
        rintro rfl
        cases new.symm.trans live
      have before : started.Ledger acyclic ((none : Option Handle).toList + value ::ₘ credit) :=
        valued.congr _ (by simp)
      have traced (other : Handle) (there : started.heap.isLive other = true) :
          started.newTraceback.2.heap.payload? other = started.heap.payload? other :=
        before.payload?_chainFrames there roomTraced
      have there := ledger.isLive_newException_other made roomStarted live
      have bare := (traced value (Heap.isLive_of_payload? holds)).trans holds
      rw [shrinks.payload?_eq stays, payload?_attach bare rfl, if_neg other]
      exact (traced handle there).trans (same handle live)

/-- Attaching a traceback writes to no other object. -/
theorem payload?_attachTraceback_of_ne
    {traceback : Option Handle}
    {info : ExceptionInfo}
    (holds : interp.heap.payload? value = some (.exception info))
    (other : handle ≠ value) :
    (interp.attachTraceback value traceback).heap.payload? handle =
      interp.heap.payload? handle := by
  rcases interp.attachTraceback_eq value traceback with same | ⟨bare, -, attached⟩
  · rw [same]
  · have bare' : info.traceback = none := by simpa [Heap.tracebackOf, holds] using bare
    rw [attached, payload?_attach holds bare', if_neg other]

/-- Normalizing writes to nothing that others hold but the value. -/
theorem Ledger.payload?_normalize
    {triple normal : Triple}
    (ledger : interp.Ledger acyclic (triple.references + credit))
    (normalized : interp.normalize triple = (.ok normal, interp'))
    (room : interp'.heap.HasRoom)
    (member : handle ∈ credit)
    (apart : triple.value ≠ some handle) :
    interp'.heap.payload? handle = interp.heap.payload? handle := by
  have started := hasRoom_of_normalize normalized room
  have live := ledger.isLive_of_mem started (Multiset.mem_add.mpr (.inr member))
  have taken := ledger.normalizing.1
  rcases interp.normalize_cases triple with
    ⟨-, result⟩ | ⟨value, info, isValue, -, holds, -, result⟩ | result
  · cases normalized.symm.trans result
  · cases normalized.symm.trans result
    have shrinks := interp.shrinks_narrow triple.type info.type
    have narrowed := taken.narrow info.type fun room =>
      taken.heap.isLive_of_points room ⟨_, holds, by simp [Payload.children]⟩
    have between := shrinks.hasRoom_iff.mpr started
    have stays := narrowed.isLive_of_mem between (show value ∈ _ by simp [isValue])
    rw [payload?_attachTraceback_of_ne ((shrinks.payload?_eq stays).trans holds)]
    · exact shrinks.payload?_eq (narrowed.isLive_of_mem between (by simp [member]))
    · rintro rfl
      exact apart isValue
  · cases normalized.symm.trans result
    have made := (hasRoom_attachTraceback _ _ _).mp room
    have between : ((interp.argumentsOf triple.value).2.retain triple.type).heap.HasRoom :=
      made.of_allocate
    have ready := taken.readyToInstantiate
    have shrinks := (interp.shrinks_argumentsOf triple.value).trans (shrinks_retain _ triple.type)
    have stays := ready.isLive_of_mem between (show handle ∈ _ by simp [member])
    rcases taken.fresh_instantiate made with ⟨-, fresh, holds⟩
    rw [payload?_attachTraceback_of_ne holds]
    · exact (Heap.payload?_allocate_of_isLive (ready.heap between).1.tidy between stays).trans
        (shrinks.payload?_eq stays)
    · rintro rfl
      rcases (Heap.isLive_iff _ _).mp live with ⟨entry, found⟩
      exact fresh (Heap.isCurrent_of_find? found)

/--
An instance that an error is normalized to, and that has the same class and says the
same later on.
-/
def Represents
    (interp : Interpreter)
    (prior : Triple)
    (cause : Handle)
    (interp' : Interpreter) :
    Prop :=
  ∃ normal after,
    interp.normalize prior = (.ok normal, after) ∧
      interp.Normalizes prior normal cause after ∧
        interp'.typeOf cause = .ok normal.type ∧ interp'.heap.str cause = after.heap.str cause

/-- What stays is what it was, as long as there is room. -/
theorem Regular.agree_later
    (regular : interp.Regular credit)
    (regular' : interp'.Regular credit')
    (evolves : interp.Evolves interp')
    (room : interp'.heap.HasRoom) :
    Heap.Agree (fun handle => interp.heap.isLive handle = true ∧ interp'.heap.isLive handle = true)
      interp.heap interp'.heap :=
  .of_evolves (evolves_initial.trans regular.evolves.heap) evolves.heap room
    (regular.ledger.whole (evolves.heap.hasRoom room)) (regular'.ledger.whole room)

theorem Regular.newException
    (regular : interp.Regular credit)
    (newly : interp.newException type (some message) = .ok (value, interp')) :
    interp'.Regular (value ::ₘ credit) :=
  ⟨regular.ledger.newException newly, regular.evolves.trans (.newException newly)⟩

/-- A new instance is no new class. -/
theorem Regular.isExceptionClass_newException
    (regular : interp.Regular credit)
    (newly : interp.newException type (some message) = .ok (value, interp'))
    (room : interp'.heap.HasRoom)
    (isHeld : handle ∈ interp.held) :
    interp'.isExceptionClass handle = interp.isExceptionClass handle := by
  have evolves := Evolves.newException newly
  have onHeap := OnHeap.newException newly
  have regular' := regular.newException newly
  have isHeld' : handle ∈ interp'.held := onHeap.held.symm ▸ isHeld
  exact isExceptionClass_eq (regular.agree_later regular' evolves room) onHeap.builtins
    ⟨regular.ledger.isLive_of_held (evolves.heap.hasRoom room) isHeld,
      regular'.ledger.isLive_of_held room isHeld'⟩

/-- An instance of a class stays one when a new instance is made. -/
theorem Regular.isInstance_newException
    {own : Handle}
    (regular : interp.Regular credit)
    (newly : interp.newException type (some message) = .ok (value, interp'))
    (room : interp'.heap.HasRoom)
    (isInstance : interp.isInstance handle own = true) :
    interp'.isInstance handle own = true := by
  have evolves := Evolves.newException newly
  have regular' := regular.newException newly
  have agree := regular.agree_later regular' evolves room
  rw [Interpreter.isInstance] at isInstance ⊢
  cases typed : interp.typeOf handle with
  | error reason => simp [typed] at isInstance
  | ok class' =>
      have same := (regular.ledger.payload?_newException_other newly room).2 handle
        (isLive_of_typeOf typed)
      have typed' := typeOf_of_payload? same (OnHeap.newException newly).builtins typed
      rw [typed] at isInstance
      rw [typed']
      exact (agree.isSubclass_eq own
        ⟨regular.ledger.isLive_typeOf (evolves.heap.hasRoom room) typed,
          regular'.ledger.isLive_typeOf room typed'⟩).trans isInstance

theorem Represents.later
    {interp'' : Interpreter}
    {prior : Triple}
    (represents : interp.Represents prior cause interp')
    (regular : interp'.Regular credit)
    (regular' : interp''.Regular credit')
    (evolves : interp'.Evolves interp'')
    (room : interp''.heap.HasRoom)
    (stays : interp''.heap.isLive cause = true) :
    interp.Represents prior cause interp'' := by
  rcases represents with ⟨normal, after, normalized, normalizes, typed, text⟩
  have agree := regular.agree_later regular' evolves room
  have among := And.intro (isLive_of_typeOf typed) stays
  exact ⟨normal, after, normalized, normalizes,
    typeOf_of_agree agree evolves.builtins among typed, (agree.str_eq among).trans text⟩

/-- A class and an object that are there become the pending error. -/
theorem setErrorObject_eq
    (typeLive : interp.heap.isLive type = true)
    (valueLive : interp.heap.isLive value = true) :
    interp.setErrorObject type (some value) =
      .ok (((interp.retain type).retain value).replacePending (some ⟨type, some value, none⟩)) := by
  rcases incref_of_isLive typeLive with ⟨typed, takenType⟩
  have retained : interp.retain type = typed := by rw [retain, takenType]
  have there := isLive_retain type valueLive
  rw [retained] at there ⊢
  rcases incref_of_isLive there with ⟨valued, takenValue⟩
  have retained' : typed.retain value = valued := by rw [retain, takenValue]
  rw [setErrorObject, retained']
  simp only [bind, Except.bind, takenType, takenValue]
  rfl

end Interpreter

/-- The count of an object is the number of references to it, and one that is not there has none. -/
theorem Heap.Settling.getD_refcount?
    {heap : Heap}
    {credit : Multiset Handle}
    (balanced : heap.Balanced credit)
    (handle : Handle) :
    (heap.refcount? handle).getD 0 = ((credit + heap.links).count handle : Nat) := by
  rw [refcount?]
  cases found : heap.find? handle with
  | none =>
      have absent : handle ∉ credit + heap.links := fun member => by
        rcases balanced.present handle member with ⟨entry, found'⟩
        cases found.symm.trans found'
      rw [Multiset.count_eq_zero.mpr absent]
      rfl
  | some entry => exact balanced.counted found

/--
Where only the heap and the pending error differ, and nothing outside, the count of an
object differs by the references that the errors and the objects have to it.
-/
theorem Interpreter.Ledger.counts_eq
    {interp interp' : Interpreter}
    {credit : Multiset Handle}
    (ledger : interp.Ledger False credit)
    (ledger' : interp'.Ledger False credit)
    (room : interp.heap.HasRoom)
    (room' : interp'.heap.HasRoom)
    (onHeap :
      ({ interp with pending := none } : Interpreter).OnHeap { interp' with pending := none })
    (handle : Handle) :
    (interp'.heap.refcount? handle).getD 0 +
        ((Triple.referencesOf interp.pending).count handle +
          interp.heap.links.count handle : Nat) =
      (interp.heap.refcount? handle).getD 0 +
        ((Triple.referencesOf interp'.pending).count handle +
          interp'.heap.links.count handle : Nat) := by
  have moved := congrArg (Multiset.count handle) (interp.held_pending none)
  have moved' := congrArg (Multiset.count handle) (interp'.held_pending none)
  rw [onHeap.held] at moved'
  rw [Heap.Settling.getD_refcount? (ledger.heap room).1,
    Heap.Settling.getD_refcount? (ledger'.heap room').1]
  simp only [Multiset.count_add, Triple.referencesOf_none, Multiset.count_zero] at moved moved' ⊢
  omega

namespace Indicator

variable {interp chained : Interpreter} {credit : Multiset Handle} {prior normal : Triple}
variable {value cause : Handle} {info : ExceptionInfo}

/-! ## Chaining -/

open Interpreter (fetch_of_pending)

theorem chainPending_of_none
    (value : Handle)
    (nothing : interp.pending = none) :
    chainPending value interp = interp := by
  simp only [chainPending, Interpreter.fetch, nothing, Option.map_none]

theorem chainPending_of_misfit
    (value : Handle)
    (pending : interp.pending = some prior)
    (misfit : interp.isExceptionClass prior.type = false) :
    ∃ type message,
      chainPending value interp =
        ((({ interp with pending := none } : Interpreter).raiseInstance type
          message).clear).releaseTriple prior := by
  have misfit' : ({ interp with pending := none } : Interpreter).isExceptionClass prior.type =
      false := misfit
  have chained : chainPending value interp =
      ((({ interp with pending := none } : Interpreter).raise "TypeError"
        ("exceptions must derive from BaseException, not '" ++
          ({ interp with pending := none } : Interpreter).nameOfMisfit prior.type ++
            "'")).clear).releaseTriple prior := by
    simp only [chainPending, fetch_of_pending pending, Interpreter.normalize_of_misfit misfit']
  exact ⟨_, _, chained⟩

/-- The value that the error is normalized to becomes the cause, as there is room. -/
theorem chainPending_of_ok
    {after : Interpreter}
    (pending : interp.pending = some prior)
    (normalized :
      ({ interp with pending := none } : Interpreter).normalize prior = (.ok normal, after))
    (isValue : normal.value = some cause)
    (room : (chainPending value interp).heap.HasRoom)
    (valued : after.heap.HasRoom → after.heap.isLive value = true) :
    ∃ linked,
      after.setCause value (some cause) = .ok linked ∧
        chainPending value interp = linked.releaseTriple { normal with value := none } := by
  have chained : chainPending value interp =
      ((after.setCause value (some cause)).toOption.getD after).releaseTriple
        { normal with value := none } := by
    simp only [chainPending, fetch_of_pending pending, normalized, isValue]
  cases set : after.setCause value (some cause) with
  | ok linked =>
      rw [set] at chained
      exact ⟨linked, rfl, chained⟩
  | error reason =>
      rw [set] at chained
      rw [chained] at room
      have between : after.heap.HasRoom :=
        (after.shrinks_releaseTriple { normal with value := none }).hasRoom_iff.mp room
      rcases Interpreter.exists_replaceLink (some cause) _ (valued between) with ⟨_, replaced⟩
      cases set.symm.trans replaced

/--
What a new instance has for its cause when it takes the place of what was pending before
the instance was made: the value of an error of a class of exceptions, as normalized after
that, and the very value that was pending if that was an instance already.
-/
inductive Blames (before made : Interpreter) : Option Handle → Interpreter → Prop where
  | nothing {later : Interpreter} (nothing : before.pending = none) : Blames before made none later
  | misfit {prior : Triple} {later : Interpreter} (pending : before.pending = some prior)
      (misfit : before.isExceptionClass prior.type = false) :
      Blames before made none later
  | represented {prior : Triple} {cause : Handle} {later : Interpreter}
      (pending : before.pending = some prior)
      (isClass : before.isExceptionClass prior.type = true)
      (same :
        ∀ old,
          prior.value = some old → before.isInstance old prior.type = true → cause = old)
      (represents :
        ({ made with pending := none } : Interpreter).Represents prior cause later) :
      Blames before made (some cause) later

/-- An instance was given the cause that is due to it, and nothing is pending any more. -/
structure Inherits
    (value : Handle)
    (info : ExceptionInfo)
    (cause : Option Handle)
    (interp interp' : Interpreter) :
    Prop where
  holds : interp'.heap.payload? value = some (.exception { info with cause })
  blames : Blames interp interp cause interp'
  onHeap : ({ interp with pending := none } : Interpreter).OnHeap interp'

/-- What is no error of a class of exceptions is given back, and so is what refuses it. -/
theorem inherits_of_misfit
    (ledger : interp.Ledger False (value ::ₘ credit))
    (ledger' : (chainPending value interp).Ledger False (value ::ₘ credit))
    (room : (chainPending value interp).heap.HasRoom)
    (holds : interp.heap.payload? value = some (.exception info))
    (bare : info.cause = none)
    (pending : interp.pending = some prior)
    (misfit : interp.isExceptionClass prior.type = false) :
    Inherits value info none interp (chainPending value interp) := by
  have live := ledger'.isLive_of_mem room (Multiset.mem_cons_self value credit)
  rcases chainPending_of_misfit value pending misfit with ⟨type, message, chained⟩
  rw [chained] at room live ⊢
  have taken := ledger.fetch (fetch_of_pending pending)
  have shrinks :=
    ((({ interp with pending := none } : Interpreter).raiseInstance type
      message).shrinks_replacePending none).trans (Interpreter.shrinks_releaseTriple _ prior)
  have same := shrinks.payload?_eq live
  have there : (({ interp with pending := none } : Interpreter).raiseInstance type
      message).heap.isLive value = true := by
    rcases Heap.exists_payload?_of_isLive live with ⟨written, holds'⟩
    exact Heap.isLive_of_payload? (shrinks.payload holds')
  have kept := taken.payload?_raiseInstance (shrinks.hasRoom_iff.mp room)
    (Heap.isLive_of_payload? holds) there
  have cleared := (Interpreter.OnHeap.raiseInstance { interp with pending := none } type message
    none).trans (Interpreter.OnHeap.replacePending _ none none)
  rw [Interpreter.replacePending_eq] at cleared
  have whole : ({ info with cause := none } : ExceptionInfo) = info := by rw [← bare]
  refine ⟨?_, .misfit pending misfit, ?_⟩
  · rw [whole]
    exact same.trans (kept.trans holds)
  · refine Interpreter.OnHeap.trans ?_ (Interpreter.OnHeap.releaseTriple _ prior)
    rw [Interpreter.clear, Interpreter.replacePending_eq]
    exact cleared

/-- An error of a class of exceptions is normalized, and its value becomes the cause. -/
theorem inherits_of_class
    (regular : interp.Regular (value ::ₘ credit))
    (ledger' : (chainPending value interp).Ledger False (value ::ₘ credit))
    (room : (chainPending value interp).heap.HasRoom)
    (holds : interp.heap.payload? value = some (.exception info))
    (apart : value ∉ interp.held)
    (pending : interp.pending = some prior)
    (isClass : interp.isExceptionClass prior.type = true) :
    ∃ cause, Inherits value info (some cause) interp (chainPending value interp) := by
  have evolves := evolves_chainPending value interp
  have taken := regular.fetch pending
  rcases taken.normalizes (evolves.heap.hasRoom room) isClass with
    ⟨normal, cause, after, normalized, normalizes⟩
  have regular' := taken.normalize_of_ok normalized
  have onHeap := Interpreter.OnHeap.normalize normalized
  have whole : (chainPending value interp).Regular (value ::ₘ credit) :=
    ⟨ledger', regular.evolves.trans evolves⟩
  have stays := ledger'.isLive_of_mem room (Multiset.mem_cons_self value credit)
  rcases chainPending_of_ok pending normalized normalizes.valued room fun between =>
    regular'.ledger.isLive_of_mem between (by simp) with ⟨linked, set, chained⟩
  rw [chained] at room stays whole ⊢
  have shrinks := linked.shrinks_releaseTriple { normal with value := none }
  have later := (Interpreter.Evolves.setCause set).trans
    (.releaseTriple linked { normal with value := none })
  have between := later.heap.hasRoom room
  have same := taken.ledger.payload?_normalize normalized between
    (Multiset.mem_cons_self value credit) fun isValue =>
      apart (Interpreter.mem_held_of_pending pending (by simp [Triple.references, isValue]))
  have recauses := Interpreter.Recauses.of_setCause (same.trans holds) set
  have there : linked.heap.isLive value = true := by
    rcases Heap.exists_payload?_of_isLive stays with ⟨written, holds'⟩
    exact Heap.isLive_of_payload? (shrinks.payload holds')
  rcases recauses.payload?_eq there with ⟨info', was, written⟩
  cases (same.trans holds).symm.trans was
  have holds' := (shrinks.payload?_eq stays).trans written
  have linkedTo : (linked.releaseTriple { normal with value := none }).heap.isLive cause = true :=
    whole.ledger.heap.isLive_of_points room ⟨_, holds', by simp [Payload.children]⟩
  have agree := regular'.agree_later whole later room
  have among := And.intro (Interpreter.isLive_of_typeOf normalizes.typed) linkedTo
  refine ⟨cause, holds', .represented pending isClass normalizes.kept
    ⟨normal, after, normalized, normalizes, ?_, ?_⟩, ?_⟩
  · exact Interpreter.typeOf_of_agree agree later.builtins among normalizes.typed
  · exact agree.str_eq among
  · exact (onHeap.trans (.replaceLink set)).trans (.releaseTriple linked _)

/-- Whatever was pending, a new instance is given the cause that is due to it. -/
theorem exists_inherits
    (regular : interp.Regular (value ::ₘ credit))
    (ledger' : (chainPending value interp).Ledger False (value ::ₘ credit))
    (room : (chainPending value interp).heap.HasRoom)
    (holds : interp.heap.payload? value = some (.exception info))
    (bare : info.cause = none)
    (apart : value ∉ interp.held) :
    ∃ cause, Inherits value info cause interp (chainPending value interp) := by
  cases pending : interp.pending with
  | none =>
      have same : ({ interp with pending := none } : Interpreter) = interp := by rw [← pending]
      have whole : ({ info with cause := none } : ExceptionInfo) = info := by rw [← bare]
      rw [chainPending_of_none value pending]
      exact ⟨none, whole.symm ▸ holds, .nothing pending, same ▸ .refl _⟩
  | some prior =>
      cases fits : interp.isExceptionClass prior.type with
      | false =>
          exact ⟨none, inherits_of_misfit regular.ledger ledger' room holds bare pending fits⟩
      | true =>
          rcases inherits_of_class regular ledger' room holds apart pending fits with
            ⟨cause, inherits⟩
          exact ⟨some cause, inherits⟩

theorem Blames.later
    {before made later later' : Interpreter}
    {cause : Option Handle}
    {credit' : Multiset Handle}
    (blames : Blames before made cause later)
    (regular : later.Regular credit)
    (regular' : later'.Regular credit')
    (evolves : later.Evolves later')
    (room : later'.heap.HasRoom)
    (stays : ∀ handle, cause = some handle → later'.heap.isLive handle = true) :
    Blames before made cause later' := by
  cases blames with
  | nothing nothing => exact .nothing nothing
  | misfit pending misfit => exact .misfit pending misfit
  | represented pending isClass same represents =>
      exact .represented pending isClass same
        (represents.later regular regular' evolves room (stays _ rfl))

/-- What was pending was the same thing before the instance was made. -/
theorem Blames.of_newException
    {before made later : Interpreter}
    {cause : Option Handle}
    {type : Handle}
    {message : String}
    (blames : Blames made made cause later)
    (regular : before.Regular credit)
    (newly : before.newException type (some message) = .ok (value, made))
    (room : made.heap.HasRoom) :
    Blames before made cause later := by
  have same := (Interpreter.OnHeap.newException newly).pending
  have held {prior : Triple} (pending : before.pending = some prior) :
      prior.type ∈ before.held :=
    Interpreter.mem_held_of_pending pending (by simp [Triple.references])
  cases blames with
  | nothing nothing => exact .nothing (same.symm.trans nothing)
  | misfit pending misfit =>
      have pending' := same.symm.trans pending
      refine .misfit pending' ?_
      rw [← regular.isExceptionClass_newException newly room (held pending')]
      exact misfit
  | represented pending isClass kept represents =>
      have pending' := same.symm.trans pending
      refine .represented pending' ?_ ?_ represents
      · rw [← regular.isExceptionClass_newException newly room (held pending')]
        exact isClass
      · intro old isOld isInstance
        exact kept old isOld (regular.isInstance_newException newly room isInstance)

/-! ## Raising over what is pending -/

/--
A new `TypeError` took the place of what was pending.  It has the message and the cause
that is due to it, and everything else that was pending was given back: of every object, the
count differs by the references that the two errors and the objects have to it.
-/
structure Overrules
    (message : String)
    (type value : Handle)
    (session session' : Session) :
    Prop where
  elsewhere : session' = { session with interp := session'.interp }
  onHeap :
    ({ session.interp with pending := none } : Interpreter).OnHeap
      { session'.interp with pending := none }
  named : session.interp.lookup "TypeError" = some type
  pending : session'.interp.pending = some ⟨type, some value, none⟩
  fresh : session.interp.heap.isLive value = false
  typed : session'.interp.typeOf value = .ok type
  text : session'.interp.heap.str value = message
  bare : session'.interp.heap.tracebackOf value = none
  blames :
    ∃ made,
      session.interp.newException type (some message) = .ok (value, made) ∧
        Blames session.interp made (session'.interp.heap.causeOf value) session'.interp
  counts :
    ∀ handle,
      (session'.interp.heap.refcount? handle).getD 0 +
          ((Triple.referencesOf session.interp.pending).count handle +
            session.interp.heap.links.count handle : Nat) =
        (session.interp.heap.refcount? handle).getD 0 +
          ((Triple.referencesOf session'.interp.pending).count handle +
            session'.interp.heap.links.count handle : Nat)

variable {session session' : Session} {owned : Multiset Handle} {type : Handle}
variable {message : String}

/-- A class and its new instance take the place of what is pending. -/
def overruled (type value : Handle) (interp : Interpreter) : Interpreter :=
  (((interp.retain type).retain value).replacePending (some ⟨type, some value, none⟩)).release
    value

theorem shrinks_overruled (type value : Handle) (interp : Interpreter) :
    interp.heap.Shrinks (overruled type value interp).heap :=
  (((interp.shrinks_retain type).trans (Interpreter.shrinks_retain _ value)).trans
    (Interpreter.shrinks_replacePending _ _)).trans (Interpreter.shrinks_release _ value)

theorem evolves_overruled (type value : Handle) (interp : Interpreter) :
    interp.Evolves (overruled type value interp) :=
  (((Interpreter.Evolves.retain interp type).trans (.retain _ value)).trans
    (.replacePending _ _)).trans (.release _ value)

theorem onHeap_overruled (type value : Handle) (interp : Interpreter) :
    ({ interp with pending := none } : Interpreter).OnHeap
      { overruled type value interp with pending := none } := by
  have retained := (Interpreter.OnHeap.retain interp type).trans (.retain _ value)
  have replaced := Interpreter.OnHeap.replacePending ((interp.retain type).retain value)
    (some ⟨type, some value, none⟩) none
  exact ((retained.withPending none).trans replaced).trans
    ((Interpreter.OnHeap.release _ value).withPending none)

theorem pending_overruled (type value : Handle) (interp : Interpreter) :
    (overruled type value interp).pending = some ⟨type, some value, none⟩ := by
  rw [overruled, Interpreter.pending_release, Interpreter.pending_replacePending]

/-- The new error takes references of its own, and the caller gives its reference up. -/
theorem ledger_overruled
    (ledger : interp.Ledger False (value ::ₘ credit))
    (typeLive : interp.heap.HasRoom → interp.heap.isLive type = true) :
    (overruled type value interp).Ledger False credit := by
  have typed := ledger.retain typeLive
  have valued : ((interp.retain type).retain value).Ledger False
      (value ::ₘ type ::ₘ value ::ₘ credit) :=
    typed.retain fun room => typed.isLive_of_mem room (by simp)
  refine (Interpreter.Ledger.replacePending (valued.congr _ ?_)).release
  simp [Triple.references, Multiset.cons_swap]

/-- Whatever is pending may be chained to a new instance. -/
theorem regular_chainPending
    {made : Interpreter}
    (regular : interp.Regular credit)
    (newly : interp.newException type (some message) = .ok (value, made)) :
    (chainPending value made).Regular (value ::ₘ credit) := by
  have regular' := regular.newException newly
  refine ⟨ledger_chainPending regular'.ledger (fun room => ?_) False.elim,
    regular'.evolves.trans (evolves_chainPending value made)⟩
  rcases regular.ledger.payload?_newException newly room with ⟨unlinked, apart, -⟩
  exact ⟨unlinked, fun held => apart (Multiset.mem_add.mpr (.inr held))⟩

/-- The instance is still there, and so is its class, which has a name. -/
theorem isLive_chainPending
    {made : Interpreter}
    (regular : interp.Regular credit)
    (named : interp.lookup "TypeError" = some type)
    (newly : interp.newException type (some message) = .ok (value, made))
    (room : (chainPending value made).heap.HasRoom) :
    (chainPending value made).heap.isLive type = true ∧
      (chainPending value made).heap.isLive value = true := by
  have regular' := regular_chainPending regular newly
  have evolves := (Interpreter.Evolves.newException newly).trans (evolves_chainPending value made)
  have named' : (chainPending value made).lookup "TypeError" = some type := by
    rw [Interpreter.lookup, evolves.builtins]
    exact named
  exact ⟨regular'.ledger.isLive_of_held room (Interpreter.mem_held_of_lookup named'),
    regular'.ledger.isLive_of_mem room (Multiset.mem_cons_self value credit)⟩

/-- A new instance is made, and what was pending is chained to it and then replaced. -/
theorem overrules_of_newException
    {made : Interpreter}
    (regular : session.interp.Regular credit)
    (named : session.interp.lookup "TypeError" = some type)
    (newly : session.interp.newException type (some message) = .ok (value, made))
    (room : (overruled type value (chainPending value made)).heap.HasRoom) :
    Overrules message type value session
      { session with interp := overruled type value (chainPending value made) } := by
  have evolves := (evolves_chainPending value made).trans (evolves_overruled type value _)
  have roomChained := (shrinks_overruled type value _).hasRoom_iff.mp room
  have roomMade := evolves.heap.hasRoom room
  have origin := Interpreter.evolves_initial.trans regular.evolves.heap
  have newly' := Interpreter.Evolves.newException newly
  have regularMade := regular.newException newly
  have regularChained := regular_chainPending regular newly
  have fresh := (regular.ledger.payload?_newException_other newly roomMade).1
  rcases Interpreter.payload?_newException_message origin newly roomMade with ⟨text, holds, reads⟩
  have unheld : value ∉ made.held := fun held =>
    (regular.ledger.payload?_newException newly roomMade).2.1 (Multiset.mem_add.mpr (.inr held))
  rcases exists_inherits regularMade regularChained.ledger roomChained holds rfl unheld with
    ⟨cause, inherits⟩
  have regularAfter : (overruled type value (chainPending value made)).Regular credit :=
    ⟨ledger_overruled regularChained.ledger fun room =>
        (isLive_chainPending regular named newly room).1,
      regularChained.evolves.trans (evolves_overruled type value _)⟩
  have pending := pending_overruled type value (chainPending value made)
  have live := regularAfter.ledger.isLive_of_held room
    (Interpreter.mem_held_of_pending pending (show value ∈ _ by simp [Triple.references]))
  have holds' := ((shrinks_overruled type value _).payload?_eq live).trans inherits.holds
  have words := Interpreter.message_evolves (origin.trans newly'.heap) evolves room
    (regularAfter.ledger.whole room) live holds rfl reads
  have onHeap := ((((Interpreter.OnHeap.newException newly).withPending none).trans
    inherits.onHeap).withPending none).trans (onHeap_overruled type value (chainPending value made))
  refine ⟨rfl, onHeap, named, pending, fresh, words.1, words.2, ?_, ⟨made, newly, ?_⟩, ?_⟩
  · simp [Heap.tracebackOf, holds']
  · have isCause : (overruled type value (chainPending value made)).heap.causeOf value = cause := by
      simp [Heap.causeOf, holds']
    rw [isCause]
    refine Blames.of_newException ?_ regular newly roomMade
    refine inherits.blames.later regularChained regularAfter (evolves_overruled type value _) room
      fun handle isHandle => ?_
    refine regularAfter.ledger.heap.isLive_of_points room ⟨_, holds', ?_⟩
    simp [Payload.children, isHandle]
  · exact regular.ledger.counts_eq regularAfter.ledger (newly'.heap.hasRoom roomMade) room onHeap

/-- Raising comes to making an instance, chaining what was pending to it and setting it. -/
theorem ends_raiseTypeError
    {made : Interpreter}
    (known : wellKnown? session "TypeError" = some type)
    (newly : session.interp.newException type (some message) = .ok (value, made))
    (there :
      (chainPending value made).heap.HasRoom →
        (chainPending value made).heap.isLive type = true ∧
          (chainPending value made).heap.isLive value = true) :
    (raiseTypeError message).Ends session fun outcome session' =>
      session'.interp.heap.HasRoom →
        outcome = .ok () ∧
          session' =
            { session with interp := overruled type value (chainPending value made) } := by
  simp only [raiseTypeError, wellKnown, Op.ends_bind, Op.ends_session, Op.andThen_ok, known,
    Op.ends_pure]
  apply Op.ends_ofHeap
  · intro result newly'
    cases newly.symm.trans newly'
    simp only [Op.andThen_ok, Op.ends_bind, Op.ends_changeInterp, Op.ends_onError]
    apply Op.ends_tryInterp
    · intro interp set room
      have between : (chainPending value made).heap.HasRoom :=
        ((Interpreter.Evolves.setErrorObject set).trans (.release interp value)).heap.hasRoom room
      have set' := Interpreter.setErrorObject_eq (there between).1 (there between).2
      cases set.symm.trans set'
      exact ⟨rfl, rfl⟩
    · intro reason failed room
      have between : (chainPending value made).heap.HasRoom :=
        (Interpreter.Evolves.release (chainPending value made) value).heap.hasRoom room
      have set' := Interpreter.setErrorObject_eq (there between).1 (there between).2
      cases failed.symm.trans set'
  · intro reason failed
    cases newly.symm.trans failed

/-- Whatever was pending, a `TypeError` is raised over it as long as there is room. -/
theorem overrules_raiseTypeError
    {config : Config}
    {hasTable : Bool}
    (solvent : session.Solvent config hasTable owned)
    (message : String) :
    (raiseTypeError message).Ends session fun outcome session' =>
      session'.interp.heap.HasRoom →
        outcome = .ok () ∧ ∃ type value, Overrules message type value session session' := by
  intro room
  have raised := solvent.follow (.raiseTypeError message) rfl rfl trivial
  have started := (raised.evolves_perform room).heap.hasRoom room
  rcases solvent.exists_regular started with ⟨_, regular⟩
  rcases regular.ledger.named "TypeError" (by decide) with ⟨type, named⟩
  have typeLive := regular.ledger.isLive_of_held started (Interpreter.mem_held_of_lookup named)
  rcases Interpreter.exists_newException (some message) typeLive with ⟨value, made, newly⟩
  have raises := ends_raiseTypeError
    (((solvent.indexes started).wellKnown?_eq "TypeError").trans named) newly
    (isLive_chainPending regular named newly)
  rcases raises room with ⟨returned, same⟩
  refine ⟨returned, type, value, ?_⟩
  rw [same] at room ⊢
  exact overrules_of_newException regular named newly room

end Indicator

end Custody
