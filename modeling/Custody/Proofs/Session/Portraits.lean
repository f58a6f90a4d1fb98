import Custody.Proofs.Interpreter.Instances
import Custody.Proofs.Interpreter.Normalized
import Custody.Proofs.Session.Evolution

/-!
# What a captured exception says of itself

A captured exception comes with the name of its class and with its text.  They
were read from the heap just before its components were wrapped.  From then on
until the exception is in the hands of the caller nothing happens to the heap but
that references are given back, by drains that the wrapping may start.

Every exception that the bridge returns, as a result or as an error, was wrapped
in this way.
-/

namespace Custody

variable {session session' : Session}

/-! ## Portraits -/

namespace CapturedException

/-- The class name and the text of a captured exception are those of its type and its value. -/
structure Depicts
    (exception : CapturedException)
    (heap : Heap)
    (type value : Handle)
    (traceback : Option Handle) :
    Prop
    extends heap.Suits type value traceback where
  typeName : exception.typeName = heap.className type
  valueText : exception.valueText = heap.str value

/--
The wrappers of a captured exception have records, and if no resolver was asked,
it was taken from a heap of which the present one is what is left.
-/
structure Portrayed (exception : CapturedException) (session : Session) : Prop where
  inside : ∀ wrapper ∈ exception.wrappers, wrapper.record < session.registry.records.size
  likeness :
    session.registry.Untroubled →
      session.interp.heap.Addressable →
        ∃ heap : Heap,
          heap.Shrinks session.interp.heap ∧
            exception.Depicts heap (exception.type.handle session)
              (exception.value.handle session)
              (exception.traceback.map fun wrapper => wrapper.handle session)

end CapturedException

/-! ## Wrapping -/

theorem Heap.Shrinks.addressable_iff
    {heap heap' : Heap}
    (shrinks : heap.Shrinks heap') :
    heap'.Addressable ↔ heap.Addressable := by
  rw [Heap.Addressable, Heap.Addressable, shrinks.size_eq]

/-- A wrapper keeps to its object as long as the record is there. -/
theorem Session.Passes.handle_eq
    {way : Heap → Heap → Prop}
    {wrapper : Wrapper}
    (passes : session.Passes way session')
    (inside : wrapper.record < session.registry.records.size) :
    wrapper.handle session' = wrapper.handle session :=
  passes.objects.handle wrapper.record inside

/-- A wrapper has a record, which is of an object. -/
structure Wrapper.Shows (wrapper : Wrapper) (handle : Handle) (session : Session) : Prop where
  inside : wrapper.record < session.registry.records.size
  handle : wrapper.handle session = handle

theorem Wrapper.Shows.passes
    {way : Heap → Heap → Prop}
    {wrapper : Wrapper}
    {handle : Handle}
    (shows : wrapper.Shows handle session)
    (passes : session.Passes way session') :
    wrapper.Shows handle session' where
  inside := shows.inside.trans_le passes.objects.grows
  handle := (passes.handle_eq shows.inside).trans shows.handle

/-- A new wrapper is of a new record of the object, and nothing else was made. -/
theorem Wrapper.shows_ofOwned (handle : Handle) :
    (ofOwned handle).Yields session fun wrapper session' =>
      session.Passes Heap.Shrinks session' ∧ wrapper.Shows handle session' := by
  rw [Op.Yields, ofOwned, Op.register, Op.ends_bind]
  simp only [Op.ends_bind, Op.ends_session, Op.andThen_ok]
  cases registered : session.register handle with
  | error error =>
      intro wrapper failed
      cases failed
  | ok result =>
      rcases result with ⟨ref, entered⟩
      have first : session.Passes Heap.Shrinks entered := .register registered
      have drained : entered.Passes Heap.Shrinks entered.collectThrottled.2 :=
        .collectThrottled entered
      have shown (tracker : TrackerRef) : Shows ⟨tracker, ref, none⟩ handle entered := by
        rcases Session.register_eq_ok registered with ⟨typeName, rfl, rfl⟩
        constructor
        · show _ < (session.registry.addRecord session.tracker handle typeName).2.records.size
          rw [Registry.size_addRecord]
          exact Nat.lt_succ_self _
        · exact congrArg Record.handle
            (session.registry.record_addRecord_self session.tracker handle typeName)
      simp only [Op.ends_bind, Op.ends_change, Op.andThen_ok]
      apply Op.ends_ofPanicking
      · intro count _ wrapper returned
        have held := drained.trans (.hold entered.collectThrottled.2)
        cases returned
        exact ⟨first.trans held, (shown _).passes held⟩
      · intro panic _ wrapper failed
        cases failed

/-- Only what is there has a record. -/
theorem Session.isLive_of_register
    {ref : RecordRef}
    {handle : Handle}
    (registered : session.register handle = .ok (ref, session')) :
    session.interp.heap.isLive handle = true := by
  rw [Session.register] at registered
  split at registered
  · cases registered
  · split at registered
    · cases registered
    · split at registered
      · cases registered
      · next name named =>
          rcases Except.bind_eq_ok_iff.mp named with ⟨type, typed, -⟩
          exact Interpreter.isLive_of_typeOf typed

/-- Only what is there is wrapped. -/
theorem Wrapper.isLive_ofOwned (handle : Handle) :
    (ofOwned handle).Yields session fun _ _ => session.interp.heap.isLive handle = true := by
  rw [Op.Yields, ofOwned, Op.register, Op.ends_bind]
  simp only [Op.ends_bind, Op.ends_session, Op.andThen_ok]
  cases registered : session.register handle with
  | error error =>
      intro wrapper failed
      cases failed
  | ok result =>
      have live := Session.isLive_of_register registered
      simp only [Op.ends_bind, Op.ends_change, Op.andThen_ok]
      apply Op.ends_ofPanicking
      · exact fun _ _ _ _ => live
      · exact fun _ _ _ _ => live

/-! ## Operations without exceptions -/

/-- The exception that ended an operation early. -/
def Abort.exception? : Abort → Option CapturedException
  | .error (.foreign exception) => some exception
  | _ => none

namespace Op

variable {α β : Type} {op : Op α}

/-- The exception that an operation ended with, in its result or as its error. -/
def exceptionIn (found : α → Option CapturedException) :
    Except Abort α → Option CapturedException
  | .ok value => found value
  | .error abort => abort.exception?

/-- Nothing that an operation ends with is an exception. -/
def Silent (op : Op α) : Prop :=
  ∀ session, op.Ends session fun outcome _ => exceptionIn (fun _ => none) outcome = none

/-- What ends with an exception holds the trackers of its wrappers. -/
theorem exceptionIn_of_heldBy
    {outcome : Except Abort α}
    (free : heldBy nothing outcome = 0) :
    exceptionIn (fun _ => none) outcome = none := by
  rcases outcome with (error | panic) | value
  · cases error with
    | foreign exception =>
        simp [heldBy, Abort.holds, BridgeError.holds, CapturedException.holds,
          CapturedException.wrappers, Wrapper.holdsOf, Wrapper.holds] at free
    | _ => rfl
  · rfl
  · rfl

namespace Silent

theorem pure (value : α) : (Pure.pure value : Op α).Silent :=
  fun _ => rfl

theorem fail
    {error : BridgeError}
    (plain : (Abort.error error).exception? = none) :
    (Op.fail error : Op α).Silent :=
  fun _ => plain

theorem bind
    {next : α → Op β}
    (first : op.Silent)
    (later : ∀ value, (next value).Silent) :
    (op >>= next).Silent := by
  intro session
  apply (first session).bind
  · exact fun value session' _ => later value session'
  · exact fun _ _ plain => plain

theorem map
    (silent : op.Silent)
    (change : α → β) :
    (change <$> op).Silent :=
  silent.bind fun value => pure (change value)

theorem bind_session
    {next : Session → Op β}
    (later : ∀ session, (next session).Silent) :
    (Op.session >>= next).Silent :=
  bind (fun _ => rfl) later

theorem change (step : Session → Session) : (Op.change step).Silent :=
  fun _ => rfl

theorem withInterp (step : Interpreter → α × Interpreter) : (Op.withInterp step).Silent :=
  fun _ => rfl

theorem tryInterp (step : Interpreter → Except HeapError Interpreter) :
    (Op.tryInterp step).Silent := by
  intro session
  apply ends_tryInterp
  · exact fun _ _ => rfl
  · exact fun _ _ => rfl

theorem ofHeap (result : Except HeapError α) : (Op.ofHeap result).Silent := by
  cases result with
  | ok value => exact pure value
  | error reason => exact fail rfl

theorem ofPanicking (step : Session → Except Panic α × Session) :
    (Op.ofPanicking step).Silent := by
  intro session
  apply ends_ofPanicking
  · exact fun _ _ => rfl
  · exact fun _ _ => rfl

theorem orDrop
    (silent : op.Silent)
    (wrappers : List Wrapper) :
    (op.orDrop wrappers).Silent := by
  intro session
  rw [ends_orDrop]
  apply (silent session).mono
  intro outcome session' plain
  cases outcome with
  | ok value => exact plain
  | error abort => exact plain

theorem onError
    (silent : op.Silent)
    (repair : Interpreter → Interpreter) :
    (op.onError repair).Silent := by
  intro session
  rw [ends_onError]
  apply (silent session).mono
  intro outcome session' plain
  rcases outcome with (error | panic) | value
  · exact plain
  · exact plain
  · exact plain

theorem requireOwn
    (wrapper : Wrapper)
    (operation : String) :
    (wrapper.requireOwn operation).Silent := by
  refine bind_session fun session => ?_
  split
  · exact pure ()
  · exact fail rfl

theorem register (handle : Handle) : (Op.register handle).Silent := by
  refine bind_session fun session => ?_
  have plain := Session.heldBy_register session handle
  cases registered : session.register handle with
  | error error =>
      rw [registered] at plain
      exact fail (exceptionIn_of_heldBy plain)
  | ok result => exact (change _).bind fun _ => (ofPanicking _).bind fun _ => pure _

/-- Taking references to the components of a triple. -/
theorem retaining
    {next : Op β}
    {type value : Handle}
    {traceback : Option Handle}
    (later : next.Silent) :
    (do
      Op.tryInterp fun interp => interp.incref type
      Op.tryInterp fun interp => interp.incref value
      match traceback with
      | none => next
      | some entry =>
          Op.tryInterp fun interp => interp.incref entry
          next : Op β).Silent := by
  refine (tryInterp _).bind fun _ => (tryInterp _).bind fun _ => ?_
  cases traceback with
  | none => exact later
  | some entry => exact (tryInterp _).bind fun _ => later

end Silent

end Op

namespace Wrapper

theorem silent_ofOwned (handle : Handle) : (ofOwned handle).Silent :=
  (Op.Silent.register handle).bind fun _ => Op.Silent.bind_session fun _ =>
    (Op.Silent.change _).bind fun _ => .pure _

theorem silent_ofBorrowed (handle : Handle) : (ofBorrowed handle).Silent := by
  rw [ofBorrowed]
  split
  · exact .fail rfl
  · exact (Op.Silent.tryInterp _).bind fun _ => (silent_ofOwned handle).onError _

theorem silent_ofNone : ofNone.Silent :=
  (Op.Silent.withInterp _).bind silent_ofOwned

theorem silent_ofPayload (payload : Payload) : (ofPayload payload).Silent :=
  (Op.Silent.withInterp _).bind silent_ofOwned

theorem silent_retainAll (wrappers : List Wrapper) : (retainAll wrappers).Silent := by
  induction wrappers with
  | nil => exact .pure _
  | cons wrapper rest step =>
      refine (Op.Silent.requireOwn _ _).bind fun _ => Op.Silent.bind_session fun session => ?_
      exact (Op.Silent.tryInterp _).bind fun _ => step.bind fun _ => .pure _

theorem silent_ofList (items : List Wrapper) : (ofList items).Silent :=
  (silent_retainAll items).bind fun handles => silent_ofPayload (.list handles)

theorem silent_clone (wrapper : Wrapper) : wrapper.clone.Silent :=
  (Op.Silent.requireOwn _ _).bind fun _ => Op.Silent.bind_session fun _ => silent_ofBorrowed _

theorem silent_intoHandle (wrapper : Wrapper) : wrapper.intoHandle.Silent :=
  fun _ => Op.exceptionIn_of_heldBy (heldBy_detach _ _ _)

end Wrapper

namespace CapturedException

theorem silent_restoreClone (exception : CapturedException) : exception.restoreClone.Silent :=
  (Op.Silent.requireOwn _ _).bind fun _ => Op.Silent.bind_session fun _ =>
    .retaining (.change _)

theorem silent_restore (exception : CapturedException) : exception.restore.Silent := by
  refine ((Op.Silent.requireOwn _ _).orDrop _).bind fun _ => ?_
  refine ((Wrapper.silent_intoHandle _).orDrop _).bind fun type => ?_
  refine ((Wrapper.silent_intoHandle _).orDrop _).bind fun value => ?_
  cases exception.traceback with
  | none => exact Op.Silent.bind (.pure none) fun _ => .change _
  | some wrapper => exact ((Wrapper.silent_intoHandle wrapper).map some).bind fun _ => .change _

end CapturedException

theorem HostError.silent_raise (error : HostError) : error.raise.Silent := by
  rw [raise]
  cases error.exception? with
  | some exception => exact exception.silent_restoreClone
  | none =>
      refine (Op.Silent.withInterp _).bind fun _ => Op.Silent.bind_session fun session =>
        (Op.Silent.ofHeap _).bind fun _ => ?_
      exact (Op.Silent.change _).bind fun _ =>
        ((Op.Silent.tryInterp _).onError _).bind fun _ => .change _

namespace Indicator

theorem silent_setErrorObject
    (type : Handle)
    (value : Wrapper) :
    (setErrorObject type value).Silent :=
  (Op.Silent.requireOwn _ _).bind fun _ => Op.Silent.bind_session fun _ => .tryInterp _

theorem silent_wellKnown (operation name : String) : (wellKnown operation name).Silent := by
  refine Op.Silent.bind_session fun session => ?_
  split
  · exact .pure _
  · exact .fail rfl

theorem silent_raiseTypeError (message : String) : (raiseTypeError message).Silent := by
  refine (silent_wellKnown _ _).bind fun type => Op.Silent.bind_session fun session =>
    (Op.Silent.ofHeap _).bind fun made => ?_
  exact (Op.Silent.change _).bind fun _ =>
    ((Op.Silent.tryInterp _).onError _).bind fun _ => .change _

end Indicator

/-! ## Operations with exceptions -/

namespace Op

variable {α β : Type} {op : Op α} {found : β → Option CapturedException}
variable {isSuch : CapturedException → Session → Prop}

/-- If an operation ends with an exception, something is true of the exception then. -/
def Brings
    (op : Op α)
    (found : α → Option CapturedException)
    (isSuch : CapturedException → Session → Prop)
    (session : Session) :
    Prop :=
  op.Ends session fun outcome session' =>
    ∀ exception, exceptionIn found outcome = some exception → isSuch exception session'

theorem Silent.brings
    (silent : op.Silent)
    (session : Session) :
    op.Brings (fun _ => none) isSuch session := by
  apply (silent session).mono
  intro outcome session' plain exception brought
  rw [plain] at brought
  cases brought

namespace Brings

/-- What follows an operation without exceptions starts where that ended with a result. -/
theorem bind
    {next : α → Op β}
    {first : α → Session → Prop}
    (silent : op.Silent)
    (yields : op.Yields session first)
    (later : ∀ value session', first value session' → (next value).Brings found isSuch session') :
    (op >>= next).Brings found isSuch session := by
  apply (Ends.and yields (silent session)).bind
  · exact fun value session' reached => later value session' (reached.1 value rfl)
  · intro abort session' reached exception brought
    have plain : abort.exception? = none := reached.2
    rw [exceptionIn, plain] at brought
    cases brought

/-- No exception comes from elsewhere than from the result. -/
theorem of_yields
    {found : α → Option CapturedException}
    (silent : op.Silent)
    (yields : op.Yields session fun value session' =>
      ∀ exception, found value = some exception → isSuch exception session') :
    op.Brings found isSuch session := by
  apply (Ends.and yields (silent session)).mono
  rintro (abort | value) session' ⟨reached, plain⟩ exception brought
  · have missing : abort.exception? = none := plain
    rw [exceptionIn, missing] at brought
    cases brought
  · exact reached value rfl exception brought

theorem bind_silent
    {next : α → Op β}
    (silent : op.Silent)
    (later : ∀ value session', (next value).Brings found isSuch session') :
    (op >>= next).Brings found isSuch session := by
  have yields : op.Yields session fun _ _ => True := fun _ _ => trivial
  exact bind silent yields fun value session' _ => later value session'

/-- Taking references leaves the heap what it is. -/
theorem retaining
    {next : Op β}
    {type value : Handle}
    {traceback : Option Handle}
    (later :
      ∀ session' : Session,
        session.interp.heap.Shrinks session'.interp.heap →
          session.interp.OnHeap session'.interp → next.Brings found isSuch session') :
    (do
      Op.tryInterp fun interp => interp.incref type
      Op.tryInterp fun interp => interp.incref value
      match traceback with
      | none => next
      | some entry =>
          Op.tryInterp fun interp => interp.incref entry
          next : Op β).Brings found isSuch session := by
  have takes (handle : Handle) (session : Session) :
      (Op.tryInterp fun interp => interp.incref handle).Yields session fun _ session' =>
        session.interp.heap.Shrinks session'.interp.heap ∧
          session.interp.OnHeap session'.interp := by
    apply ends_tryInterp
    · intro interp taken _ _
      have retained := session.interp.shrinks_retain handle
      rw [Interpreter.retain, taken] at retained
      exact ⟨retained, .incref taken⟩
    · intro reason _ value failed
      cases failed
  refine .bind (.tryInterp _) (takes type session) fun _ session₁ typed => ?_
  refine .bind (.tryInterp _) (takes value session₁) fun _ session₂ valued => ?_
  have both := typed.1.trans valued.1
  cases traceback with
  | none => exact later session₂ both (typed.2.trans valued.2)
  | some entry =>
      refine .bind (.tryInterp _) (takes entry session₂) fun _ session₃ traced => ?_
      exact later session₃ (both.trans traced.1) ((typed.2.trans valued.2).trans traced.2)

end Brings

end Op

/-! ## Capturing -/

namespace CapturedException

theorem shrinks_completeTraceback
    (interp : Interpreter)
    (value : Handle)
    (traceback : Option Handle) :
    interp.heap.Shrinks (completeTraceback interp value traceback).2.heap := by
  unfold completeTraceback
  split
  · exact .refl _
  · split
    · exact .refl _
    · next entry _ =>
        split
        · next held taken =>
            have retained := interp.shrinks_retain entry
            rwa [Interpreter.retain, taken] at retained
        · exact .refl _

/-- The traceback of a value is taken if it is there and the triple has none. -/
theorem suits_completeTraceback
    {interp : Interpreter}
    {type value : Handle}
    {traceback : Option Handle}
    (fits : interp.heap.Fits type value traceback) :
    interp.heap.Suits type value (completeTraceback interp value traceback).1 := by
  have linked (info : ExceptionInfo) (holds : interp.heap.payload? value = some (.exception info)) :
      interp.heap.tracebackOf value = info.traceback := by
    simp [Heap.tracebackOf, holds]
  unfold completeTraceback
  split
  · exact ⟨fits, fun _ _ _ _ _ => rfl⟩
  · split
    · next bare =>
        refine ⟨fits, fun info entry holds isLinked _ => ?_⟩
        rw [linked info holds, isLinked] at bare
        cases bare
    · next entry attached =>
        split
        · refine ⟨⟨fits.typed, fun info _ holds _ _ => ?_⟩, fun _ _ _ _ _ => rfl⟩
          rw [← linked info holds, attached]
          rfl
        · next reason failed =>
            refine ⟨fits, fun info other holds isLinked live => ?_⟩
            rw [linked info holds, isLinked, Option.some.injEq] at attached
            subst attached
            rcases Interpreter.incref_of_isLive live with ⟨_, taken⟩
            exact absurd (failed.symm.trans taken) (by simp)

/-- An exception was made of a triple, in a session that has been left for another since. -/
structure Reads
    (exception : CapturedException)
    (taken : Session)
    (type value : Handle)
    (traceback : Option Handle)
    (session' : Session) :
    Prop where
  passes : taken.Passes Heap.Shrinks session'
  typed : exception.type.Shows type session'
  valued : exception.value.Shows value session'
  traced :
    Option.Rel (fun wrapper entry => wrapper.Shows entry session') exception.traceback traceback
  typeName : exception.typeName = taken.interp.heap.className type
  valueText : exception.valueText = taken.interp.heap.str value
  there : session'.registry.Untroubled → taken.interp.heap.isLive value = true

namespace Reads

variable {exception : CapturedException} {taken : Session} {type value : Handle}
variable {traceback : Option Handle}

/-- What the third wrapper is of. -/
theorem traceback_eq (reads : exception.Reads taken type value traceback session') :
    (exception.traceback.map fun wrapper => wrapper.handle session') = traceback := by
  rcases exception with ⟨typeWrapper, valueWrapper, tracebackWrapper, typeName, valueText⟩
  have rel := reads.traced
  cases rel with
  | none => rfl
  | some shows => exact congrArg some shows.handle

/-- The wrappers have records. -/
theorem inside
    (reads : exception.Reads taken type value traceback session')
    (wrapper : Wrapper)
    (among : wrapper ∈ exception.wrappers) :
    wrapper.record < session'.registry.records.size := by
  rcases exception with ⟨typeWrapper, valueWrapper, tracebackWrapper, typeName, valueText⟩
  rcases List.mem_cons.mp among with rfl | rest
  · exact reads.typed.inside
  · rcases List.mem_cons.mp rest with rfl | last
    · exact reads.valued.inside
    · have rel := reads.traced
      have isTraceback := Option.mem_toList.mp last
      cases rel with
      | none => cases isTraceback
      | some shows =>
          cases isTraceback
          exact shows.inside

/-- Whatever is done while a triple is wrapped, the exception says what the triple was. -/
theorem portrayed
    (reads : exception.Reads taken type value traceback session')
    (suits :
      taken.interp.heap.Addressable → taken.interp.heap.Suits type value traceback) :
    exception.Portrayed session' where
  inside := reads.inside
  likeness := by
    intro untroubled addressable
    have shrinks := reads.passes.heap untroubled
    refine ⟨taken.interp.heap, shrinks, ?_⟩
    rw [reads.typed.handle, reads.valued.handle, reads.traceback_eq]
    exact ⟨suits (shrinks.addressable_iff.mp addressable), reads.typeName, reads.valueText⟩

end Reads

theorem silent_ofNormalized (triple : Triple) : (ofNormalized triple).Silent := by
  rw [ofNormalized]
  cases triple.value with
  | none => exact (Op.Silent.change _).bind fun _ => .fail rfl
  | some value =>
      refine (Op.Silent.withInterp _).bind fun traceback => Op.Silent.bind_session fun session => ?_
      refine (Wrapper.silent_ofOwned _).bind fun typeWrapper => ?_
      refine ((Wrapper.silent_ofOwned _).orDrop _).bind fun valueWrapper => ?_
      cases traceback with
      | none => exact .pure _
      | some entry => exact ((Wrapper.silent_ofOwned _).orDrop _).bind fun _ => .pure _

/-- An exception reads what the triple was before it was wrapped. -/
theorem reads_ofNormalized
    {triple : Triple}
    {value : Handle}
    (isValue : triple.value = some value) :
    (ofNormalized triple).Yields session fun exception session' =>
      exception.Reads
        { session with interp := (completeTraceback session.interp value triple.traceback).2 }
        triple.type value (completeTraceback session.interp value triple.traceback).1 session' := by
  simp only [ofNormalized, isValue, Op.Yields, Op.ends_bind, Op.ends_withInterp, Op.ends_session,
    Op.andThen_ok]
  generalize completeTraceback session.interp value triple.traceback = result
  rcases result with ⟨traceback, interp⟩
  rw [← Op.ends_bind, ← Op.Yields]
  refine .bind (Wrapper.shows_ofOwned triple.type) ?_
  rintro typeWrapper session₁ ⟨passes₁, typed⟩
  refine .bind
    (((Wrapper.shows_ofOwned value).and (Wrapper.isLive_ofOwned value)).orDrop [typeWrapper]) ?_
  rintro valueWrapper session₂ ⟨⟨passes₂, valued⟩, live⟩
  have passed := passes₁.trans passes₂
  have there {session' : Session} (passes : session₁.Passes Heap.Shrinks session')
      (untroubled : session'.registry.Untroubled) : interp.heap.isLive value = true :=
    (passes₁.heap (passes.untroubled untroubled)).isLive live
  cases traceback with
  | none =>
      intro exception made
      cases made
      exact ⟨passed, typed.passes passes₂, valued, .none, rfl, rfl, there passes₂⟩
  | some entry =>
      refine .bind ((Wrapper.shows_ofOwned entry).orDrop [valueWrapper, typeWrapper]) ?_
      rintro entryWrapper session₃ ⟨passes₃, traced⟩ exception made
      cases made
      exact ⟨passed.trans passes₃, (typed.passes passes₂).passes passes₃, valued.passes passes₃,
        .some traced, rfl, rfl, there (passes₂.trans passes₃)⟩

/-- What is read off a normalized triple. -/
theorem brings_ofNormalized
    {isSuch : CapturedException → Session → Prop}
    {triple : Triple}
    (reading :
      ∀ exception value session',
        triple.value = some value →
          exception.Reads
              { session with
                interp := (completeTraceback session.interp value triple.traceback).2 }
              triple.type value (completeTraceback session.interp value triple.traceback).1
              session' →
            (session'.registry.Untroubled →
              session'.interp.builtins = session.interp.builtins) →
            isSuch exception session') :
    (ofNormalized triple).Brings some isSuch session := by
  cases isValue : triple.value with
  | none =>
      rw [ofNormalized, isValue]
      intro exception brought
      cases brought
  | some value =>
      refine .of_yields (silent_ofNormalized triple) fun made isMade exception same => ?_
      cases same
      exact reading made value _ isValue (reads_ofNormalized isValue made isMade)
        (Session.Strokes.builtins (relates_ofNormalized triple))

/--
What is true of every exception that is wrapped: a triple was normalized just before, or
the object has the class and the traceback of the triple.
-/
structure FollowsWrapping (isSuch : CapturedException → Session → Prop) : Prop where
  normalized {session : Session} {interp : Interpreter} {triple triple' : Triple} :
    session.interp.normalize triple = (.ok triple', interp) →
      (ofNormalized triple').Brings some isSuch { session with interp }
  cause {session session' : Session} {type value : Handle} :
    session.interp.typeOf value = .ok type →
      session.interp.heap.Shrinks session'.interp.heap →
        session.interp.OnHeap session'.interp →
          (ofNormalized ⟨type, some value, session.interp.heap.tracebackOf value⟩).Brings some
            isSuch session'

variable {isSuch : CapturedException → Session → Prop}

/-- Whatever a triple is made into, it was normalized. -/
theorem brings_ofTriple
    (follows : FollowsWrapping isSuch)
    (attempts : Nat)
    (triple : Triple) :
    (ofTriple attempts triple).Brings some isSuch session := by
  induction attempts generalizing session triple with
  | zero =>
      intro exception brought
      cases brought
  | succ attempts step =>
      simp only [ofTriple, Op.Brings, Op.ends_bind, Op.ends_withInterp, Op.andThen_ok]
      cases normalized : session.interp.normalize triple with
      | mk outcome interp =>
          cases outcome with
          | ok triple' => exact follows.normalized normalized
          | error raised =>
              simp only [Op.ends_bind, Op.ends_changeInterp, Op.andThen_ok, Op.ends_session]
              split
              · intro exception brought
                cases brought
              · next next interp' fetched =>
                  rw [Op.ends_bind, Op.ends_changeInterp, Op.andThen_ok]
                  exact step next

theorem brings_fetch (follows : FollowsWrapping isSuch) : fetch.Brings id isSuch session := by
  refine .bind_silent (fun _ => rfl) fun between session₀ => ?_
  split
  · intro exception brought
    cases brought
  · next triple interp _ =>
      refine .bind_silent (.change _) fun _ session₁ => ?_
      apply Op.Ends.bind (brings_ofTriple follows normalizationAttempts triple)
      · intro exception session₂ such other brought
        cases brought
        exact such exception rfl
      · exact fun _ _ such => such

theorem brings_foreign
    {α : Type}
    {found : α → Option CapturedException}
    {exception : CapturedException}
    (such : isSuch exception session) :
    (Op.fail (.foreign exception)).Brings found isSuch session := by
  intro other brought
  cases brought
  exact such

/-- What was raised is captured, whatever else would have been the result. -/
theorem brings_raised
    {α : Type}
    {found : α → Option CapturedException}
    (follows : FollowsWrapping isSuch) :
    raised.Brings found isSuch session := by
  rw [raised]
  apply Op.Ends.bind (brings_fetch follows)
  · intro fetched session' such
    cases fetched with
    | none =>
        intro exception brought
        cases brought
    | some exception => exact brings_foreign (such exception rfl)
  · exact fun _ _ such => such

theorem brings_checkPending (follows : FollowsWrapping isSuch) :
    checkPending.Brings (fun _ => none) isSuch session := by
  rw [checkPending]
  apply Op.Ends.bind (brings_fetch follows)
  · intro fetched session' such
    cases fetched with
    | none => exact (Op.Silent.pure _).brings session'
    | some exception => exact brings_foreign (such exception rfl)
  · exact fun _ _ such => such

/-- A cause is wrapped, whether it is an exception or not. -/
theorem brings_cause
    (follows : FollowsWrapping isSuch)
    (exception : CapturedException) :
    exception.cause.Brings id isSuch session := by
  refine .bind_silent (.requireOwn _ _) fun _ session₀ => ?_
  simp only [Op.Brings, Op.ends_bind, Op.ends_session, Op.andThen_ok]
  split
  · intro other brought
    cases brought
  · next cause linked =>
      rw [Op.ends_bind]
      apply Op.ends_ofHeap
      · intro type typed
        apply Op.Brings.retaining
        intro session₁ shrinks onHeap
        apply Op.Ends.bind (follows.cause typed shrinks onHeap)
        · intro exception session₂ such other brought
          cases brought
          exact such exception rfl
        · exact fun _ _ such => such
      · intro reason _ other brought
        cases brought

/-- An object with its class and its traceback. -/
theorem fits_typeOf
    {interp : Interpreter}
    {type value : Handle}
    (typed : interp.typeOf value = .ok type) :
    interp.heap.Fits type value (interp.heap.tracebackOf value) := by
  constructor
  · intro info holds
    rw [Interpreter.typeOf, Heap.payload_eq_ok_iff.mpr holds] at typed
    exact Except.ok.inj typed
  · intro info entry holds attached _
    have linked : info.traceback = some entry := by simpa [Heap.tracebackOf, holds] using attached
    rw [linked]
    rfl

/-- Every exception that is wrapped is portrayed. -/
theorem portrayed_followsWrapping : FollowsWrapping Portrayed where
  normalized := by
    intro session interp triple triple' normalized
    refine brings_ofNormalized fun exception value session' isValue reads _ => ?_
    refine reads.portrayed fun addressable => ?_
    have shrinks := shrinks_completeTraceback interp value triple'.traceback
    rcases Interpreter.fits_normalize normalized (shrinks.addressable_iff.mp addressable) with
      ⟨value', isValue', fits⟩
    rw [isValue, Option.some.injEq] at isValue'
    subst isValue'
    exact (suits_completeTraceback fits).of_shrinks shrinks
  cause := by
    intro session session₁ type value typed shrinks _
    refine brings_ofNormalized fun exception value' session' isValue reads _ => ?_
    cases isValue
    refine reads.portrayed fun _ => ?_
    exact (suits_completeTraceback ((fits_typeOf typed).of_shrinks shrinks)).of_shrinks
      (shrinks_completeTraceback _ _ _)

end CapturedException

section Routes

variable {isSuch : CapturedException → Session → Prop}

theorem Wrapper.brings_getItem
    (follows : CapturedException.FollowsWrapping isSuch)
    (wrapper : Wrapper)
    (index : Int) :
    (wrapper.getItem index).Brings (fun _ => none) isSuch session := by
  refine .bind_silent (.requireOwn _ _) fun _ session₀ => ?_
  refine .bind_silent (fun _ => rfl) fun between session₁ => ?_
  refine .bind_silent (.withInterp _) fun outcome session₂ => ?_
  cases outcome with
  | ok item => exact (silent_ofOwned item).brings session₂
  | error raised => exact CapturedException.brings_raised follows

namespace Indicator

theorem brings_normalize
    (follows : CapturedException.FollowsWrapping isSuch)
    (triple : Triple) :
    (normalize triple).Brings (fun _ => none) isSuch session := by
  refine .bind_silent (fun _ => rfl) fun between session₀ => ?_
  split
  · exact (Op.Silent.fail rfl).brings session₀
  · refine .bind_silent (.withInterp _) fun outcome session₁ => ?_
    cases outcome with
    | ok triple => exact (Op.Silent.pure triple).brings session₁
    | error raised => exact CapturedException.brings_raised follows

theorem brings_setCause
    (follows : CapturedException.FollowsWrapping isSuch)
    (cause : CapturedException) :
    (setCause cause).Brings (fun _ => none) isSuch session := by
  refine .bind_silent (.requireOwn _ _) fun _ session₀ => ?_
  refine .bind_silent (fun _ => rfl) fun between session₁ => ?_
  split
  · exact (Op.Silent.fail rfl).brings session₁
  · refine .bind_silent (.tryInterp _) fun _ session₂ => ?_
    refine .bind_silent (fun _ => rfl) fun between' session₃ => ?_
    split
    · exact (Op.Silent.fail rfl).brings session₃
    · refine .bind_silent (.change _) fun _ session₄ => ?_
      refine .bind_silent (.withInterp _) fun outcome session₅ => ?_
      cases outcome with
      | error raised =>
          exact .bind_silent (.change _) fun _ _ => CapturedException.brings_raised follows
      | ok current =>
          refine Op.Silent.brings ?_ session₅
          simp only
          split
          · exact .change _
          · exact (Op.Silent.tryInterp _).bind fun _ => .change _

theorem brings_warn
    (follows : CapturedException.FollowsWrapping isSuch)
    (category : Handle)
    (message : String)
    (level : Nat) :
    (warn category message level).Brings (fun _ => none) isSuch session := by
  refine .bind_silent (fun _ => rfl) fun between session₀ => ?_
  split
  · refine .bind_silent (.withInterp _) fun outcome session₁ => ?_
    cases outcome with
    | ok done => exact (Op.Silent.pure _).brings session₁
    | error raised => exact CapturedException.brings_raised follows
  · exact .bind_silent (silent_raiseTypeError _) fun _ _ =>
      CapturedException.brings_raised follows

theorem brings_deprecation
    (follows : CapturedException.FollowsWrapping isSuch)
    (message : String)
    (level : Nat) :
    (deprecation message level).Brings (fun _ => none) isSuch session :=
  .bind_silent (silent_wellKnown _ _) fun category _ => brings_warn follows category message level

end Indicator

end Routes

/-! ## Requests -/

namespace Session

/-- The exception in an answer, as a result or as an error. -/
def Answer.exception? : Answer → Option CapturedException
  | .record outcome => Op.exceptionIn (fun _ => none) (outcome.mapError Abort.error)
  | .ended outcome => Op.exceptionIn (fun _ => none) outcome
  | .handle outcome => Op.exceptionIn (fun _ => none) outcome
  | .count outcome => Op.exceptionIn (fun _ => none) outcome
  | .wrapper outcome => Op.exceptionIn (fun _ => none) outcome
  | .exception outcome => Op.exceptionIn id outcome
  | .triple outcome => Op.exceptionIn (fun _ => none) outcome
  | .shutDown outcome => Op.exceptionIn (fun _ => none) outcome
  | _ => none

/-- No operation on the tracker or the finalizer brings an exception. -/
theorem Action.exception?_answer
    (action : Action)
    (session : Session) :
    (action.answer session).exception? = none := by
  cases action with
  | register handle => exact Op.exceptionIn_of_heldBy (heldBy_register session handle)
  | releaseNow ref => exact Op.exceptionIn_of_heldBy (Wrapper.heldBy_releaseNow session ref)
  | detach ref => exact Op.exceptionIn_of_heldBy (Wrapper.heldBy_detach _ _ _)
  | dispose wrapper => exact Op.exceptionIn_of_heldBy (heldBy_dispose wrapper session)
  | intoHandle wrapper => exact wrapper.silent_intoHandle session
  | collect => exact Op.exceptionIn_of_heldBy (heldBy_collect session)
  | shutDown => exact Op.exceptionIn_of_heldBy (Op.heldBy_shutDown session)
  | _ => rfl

/-- What is true of every exception that is wrapped is true of every one that a request brings. -/
theorem brought_perform
    {isSuch : CapturedException → Session → Prop}
    {request : Request}
    {exception : CapturedException}
    (follows : CapturedException.FollowsWrapping isSuch)
    (brought : (request.answer session).exception? = some exception) :
    isSuch exception (request.perform session).2 := by
  have silent {α : Type} {op : Op α} (isSilent : op.Silent)
      (brought : Op.exceptionIn (fun _ => none) (op.on session).1 = some exception) :
      isSuch exception (request.perform session).2 :=
    absurd (brought.symm.trans (isSilent session)) (by simp)
  cases request with
  | interpret call => cases brought
  | act action =>
      rw [show Request.answer session (.act action) = action.answer session from rfl,
        action.exception?_answer] at brought
      cases brought
  | collectInBackground interval isHeld => cases brought
  | wrapNone => exact silent Wrapper.silent_ofNone brought
  | wrapPayload payload => exact silent (Wrapper.silent_ofPayload payload) brought
  | wrapList items => exact silent (Wrapper.silent_ofList items) brought
  | wrapOwned handle => exact silent (Wrapper.silent_ofOwned handle) brought
  | wrapBorrowed handle => exact silent (Wrapper.silent_ofBorrowed handle) brought
  | clone wrapper => exact silent wrapper.silent_clone brought
  | getItem wrapper index => exact wrapper.brings_getItem follows index exception brought
  | fetch => exact CapturedException.brings_fetch follows exception brought
  | checkPending => exact CapturedException.brings_checkPending follows exception brought
  | cause other => exact other.brings_cause follows exception brought
  | restoreClone other => exact silent other.silent_restoreClone brought
  | restore other => exact silent other.silent_restore brought
  | raiseError error => exact silent error.silent_raise brought
  | setError type message => exact silent (.tryInterp _) brought
  | setErrorObject type value => exact silent (Indicator.silent_setErrorObject type value) brought
  | setCause other => exact Indicator.brings_setCause follows other exception brought
  | normalize triple => exact Indicator.brings_normalize follows triple exception brought
  | raiseTypeError message => exact silent (Indicator.silent_raiseTypeError message) brought
  | warn category message level =>
      exact Indicator.brings_warn follows category message level exception brought
  | deprecation message level =>
      exact Indicator.brings_deprecation follows message level exception brought

/-- Every exception that a request brings is portrayed. -/
theorem portrayed_perform
    {request : Request}
    {exception : CapturedException}
    (brought : (request.answer session).exception? = some exception) :
    exception.Portrayed (request.perform session).2 :=
  brought_perform CapturedException.portrayed_followsWrapping brought

end Session

end Custody
