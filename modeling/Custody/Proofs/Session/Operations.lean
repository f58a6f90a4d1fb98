import Custody.Session.Wrapping

/-!
# How operations end

An operation ends in some session with a result, an error or a panic.  What is
true of its end follows from what is true of the ends of its parts, which the
equations of this module spell out for each way to put operations together.
-/

namespace Custody.Op

variable {α β : Type}

/-- What is true of the outcome of an operation and of the session in which it ends. -/
def Ends
    (op : Op α)
    (session : Session)
    (post : Except Abort α → Session → Prop) :
    Prop :=
  post (op.on session).1 (op.on session).2

variable {op : Op α} {session : Session}
variable {post post' : Except Abort α → Session → Prop}

theorem Ends.mono
    (ends : op.Ends session post)
    (weaker : ∀ outcome session', post outcome session' → post' outcome session') :
    op.Ends session post' :=
  weaker _ _ ends

theorem Ends.and
    (ends : op.Ends session post)
    (ends' : op.Ends session post') :
    op.Ends session fun outcome session' => post outcome session' ∧ post' outcome session' :=
  ⟨ends, ends'⟩

/-- What comes after an operation that ended with a result, or early. -/
def andThen
    (next : α → Op β)
    (post : Except Abort β → Session → Prop) :
    Except Abort α → Session → Prop
  | .ok value, session => (next value).Ends session post
  | .error abort, session => post (.error abort) session

@[simp]
theorem andThen_ok
    (next : α → Op β)
    (post : Except Abort β → Session → Prop)
    (value : α)
    (session : Session) :
    andThen next post (.ok value) session ↔ (next value).Ends session post :=
  Iff.rfl

@[simp]
theorem andThen_error
    (next : α → Op β)
    (post : Except Abort β → Session → Prop)
    (abort : Abort)
    (session : Session) :
    andThen next post (.error abort) session ↔ post (.error abort) session :=
  Iff.rfl

@[simp]
theorem ends_pure (value : α) :
    (pure value : Op α).Ends session post ↔ post (.ok value) session :=
  Iff.rfl

theorem on_bind
    (op : Op α)
    (next : α → Op β)
    (session : Session) :
    (op >>= next).on session =
      match op.on session with
      | (.ok value, session) => (next value).on session
      | (.error abort, session) => (.error abort, session) := by
  change
    (match (op session : Except Abort α × Session) with
      | (outcome, session) => (ExceptT.bindCont next outcome : StateM Session _) session) = _
  rw [on]
  rcases (op session : Except Abort α × Session) with ⟨_ | _, session'⟩
  · rfl
  · rfl

@[simp]
theorem ends_bind
    (next : α → Op β)
    (post : Except Abort β → Session → Prop) :
    (op >>= next).Ends session post ↔ op.Ends session (andThen next post) := by
  unfold Ends
  rw [on_bind]
  rcases op.on session with ⟨_ | _, session'⟩
  · rfl
  · rfl

/-- What follows an operation starts from where the operation ended. -/
theorem Ends.bind
    {first : Except Abort α → Session → Prop}
    {next : α → Op β}
    {post : Except Abort β → Session → Prop}
    (ends : op.Ends session first)
    (continues : ∀ value session', first (.ok value) session' → (next value).Ends session' post)
    (stops : ∀ abort session', first (.error abort) session' → post (.error abort) session') :
    (op >>= next).Ends session post := by
  rw [ends_bind]
  apply ends.mono
  intro outcome session' reached
  cases outcome with
  | error abort => exact stops abort session' reached
  | ok value => exact continues value session' reached

@[simp]
theorem ends_map
    (change : α → β)
    (post : Except Abort β → Session → Prop) :
    (change <$> op).Ends session post ↔
      op.Ends session (andThen (fun value => pure (change value)) post) :=
  ends_bind (fun value => pure (change value)) post

theorem on_map
    (change : α → β)
    (op : Op α)
    (session : Session) :
    (change <$> op).on session = ((op.on session).1.map change, (op.on session).2) := by
  show (op >>= fun value => pure (change value)).on session = _
  rw [on_bind]
  rcases op.on session with ⟨_ | _, _⟩
  · rfl
  · rfl

/-! ## Primitive operations -/

@[simp]
theorem ends_of (step : Session → Except Abort α × Session) :
    (of step).Ends session post ↔ post (step session).1 (step session).2 :=
  Iff.rfl

@[simp]
theorem ends_fail (error : BridgeError) :
    (fail error : Op α).Ends session post ↔ post (.error (.error error)) session :=
  Iff.rfl

@[simp]
theorem ends_session {post : Except Abort Session → Session → Prop} :
    Op.session.Ends session post ↔ post (.ok session) session :=
  Iff.rfl

@[simp]
theorem ends_change
    {post : Except Abort Unit → Session → Prop}
    (step : Session → Session) :
    (change step).Ends session post ↔ post (.ok ()) (step session) :=
  Iff.rfl

@[simp]
theorem ends_changeInterp
    {post : Except Abort Unit → Session → Prop}
    (step : Interpreter → Interpreter) :
    (changeInterp step).Ends session post ↔ post (.ok ()) (session.updateInterp step) :=
  Iff.rfl

@[simp]
theorem ends_withInterp (step : Interpreter → α × Interpreter) :
    (withInterp step).Ends session post ↔
      post (.ok (step session.interp).1) { session with interp := (step session.interp).2 } :=
  Iff.rfl

theorem ends_tryInterp
    {post : Except Abort Unit → Session → Prop}
    {step : Interpreter → Except HeapError Interpreter}
    (succeeds : ∀ interp, step session.interp = .ok interp → post (.ok ()) { session with interp })
    (fails :
      ∀ reason, step session.interp = .error reason →
        post (.error (.error (.heap reason))) session) :
    (tryInterp step).Ends session post := by
  cases result : step session.interp with
  | ok interp => simpa [Ends, tryInterp, of, on, result] using succeeds interp result
  | error reason => simpa [Ends, tryInterp, of, on, result] using fails reason result

theorem ends_ofHeap
    {result : Except HeapError α}
    (succeeds : ∀ value, result = .ok value → post (.ok value) session)
    (fails : ∀ reason, result = .error reason → post (.error (.error (.heap reason))) session) :
    (ofHeap result).Ends session post := by
  cases result with
  | ok value => exact succeeds value rfl
  | error reason => exact fails reason rfl

theorem ends_ofPanicking
    {step : Session → Except Panic α × Session}
    (succeeds : ∀ value, (step session).1 = .ok value → post (.ok value) (step session).2)
    (panics :
      ∀ panic, (step session).1 = .error panic →
        post (.error (.panic panic)) (step session).2) :
    (ofPanicking step).Ends session post := by
  unfold Ends ofPanicking of on
  rcases stepped : step session with ⟨panic | value, session'⟩
  · simpa [stepped] using panics panic (by rw [stepped])
  · simpa [stepped] using succeeds value (by rw [stepped])

/-- What an operation leaves behind if it drops wrappers on ending early. -/
def orDropped
    (wrappers : List Wrapper)
    (post : Except Abort α → Session → Prop) :
    Except Abort α → Session → Prop
  | .ok value, session => post (.ok value) session
  | .error abort, session =>
      post (.error abort)
        (session.updateRegistry fun registry => registry.dropWrappers wrappers)

@[simp]
theorem ends_orDrop (wrappers : List Wrapper) :
    (op.orDrop wrappers).Ends session post ↔ op.Ends session (orDropped wrappers post) := by
  rw [orDrop, ends_of]
  rw [Ends]
  rcases op.on session with ⟨_ | _, session'⟩
  · rfl
  · rfl

/-- What an operation leaves behind if it repairs the interpreter on an error. -/
def onRepaired
    (repair : Interpreter → Interpreter)
    (post : Except Abort α → Session → Prop) :
    Except Abort α → Session → Prop
  | .ok value, session => post (.ok value) session
  | .error (.error error), session => post (.error (.error error)) (session.updateInterp repair)
  | .error (.panic panic), session => post (.error (.panic panic)) session

@[simp]
theorem ends_onError (repair : Interpreter → Interpreter) :
    (op.onError repair).Ends session post ↔ op.Ends session (onRepaired repair post) := by
  rw [onError, ends_of]
  rw [Ends]
  rcases op.on session with ⟨(_ | _) | _, session'⟩
  · rfl
  · rfl
  · rfl

/-! ## Results -/

/-- If an operation has a result, something is true of it then. -/
def Yields
    (op : Op α)
    (session : Session)
    (post : α → Session → Prop) :
    Prop :=
  op.Ends session fun outcome session' => ∀ value, outcome = .ok value → post value session'

namespace Yields

variable {mid mid' : α → Session → Prop} {post : β → Session → Prop}

/-- There is a result only if the operation before had one. -/
theorem bind
    {next : α → Op β}
    (first : op.Yields session mid)
    (later : ∀ value session', mid value session' → (next value).Yields session' post) :
    (op >>= next).Yields session post := by
  apply Ends.bind first
  · exact fun value session' reached => later value session' (reached value rfl)
  · intro abort session' _ value failed
    cases failed

/-- Two things that are true of a result are true of it together. -/
theorem and
    (first : op.Yields session mid)
    (second : op.Yields session mid') :
    op.Yields session fun value session' => mid value session' ∧ mid' value session' :=
  fun value succeeds => ⟨first value succeeds, second value succeeds⟩

/-- Wrappers are dropped only if there is no result. -/
theorem orDrop
    (yields : op.Yields session mid)
    (wrappers : List Wrapper) :
    (op.orDrop wrappers).Yields session mid := by
  rw [Yields, ends_orDrop]
  apply Ends.mono yields
  intro outcome session' reached
  cases outcome with
  | ok value => exact reached
  | error abort =>
      intro value failed
      cases failed

end Yields

end Custody.Op

namespace Custody.Wrapper

/-- A wrapper of the runtime itself passes; with any other the operation ends. -/
theorem ends_requireOwn
    {wrapper : Wrapper}
    {operation : String}
    {session : Session}
    {post : Except Abort Unit → Session → Prop}
    (own : wrapper.tracker = session.tracker → post (.ok ()) session)
    (foreign :
      wrapper.tracker ≠ session.tracker →
        post (.error (.error (.misuse (.foreignWrapper operation (wrapper.handle session)))))
          session) :
    (wrapper.requireOwn operation).Ends session post := by
  simp only [requireOwn, Op.ends_bind, Op.ends_session, Op.andThen_ok]
  split
  · next same => exact own same
  · next other => exact foreign other

end Custody.Wrapper
