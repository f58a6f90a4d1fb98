import Custody.Finalizer.Drain

/-!
# Wrapping objects

A wrapper takes ownership of one reference.  Making one registers a record,
which may start a drain; if that fails, the reference is not taken.
-/

namespace Custody

namespace Op

variable {α : Type}

/-- Read the session. -/
def session : Op Session :=
  of fun session => (.ok session, session)

/-- Change the session. -/
def change (step : Session → Session) : Op Unit :=
  of fun session => (.ok (), step session)

/-- Change the interpreter. -/
def changeInterp (step : Interpreter → Interpreter) : Op Unit :=
  change fun session => session.updateInterp step

/-- Change the interpreter and keep what the change returns. -/
def withInterp (step : Interpreter → α × Interpreter) : Op α :=
  of fun session =>
    let (value, interp) := step session.interp
    (.ok value, { session with interp })

/-- Change the interpreter, or end with an error of the heap. -/
def tryInterp (step : Interpreter → Except HeapError Interpreter) : Op Unit :=
  of fun session =>
    match step session.interp with
    | .ok interp => (.ok (), { session with interp })
    | .error reason => (.error (.error (.heap reason)), session)

/-- An operation of which only panics escape. -/
def ofPanicking (step : Session → Except Panic α × Session) : Op α :=
  of fun session =>
    match step session with
    | (.ok value, session) => (.ok value, session)
    | (.error panic, session) => (.error (.panic panic), session)

/-- Drop wrappers if an operation does not end with a result. -/
def orDrop (op : Op α) (wrappers : List Wrapper) : Op α :=
  of fun session =>
    match op.on session with
    | (.ok value, session) => (.ok value, session)
    | (.error abort, session) =>
        (.error abort,
          session.updateRegistry fun registry => registry.dropWrappers wrappers)

/-- Change the interpreter if an operation ends with an error; a panic passes by. -/
def onError (op : Op α) (repair : Interpreter → Interpreter) : Op α :=
  of fun session =>
    match op.on session with
    | (.error (.error error), session) =>
        (.error (.error error), session.updateInterp repair)
    | other => other

/-- Release what waits in the pending queue. -/
def collect : Op Nat :=
  of Session.collect

/--
Take ownership of one reference, then drain if enough waits.  If a callback of
the drain panics the record stays registered.
-/
def register (handle : Handle) : Op RecordRef := do
  let session ← session
  match session.register handle with
  | .error error => fail error
  | .ok (record, session) =>
      change fun _ => session
      let _ ← ofPanicking Session.collectThrottled
      return record

end Op

namespace Wrapper

/-- The object of a wrapper. -/
def handle (wrapper : Wrapper) (session : Session) : Handle :=
  (session.record wrapper.record).handle

/-- Refuse a wrapper of another runtime. -/
def requireOwn (wrapper : Wrapper) (operation : String) : Op Unit := do
  let session ← Op.session
  unless wrapper.tracker = session.tracker do
    Op.fail (.misuse (.foreignWrapper operation (wrapper.handle session)))

/-! ## Making wrappers -/

/-- Wrap a new reference. -/
def ofOwned (handle : Handle) : Op Wrapper := do
  let record ← Op.register handle
  let session ← Op.session
  Op.change fun session =>
    session.updateRegistry fun registry => registry.hold session.tracker
  return ⟨session.tracker, record, none⟩

/-- Wrap a borrowed reference, of which the wrapper takes one more. -/
def ofBorrowed (handle : Handle) : Op Wrapper := do
  if handle.isNull then
    Op.fail .nullHandle
  else
    Op.tryInterp fun interp => interp.incref handle
    (ofOwned handle).onError fun interp => interp.release handle

/-- Wrap the `None` object. -/
def ofNone : Op Wrapper := do
  let handle ← Op.withInterp Interpreter.newNone
  ofOwned handle

/-- Wrap a new object. -/
def ofPayload (payload : Payload) : Op Wrapper := do
  let handle ← Op.withInterp fun interp => interp.allocate payload
  ofOwned handle

/-- Take a reference to the object of each wrapper. -/
def retainAll : List Wrapper → Op (List Handle)
  | [] => return []
  | wrapper :: rest => do
      wrapper.requireOwn "list"
      let session ← Op.session
      let handle := wrapper.handle session
      Op.tryInterp fun interp => interp.incref handle
      return handle :: (← retainAll rest)

/-- Wrap a new list that holds references to the objects of other wrappers. -/
def ofList (items : List Wrapper) : Op Wrapper := do
  let handles ← retainAll items
  ofPayload (.list handles)

/-- A second wrapper for the object of a wrapper. -/
def clone (wrapper : Wrapper) : Op Wrapper := do
  wrapper.requireOwn "clone_ref"
  let session ← Op.session
  ofBorrowed (wrapper.handle session)

/-! ## Giving wrappers up -/

/--
Give the reference of a wrapper back now.  Its hook runs first; an error of the
hook is returned afterwards.  A wrapper of another runtime is dropped.
-/
def dispose (wrapper : Wrapper) : Op Unit := do
  (wrapper.requireOwn "dispose").orDrop [wrapper]
  let failure ← Op.of fun session =>
    match wrapper.hook with
    | none => (.ok none, session)
    | some hook =>
        let session := session.enter (.hookRan wrapper.record)
        let (failure, registry) := hook.run wrapper.record session.registry
        (.ok failure, { session with registry })
  Op.of fun session =>
    let (released, session) := session.releaseNow wrapper.record
    (released, session.updateRegistry fun registry => registry.letGo wrapper.tracker)
  match failure with
  | none => return
  | some text => Op.fail (.disposeHook text)

/--
Give a wrapper up without giving its reference back, which the caller owns from
now on.
-/
def intoHandle (wrapper : Wrapper) : Op Handle :=
  Op.of fun session =>
    let (result, registry) := session.registry.giveUp wrapper
    (result.mapError Abort.error, { session with registry })

end Wrapper

end Custody
