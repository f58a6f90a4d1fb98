import Custody.Proofs.Session.Gathering

/-!
# Capturing always succeeds

Whatever is pending, a type and a value that may have nothing to do with each other,
in an orderly runtime a fetch captures it.  If the type is a class of exceptions the
triple is normalized at once.  If not, the `TypeError` that says so is pending instead;
it is an instance of a class of exceptions, and so the second attempt succeeds.
The bound on the attempts is never met.

From normalizing until the exception is in the hands of the caller nothing happens to
the objects but that drains give references back.
-/

namespace Custody

variable {session session' : Session} {owned credit : Multiset Handle} {triple normal : Triple}

/-! ## Attempts -/

namespace Interpreter

variable {interp interp' : Interpreter} {failures : Nat} {value : Handle}

/--
Attempts at normalizing a triple.  After one that fails, the triple is given back and
the error that was raised is taken in its place.
-/
inductive Attempts : Interpreter → Triple → Nat → Triple → Interpreter → Prop where
  | last {interp interp' : Interpreter} {triple normal : Triple}
      (normalized : interp.normalize triple = (.ok normal, interp')) :
      Attempts interp triple 0 normal interp'
  | again {interp raised between interp' : Interpreter} {triple next normal : Triple}
      {sign : Raised} {failures : Nat}
      (refused : interp.normalize triple = (.error sign, raised))
      (fetched : (raised.releaseTriple triple).fetch = some (next, between))
      (later : Attempts between next failures normal interp') :
      Attempts interp triple (failures + 1) normal interp'

/-- The references to a triple become those to the one that is normalized in the end. -/
theorem Attempts.ledger
    (attempts : interp.Attempts triple failures normal interp')
    (ledger : interp.Ledger False (triple.references + credit)) :
    interp'.Ledger False (normal.references + credit) := by
  induction attempts with
  | last normalized => exact ledger.normalize_of_ok False.elim normalized
  | again refused fetched _ step =>
      exact step (((ledger.normalize_of_error refused).releaseTriple).fetch fetched)

/-- There is only one attempt at a triple that can be normalized. -/
theorem Attempts.eq_of_ok
    {next : Triple}
    {between : Interpreter}
    (attempts : interp.Attempts triple failures normal interp')
    (normalized : interp.normalize triple = (.ok next, between)) :
    normal = next := by
  cases attempts with
  | last normalized' =>
      cases normalized.symm.trans normalized'
      rfl
  | again refused _ _ => cases normalized.symm.trans refused

/--
After at most one failure a triple was normalized, whose value is an instance of its
type, a class of exceptions.
-/
structure Settles
    (interp : Interpreter)
    (triple : Triple)
    (failures : Nat)
    (normal : Triple)
    (value : Handle)
    (interp' : Interpreter) :
    Prop where
  attempts : interp.Attempts triple failures normal interp'
  few : failures ≤ 1
  instantly : failures = 0 ↔ interp.isExceptionClass triple.type = true
  valued : normal.value = some value
  typed : interp'.typeOf value = .ok normal.type
  isClass : interp'.isExceptionClass normal.type = true

/-- A triple whose type is a class of exceptions is normalized at the first attempt. -/
theorem Regular.settles
    (regular : interp.Regular (triple.references + credit))
    (room : interp.heap.HasRoom)
    (isClass : interp.isExceptionClass triple.type = true) :
    ∃ normal value interp', interp.Settles triple 0 normal value interp' := by
  rcases regular.normalizes room isClass with ⟨normal, value, interp', ok, normalizes⟩
  exact ⟨normal, value, interp',
    { attempts := .last ok
      few := Nat.zero_le 1
      instantly := iff_of_true rfl isClass
      valued := normalizes.valued
      typed := normalizes.typed
      isClass := normalizes.isExceptionClass }⟩

/-- The error that refuses a triple is normalized at the next attempt. -/
theorem Settles.again
    {sign : Raised}
    {next : Triple}
    {raised between : Interpreter}
    (settles : between.Settles next 0 normal value interp')
    (misfit : interp.isExceptionClass triple.type = false)
    (refused : interp.normalize triple = (.error sign, raised))
    (fetched : (raised.releaseTriple triple).fetch = some (next, between)) :
    interp.Settles triple 1 normal value interp' where
  attempts := .again refused fetched settles.attempts
  few := le_rfl
  instantly := by simp [misfit]
  valued := settles.valued
  typed := settles.typed
  isClass := settles.isClass

theorem isExceptionClass_typeError :
    initial.isExceptionClass (initial.builtin "TypeError") = true := by
  decide +kernel

/-- Any other triple makes way for an instance of a class of exceptions. -/
theorem Regular.exists_next
    (regular : interp.Regular (triple.references + credit))
    (room : interp.heap.HasRoom)
    (misfit : interp.isExceptionClass triple.type = false) :
    ∃ sign raised next between,
      interp.normalize triple = (.error sign, raised) ∧
        (raised.releaseTriple triple).fetch = some (next, between) ∧
          between.Regular (next.references + credit) ∧
            (between.heap.HasRoom → between.isExceptionClass next.type = true) := by
  have refuses : interp.Refuses triple (interp.normalize triple).2 := regular.refuses room misfit
  have refused : interp.normalize triple = (.error {}, (interp.normalize triple).2) := by
    rw [normalize_of_misfit misfit]
  rcases refuses.raised with ⟨type, value, traceback, found, pending, -⟩
  have fetched := fetch_of_pending
    (((interp.normalize triple).2.pending_releaseTriple triple).trans pending)
  have regular' := regular.retry refused fetched
  refine ⟨_, _, _, _, refused, fetched, regular', fun room' => ?_⟩
  rw [← isExceptionClass_typeError]
  refine regular'.isExceptionClass_builtin room' ?_
  rw [← found, lookup, lookup, regular'.evolves.builtins, regular.evolves.builtins]

end Interpreter

namespace CapturedException

variable {exception : CapturedException}

/-- What is wrapped is what the attempts lead to, as long as they are not too many. -/
theorem ofTriple_of_attempts
    {interp interp' : Interpreter}
    {failures : Nat}
    (attempts : interp.Attempts triple failures normal interp')
    (session : Session)
    (bound : Nat)
    (few : failures < bound) :
    (ofTriple bound triple).on { session with interp } =
      (ofNormalized normal).on { session with interp := interp' } := by
  have same : (ofTriple bound triple).Ends { session with interp } fun outcome session' =>
      (outcome, session') = (ofNormalized normal).on { session with interp := interp' } := by
    induction attempts generalizing bound with
    | last normalized =>
        cases bound with
        | zero => exact absurd few (Nat.not_lt_zero _)
        | succ bound =>
            simp only [ofTriple, Op.ends_bind, Op.ends_withInterp, Op.andThen_ok, normalized]
            rfl
    | again refused fetched _ step =>
        cases bound with
        | zero => exact absurd few (Nat.not_lt_zero _)
        | succ bound =>
            simp only [ofTriple, Op.ends_bind, Op.ends_withInterp, Op.andThen_ok, refused,
              Op.ends_changeInterp, Op.ends_session, Session.updateInterp, fetched]
            exact step bound (Nat.lt_of_succ_lt_succ few)
  exact same

/-- After a failure the error that was raised is wrapped in place of the triple. -/
theorem on_ofTriple_of_error
    {sign : Raised}
    {next : Triple}
    {raised between : Interpreter}
    (refused : session.interp.normalize triple = (.error sign, raised))
    (fetched : (raised.releaseTriple triple).fetch = some (next, between))
    (bound : Nat) :
    (ofTriple (bound + 1) triple).on session =
      (ofTriple bound next).on { session with interp := between } := by
  have same : (ofTriple (bound + 1) triple).Ends session fun outcome session' =>
      (outcome, session') = (ofTriple bound next).on { session with interp := between } := by
    simp only [ofTriple, Op.ends_bind, Op.ends_withInterp, Op.andThen_ok, refused,
      Op.ends_changeInterp, Op.ends_session, Session.updateInterp, fetched]
    rfl
  exact same

/-- As long as there are handles left, to wrap any triple is to wrap one that was normalized. -/
theorem settles_ofTriple
    {bound : Nat}
    (regular : session.interp.Regular (triple.references + credit))
    (enough : 1 < bound)
    (untroubled : ((ofTriple bound triple).on session).2.registry.Untroubled)
    (room : ((ofTriple bound triple).on session).2.interp.heap.HasRoom) :
    ∃ failures normal value interp,
      session.interp.Settles triple failures normal value interp ∧
        (ofTriple bound triple).on session = (ofNormalized normal).on { session with interp } := by
  have started := Session.Strokes.hasRoom (relates_ofTriple bound triple) untroubled room
  cases isClass : session.interp.isExceptionClass triple.type with
  | true =>
      rcases regular.settles started isClass with ⟨normal, value, interp, settles⟩
      exact ⟨0, normal, value, interp, settles,
        ofTriple_of_attempts settles.attempts session bound (Nat.zero_lt_of_lt enough)⟩
  | false =>
      rcases regular.exists_next started isClass with
        ⟨sign, raised, next, between, refused, fetched, regular', nextIsClass⟩
      obtain ⟨bound, rfl⟩ := Nat.exists_eq_add_of_le' enough
      rw [on_ofTriple_of_error refused fetched] at untroubled room
      have between_room : between.heap.HasRoom :=
        Session.Strokes.hasRoom (relates_ofTriple _ next) untroubled room
      rcases regular'.settles between_room (nextIsClass between_room) with
        ⟨normal, value, interp, settles⟩
      have settled := settles.again isClass refused fetched
      exact ⟨1, normal, value, interp, settled,
        ofTriple_of_attempts settled.attempts session _ (by omega)⟩

/-- What is pending is taken, and then wrapped. -/
theorem on_fetch
    {interp : Interpreter}
    (fetched : session.interp.fetch = some (triple, interp)) :
    fetch.on session =
      (some <$> ofTriple normalizationAttempts triple).on { session with interp } := by
  rw [fetch, Op.on_bind]
  simp only [Op.session, Op.of, Op.on, fetched]
  rfl

/--
As long as there are handles left, to capture what is pending is to wrap a triple that
was normalized, whether that succeeds or not.
-/
theorem settles_fetch
    {quiet : Prop}
    (sound : session.Sound quiet False owned)
    (evolves : session.interp.heap.HasRoom → Interpreter.initial.Evolves session.interp)
    (pending : session.interp.pending = some triple)
    (room : (fetch.on session).2.interp.heap.HasRoom) :
    ∃ failures normal value interp,
      ({ session.interp with pending := none } : Interpreter).Settles triple failures normal value
          interp ∧
        fetch.on session = (some <$> ofNormalized normal).on { session with interp } := by
  have fetched := Interpreter.fetch_of_pending pending
  have untroubled := (sound_fetch sound False.elim).untroubled room
  have evolved := (evolves (Session.Strokes.hasRoom relates_fetch untroubled room)).trans (.fetch fetched)
  rcases sound.exists_ledger with ⟨others, ledger, -⟩
  have regular : Interpreter.Regular _ (triple.references + _) := ⟨ledger.fetch fetched, evolved⟩
  have begun := on_fetch fetched
  rw [begun, Op.on_map] at untroubled room
  rcases settles_ofTriple regular (by decide) untroubled room with
    ⟨failures, normal, value, interp, settles, wrapped⟩
  refine ⟨failures, normal, value, interp, settles, begun.trans ?_⟩
  rw [Op.on_map, Op.on_map, wrapped]

/--
In an orderly runtime with handles left whatever is pending is captured, in the words of
the triple that it was normalized to.
-/
theorem gathers_fetch
    (sound : session.Sound True False owned)
    (evolves : session.interp.heap.HasRoom → Interpreter.initial.Evolves session.interp)
    (pending : session.interp.pending = some triple)
    (room : (fetch.on session).2.interp.heap.HasRoom) :
    ∃ exception failures normal value interp,
      ({ session.interp with pending := none } : Interpreter).Settles triple failures normal value
          interp ∧
        fetch.on session = (some <$> ofNormalized normal).on { session with interp } ∧
          (fetch.on session).1 = .ok (some exception) ∧
            exception.Renders
                ⟨normal.type, some value, normal.traceback <|> interp.heap.tracebackOf value⟩
                (interp.heap.className normal.type) (interp.heap.str value)
                (fetch.on session).2 ∧
              Wrapper.Gathers
                (⟨normal.type, some value, normal.traceback <|> interp.heap.tracebackOf value⟩ :
                  Triple).components
                exception.wrappers { session with interp } (fetch.on session).2 owned := by
  rcases settles_fetch sound evolves pending room with
    ⟨failures, normal, value, interp, settles, wrapped⟩
  have untroubled := (sound_fetch sound False.elim).untroubled room
  have complete : (⟨normal.type, some value, normal.traceback⟩ : Triple) = normal := by
    rw [← settles.valued]
  have ready : Session.Sound True False { session with interp }
      ((⟨normal.type, some value, normal.traceback⟩ : Triple).references + owned) := by
    rw [complete]
    refine sound.useInterp fun _ ledger => ?_
    exact (settles.attempts.ledger (ledger.fetch (Interpreter.fetch_of_pending pending))).congr _
      (add_assoc _ _ _)
  have gathered := gathers_ofNormalized ready
  rw [complete, Op.Succeeds, Op.Ends] at gathered
  have ended := congrArg Prod.snd wrapped
  rw [Op.on_map] at ended
  rw [← ended] at gathered
  rcases gathered room untroubled with ⟨exception, succeeds, renders, gathers⟩
  have returned : (fetch.on session).1 = .ok (some exception) := by
    rw [wrapped, Op.on_map, succeeds]
    rfl
  exact ⟨exception, failures, normal, value, interp, settles, wrapped, returned, renders, gathers⟩

/-! ## What was captured -/

/-- The value of an exception is an object of its type, and the texts are those of the two. -/
structure Presents
    (exception : CapturedException)
    (interp : Interpreter)
    (type value : Handle) :
    Prop where
  typed : interp.typeOf value = .ok type
  typeName : exception.typeName = interp.heap.className type
  valueText : exception.valueText = interp.heap.str value

/-- An exception says the same in an interpreter that agrees about its type and its value. -/
theorem Presents.of_agree
    {interp interp' : Interpreter}
    {type value : Handle}
    {among : Handle → Prop}
    (presents : exception.Presents interp type value)
    (agree : Heap.Agree among interp.heap interp'.heap)
    (builtins : interp'.builtins = interp.builtins)
    (typeAmong : among type)
    (valueAmong : among value) :
    exception.Presents interp' type value where
  typed := Interpreter.typeOf_of_agree agree builtins valueAmong presents.typed
  typeName := presents.typeName.trans (agree.className_eq typeAmong).symm
  valueText := presents.valueText.trans (agree.str_eq valueAmong).symm

variable {config : Config} {hasTable : Bool}

end CapturedException

end Custody
