import Custody.Proofs.Interpreter.Lineage
import Custody.Proofs.Interpreter.Linking
import Custody.Proofs.Session.Failing
import Custody.Proofs.Session.Provenance

/-!
# Chaining a captured exception to the pending error

If the type of the pending error is a class of exceptions, the error is normalized, its
value gets the captured one for its cause, and it is pending again.  Capturing it and then
its cause gives the first exception back, in the same words.  If the type is no such class
the error makes way for the `TypeError` that says so, and is given back.

Callbacks may panic while something is captured; then nothing else is promised.
-/

namespace Custody

variable {session session' : Session} {owned : Multiset Handle} {triple normal : Triple}

/-! ## Accounts -/

/-- Where nothing is lost the count of an object is the number of references to it. -/
theorem Session.Sound.counted
    {handle : Handle}
    {entry : Entry}
    (sound : session.Sound True False owned)
    (room : session.interp.heap.HasRoom)
    (found : session.interp.heap.find? handle = some entry) :
    entry.refcount =
      (owned.count handle + session.reserve.count handle + session.interp.held.count handle +
        session.interp.heap.links.count handle : Nat) := by
  rcases sound.accounts with ⟨lost, nothing, ledger⟩
  rw [nothing trivial, add_zero] at ledger
  rw [(ledger.heap room).1.counted found]
  simp only [Multiset.count_add]

/-! ## Results -/

namespace Op

variable {α β : Type} {op : Op α} {post post' : α → Session → Prop}

/--
The operation has a result, of which something is true, unless a handler panics or it
ends where the handles are used up.
-/
def Attains (op : Op α) (session : Session) (post : α → Session → Prop) : Prop :=
  op.Ends session fun outcome session' =>
    session'.interp.heap.HasRoom →
      (∃ value, outcome = .ok value ∧ post value session') ∨
        ¬ session.finalizer.Calm True ∧ ∃ panic, outcome = .error (.panic panic)

namespace Attains

theorem mono
    (attains : op.Attains session post)
    (weaker :
      ∀ value session',
        session'.interp.heap.HasRoom → post value session' → post' value session') :
    op.Attains session post' := by
  apply Ends.mono attains
  intro outcome session' reached room
  rcases reached room with ⟨value, rfl, holds⟩ | panics
  · exact .inl ⟨value, rfl, weaker value session' room holds⟩
  · exact .inr panics

/-- What is true of any result is true of this one. -/
theorem yields
    (attains : op.Attains session post)
    (yields : op.Yields session post') :
    op.Attains session fun value session' => post value session' ∧ post' value session' := by
  apply Ends.mono (Ends.and attains yields)
  rintro outcome session' ⟨reached, always⟩ room
  rcases reached room with ⟨value, rfl, holds⟩ | panics
  · exact .inl ⟨value, rfl, holds, always value rfl⟩
  · exact .inr panics

/-- An operation has what another has that it comes to, with the same handlers. -/
theorem of_on_eq
    {op' : Op α}
    (same : op.on session = op'.on session')
    (finalizer : session'.finalizer = session.finalizer)
    (attains : op'.Attains session' post) :
    op.Attains session post := by
  rw [Attains, Ends, ← same, finalizer] at attains
  exact attains

theorem map
    {change : α → β}
    {post : β → Session → Prop}
    (attains : op.Attains session fun value session' => post (change value) session') :
    (change <$> op).Attains session post := by
  rw [Attains, Ends, on_map]
  intro room
  rcases attains room with ⟨value, same, holds⟩ | ⟨troubled, panic, same⟩
  · exact .inl ⟨change value, by rw [same]; rfl, holds⟩
  · exact .inr ⟨troubled, panic, by rw [same]; rfl⟩

end Attains

end Op

/-! ## Capturing -/

namespace Wrapper

variable {wrapper other : Wrapper}

/-- A wrapper was made that belongs to the runtime, the tracker of which is as open as it was. -/
structure Joins (wrapper : Wrapper) (session session' : Session) : Prop where
  tracker : session'.tracker = session.tracker
  own : wrapper.tracker = session.tracker
  isOpen : session'.ownTracker.isOpen = session.ownTracker.isOpen

theorem Joins.before
    {session'' : Session}
    (first : wrapper.Joins session session')
    (later : other.Joins session' session'') :
    wrapper.Joins session session'' :=
  ⟨later.tracker.trans first.tracker, first.own, later.isOpen.trans first.isOpen⟩

theorem Joins.after
    {session'' : Session}
    (later : wrapper.Joins session' session'')
    (first : other.Joins session session') :
    wrapper.Joins session session'' :=
  ⟨later.tracker.trans first.tracker, later.own.trans first.tracker,
    later.isOpen.trans first.isOpen⟩

theorem joins_ofOwned (handle : Handle) :
    (ofOwned handle).Yields session fun wrapper session' => wrapper.Joins session session' := by
  have own : (ofOwned handle).Yields session fun wrapper session' =>
      wrapper.tracker = session'.tracker := by
    have registers : (Op.register handle).Yields session fun _ _ => True := fun _ _ => trivial
    refine registers.bind fun record entered _ => ?_
    simp only [Op.Yields, Op.ends_bind, Op.ends_session, Op.ends_change, Op.andThen_ok]
    intro wrapper made
    cases made
    rfl
  apply (((leads_ofOwned handle 0).and (isOpen_ofOwned handle)).and own).mono
  rintro outcome session' ⟨⟨leads, isOpen⟩, own⟩ wrapper made
  exact ⟨leads.tracker, (own wrapper made).trans leads.tracker, isOpen⟩

end Wrapper

namespace CapturedException

variable {value : Handle}

/-- What is wrapped along with the value of a triple does not give it up. -/
theorem joins_ofNormalized (triple : Triple) :
    (ofNormalized triple).Yields session fun exception session' =>
      exception.value.Joins session session' ∧ exception.value.Lasts session session' := by
  have wrapped (handle : Handle) {session : Session} :
      (Wrapper.ofOwned handle).Yields session fun wrapper session' =>
        wrapper.Joins session session' ∧ wrapper.Lasts session session' :=
    (Wrapper.joins_ofOwned handle).and (Wrapper.lasts_ofOwned handle)
  cases isValue : triple.value with
  | none =>
      rw [ofNormalized, isValue]
      intro exception made
      cases made
  | some value =>
      simp only [ofNormalized, isValue, Op.Yields, Op.ends_bind, Op.ends_withInterp,
        Op.ends_session, Op.andThen_ok]
      generalize completeTraceback session.interp value triple.traceback = result
      rcases result with ⟨traceback, interp⟩
      rw [← Op.ends_bind, ← Op.Yields]
      refine .bind (wrapped triple.type) fun typeWrapper session₁ typed => ?_
      refine .bind ((wrapped value).orDrop _) fun wrapper session₂ valued => ?_
      have joins : wrapper.Joins session session₂ :=
        valued.1.after ⟨typed.1.tracker, typed.1.own, typed.1.isOpen⟩
      have lasts : wrapper.Lasts session session₂ :=
        valued.2.after ⟨typed.2.grows, typed.2.new, typed.2.overlooks, typed.2.live⟩
      cases traceback with
      | none =>
          intro exception made
          cases made
          exact ⟨joins, lasts⟩
      | some entry =>
          refine .bind ((wrapped entry).orDrop _) fun _ session₃ traced => ?_
          intro exception made
          cases made
          exact ⟨joins.before traced.1, lasts.before traced.2⟩

/-- An open tracker takes a triple that was normalized, and the exception reads what it is. -/
theorem attains_ofNormalized
    (isValue : normal.value = some value)
    (sound : session.Sound False False (normal.references + owned))
    (isOpen : session.ownTracker.isOpen = true) :
    (ofNormalized normal).Attains session fun exception session' =>
      exception.value.Joins session session' ∧
        exception.value.Lasts session session' ∧
          exception.Reads
            { session with
              interp := (completeTraceback session.interp value normal.traceback).2 }
            normal.type value (completeTraceback session.interp value normal.traceback).1
            session' := by
  have reached : (ofNormalized normal).Attains session fun _ _ => True := by
    intro room
    cases ended : ((ofNormalized normal).on session).1 with
    | ok exception => exact .inl ⟨exception, rfl, trivial⟩
    | error abort =>
        cases abort with
        | error error =>
            have refused := refused_ofNormalized isValue sound error ended room
            exact Bool.noConfusion (isOpen.symm.trans refused.1)
        | panic panic =>
            refine .inr ⟨fun calm => ?_, panic, rfl⟩
            have untroubled := (sound_ofNormalized isValue sound).untroubled room
            have complete : (⟨normal.type, some value, normal.traceback⟩ : Triple) = normal := by
              rw [← isValue]
            rcases sound.hush calm isOpen with ⟨lost, sound'⟩
            have gathered := gathers_ofNormalized (complete.symm ▸
              sound'.congr (normal.references + (owned + lost)) (add_assoc _ _ _).symm)
            rw [complete] at gathered
            rcases gathered room untroubled with ⟨exception, succeeds, -⟩
            cases ended.symm.trans succeeds
  exact ((reached.yields (joins_ofNormalized normal)).yields (reads_ofNormalized isValue)).mono
    fun _ _ _ holds => ⟨holds.1.2.1, holds.1.2.2, holds.2⟩

/-- To capture what is normalized at once is to wrap what it is then. -/
theorem on_fetch_of_ok
    {interp : Interpreter}
    (pending : session.interp.pending = some triple)
    (normalized :
      ({ session.interp with pending := none } : Interpreter).normalize triple =
        (.ok normal, interp)) :
    fetch.on session = (some <$> ofNormalized normal).on { session with interp } := by
  rw [on_fetch (Interpreter.fetch_of_pending pending), Op.on_map, Op.on_map]
  have wrapped := ofTriple_of_attempts (.last normalized) session normalizationAttempts (by decide)
  rw [wrapped]

/-- The references to what is pending become those to what it is normalized to. -/
theorem sound_of_ok
    {interp : Interpreter}
    (sound : session.Sound False False owned)
    (pending : session.interp.pending = some triple)
    (normalized :
      ({ session.interp with pending := none } : Interpreter).normalize triple =
        (.ok normal, interp)) :
    Session.Sound False False { session with interp } (normal.references + owned) :=
  sound.useInterp fun _ ledger =>
    ((ledger.fetch (Interpreter.fetch_of_pending pending)).normalize_of_ok False.elim
      normalized).congr _ (add_assoc _ _ _)

/-- What is pending and normalized at once is captured while the tracker is open. -/
theorem attains_fetch
    {interp : Interpreter}
    (sound : session.Sound False False owned)
    (isOpen : session.ownTracker.isOpen = true)
    (pending : session.interp.pending = some triple)
    (normalized :
      ({ session.interp with pending := none } : Interpreter).normalize triple =
        (.ok normal, interp))
    (isValue : normal.value = some value) :
    fetch.Attains session fun captured session' =>
      ∃ exception,
        captured = some exception ∧
          exception.value.Joins session session' ∧
            exception.value.Lasts session session' ∧
              exception.Reads
                { session with interp := (completeTraceback interp value normal.traceback).2 }
                normal.type value (completeTraceback interp value normal.traceback).1
                session' := by
  have ready := sound_of_ok sound pending normalized
  refine .of_on_eq (on_fetch_of_ok pending normalized) rfl (Op.Attains.map ?_)
  refine (attains_ofNormalized isValue ready isOpen).mono ?_
  rintro exception session' - ⟨joins, lasts, reads⟩
  exact ⟨exception, rfl, ⟨joins.tracker, joins.own, joins.isOpen⟩,
    ⟨lasts.grows, lasts.new, lasts.overlooks, lasts.live⟩, reads⟩

/-- An instance of a built-in class is captured as it is. -/
theorem attains_fetch_instance
    {name : String}
    (sound : session.Sound False False owned)
    (evolves : session.interp.heap.HasRoom → Interpreter.initial.Evolves session.interp)
    (isOpen : session.ownTracker.isOpen = true)
    (isClass :
      Interpreter.initial.isExceptionClass (Interpreter.initial.builtin name) = true)
    (isInstance : session.interp.PendingInstance name)
    (room : (fetch.on session).2.interp.heap.HasRoom) :
    (fetch.Attains session fun captured _ =>
      ∃ exception,
        captured = some exception ∧
          exception.typeName =
            Interpreter.initial.heap.className (Interpreter.initial.builtin name)) ∧
      ({ session.interp with pending := none } : Interpreter).OnHeap
        (fetch.on session).2.interp := by
  have untroubled := (sound_fetch sound False.elim).untroubled room
  have started := Session.Strokes.hasRoom relates_fetch untroubled room
  rcases sound.exists_ledger with ⟨rest, ledger, -⟩
  have regular : session.interp.Regular (owned + rest) := ⟨ledger, evolves started⟩
  rcases isInstance.normalize regular started isClass with
    ⟨type, value, traceback, interp, found, pending, normalized⟩
  have kept := Interpreter.OnHeap.normalize normalized
  constructor
  · intro _
    rcases attains_fetch sound isOpen pending normalized rfl room with
      ⟨_, returned, exception, rfl, -, -, reads⟩ | panics
    · refine .inl ⟨some exception, returned, exception, rfl, reads.typeName.trans ?_⟩
      have ready := sound_completeTraceback rfl (sound_of_ok sound pending normalized)
      rcases ready.exists_ledger with ⟨_, ledger', -⟩
      have evolved := ((regular.fetch pending).normalize_of_ok normalized).evolves
      have regular' : (completeTraceback interp value traceback).2.Regular _ :=
        ⟨ledger', evolved.trans (evolves_completeTraceback _ _ _)⟩
      refine regular'.className_builtin ((reads.passes.heap untroubled).hasRoom_iff.mp room) ?_
      rw [Interpreter.lookup, (onHeap_completeTraceback interp value traceback).builtins,
        kept.builtins]
      exact found
    · exact .inr panics
  · rw [on_fetch_of_ok pending normalized, Op.on_map] at untroubled ⊢
    exact kept.trans ((usesHeap_ofNormalized ⟨type, some value, traceback⟩).2 untroubled)

/-- Of what is raised, the error that ends the operation is what is captured. -/
theorem on_raised :
    (raised : Op Unit).on session =
      (match (fetch.on session).1 with
        | .ok (some exception) => .error (.error (.foreign exception))
        | .ok none => .error (.error (.misuse .raisedNothing))
        | .error abort => .error abort,
        (fetch.on session).2) := by
  rw [raised, Op.on_bind]
  rcases fetch.on session with ⟨abort | (_ | exception), session'⟩
  · rfl
  · rfl
  · rfl

/-- To capture a cause is to take references to its components and to wrap them. -/
theorem on_cause
    {exception : CapturedException}
    {type cause : Handle}
    (own : exception.value.tracker = session.tracker)
    (linked : session.interp.heap.causeOf (exception.value.handle session) = some cause)
    (typed : session.interp.typeOf cause = .ok type)
    (live :
      ∀ handle ∈
        (⟨type, some cause, session.interp.heap.tracebackOf cause⟩ : Triple).components,
        session.interp.heap.isLive handle = true) :
    exception.cause.on session =
      (some <$> ofNormalized ⟨type, some cause, session.interp.heap.tracebackOf cause⟩).on
        { session with
          interp :=
            (⟨type, some cause, session.interp.heap.tracebackOf cause⟩ : Triple).components.foldl
              Interpreter.retain session.interp } := by
  have same : exception.cause.Ends session fun outcome session' =>
      (outcome, session') =
        (some <$> ofNormalized ⟨type, some cause, session.interp.heap.tracebackOf cause⟩).on
          { session with
            interp :=
              (⟨type, some cause, session.interp.heap.tracebackOf cause⟩ : Triple).components.foldl
                Interpreter.retain session.interp } := by
    rw [CapturedException.cause, Op.ends_bind]
    apply Wrapper.ends_requireOwn
    · intro _
      simp only [Op.andThen_ok, Op.ends_bind, Op.ends_session, linked]
      apply Op.ends_ofHeap
      · intro type' typed'
        cases typed.symm.trans typed'
        rw [Op.andThen_ok]
        apply Op.ends_retaining
        · exact fun _ => rfl
        · intro before handle after reason split _ gone
          have there := live handle (by rw [split]; simp)
          exact Bool.noConfusion (gone.symm.trans there)
      · intro reason failed
        cases typed.symm.trans failed
    · exact fun foreign => absurd own foreign
  exact same

/-- While the tracker is open a cause is captured, in its own words. -/
theorem attains_cause
    {exception : CapturedException}
    {type cause : Handle}
    (own : exception.value.tracker = session.tracker)
    (isOpen : session.ownTracker.isOpen = true)
    (linked : session.interp.heap.causeOf (exception.value.handle session) = some cause)
    (typed : session.interp.typeOf cause = .ok type)
    (sound : session.Sound False False owned) :
    exception.cause.Attains session fun captured session' =>
      ∃ exception : CapturedException,
        captured = some exception ∧
          exception.value.handle session' = cause ∧
            exception.typeName = session.interp.heap.className type ∧
              exception.valueText = session.interp.heap.str cause := by
  intro room
  have untroubled := (sound_cause exception sound).untroubled room
  have started := Session.Strokes.hasRoom (relates_cause exception) untroubled room
  rcases sound.exists_ledger with ⟨_, ledger, -⟩
  have live := isLive_of_causeOf ledger started linked typed
  have ready := sound.useInterp fun rest ledger =>
    (ledger.retainAll fun _ => live).congr
      ((⟨type, some cause, session.interp.heap.tracebackOf cause⟩ : Triple).references +
        owned + rest)
      (by rw [Triple.coe_components, add_assoc])
  have shrinks := Interpreter.shrinks_retainAll
    (⟨type, some cause, session.interp.heap.tracebackOf cause⟩ : Triple).components session.interp
  have room' := shrinks.hasRoom_iff.mpr started
  rcases ready.exists_ledger with ⟨_, ledger', -⟩
  have agree := Heap.Agree.of_shrinks shrinks (ledger'.whole room')
  have typeLive := ready.isLive_of_mem room' (show type ∈ _ by simp [Triple.references])
  have causeLive := ready.isLive_of_mem room' (show cause ∈ _ by simp [Triple.references])
  have attached := session.interp.tracebackOf_retainAll
    (⟨type, some cause, session.interp.heap.tracebackOf cause⟩ : Triple).components cause
  have wraps := attains_ofNormalized rfl ready isOpen
  rw [completeTraceback_of_attached attached] at wraps
  rw [on_cause own linked typed live, Op.on_map] at room
  rw [on_cause own linked typed live, Op.on_map]
  rcases wraps room with ⟨captured, returned, -, -, reads⟩ | ⟨troubled, panic, failed⟩
  · exact .inl ⟨some captured, by rw [returned]; rfl, captured, rfl, reads.valued.handle,
      reads.typeName.trans (agree.className_eq typeLive),
      reads.valueText.trans (agree.str_eq causeLive)⟩
  · exact .inr ⟨troubled, panic, by rw [failed]; rfl⟩

end CapturedException

namespace Indicator

variable {cause : CapturedException}

/-! ## What the operation comes to -/

/-- Where the pending error is normalized, when it was taken and the reference to the cause too. -/
def causing (cause : CapturedException) (session : Session) : Interpreter :=
  { session.interp.retain (cause.value.handle session) with pending := none }

theorem fetch_retain
    (pending : session.interp.pending = some triple) :
    (session.interp.retain (cause.value.handle session)).fetch =
      some (triple, causing cause session) :=
  Interpreter.fetch_of_pending ((Interpreter.OnHeap.retain _ _).pending.trans pending)

/-- An error that cannot be normalized is given back with the reference that was taken. -/
theorem on_setCause_of_error
    {sign : Raised}
    {raised : Interpreter}
    (own : cause.value.tracker = session.tracker)
    (pending : session.interp.pending = some triple)
    (live : session.interp.heap.isLive (cause.value.handle session) = true)
    (refused : (causing cause session).normalize triple = (.error sign, raised)) :
    (setCause cause).on session =
      (CapturedException.raised : Op Unit).on
        { session with
          interp := (raised.release (cause.value.handle session)).releaseTriple triple } := by
  have same : (setCause cause).Ends session fun outcome session' =>
      (outcome, session') = (CapturedException.raised : Op Unit).on
        { session with
          interp := (raised.release (cause.value.handle session)).releaseTriple triple } := by
    rw [setCause, Op.ends_bind]
    apply Wrapper.ends_requireOwn
    · intro _
      simp only [Op.andThen_ok, Op.ends_bind, Op.ends_session, pending, Option.isNone_some,
        Bool.false_eq_true, if_false]
      apply Op.ends_retain live
      simp only [Op.andThen_ok, Op.ends_bind, Op.ends_session, Session.updateInterp,
        fetch_retain pending, Op.ends_changeInterp, Op.ends_withInterp, refused]
      rfl
    · exact fun foreign => absurd own foreign
  exact same

/-- An error that is normalized is given the cause and is pending again. -/
theorem on_setCause_of_ok
    {value : Handle}
    {interp interp' : Interpreter}
    (own : cause.value.tracker = session.tracker)
    (pending : session.interp.pending = some triple)
    (live : session.interp.heap.isLive (cause.value.handle session) = true)
    (normalized : (causing cause session).normalize triple = (.ok normal, interp))
    (isValue : normal.value = some value)
    (set : interp.setCause value (some (cause.value.handle session)) = .ok interp') :
    (setCause cause).on session =
      (.ok (), { session with interp := interp'.restore normal }) := by
  have same : (setCause cause).Ends session fun outcome session' =>
      (outcome, session') = (.ok (), { session with interp := interp'.restore normal }) := by
    rw [setCause, Op.ends_bind]
    apply Wrapper.ends_requireOwn
    · intro _
      simp only [Op.andThen_ok, Op.ends_bind, Op.ends_session, pending, Option.isNone_some,
        Bool.false_eq_true, if_false]
      apply Op.ends_retain live
      simp only [Op.andThen_ok, Op.ends_bind, Op.ends_session, Session.updateInterp,
        fetch_retain pending, Op.ends_changeInterp, Op.ends_withInterp, normalized, isValue]
      apply Op.ends_tryInterp
      · intro linked set'
        cases set.symm.trans set'
        rfl
      · intro reason failed
        cases set.symm.trans failed
    · exact fun foreign => absurd own foreign
  exact same

/-- Without a pending error, or for an exception of another runtime, nothing is done. -/
theorem on_setCause_of_none
    (own : cause.value.tracker = session.tracker)
    (nothing : session.interp.pending = none) :
    (setCause cause).on session =
      (.error (.error (.misuse .nothingPending)), session) := by
  have same : (setCause cause).Ends session fun outcome session' =>
      (outcome, session') = (.error (.error (.misuse .nothingPending)), session) := by
    rw [setCause, Op.ends_bind]
    apply Wrapper.ends_requireOwn
    · intro _
      simp only [Op.andThen_ok, Op.ends_bind, Op.ends_session, nothing, Option.isNone_none, if_true]
      rfl
    · exact fun foreign => absurd own foreign
  exact same

theorem on_setCause_of_foreign
    (foreign : cause.value.tracker ≠ session.tracker) :
    (setCause cause).on session =
      (.error (.error (.misuse (.foreignWrapper "set_cause" (cause.value.handle session)))),
        session) := by
  have same : (setCause cause).Ends session fun outcome session' =>
      (outcome, session') =
        (.error (.error (.misuse (.foreignWrapper "set_cause" (cause.value.handle session)))),
          session) := by
    rw [setCause, Op.ends_bind]
    apply Wrapper.ends_requireOwn
    · exact fun own => absurd own foreign
    · exact fun _ => rfl
  exact same

/-! ## Errors that are normalized -/

/--
What was pending was normalized and is pending again, so that normalizing it once more
changes nothing.  Its instance has the value of a captured exception for its cause, and
the cause that it had before was given back.
-/
structure Chains
    (cause : CapturedException)
    (triple normal : Triple)
    (value : Handle)
    (session session' : Session) :
    Prop where
  normalizes :
    ∃ interp interp',
      (causing cause session).Normalizes triple normal value interp ∧
        interp.Recauses value (cause.value.handle session) interp' ∧
          session' = { session with interp := { interp' with pending := some normal } }
  settled : session'.interp.Settled normal value
  linked : session'.interp.heap.causeOf value = some (cause.value.handle session)

theorem Chains.pending
    {value : Handle}
    (chains : Chains cause triple normal value session session') :
    session'.interp.pending = some normal := by
  rcases chains.normalizes with ⟨interp, interp', -, -, rfl⟩
  rfl

theorem Chains.handle
    {value : Handle}
    (chains : Chains cause triple normal value session session') :
    cause.value.handle session' = cause.value.handle session := by
  rcases chains.normalizes with ⟨interp, interp', -, -, rfl⟩
  rfl

variable {config : Config} {hasTable : Bool}

/-- Where the pending error is normalized everything is as it was before. -/
theorem regular_causing
    {credit : Multiset Handle}
    (regular : session.interp.Regular credit)
    (room : session.interp.heap.HasRoom)
    (pending : session.interp.pending = some triple)
    (live : session.interp.heap.isLive (cause.value.handle session) = true) :
    (causing cause session).Regular
        (triple.references + cause.value.handle session ::ₘ credit) ∧
      (causing cause session).heap.HasRoom ∧
        (causing cause session).isExceptionClass triple.type =
          session.interp.isExceptionClass triple.type := by
  have shrinks := session.interp.shrinks_retain (cause.value.handle session)
  have room' : (causing cause session).heap.HasRoom := shrinks.hasRoom_iff.mpr room
  have regular' : (causing cause session).Regular _ :=
    ⟨(regular.ledger.retain fun _ => live).fetch (fetch_retain pending),
      (regular.evolves.trans (.retain _ _)).trans (.fetch (fetch_retain pending))⟩
  have typeLive := regular'.ledger.isLive_of_mem room'
    (show triple.type ∈ _ by simp [Triple.references])
  have agree := Heap.Agree.of_shrinks shrinks (regular'.ledger.whole room')
  exact ⟨regular', room', Interpreter.isExceptionClass_eq agree
    (Interpreter.OnHeap.retain session.interp _).builtins typeLive⟩

/-- A pending error whose type is a class of exceptions is chained. -/
theorem chains_setCause
    (employed : session.Employed config hasTable owned)
    (own : cause.value.tracker = session.tracker)
    (live : session.interp.heap.isLive (cause.value.handle session) = true)
    (pending : session.interp.pending = some triple)
    (isClass : session.interp.isExceptionClass triple.type = true)
    (room : ((setCause cause).on session).2.interp.heap.HasRoom) :
    ∃ normal value,
      (setCause cause).Ends session fun outcome session' =>
        outcome = .ok () ∧ Chains cause triple normal value session session' := by
  have untroubled := (sound_setCause cause employed.sound False.elim).untroubled room
  have started := Session.Strokes.hasRoom (relates_setCause cause) untroubled room
  rcases employed.sound.exists_ledger with ⟨_, ledger, -⟩
  rcases regular_causing ⟨ledger, employed.evolves started⟩ started pending live with
    ⟨regular, before, same⟩
  rcases regular.normalizes before (same.trans isClass) with
    ⟨normal, value, interp, normalized, normalizes⟩
  rcases Interpreter.exists_replaceLink (some (cause.value.handle session))
    (fun info => (info.cause, { info with cause := some (cause.value.handle session) }))
    (Interpreter.isLive_of_typeOf normalizes.typed) with ⟨interp', set⟩
  have ended := on_setCause_of_ok own pending live normalized normalizes.valued set
  -- There is still room at the end, and so there was in between.
  rw [ended] at room
  have after : interp'.heap.HasRoom :=
    (Interpreter.Evolves.restore interp' normal).heap.hasRoom room
  have between := (Interpreter.Evolves.setCause set).heap.hasRoom after
  have evolved := Interpreter.Evolves.normalize (causing cause session) triple
  rw [normalized] at evolved
  have regular' : interp.Regular _ :=
    ⟨(regular.ledger.normalize_of_ok False.elim normalized).congr
        (cause.value.handle session ::ₘ (normal.references + _)) (Multiset.add_cons _ _ _).symm,
      regular.evolves.trans evolved⟩
  rcases regular'.exception_of_typeOf between normalizes.isExceptionClass normalizes.typed with
    ⟨info, holds, -⟩
  have recauses := Interpreter.Recauses.of_setCause holds set
  rcases normalizes.recauses regular' recauses after with ⟨settled, linked⟩
  have typeLive := (recauses.ledger regular'.ledger).isLive_of_mem after
    (show normal.type ∈ _ by simp [Triple.references])
  have bare : interp'.pending = none := recauses.pending.trans normalizes.pending
  have restored : interp'.restore normal = { interp' with pending := some normal } := by
    rw [Interpreter.restore_eq (Heap.isNull_of_isLive typeLive), Interpreter.clear,
      Interpreter.replacePending, bare]
  rw [restored] at ended
  refine ⟨normal, value, ?_⟩
  rw [Op.Ends, ended]
  exact ⟨rfl, ⟨interp, interp', normalizes, recauses, rfl⟩,
    ⟨settled.valued, settled.isException, settled.fits, settled.live⟩, linked⟩

/--
What is pending is captured unless a handler panics, and then the cause of its value is
captured in the words of another exception.  That the value is still there is certain if
no hook gives up what is captured.
-/
def GivesBack
    (cause : CapturedException)
    (value handle : Handle)
    (session : Session) :
    Prop :=
  CapturedException.fetch.Attains session fun captured fetched =>
    ∃ exception : CapturedException,
      captured = some exception ∧
        exception.value.handle fetched = value ∧
          (session.finalizer.Calm True →
            session.registry.MentionsBelow session.registry.records.size →
              fetched.interp.heap.isLive value = true) ∧
            (fetched.interp.heap.isLive value = true →
              exception.cause.Attains fetched fun captured' session' =>
                ∃ again : CapturedException,
                  captured' = some again ∧
                    again.value.handle session' = handle ∧
                      again.typeName = cause.typeName ∧ again.valueText = cause.valueText)

/-- An exception that was chained to the pending error comes back with it. -/
theorem Chains.givesBack
    {start : Session}
    {request : Session.Request}
    {value : Handle}
    (chains : Chains cause triple normal value session session')
    (brought : (request.answer start).exception? = some cause)
    (onward : Session.Onward config hasTable (request.perform start).2 session' owned)
    (isOpen : session'.ownTracker.isOpen = true) :
    GivesBack cause value (cause.value.handle session') session' := by
  intro room
  have sound := onward.employed.sound
  have settled := chains.settled.normalize_eq none
  have untroubled := (CapturedException.sound_fetch sound False.elim).untroubled room
  rcases CapturedException.attains_fetch sound isOpen chains.pending settled chains.settled.valued
    room with ⟨_, returned, exception, rfl, joins, -, reads⟩ | panics
  · refine .inl ⟨some exception, returned, exception, rfl, reads.valued.handle, ?_, fun live => ?_⟩
    · intro calm below
      rcases sound.hush calm isOpen with ⟨lost, sound'⟩
      rcases CapturedException.gathers_fetch sound' onward.employed.evolves chains.pending room with
        ⟨_, _, _, value', _, settles, -, -, -, gathers⟩
      obtain rfl := settles.attempts.eq_of_ok settled
      obtain rfl : value' = value :=
        Option.some.inj (settles.valued.symm.trans chains.settled.valued)
      exact gathers.isLive room below value' (by simp [Triple.components])
    · have later := onward.follow .fetch rfl rfl trivial
      have same : cause.value.handle (CapturedException.fetch.on session').2 =
          cause.value.handle session' :=
        (CapturedException.handle_onward brought later cause.value
          (by simp [CapturedException.wrappers])).trans
          (CapturedException.handle_onward brought onward cause.value
            (by simp [CapturedException.wrappers])).symm
      have shrinks := (CapturedException.shrinks_completeTraceback
        { session'.interp with pending := none } value normal.traceback).trans
          (reads.passes.heap untroubled)
      have linked : (CapturedException.fetch.on session').2.interp.heap.causeOf value =
          some (cause.value.handle (CapturedException.fetch.on session').2) := by
        rw [Heap.causeOf, shrinks.payload?_eq live, same, chains.handle]
        exact chains.linked
      have causeLive := later.employed.whole room (Heap.points_of_causeOf linked)
      have presents := CapturedException.presents_onward brought later room causeLive
      refine (CapturedException.attains_cause (joins.own.trans joins.tracker.symm)
        (joins.isOpen.trans isOpen) (reads.valued.handle.symm ▸ linked) presents.typed
          later.employed.sound).mono ?_
      rintro _ session'' - ⟨again, rfl, valued, typeName, valueText⟩
      exact ⟨again, rfl, valued.trans same, typeName.trans presents.typeName.symm,
        valueText.trans presents.valueText.symm⟩
  · exact .inr panics

/-! ## Errors that cannot be normalized -/

/--
What was pending was refused and given back.  Nothing is pending, and the error that
refused it was captured, unless a handler panicked while it was.  Every object has gained
and lost as many references as the owners that are left have to it.
-/
structure Declines
    (triple : Triple)
    (outcome : Except Abort Unit)
    (session session' : Session) :
    Prop where
  refusal :
    (∃ exception,
      outcome = .error (.error (.foreign exception)) ∧ exception.typeName = "TypeError") ∨
      ¬ session.finalizer.Calm True ∧ ∃ panic, outcome = .error (.panic panic)
  onHeap : ({ session.interp with pending := none } : Interpreter).OnHeap session'.interp
  counts :
    session.finalizer.Calm True →
      ∀ handle entry entry',
        session.interp.heap.find? handle = some entry →
          session'.interp.heap.find? handle = some entry' →
            entry'.refcount +
                (triple.references.count handle + session.interp.heap.links.count handle +
                  session.reserve.count handle : Nat) =
              entry.refcount +
                (session'.interp.heap.links.count handle + session'.reserve.count handle : Nat)

/-- A pending error whose type is no class of exceptions makes way for the one that says so. -/
theorem declines_setCause
    (employed : session.Employed config hasTable owned)
    (isOpen : session.ownTracker.isOpen = true)
    (own : cause.value.tracker = session.tracker)
    (live : session.interp.heap.isLive (cause.value.handle session) = true)
    (pending : session.interp.pending = some triple)
    (misfit : session.interp.isExceptionClass triple.type = false)
    (room : ((setCause cause).on session).2.interp.heap.HasRoom) :
    (setCause cause).Ends session fun outcome session' =>
      Declines triple outcome session session' := by
  have untroubled := (sound_setCause cause employed.sound False.elim).untroubled room
  have started := Session.Strokes.hasRoom (relates_setCause cause) untroubled room
  have evolved := employed.evolves started
  rcases employed.sound.exists_ledger with ⟨_, ledger, -⟩
  rcases regular_causing ⟨ledger, evolved⟩ started pending live with ⟨regular, before, same⟩
  rcases regular.refuses_cause before (same.trans misfit) rfl with
    ⟨raised, refused, regular', onHeap, isInstance⟩
  have ended := on_setCause_of_error own pending live refused
  have ready : Session.Sound False False
      { session with
        interp := (raised.release (cause.value.handle session)).releaseTriple triple } owned :=
    employed.sound.useInterp fun _ ledger => by
      have taken := (ledger.retain fun _ => live).fetch (fetch_retain pending)
      have given := (taken.normalize_of_error refused).congr
        (cause.value.handle session ::ₘ (triple.references + _)) (Multiset.add_cons _ _ _).symm
      exact given.release.releaseTriple
  have typeName : Interpreter.initial.heap.className (Interpreter.initial.builtin "TypeError") =
      "TypeError" := by decide +kernel
  have raises := ended.trans CapturedException.on_raised
  have room' := room
  rw [raises] at room'
  rcases CapturedException.attains_fetch_instance ready (fun _ => regular'.evolves) isOpen
    Interpreter.isExceptionClass_typeError isInstance room' with ⟨attains, onHeap'⟩
  have refusal :
      (∃ exception,
        ((setCause cause).on session).1 = .error (.error (.foreign exception)) ∧
          exception.typeName = "TypeError") ∨
        ¬ session.finalizer.Calm True ∧
          ∃ panic, ((setCause cause).on session).1 = .error (.panic panic) := by
    rw [raises]
    rcases attains room' with ⟨_, returned, exception, rfl, named⟩ | ⟨troubled, panic, failed⟩
    · exact .inl ⟨exception, by rw [returned], named.trans typeName⟩
    · exact .inr ⟨troubled, panic, by rw [failed]⟩
  have kept : ({ session.interp with pending := none } : Interpreter).OnHeap
      ((setCause cause).on session).2.interp := by
    rw [raises]
    exact (((Interpreter.OnHeap.retain _ _).withPending none).trans onHeap).trans onHeap'
  refine ⟨refusal, kept, fun calm handle entry entry' found found' => ?_⟩
  rcases employed.sound.hush calm isOpen with ⟨lost, sound⟩
  have counted := sound.counted started found
  have counted' := Session.Sound.counted (sound_setCause cause sound False.elim) room found'
  have held : ((setCause cause).on session).2.interp.held + triple.references =
      session.interp.held := by
    have moved := session.interp.held_pending none
    rw [pending, Triple.referencesOf_some, Triple.referencesOf_none, add_zero] at moved
    rw [kept.held]
    exact moved
  have share := congrArg (Multiset.count handle) held
  rw [Multiset.count_add] at share
  omega

/-! ## Either way -/

/--
If the type of the pending error is a class of exceptions, an exception of the runtime
whose value is there is chained to it and comes back with it.  If it is not, nothing is
pending afterwards.  Without a pending error, and for an exception of another runtime,
nothing is done.
-/
theorem setCause_chains
    (employed : session.Employed config hasTable owned)
    (isOpen : session.ownTracker.isOpen = true)
    (cause : CapturedException) :
    (cause.value.tracker = session.tracker →
      session.interp.heap.isLive (cause.value.handle session) = true →
        ((setCause cause).on session).2.interp.heap.HasRoom →
          ∀ triple,
            session.interp.pending = some triple →
              (session.interp.isExceptionClass triple.type = true →
                ∃ normal value,
                  (setCause cause).Ends session fun outcome session' =>
                    outcome = .ok () ∧
                      Chains cause triple normal value session session' ∧
                        session'.interp.normalize normal = (.ok normal, session'.interp) ∧
                          ∀ (start : Session) (request : Session.Request),
                            (request.answer start).exception? = some cause →
                              Session.Onward config hasTable (request.perform start).2 session
                                  owned →
                                GivesBack cause value (cause.value.handle session) session') ∧
                (session.interp.isExceptionClass triple.type = false →
                  (setCause cause).Ends session fun outcome session' =>
                    session'.interp.pending = none ∧ Declines triple outcome session session')) ∧
      (cause.value.tracker = session.tracker →
        session.interp.pending = none →
          (setCause cause).on session =
            (.error (.error (.misuse .nothingPending)), session)) ∧
        (cause.value.tracker ≠ session.tracker →
          (setCause cause).on session =
            (.error (.error
              (.misuse (.foreignWrapper "set_cause" (cause.value.handle session)))),
              session)) := by
  refine ⟨fun own live room triple pending => ⟨fun isClass => ?_, fun misfit => ?_⟩,
    on_setCause_of_none, on_setCause_of_foreign⟩
  · rcases chains_setCause employed own live pending isClass room with
      ⟨normal, value, succeeds, chains⟩
    have settled := chains.settled.normalize_eq ((setCause cause).on session).2.interp.pending
    refine ⟨normal, value, succeeds, chains, settled, fun start request brought onward => ?_⟩
    have later := onward.follow (.setCause cause) rfl rfl trivial
    rw [← chains.handle]
    apply chains.givesBack brought later
    rcases chains.normalizes with ⟨interp, interp', -, -, same⟩
    rw [same]
    exact isOpen
  · have declines := declines_setCause employed isOpen own live pending misfit room
    exact ⟨declines.onHeap.pending, declines⟩

end Indicator

/-! ## What a refusal gives back -/

/-- A runtime in which a `TypeError` was captured. -/
def Session.caught : Session :=
  [Request.setError ⟨38, 0⟩ "no", .fetch].foldl
    (fun session request => (request.perform session).2) (opened .standard true)

/-- The exception that was captured. -/
def CapturedException.noted : CapturedException :=
  ⟨⟨0, 0, none⟩, ⟨0, 1, none⟩, none, "TypeError", "no"⟩

theorem Session.brought_caught :
    (Request.fetch.answer
        ((Request.setError ⟨38, 0⟩ "no").perform (opened .standard true)).2).exception? =
      some .noted := by
  decide +kernel

theorem Session.onward_caught : Onward .standard true caught caught 0 := by
  have started : Employed .standard true (opened .standard true) 0 := .opened
  have pending := started.follow (.setError ⟨38, 0⟩ "no") rfl rfl trivial
  exact .start (pending.follow .fetch rfl rfl trivial)

/-- A `ValueError` is pending besides. -/
def Session.twofold : Session :=
  ((Request.setError ⟨39, 0⟩ "outer").perform caught).2

/-- The class of numbers is pending besides, with the value of the exception. -/
def Session.mistaken : Session :=
  ((Request.interpret (.setErrorObject ⟨4, 0⟩ (some ⟨54, 0⟩))).perform caught).2

theorem Session.onward_twofold : Onward .standard true caught twofold 0 :=
  onward_caught.follow (.setError ⟨39, 0⟩ "outer") rfl rfl trivial

theorem Session.employed_mistaken : Employed .standard true mistaken 0 := by
  apply onward_caught.employed.follow (.interpret (.setErrorObject ⟨4, 0⟩ (some ⟨54, 0⟩))) rfl
    (by decide +kernel)
  intro handle borrowed
  rcases List.mem_pair.mp borrowed with rfl | rfl
  · decide +kernel
  · decide +kernel

/-- The exception is chained to the `ValueError`, and makes way for the class of numbers. -/
theorem Indicator.setCause_chains_twofold :
    (∃ normal value,
      ((setCause .noted).on Session.twofold).1 = .ok () ∧
        ((setCause .noted).on Session.twofold).2.interp.pending = some normal ∧
          normal.value = some value ∧
            ((setCause .noted).on Session.twofold).2.interp.heap.causeOf value =
                some ⟨54, 0⟩ ∧
              GivesBack .noted value ⟨54, 0⟩ ((setCause .noted).on Session.twofold).2) ∧
      Declines ⟨⟨4, 0⟩, some ⟨54, 0⟩, none⟩ ((setCause .noted).on Session.mistaken).1
        Session.mistaken ((setCause .noted).on Session.mistaken).2 := by
  constructor
  · have facts :
        Session.twofold.ownTracker.isOpen = true ∧
          (0 : TrackerRef) = Session.twofold.tracker ∧
            CapturedException.noted.value.handle Session.twofold = ⟨54, 0⟩ ∧
              Session.twofold.interp.heap.isLive ⟨54, 0⟩ = true ∧
                Session.twofold.interp.pending = some ⟨⟨39, 0⟩, some ⟨55, 0⟩, none⟩ ∧
                  Session.twofold.interp.isExceptionClass ⟨39, 0⟩ = true ∧
                    ((setCause .noted).on Session.twofold).2.interp.heap.HasRoom := by
      decide +kernel
    rcases facts with ⟨isOpen, own, handle, live, pending, isClass, room⟩
    have chained := (setCause_chains Session.onward_twofold.employed isOpen .noted).1 own
      (handle ▸ live) room _ pending
    rcases chained.1 isClass with ⟨normal, value, succeeds, chains, -, givesBack⟩
    have back := givesBack _ _ Session.brought_caught Session.onward_twofold
    rw [handle] at back
    exact ⟨normal, value, succeeds, chains.pending, chains.settled.valued,
      chains.linked.trans (congrArg some handle), back⟩
  · have facts :
        Session.mistaken.ownTracker.isOpen = true ∧
          (0 : TrackerRef) = Session.mistaken.tracker ∧
            Session.mistaken.interp.heap.isLive
                (CapturedException.noted.value.handle Session.mistaken) =
              true ∧
              Session.mistaken.interp.pending = some ⟨⟨4, 0⟩, some ⟨54, 0⟩, none⟩ ∧
                Session.mistaken.interp.isExceptionClass ⟨4, 0⟩ = false ∧
                  ((setCause .noted).on Session.mistaken).2.interp.heap.HasRoom := by
      decide +kernel
    rcases facts with ⟨isOpen, own, live, pending, misfit, room⟩
    have refused := (setCause_chains Session.employed_mistaken isOpen .noted).1 own live room _
      pending
    exact (refused.2 misfit).2

/-- A callback panics after every drain, and one is due at the next registration. -/
def Session.alarmed : Session :=
  [Request.act (.setThreshold 1), .act (.onCollect ⟨"alarm", [.panic "stop"]⟩),
    .wrapBorrowed ⟨4, 0⟩, .act (.dropWrapper ⟨0, 2, none⟩)].foldl
      (fun session request => (request.perform session).2) caught

theorem Session.employed_alarmed : Employed .standard true alarmed 0 := by
  have eager := onward_caught.employed.follow (.act (.setThreshold 1)) rfl rfl trivial
  have watched := eager.follow (.act (.onCollect ⟨"alarm", [.panic "stop"]⟩)) rfl rfl trivial
  have wrapped := watched.follow (.wrapBorrowed ⟨4, 0⟩) rfl rfl trivial
  exact wrapped.follow (.act (.dropWrapper ⟨0, 2, none⟩)) rfl rfl trivial

/--
The value of an exception does not always keep its references when a pending error makes
way: the one that the error had is given back.  And if a callback panics neither the
refusal nor what was chained is captured.
-/
theorem Indicator.setCause_disturbs_mistaken :
    (Session.mistaken.Employed .standard true 0 ∧
      Session.mistaken.ownTracker.isOpen = true ∧
        Session.mistaken.interp.pending = some ⟨⟨4, 0⟩, some ⟨54, 0⟩, none⟩ ∧
          Session.mistaken.interp.isExceptionClass ⟨4, 0⟩ = false ∧
            CapturedException.noted.value.handle Session.mistaken = ⟨54, 0⟩ ∧
              Session.mistaken.interp.heap.refcount? ⟨54, 0⟩ = some 2 ∧
                ((setCause .noted).on Session.mistaken).2.interp.heap.refcount? ⟨54, 0⟩ =
                  some 1) ∧
      Session.alarmed.Employed .standard true 0 ∧
        Session.alarmed.ownTracker.isOpen = true ∧
          ((setCause .noted).on
              ((Session.Request.interpret (.setErrorObject ⟨4, 0⟩ (some ⟨12, 0⟩))).perform
                Session.alarmed).2).1 =
              .error (.panic ⟨"stop"⟩) ∧
            (CapturedException.fetch.on
                ((setCause .noted).on
                  ((Session.Request.setError ⟨39, 0⟩ "outer").perform Session.alarmed).2).2).1 =
              .error (.panic ⟨"stop"⟩) := by
  have first :
      Session.mistaken.ownTracker.isOpen = true ∧
        Session.mistaken.interp.pending = some ⟨⟨4, 0⟩, some ⟨54, 0⟩, none⟩ ∧
          Session.mistaken.interp.isExceptionClass ⟨4, 0⟩ = false ∧
            CapturedException.noted.value.handle Session.mistaken = ⟨54, 0⟩ ∧
              Session.mistaken.interp.heap.refcount? ⟨54, 0⟩ = some 2 ∧
                ((setCause .noted).on Session.mistaken).2.interp.heap.refcount? ⟨54, 0⟩ =
                  some 1 := by
    decide +kernel
  have second :
      Session.alarmed.ownTracker.isOpen = true ∧
        ((setCause .noted).on
            ((Session.Request.interpret (.setErrorObject ⟨4, 0⟩ (some ⟨12, 0⟩))).perform
              Session.alarmed).2).1 =
            .error (.panic ⟨"stop"⟩) ∧
          (CapturedException.fetch.on
              ((setCause .noted).on
                ((Session.Request.setError ⟨39, 0⟩ "outer").perform Session.alarmed).2).2).1 =
            .error (.panic ⟨"stop"⟩) := by
    decide +kernel
  exact ⟨⟨Session.employed_mistaken, first⟩, Session.employed_alarmed, second⟩

end Custody
