import Custody.Proofs.Session.Overruling

/-!
# Categories that are refused

A category that is no class of warnings is refused with a `TypeError` that names it.  The
error takes the place of what was pending and is captured at once, so that nothing is
pending afterwards and nothing was warned about; its cause is what it took the place of.

A callback may panic while the error is captured.  Then that is how the operation ends, and
nothing is pending all the same.
-/

namespace Custody

variable {session session' : Session} {owned : Multiset Handle}

namespace CapturedException

variable {normal : Triple} {value : Handle}

/-- What is pending and normalized, traceback and all, is captured as it is. -/
theorem attains_fetch_settled
    (sound : session.Sound False False owned)
    (isOpen : session.ownTracker.isOpen = true)
    (pending : session.interp.pending = some normal)
    (settled : session.interp.Settled normal value)
    (traced : session.interp.heap.tracebackOf value = normal.traceback) :
    fetch.Attains session fun captured session' =>
      ∃ exception,
        captured = some exception ∧
          exception.value.Joins session session' ∧
            exception.value.Lasts session session' ∧
              exception.Reads { session with interp := { session.interp with pending := none } }
                normal.type value normal.traceback session' := by
  have traced' : ({ session.interp with pending := none } : Interpreter).heap.tracebackOf value =
      normal.traceback := traced
  have attains := attains_fetch sound isOpen pending (settled.normalize_eq none) settled.valued
  rwa [completeTraceback_of_attached traced'] at attains

/-- To capture what is normalized at once is to use the heap. -/
theorem onHeap_fetch_settled
    (pending : session.interp.pending = some normal)
    (settled : session.interp.Settled normal value)
    (untroubled : (fetch.on session).2.registry.Untroubled) :
    ({ session.interp with pending := none } : Interpreter).OnHeap
      (fetch.on session).2.interp := by
  rw [on_fetch_of_ok pending (settled.normalize_eq none), Op.on_map] at untroubled ⊢
  exact (usesHeap_ofNormalized normal).2 untroubled

/--
The cause of a captured exception is captured unless a handler panics: what it was before
the exception was captured, in its own words, or nothing.
-/
def BringsBack
    (exception : CapturedException)
    (interp : Interpreter)
    (cause : Option Handle)
    (session : Session) :
    Prop :=
  exception.cause.Attains session fun captured session' =>
    match cause with
    | none => captured = none
    | some cause =>
        ∃ (again : CapturedException) (type : Handle),
          captured = some again ∧
            interp.typeOf cause = .ok type ∧
              again.value.handle session' = cause ∧
                again.typeName = interp.heap.className type ∧
                  again.valueText = interp.heap.str cause

theorem bringsBack_none
    {interp : Interpreter}
    {exception : CapturedException}
    (own : exception.value.tracker = session.tracker)
    (unlinked : session.interp.heap.causeOf (exception.value.handle session) = none) :
    exception.BringsBack interp none session := by
  have same : exception.cause.Ends session fun outcome _ => outcome = .ok none := by
    rw [CapturedException.cause, Op.ends_bind]
    apply Wrapper.ends_requireOwn
    · intro _
      simp only [Op.andThen_ok, Op.ends_bind, Op.ends_session, unlinked]
      rfl
    · exact fun foreign => absurd own foreign
  exact fun _ => .inl ⟨none, same, rfl⟩

/-- A cause is captured in the words that it had before. -/
theorem bringsBack_some
    {interp : Interpreter}
    {exception : CapturedException}
    {cause : Handle}
    {credit : Multiset Handle}
    (own : exception.value.tracker = session.tracker)
    (isOpen : session.ownTracker.isOpen = true)
    (linked : session.interp.heap.causeOf (exception.value.handle session) = some cause)
    (sound : session.Sound False False owned)
    (regular : interp.Regular credit)
    (evolves : interp.Evolves session.interp)
    (room : session.interp.heap.HasRoom)
    (causeLive : interp.heap.isLive cause = true) :
    exception.BringsBack interp (some cause) session := by
  rcases sound.exists_ledger with ⟨_, ledger, -⟩
  have regular' : session.interp.Regular _ := ⟨ledger, regular.evolves.trans evolves⟩
  have agree := regular.agree_later regular' evolves room
  have started := evolves.heap.hasRoom room
  have causeLive' := ledger.heap.isLive_of_points room (Heap.points_of_causeOf linked)
  rcases Interpreter.exists_typeOf causeLive with ⟨type, typed⟩
  have typed' := Interpreter.typeOf_of_agree agree evolves.builtins ⟨causeLive, causeLive'⟩ typed
  have typeLive := regular.ledger.isLive_typeOf started typed
  have typeLive' := ledger.isLive_typeOf room typed'
  refine (attains_cause own isOpen linked typed' sound).mono ?_
  rintro _ session' - ⟨again, rfl, handle, typeName, valueText⟩
  exact ⟨again, type, rfl, typed, handle,
    typeName.trans (agree.className_eq ⟨typeLive, typeLive'⟩),
    valueText.trans (agree.str_eq ⟨causeLive, causeLive'⟩)⟩

end CapturedException

namespace Indicator

variable {config : Config} {hasTable : Bool} {category type value : Handle} {message : String}
variable {credit : Multiset Handle}

/-! ## What a refusal is -/

/-- What is said of a category that is no class of warnings. -/
def refusal (session : Session) (category : Handle) : String :=
  "category must be a Warning subclass, not '" ++ session.interp.nameOfMisfit category ++ "'"

/--
An error that refuses a category was raised over what was pending, and was captured.  Its
cause comes back with it.  The error is still there to have one if the hooks that wait
mention only records that were there before, and a hook can know of no others.
-/
structure Voices
    (category : Handle)
    (exception : CapturedException)
    (session session' : Session) :
    Prop where
  typeName : exception.typeName = "TypeError"
  valueText : exception.valueText = refusal session category
  brings :
    ∃ type value raised,
      Overrules (refusal session category) type value session raised ∧
        exception.value.handle session' = value ∧
          (session.registry.MentionsBelow session.registry.records.size →
            session'.interp.heap.isLive value = true) ∧
            (session'.interp.heap.isLive value = true →
              exception.BringsBack raised.interp (raised.interp.heap.causeOf value) session')

/--
A category was refused.  Nothing is pending, nothing was warned about, and the error was
captured unless a handler panicked while it was.
-/
structure Refuses
    (category : Handle)
    (session : Session)
    (outcome : Except Abort Unit)
    (session' : Session) :
    Prop where
  onHeap : ({ session.interp with pending := none } : Interpreter).OnHeap session'.interp
  returned :
    (∃ exception,
      outcome = .error (.error (.foreign exception)) ∧
        Voices category exception session session') ∨
      ¬ session.finalizer.Calm True ∧ ∃ panic, outcome = .error (.panic panic)

/-! ## How a category is refused -/

/-- What does not derive from the built-in class of warnings is no class of warnings. -/
theorem isWarningClass_eq_false
    (solvent : session.Solvent config hasTable owned)
    (room : session.interp.heap.HasRoom)
    (misfit :
      session.interp.heap.isSubclass category (session.interp.builtin "Warning") = false) :
    isWarningClass session category = false := by
  rw [isWarningClass, (solvent.indexes room).wellKnown?_eq "Warning"]
  cases named : session.interp.lookup "Warning" with
  | none => rfl
  | some warning =>
      rw [Interpreter.builtin, named, Option.getD_some] at misfit
      simp only [misfit, Bool.and_false]

/-- To warn about such a category is to raise an error and to end with it. -/
theorem on_warn_of_misfit
    (misfit : isWarningClass session category = false)
    (text : String)
    (level : Nat) :
    (warn category text level).on session =
      (raiseTypeError (refusal session category) >>= fun _ => CapturedException.raised).on
        session := by
  have same : (warn category text level).Ends session fun outcome session' =>
      (outcome, session') =
        (raiseTypeError (refusal session category) >>= fun _ => CapturedException.raised).on
          session := by
    rw [warn, Op.ends_bind, Op.ends_session, Op.andThen_ok, misfit, if_neg Bool.false_ne_true]
    rfl
  exact same

/-- Classes keep their names. -/
theorem Overrules.lookup
    (overrules : Overrules message type value session session') :
    session'.interp.lookup "TypeError" = some type := by
  have same := overrules.onHeap.builtins
  simp only at same
  rw [Interpreter.lookup, same]
  exact overrules.named

/-- The new error is normalized. -/
theorem Overrules.settled
    (overrules : Overrules message type value session session')
    (regular : session'.interp.Regular credit)
    (room : session'.interp.heap.HasRoom) :
    session'.interp.Settled ⟨type, some value, none⟩ value := by
  have isClass := (regular.isExceptionClass_builtin room overrules.lookup).trans
    Interpreter.isExceptionClass_typeError
  rcases regular.exception_of_typeOf room isClass overrules.typed with ⟨info, holds, own⟩
  refine ⟨rfl, ⟨info, holds, own ▸ isClass⟩, ⟨?_, ?_⟩, ?_⟩
  · intro info' holds'
    cases holds.symm.trans holds'
    exact own
  · intro _ _ _ isTraceback
    cases isTraceback
  · intro _ isTraceback
    cases isTraceback

/-- What was captured of the new error tells what it is, and its cause comes back with it. -/
theorem voices_of_reads
    {raised : Session}
    {exception : CapturedException}
    (solvent : raised.Solvent config hasTable owned)
    (overrules : Overrules (refusal session category) type value session raised)
    (isOpen : raised.ownTracker.isOpen = true)
    (room : (CapturedException.fetch.on raised).2.interp.heap.HasRoom)
    (joins : exception.value.Joins raised (CapturedException.fetch.on raised).2)
    (lasts : exception.value.Lasts raised (CapturedException.fetch.on raised).2)
    (reads :
      exception.Reads { raised with interp := { raised.interp with pending := none } } type value
        none (CapturedException.fetch.on raised).2) :
    Voices category exception session (CapturedException.fetch.on raised).2 := by
  have captured : (CapturedException.fetch.on raised).2.Solvent config hasTable owned :=
    solvent.follow .fetch rfl rfl trivial
  have evolves : raised.interp.Evolves (CapturedException.fetch.on raised).2.interp :=
    Session.Solvent.evolves_perform (solvent.follow .fetch rfl rfl trivial) room
  have started := evolves.heap.hasRoom room
  rcases solvent.exists_regular started with ⟨_, regular⟩
  have typeName : Interpreter.initial.heap.className (Interpreter.initial.builtin "TypeError") =
      "TypeError" := by decide +kernel
  have registry : raised.registry = session.registry := by rw [overrules.elsewhere]
  have named := regular.className_builtin started overrules.lookup
  refine ⟨reads.typeName.trans (named.trans typeName), reads.valueText.trans overrules.text,
    type, value, raised, overrules, reads.valued.handle, fun below => ?_, fun live => ?_⟩
  · have owns := congrArg RecordState.owns (lasts.live (registry ▸ below))
    have there := captured.sound.isLive_of_owns room owns
    rwa [← reads.valued.handle]
  · have shrinks : raised.interp.heap.Shrinks (CapturedException.fetch.on raised).2.interp.heap :=
      reads.passes.heap (captured.sound.untroubled room)
    have linked : (CapturedException.fetch.on raised).2.interp.heap.causeOf
        (exception.value.handle (CapturedException.fetch.on raised).2) =
          raised.interp.heap.causeOf value := by
      rw [reads.valued.handle, Heap.causeOf, Heap.causeOf, shrinks.payload?_eq live]
    have own := joins.own.trans joins.tracker.symm
    cases caused : raised.interp.heap.causeOf value with
    | none => exact CapturedException.bringsBack_none own (linked.trans caused)
    | some cause =>
        exact CapturedException.bringsBack_some own (joins.isOpen.trans isOpen)
          (linked.trans caused) captured.sound regular evolves room
          (regular.ledger.heap.isLive_of_points started (Heap.points_of_causeOf caused))

/-- The new error is captured unless a handler panics, and nothing is pending any more. -/
theorem refuses_of_overrules
    {raised : Session}
    (solvent : raised.Solvent config hasTable owned)
    (isOpen : session.ownTracker.isOpen = true)
    (overrules : Overrules (refusal session category) type value session raised) :
    (CapturedException.raised : Op Unit).Ends raised fun outcome session' =>
      session'.interp.heap.HasRoom → Refuses category session outcome session' := by
  intro room
  have ended := @CapturedException.on_raised raised
  have isOpen' : raised.ownTracker.isOpen = true := by rwa [overrules.elsewhere]
  have finalizer : raised.finalizer = session.finalizer := by rw [overrules.elsewhere]
  rw [congrArg Prod.snd ended] at room ⊢
  rw [congrArg Prod.fst ended]
  have captured := solvent.follow .fetch rfl rfl trivial
  have started := (captured.evolves_perform room).heap.hasRoom room
  rcases solvent.exists_regular started with ⟨_, regular⟩
  have settled := overrules.settled regular started
  refine ⟨overrules.onHeap.trans (CapturedException.onHeap_fetch_settled overrules.pending settled
    (captured.sound.untroubled room)), ?_⟩
  rcases CapturedException.attains_fetch_settled solvent.sound isOpen' overrules.pending settled
    overrules.bare room with
    ⟨_, returned, exception, rfl, joins, lasts, reads⟩ | ⟨troubled, panic, failed⟩
  · exact .inl ⟨exception, by rw [returned],
      voices_of_reads solvent overrules isOpen' room joins lasts reads⟩
  · exact .inr ⟨finalizer ▸ troubled, panic, by rw [failed]⟩

/-- Whatever was pending, a category that is no class of warnings is refused. -/
theorem refuses_warn
    (solvent : session.Solvent config hasTable owned)
    (isOpen : session.ownTracker.isOpen = true)
    (misfit :
      session.interp.heap.isSubclass category (session.interp.builtin "Warning") = false)
    (text : String)
    (level : Nat) :
    (warn category text level).Ends session fun outcome session' =>
      session'.interp.heap.HasRoom → Refuses category session outcome session' := by
  intro room
  have warned := solvent.follow (.warn category text level) rfl rfl trivial
  have untroubled :
      ((warn category text level).on session).2.registry.Untroubled := warned.sound.untroubled room
  have started := (warned.evolves_perform room).heap.hasRoom room
  have ended := on_warn_of_misfit (isWarningClass_eq_false solvent started misfit) text level
  have before :
      ((raiseTypeError (refusal session category)).on session).2.Solvent config hasTable owned :=
    solvent.follow (.raiseTypeError (refusal session category)) rfl rfl trivial
  have raises := overrules_raiseTypeError solvent (refusal session category)
  rw [ended, Op.on_bind] at room untroubled ⊢
  rw [Op.Ends] at raises
  generalize (raiseTypeError (refusal session category)).on session = result at *
  rcases result with ⟨outcome, raised⟩
  cases outcome with
  | error abort => cases (raises room).1
  | ok _ =>
      have between := Session.Strokes.hasRoom CapturedException.relates_raised untroubled room
      rcases (raises between).2 with ⟨type, value, overrules⟩
      exact refuses_of_overrules before isOpen overrules room

/--
A `TypeError` is raised over whatever is pending, and a category that is no class of
warnings is refused with one.
-/
theorem typeError_overrules_and_refuses
    (solvent : session.Solvent config hasTable owned)
    (isOpen : session.ownTracker.isOpen = true) :
    (∀ message,
      (raiseTypeError message).Ends session fun outcome session' =>
        session'.interp.heap.HasRoom →
          outcome = .ok () ∧ ∃ type value, Overrules message type value session session') ∧
      ∀ category,
        session.interp.heap.isSubclass category (session.interp.builtin "Warning") = false →
          ∀ text level,
            (warn category text level).Ends session fun outcome session' =>
              session'.interp.heap.HasRoom → Refuses category session outcome session' :=
  ⟨overrules_raiseTypeError solvent, fun _ => refuses_warn solvent isOpen⟩

end Indicator

/-- A `TypeError` was captured and a `ValueError` is pending. -/
theorem Session.solvent_twofold : Solvent .standard true twofold 0 :=
  .of_worn (.of_employed onward_twofold.employed)

/-- The class of the error that is pending is no class of warnings, and is refused as one. -/
theorem Indicator.typeError_overrules_and_refuses_twofold :
    (((raiseTypeError "inner").on Session.twofold).1 = .ok () ∧
      ∃ type value,
        Overrules "inner" type value Session.twofold
          ((raiseTypeError "inner").on Session.twofold).2) ∧
      refusal Session.twofold ⟨39, 0⟩ =
          "category must be a Warning subclass, not 'ValueError'" ∧
        Refuses ⟨39, 0⟩ Session.twofold ((warn ⟨39, 0⟩ "hello" 1).on Session.twofold).1
          ((warn ⟨39, 0⟩ "hello" 1).on Session.twofold).2 := by
  have facts :
      Session.twofold.ownTracker.isOpen = true ∧
        ((raiseTypeError "inner").on Session.twofold).2.interp.heap.HasRoom ∧
          Session.twofold.interp.heap.isSubclass ⟨39, 0⟩
              (Session.twofold.interp.builtin "Warning") =
            false ∧
            refusal Session.twofold ⟨39, 0⟩ =
                "category must be a Warning subclass, not 'ValueError'" ∧
              ((warn ⟨39, 0⟩ "hello" 1).on Session.twofold).2.interp.heap.HasRoom := by
    decide +kernel
  rcases facts with ⟨isOpen, room, misfit, text, room'⟩
  have both := typeError_overrules_and_refuses Session.solvent_twofold isOpen
  exact ⟨both.1 "inner" room, text, both.2 ⟨39, 0⟩ misfit "hello" 1 room'⟩

/-- If a callback panics while the refusal is captured, that is how the operation ends. -/
theorem Indicator.warn_panics_alarmed :
    Session.alarmed.Solvent .standard true 0 ∧
      Session.alarmed.ownTracker.isOpen = true ∧
        Session.alarmed.interp.heap.isSubclass ⟨4, 0⟩
            (Session.alarmed.interp.builtin "Warning") =
          false ∧
          ((warn ⟨4, 0⟩ "hello" 1).on Session.alarmed).2.interp.heap.HasRoom ∧
            ((warn ⟨4, 0⟩ "hello" 1).on Session.alarmed).1 = .error (.panic ⟨"stop"⟩) := by
  refine ⟨.of_worn (.of_employed Session.employed_alarmed), ?_⟩
  decide +kernel

end Custody
