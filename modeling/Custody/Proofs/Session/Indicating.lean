import Custody.Proofs.Session.Capturing
import Custody.Session.HostError
import Custody.Session.Indicator

/-!
# The error indicator keeps the ledger

Whatever becomes pending takes references of its own.  Where an error is chained
to another one, the reference to the cause moves into the instance; on every
path on which that does not come about it is given back.
-/

namespace Custody

namespace Indicator

variable {quiet acyclic : Prop} {session : Session} {owned credit : Multiset Handle}

/-! ## Setting -/

theorem sound_setError
    (type : Handle)
    (message : String)
    (sound : session.Sound quiet acyclic owned) :
    (setError type message).Ends session fun _ session' => session'.Sound quiet acyclic owned := by
  apply Op.ends_tryInterp
  · exact fun interp set => sound.useInterp fun _ ledger => ledger.setError set
  · exact fun _ _ => sound

theorem sound_setErrorObject
    (type : Handle)
    (value : Wrapper)
    (sound : session.Sound quiet acyclic owned) :
    (setErrorObject type value).Ends session fun _ session' =>
      session'.Sound quiet acyclic owned := by
  rw [setErrorObject, Op.ends_bind]
  apply Wrapper.ends_requireOwn
  · intro _
    simp only [Op.andThen_ok, Op.ends_bind, Op.ends_session]
    apply Op.ends_tryInterp
    · exact fun interp set => sound.useInterp fun _ ledger => ledger.setErrorObject set
    · exact fun _ _ => sound
  · exact fun _ => sound

/--
The caller's reference to a new instance is given back, whether the instance
becomes pending or not.  It becomes pending without a traceback.
-/
theorem sound_setNew
    {type value : Handle}
    (sound : session.Sound quiet acyclic (value ::ₘ owned)) :
    (do
      (Op.tryInterp fun interp => interp.setErrorObject type (some value)).onError
        fun interp => interp.release value
      Op.changeInterp fun interp => interp.release value : Op Unit).Ends session
        fun outcome session' =>
          session'.Sound quiet acyclic owned ∧
            (outcome = .ok () → session'.interp.heap.HasRoom → session'.interp.PendingTraced) := by
  have given {interp : Interpreter}
      (keeps :
        ∀ rest,
          session.interp.Ledger acyclic (value ::ₘ owned + rest) →
            interp.Ledger acyclic (value ::ₘ owned + rest)) :
      ({ session with interp := interp.release value } : Session).Sound quiet acyclic owned :=
    sound.useInterp fun rest ledger =>
      ((keeps rest ledger).congr _ (Multiset.cons_add _ _ _).symm).release
  rw [Op.ends_bind, Op.ends_onError]
  apply Op.ends_tryInterp
  · intro interp set
    refine ⟨given fun _ ledger => ledger.setErrorObject set, fun _ _ => ?_⟩
    have pending := (interp.pending_release value).trans (Interpreter.pending_setErrorObject set)
    exact .of_pending pending nofun
  · exact fun _ _ => ⟨given fun _ ledger => ledger, nofun⟩

/-! ## Chaining -/

/--
What was pending becomes the cause of a new instance, or it is given back.  No
cycle is closed, since nothing has a link to the instance.
-/
theorem ledger_chainPending
    {value : Handle}
    {interp : Interpreter}
    (ledger : interp.Ledger acyclic (value ::ₘ credit))
    (unlinked :
      interp.heap.HasRoom → interp.heap.Unlinked value ∧ value ∉ interp.held)
    (open_ended : acyclic → interp.heap.HasRoom → interp.PendingOpenEnded) :
    (chainPending value interp).Ledger acyclic (value ::ₘ credit) := by
  simp only [chainPending]
  cases fetched : interp.fetch with
  | none => exact ledger
  | some result =>
      rcases result with ⟨prior, taken⟩
      have before := ledger.fetch fetched
      rcases Interpreter.fetch_eq_some fetched with ⟨pending, rfl⟩
      simp only
      cases normalized : ({ interp with pending := none } : Interpreter).normalize prior with
      | mk outcome after =>
          cases outcome with
          | error raised =>
              exact (before.normalize_of_error normalized).clear.releaseTriple
          | ok prior' =>
              rcases Interpreter.normalize_ok_components normalized with ⟨⟨cause, isCause⟩, -⟩
              have kept := before.normalize_of_ok
                (fun isAcyclic room => (open_ended isAcyclic room).fetch fetched) normalized
              have linking : after.Ledger acyclic
                  ((some cause).toList +
                    (({ prior' with value := none } : Triple).references + value ::ₘ credit)) := by
                refine kept.congr _ ?_
                simp only [Triple.references, isCause, Option.toList_some, Option.toList_none,
                  Multiset.coe_singleton, Multiset.coe_nil, Multiset.cons_add, zero_add]
                rw [Multiset.add_cons, ← add_assoc]
              simp only [isCause]
              cases set : after.setCause value (some cause) with
              | ok linked =>
                  refine (linking.setCause ?_ set).releaseTriple
                  intro _ room
                  have room' := Interpreter.hasRoom_of_normalize normalized room
                  rcases unlinked room' with ⟨unlinked, apart⟩
                  refine before.openEnded_unlinked normalized room isCause ?_ unlinked ?_
                  · exact ledger.isLive_of_mem room' (Multiset.mem_cons_self value credit)
                  · exact fun component =>
                      apart (Interpreter.mem_held_of_pending pending component)
              | error reason =>
                  refine Interpreter.Ledger.releaseTriple (linking.of_full fun room => ?_)
                  have live := kept.isLive_of_mem room
                    (Multiset.mem_add.mpr (.inr (Multiset.mem_cons_self value credit)))
                  rcases Interpreter.exists_replaceLink (some cause) _ live with ⟨_, replaced⟩
                  exact absurd (set.symm.trans replaced) (by simp)

/-- Chaining to what a new `TypeError` is raised over closes no cycle. -/
def ChainsOpenEnded (session : Session) (message : String) : Prop :=
  ∀ type value interp,
    wellKnown? session "TypeError" = some type →
      session.interp.newException type (some message) = .ok (value, interp) →
        interp.PendingOpenEnded

theorem sound_raiseTypeError
    (message : String)
    (sound : session.Sound quiet acyclic owned)
    (open_ended : acyclic → ChainsOpenEnded session message) :
    (raiseTypeError message).Ends session fun outcome session' =>
      session'.Sound quiet acyclic owned ∧
        (outcome = .ok () → session'.interp.heap.HasRoom → session'.interp.PendingTraced) := by
  simp only [raiseTypeError, wellKnown, Op.ends_bind, Op.ends_session, Op.andThen_ok]
  cases known : wellKnown? session "TypeError" with
  | none => exact ⟨sound, fun raised => by cases raised⟩
  | some type =>
      simp only [Op.ends_pure, Op.andThen_ok, Op.ends_bind, Op.ends_session]
      apply Op.ends_ofHeap
      · rintro ⟨value, interp⟩ made
        have chained {rest : Multiset Handle}
            (ledger : session.interp.Ledger acyclic (owned + rest)) :=
          ledger_chainPending (ledger.newException made)
            (fun room =>
              have fresh := ledger.payload?_newException made room
              ⟨fresh.1, fun held => fresh.2.1 (Multiset.mem_add.mpr (.inr held))⟩)
            (fun isAcyclic _ => open_ended isAcyclic type value interp known made)
        simp only [Op.andThen_ok, Op.ends_bind, Op.ends_changeInterp]
        rw [← Op.ends_bind]
        exact sound_setNew (sound.useInterp fun _ ledger =>
          (chained ledger).congr _ (Multiset.cons_add _ _ _))
      · exact fun _ _ => ⟨sound, fun raised => by cases raised⟩

/-- Chaining a captured exception to the pending error closes no cycle. -/
def CauseOpenEnded (session : Session) (cause : CapturedException) : Prop :=
  ∀ interp,
    session.interp.incref (cause.value.handle session) = .ok interp →
      interp.PendingOpenEnded ∧ interp.PendingAccepts (cause.value.handle session)

/-- What happens to the reference to the cause once it is taken. -/
private theorem sound_causing
    {causeValue : Handle}
    (sound : session.Sound quiet acyclic (causeValue ::ₘ owned))
    (pending : session.interp.pending ≠ none)
    (open_ended :
      acyclic → session.interp.PendingOpenEnded ∧ session.interp.PendingAccepts causeValue) :
    (match session.interp.fetch with
      | none => Op.fail (.misuse .nothingPending)
      | some (current, interp) => do
          Op.changeInterp fun _ => interp
          match ← Op.withInterp fun interp => interp.normalize current with
          | .error _ =>
              Op.changeInterp fun interp =>
                (interp.release causeValue).releaseTriple current
              CapturedException.raised
          | .ok current =>
              match current.value with
              | none => pure ()
              | some value =>
                  Op.tryInterp fun interp => interp.setCause value (some causeValue)
              Op.changeInterp fun interp => interp.restore current : Op Unit).Ends session
        fun _ session' => session'.Sound quiet acyclic owned := by
  cases fetched : session.interp.fetch with
  | none =>
      refine absurd ?_ pending
      simpa [Interpreter.fetch] using fetched
  | some result =>
      rcases result with ⟨current, taken⟩
      have before {rest : Multiset Handle}
          (ledger : session.interp.Ledger acyclic (causeValue ::ₘ owned + rest)) :=
        (ledger.fetch fetched).congr (current.references + (causeValue ::ₘ (owned + rest)))
          (by rw [Multiset.cons_add])
      rcases sound.exists_ledger with ⟨others, ledger, -⟩
      rcases Interpreter.fetch_eq_some fetched with ⟨isPending, rfl⟩
      simp only [Op.ends_bind, Op.ends_changeInterp, Op.ends_withInterp, Op.andThen_ok,
        Session.updateInterp]
      cases normalized :
          ({ session.interp with pending := none } : Interpreter).normalize current with
      | mk outcome after =>
          cases outcome with
          | error raised =>
              have traced := (before ledger).traced_normalize normalized
              have released {rest : Multiset Handle}
                  (ledger : session.interp.Ledger acyclic (causeValue ::ₘ owned + rest)) :=
                (((before ledger).normalize_of_error normalized).congr
                  (causeValue ::ₘ (current.references + (owned + rest)))
                  (by rw [Multiset.add_cons])).release.releaseTriple
              have shrinks := (after.shrinks_release causeValue).trans
                (Interpreter.shrinks_releaseTriple _ current)
              simp only [Op.ends_bind, Op.ends_changeInterp, Op.andThen_ok]
              apply CapturedException.sound_raised
              · exact sound.useInterp fun _ => released
              · intro room
                refine (traced (shrinks.hasRoom_iff.mp room)).of_shrinks ?_ shrinks
                  (released ledger) room
                exact (Interpreter.pending_releaseTriple _ current).trans
                  (after.pending_release causeValue)
          | ok current' =>
              rcases Interpreter.normalize_ok_components normalized with ⟨⟨value, isValue⟩, -⟩
              have kept {rest : Multiset Handle}
                  (ledger : session.interp.Ledger acyclic (causeValue ::ₘ owned + rest)) :=
                (before ledger).normalize_of_ok
                  (fun isAcyclic _ => (open_ended isAcyclic).1.fetch fetched) normalized
              have linking {rest : Multiset Handle}
                  (ledger : session.interp.Ledger acyclic (causeValue ::ₘ owned + rest)) :=
                (kept ledger).congr
                  ((some causeValue).toList + (current'.references + (owned + rest)))
                  (by simp [Multiset.add_cons])
              simp only [isValue, Op.ends_bind]
              apply Op.ends_tryInterp
              · intro linked set
                refine CapturedException.sound_restored (sound.useInterp fun _ ledger => ?_)
                refine ((linking ledger).setCause ?_ set).congr _ (add_assoc _ _ _)
                intro isAcyclic room
                have room' := Interpreter.hasRoom_of_normalize normalized room
                refine (before ledger).openEnded_normalize normalized room isValue ?_ ?_
                · exact sound.isLive_of_mem room' (Multiset.mem_cons_self _ _)
                · exact (open_ended isAcyclic).2 current value isPending
              · intro reason failed
                refine sound.useInterp fun _ ledger => (linking ledger).of_full fun room => ?_
                have live : after.heap.isLive value = true :=
                  (kept ledger).isLive_of_mem room (by simp [Triple.references, isValue])
                rcases Interpreter.exists_replaceLink (some causeValue) _ live with ⟨_, replaced⟩
                exact absurd (failed.symm.trans replaced) (by simp)

/-- The reference to the cause moves into the instance, or it is given back. -/
theorem sound_setCause
    (cause : CapturedException)
    (sound : session.Sound quiet acyclic owned)
    (open_ended : acyclic → CauseOpenEnded session cause) :
    (setCause cause).Ends session fun _ session' => session'.Sound quiet acyclic owned := by
  rw [setCause, Op.ends_bind]
  apply Wrapper.ends_requireOwn
  · intro _
    simp only [Op.andThen_ok, Op.ends_bind, Op.ends_session]
    split
    · exact sound
    · next notNone =>
        rw [Op.ends_bind]
        apply Op.ends_tryInterp
        · intro held taken
          rw [Op.andThen_ok, Op.ends_bind, Op.ends_session, Op.andThen_ok]
          have pending : held.pending = session.interp.pending := by
            rcases Interpreter.incref_eq_ok_iff.mp taken with ⟨heap, -, rfl⟩
            rfl
          exact sound_causing (sound.incref taken) (by simpa [pending] using notNone)
            fun isAcyclic => open_ended isAcyclic held taken
        · exact fun _ _ => sound
  · exact fun _ => sound

/-! ## Normalizing and warning -/

/-- The caller keeps its triple, or has the normalized one in its place. -/
theorem sound_normalize
    {triple : Triple}
    (sound : session.Sound quiet acyclic (triple.type ::ₘ (triple.value.toList + owned)))
    (there :
      acyclic →
        session.interp.heap.HasRoom →
          ∀ entry, triple.traceback = some entry → session.interp.heap.isLive entry = true)
    (open_ended :
      acyclic → session.interp.errorType = none → session.interp.OpenEnded triple) :
    (normalize triple).Ends session fun outcome session' =>
      session'.Sound quiet acyclic
        ((outcome.toOption.getD triple).type ::ₘ
          ((outcome.toOption.getD triple).value.toList + owned)) := by
  simp only [normalize, Op.ends_bind, Op.ends_session, Op.andThen_ok]
  cases free : session.interp.errorType with
  | some pending => exact sound
  | none =>
      have kept := sound.useInterp fun rest ledger => by
        have before := ledger.congr (triple.type ::ₘ (triple.value.toList + (owned + rest)))
          (by rw [Multiset.cons_add, add_assoc])
        have after := before.normalize there fun isAcyclic _ => open_ended isAcyclic free
        exact after.congr _ (by rw [Multiset.cons_add, add_assoc])
      simp only [Op.ends_bind, Op.ends_withInterp, Op.andThen_ok]
      cases normalized : session.interp.normalize triple with
      | mk outcome interp =>
          rw [Interpreter.normalized, normalized] at kept
          cases outcome with
          | ok triple' => exact kept
          | error raised =>
              rcases sound.exists_ledger with ⟨_, ledger, -⟩
              have traced := ledger.traced_normalize normalized
              apply ((CapturedException.sound_raised kept traced).and
                CapturedException.raised_fails).mono
              rintro _ session' ⟨sound', abort, rfl⟩
              exact sound'

theorem isLive_of_isWarningClass
    {category : Handle}
    (isWarning : isWarningClass session category = true) :
    session.interp.heap.isLive category = true := by
  rw [isWarningClass] at isWarning
  split at isWarning
  · rcases Bool.and_eq_true_iff.mp isWarning with ⟨isType, -⟩
    rw [Heap.isType] at isType
    split at isType
    · next holds => exact Heap.isLive_of_payload? holds
    · cases isType
  · cases isWarning

/-- Refusing a category that is no class of warnings closes no cycle. -/
def WarnsOpenEnded (session : Session) (category : Handle) : Prop :=
  isWarningClass session category = false →
    ChainsOpenEnded session
      ("category must be a Warning subclass, not '" ++
        session.interp.nameOfMisfit category ++ "'")

theorem sound_warn
    (category : Handle)
    (message : String)
    (level : Nat)
    (sound : session.Sound quiet acyclic owned)
    (open_ended : acyclic → WarnsOpenEnded session category) :
    (warn category message level).Ends session fun _ session' =>
      session'.Sound quiet acyclic owned := by
  simp only [warn, Op.ends_bind, Op.ends_session, Op.andThen_ok]
  split
  · next isWarning =>
      have warned := sound.useInterp fun _ ledger => ledger.warn category message level
      simp only [Op.ends_bind, Op.ends_withInterp, Op.andThen_ok]
      cases emitted : session.interp.warn category message level with
      | mk outcome interp =>
          rw [emitted] at warned
          cases outcome with
          | ok _ => exact warned
          | error raised =>
              rcases sound.exists_ledger with ⟨_, ledger, -⟩
              apply CapturedException.sound_raised warned
              exact ledger.traced_warn (isLive_of_isWarningClass isWarning) emitted
  · next isMisfit =>
      apply (sound_raiseTypeError _ sound fun isAcyclic =>
        open_ended isAcyclic (by simpa using isMisfit)).bind
      · rintro _ session' ⟨sound', traced⟩
        exact CapturedException.sound_raised sound' (traced rfl)
      · exact fun _ _ failed => failed.1

theorem sound_deprecation
    (message : String)
    (level : Nat)
    (sound : session.Sound quiet acyclic owned)
    (open_ended :
      acyclic → ∀ category,
        wellKnown? session "DeprecationWarning" = some category →
          WarnsOpenEnded session category) :
    (deprecation message level).Ends session fun _ session' =>
      session'.Sound quiet acyclic owned := by
  simp only [deprecation, wellKnown, Op.ends_bind, Op.ends_session, Op.andThen_ok]
  cases known : wellKnown? session "DeprecationWarning" with
  | none => exact sound
  | some category =>
      simp only [Op.ends_pure, Op.andThen_ok]
      exact sound_warn category message level sound fun isAcyclic =>
        open_ended isAcyclic category known

end Indicator

namespace HostError

variable {quiet acyclic : Prop} {session : Session} {owned : Multiset Handle}

/-- A host error becomes pending with references of its own. -/
theorem sound_raise
    {error : HostError}
    (usable :
      ∀ exception, error.exception? = some exception →
        Wrapper.AreUsable exception.wrappers session)
    (sound : session.Sound quiet acyclic owned) :
    error.raise.Ends session fun _ session' => session'.Sound quiet acyclic owned := by
  rw [raise]
  cases captured : error.exception? with
  | some exception => exact CapturedException.sound_restoreClone (usable exception captured) sound
  | none =>
      simp only [Op.ends_bind, Op.ends_withInterp, Op.andThen_ok, Op.ends_session]
      have classed := sound.useInterp fun _ ledger => ledger.hostClass error.description.1
      apply Op.ends_ofHeap
      · rintro ⟨value, interp⟩ made
        have valued := classed.useInterp fun _ ledger =>
          (ledger.newException made).congr _ (Multiset.cons_add _ _ _)
        simp only [Op.andThen_ok, Op.ends_bind, Op.ends_changeInterp]
        rw [← Op.ends_bind]
        exact (Indicator.sound_setNew valued).mono fun _ _ set => set.1
      · exact fun _ _ => classed

end HostError

end Custody
