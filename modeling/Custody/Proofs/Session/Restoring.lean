import Custody.Proofs.Session.Capturing
import Custody.Session.HostError

/-!
# Putting an exception back

A captured exception can be made pending in two ways.  Either its wrappers hand
their references over, or the exception stays with the caller and new references
are taken.  In both the very components become pending that were captured.
-/

namespace Custody

variable {session session' : Session}

/-- A reference to what is there can be taken. -/
theorem Op.ends_retain
    {handle : Handle}
    {post : Except Abort Unit → Session → Prop}
    (live : session.interp.heap.isLive handle = true)
    (taken : post (.ok ()) (session.updateInterp fun interp => interp.retain handle)) :
    (tryInterp fun interp => interp.incref handle).Ends session post := by
  rcases Interpreter.incref_of_isLive live with ⟨held, succeeds⟩
  have retained : session.interp.retain handle = held := by rw [Interpreter.retain, succeeds]
  rw [Session.updateInterp, retained] at taken
  apply ends_tryInterp
  · intro interp succeeds'
    rw [succeeds, Except.ok.injEq] at succeeds'
    exact succeeds' ▸ taken
  · intro reason failed
    rw [succeeds] at failed
    cases failed

namespace CapturedException

variable {exception : CapturedException}

/-- The triple that a captured exception stands for. -/
def triple (exception : CapturedException) (session : Session) : Triple where
  type := exception.type.handle session
  value := some (exception.value.handle session)
  traceback := exception.traceback.map fun wrapper => wrapper.handle session

/-- The components of a captured exception are the objects of its wrappers. -/
theorem components_triple
    (exception : CapturedException)
    (session : Session) :
    (exception.triple session).components =
      exception.wrappers.map fun wrapper => wrapper.handle session := by
  simp [Triple.components, triple, wrappers, Option.toList_map]

theorem forall_mem_components
    {isFine : Handle → Prop} :
    (∀ handle ∈ (exception.triple session).components, isFine handle) ↔
      ∀ wrapper ∈ exception.wrappers, isFine (wrapper.handle session) := by
  simp [components_triple]

/-! ## Handing over -/

/-- The references of the wrappers go to the pending error, and the wrappers are used up. -/
theorem ends_restore
    (intact : Wrapper.AreIntact exception.wrappers session) :
    exception.restore.Ends session fun outcome session' =>
      outcome = .ok () ∧
        ∃ given,
          Wrapper.HandsOver exception.wrappers session given ∧
            session' =
              given.updateInterp fun interp => interp.restore (exception.triple session) := by
  rcases exception with ⟨type, value, traceback, typeName, valueText⟩
  have own : value.tracker = session.tracker := intact.own _ (by simp [wrappers])
  have distinct := intact.distinct
  simp only [wrappers] at intact distinct ⊢
  rw [List.map_cons, List.nodup_cons, List.map_cons, List.nodup_cons] at distinct
  rw [restore, Op.ends_bind, Op.ends_orDrop]
  apply Wrapper.ends_requireOwn
  · intro _
    rw [Op.orDropped, Op.andThen_ok, Op.ends_bind, Op.ends_orDrop]
    apply (Wrapper.handsOver_intoHandle intact).mono
    rintro _ session₁ ⟨rfl, first⟩
    have intact₁ := intact.handedOver first
    rw [Op.orDropped, Op.andThen_ok, Op.ends_bind, Op.ends_orDrop]
    apply (Wrapper.handsOver_intoHandle intact₁).mono
    rintro _ session₂ ⟨rfl, second⟩
    have intact₂ := intact₁.handedOver second
    rw [Op.orDropped, Op.andThen_ok]
    cases traceback with
    | none =>
        refine ⟨rfl, session₂, first.cons second distinct.1, ?_⟩
        rw [first.handle_eq value]
        rfl
    | some entry =>
        simp only [Op.ends_bind, Op.ends_map]
        apply (Wrapper.handsOver_intoHandle intact₂).mono
        rintro _ session₃ ⟨rfl, third⟩
        refine ⟨rfl, session₃, first.cons (second.cons third distinct.2.1) distinct.1, ?_⟩
        rw [second.handle_eq entry, first.handle_eq entry, first.handle_eq value]
        rfl
  · exact fun foreign => absurd own foreign

/-! ## Keeping -/

/-- New references become pending, and the wrappers keep theirs. -/
theorem ends_restoreClone
    (own : exception.value.tracker = session.tracker)
    (live :
      ∀ wrapper ∈ exception.wrappers,
        session.interp.heap.isLive (wrapper.handle session) = true) :
    exception.restoreClone.Ends session fun outcome session' =>
      outcome = .ok () ∧
        session' =
          session.updateInterp fun interp =>
            ((exception.triple session).components.foldl Interpreter.retain interp).restore
              (exception.triple session) := by
  rcases exception with ⟨type, value, traceback, typeName, valueText⟩
  have typed := live type (by simp [wrappers])
  have valued := Interpreter.isLive_retain (type.handle session) (live value (by simp [wrappers]))
  rw [restoreClone, Op.ends_bind]
  apply Wrapper.ends_requireOwn
  · intro _
    rw [Op.andThen_ok, Op.ends_bind, Op.ends_session, Op.andThen_ok, Op.ends_bind]
    refine Op.ends_retain typed ?_
    rw [Op.andThen_ok, Op.ends_bind]
    refine Op.ends_retain ?_ ?_
    · exact valued
    · cases traceback with
      | none => exact ⟨rfl, rfl⟩
      | some entry =>
          have traced := Interpreter.isLive_retain (value.handle session)
            (Interpreter.isLive_retain (type.handle session) (live entry (by simp [wrappers])))
          simp only [Op.andThen_ok, Option.map_some, Op.ends_bind]
          refine Op.ends_retain ?_ ?_
          · exact traced
          · exact ⟨rfl, rfl⟩
  · exact fun foreign => absurd own foreign

end CapturedException

/-! ## Chains of host errors -/

namespace HostError

/-- A captured exception is at the end of the chain of sources of an error. -/
inductive Carries : HostError → CapturedException → Prop where
  | captured (exception : CapturedException) : Carries (.captured exception) exception
  | wrapped (key text : String) {source : HostError} {exception : CapturedException}
      (carries : source.Carries exception) : Carries (.wrapped key text source) exception

/-- The search along the sources finds the exception, however far away it is. -/
theorem exception?_eq_some_iff
    {error : HostError}
    {exception : CapturedException} :
    error.exception? = some exception ↔ error.Carries exception := by
  constructor
  · intro found
    induction error with
    | plain key text => cases found
    | captured other =>
        cases found
        exact .captured exception
    | wrapped key text source step => exact .wrapped key text (step found)
  · intro carries
    induction carries with
    | captured exception => rfl
    | wrapped key text _ step => exact step

/-- Raising an error that carries an exception keeps the exception. -/
theorem raise_of_carries
    {error : HostError}
    {exception : CapturedException}
    (carries : error.Carries exception) :
    error.raise = exception.restoreClone := by
  rw [raise, exception?_eq_some_iff.mpr carries]

end HostError

end Custody
