import Custody.Proofs.Session.Leaving

/-!
# What failed captures leave behind

To capture an exception is to have a reference to each of its components and then to wrap
them.  While the tracker is open that does not fail.  Once it is closed the first component
is refused, and all the references are left behind.

A captured exception is made pending again with a new reference to each component.  If a
component is gone, the references to those before it are left behind.
-/

namespace Custody

variable {session session' : Session} {owned : Multiset Handle} {quiet : Prop}

/-- Taking references leaves every object as it is. -/
theorem Interpreter.tracebackOf_retainAll
    (interp : Interpreter)
    (items : List Handle)
    (handle : Handle) :
    (items.foldl retain interp).heap.tracebackOf handle = interp.heap.tracebackOf handle := by
  induction items generalizing interp with
  | nil => rfl
  | cons item rest step =>
      rw [List.foldl_cons, step, Heap.tracebackOf, payload?_retain]
      rfl

namespace Op

variable {α β : Type} {op : Op α}

namespace Refused

variable {post : Session → Prop}

/-- One operation after another is refused if either is. -/
theorem bind
    {mid : α → Session → Prop}
    {next : α → Op β}
    (first : op.Refused session post)
    (reached : op.Yields session mid)
    (later : ∀ value session', mid value session' → (next value).Refused session' post) :
    (op >>= next).Refused session post := by
  rw [Refused]
  apply (Ends.and first reached).bind
  · exact fun value session' between => later value session' (between.2 value rfl)
  · rintro (error | panic) session' between other failed room
    · exact between.1 error rfl room
    · cases failed

/-- An operation that is not refused drops no wrappers. -/
theorem orDrop_never
    (refused : op.Refused session fun _ => False)
    (wrappers : List Wrapper) :
    (op.orDrop wrappers).Refused session fun _ => False := by
  rw [Refused, ends_orDrop]
  apply Ends.mono refused
  rintro ((error | panic) | value) session' never other failed room
  · exact never error rfl room
  · cases failed
  · cases failed

end Refused

/-- A reference is taken to an object that is there, and to no other. -/
theorem ends_retain_or
    {handle : Handle}
    {post : Except Abort Unit → Session → Prop}
    (taken :
      session.interp.heap.isLive handle = true →
        post (.ok ()) (session.updateInterp fun interp => interp.retain handle))
    (stumbles :
      ∀ reason,
        session.interp.heap.isLive handle = false → post (.error (.error (.heap reason))) session) :
    (tryInterp fun interp => interp.incref handle).Ends session post := by
  cases live : session.interp.heap.isLive handle with
  | true => exact ends_retain live (taken live)
  | false =>
      apply ends_tryInterp
      · exact fun interp held => Bool.noConfusion (live.symm.trans (Interpreter.isLive_of_incref held))
      · exact fun reason _ => stumbles reason live

/--
References are taken to the components of a triple one after another.  At the first that
is gone those taken before are left behind.
-/
theorem ends_retaining
    {next : Op β}
    {type value : Handle}
    {traceback : Option Handle}
    {post : Except Abort β → Session → Prop}
    (taken :
      (∀ handle ∈ (⟨type, some value, traceback⟩ : Triple).components,
        session.interp.heap.isLive handle = true) →
        next.Ends
          (session.updateInterp fun interp =>
            (⟨type, some value, traceback⟩ : Triple).components.foldl Interpreter.retain interp)
          post)
    (stumbles :
      ∀ before handle after reason,
        (⟨type, some value, traceback⟩ : Triple).components = before ++ handle :: after →
          (∀ other ∈ before, session.interp.heap.isLive other = true) →
            session.interp.heap.isLive handle = false →
              post (.error (.error (.heap reason)))
                (session.updateInterp fun interp => before.foldl Interpreter.retain interp)) :
    (do
      tryInterp fun interp => interp.incref type
      tryInterp fun interp => interp.incref value
      match traceback with
      | none => next
      | some entry =>
          tryInterp fun interp => interp.incref entry
          next : Op β).Ends session post := by
  rw [ends_bind]
  apply ends_retain_or
  · intro typed
    rw [andThen_ok, ends_bind]
    apply ends_retain_or
    · intro valued
      replace valued := (Interpreter.isLive_retain_eq _ _ _).symm.trans valued
      cases traceback with
      | none => exact taken (by simp [Triple.components, typed, valued])
      | some entry =>
          have same (other : Handle) :
              ((session.interp.retain type).retain value).heap.isLive other =
                session.interp.heap.isLive other :=
            (Interpreter.isLive_retain_eq _ _ _).trans (Interpreter.isLive_retain_eq _ _ _)
          rw [andThen_ok, ends_bind]
          apply ends_retain_or
          · intro traced
            replace traced := (same entry).symm.trans traced
            exact taken (by simp [Triple.components, typed, valued, traced])
          · intro reason gone
            exact stumbles [type, value] entry [] reason rfl (by simp [typed, valued])
              ((same entry).symm.trans gone)
    · intro reason gone
      exact stumbles [type] value traceback.toList reason rfl (by simp [typed])
        ((Interpreter.isLive_retain_eq _ _ _).symm.trans gone)
  · intro reason gone
    exact stumbles [] type (value :: traceback.toList) reason rfl (by simp) gone

end Op

namespace Session

/--
What was pending in an interpreter was taken and normalized, and all the references to
what it became were left behind.
-/
def Forfeits
    (session : Session)
    (interp : Interpreter)
    (session' : Session) :
    Prop :=
  ∃ triple failures normal value settled,
    interp.pending = some triple ∧
      ({ interp with pending := none } : Interpreter).Settles triple failures normal value settled ∧
        session.Leaves
          (⟨normal.type, some value, normal.traceback <|> settled.heap.tracebackOf value⟩ :
            Triple).references
          session'

/-- What was done to the interpreter before changed no account. -/
theorem Forfeits.of_interp
    {interp other : Interpreter}
    (forfeits : Forfeits { session with interp } other session')
    (accounts : ∀ credit, session.interp.Ledger False credit → interp.Ledger False credit) :
    session.Forfeits other session' := by
  rcases forfeits with ⟨triple, failures, normal, value, settled, pending, settles, leaves⟩
  exact ⟨triple, failures, normal, value, settled, pending, settles, leaves.same,
    fun credit ledger => leaves.accounts credit (accounts credit ledger)⟩

end Session

namespace Wrapper

/-- Whatever is wrapped, the tracker is open after it if it was before. -/
theorem isOpen_ofOwned (handle : Handle) :
    (ofOwned handle).Ends session fun _ session' =>
      session'.ownTracker.isOpen = session.ownTracker.isOpen := by
  rw [ofOwned, Op.register, Op.ends_bind]
  simp only [Op.ends_bind, Op.ends_session, Op.andThen_ok]
  cases registered : session.register handle with
  | error reason => rfl
  | ok result =>
      rcases result with ⟨ref, entered⟩
      have added : entered.ownTracker.isOpen = session.ownTracker.isOpen := by
        rcases Session.register_eq_ok registered with ⟨typeName, rfl, -⟩
        exact Registry.isOpen_addRecord _ _ _ _ _
      have drained := (Session.isOpen_collectThrottled entered).trans added
      simp only [Op.ends_bind, Op.ends_change, Op.andThen_ok]
      apply Op.ends_ofPanicking
      · intro count _
        have held : (entered.collectThrottled.2.updateRegistry fun registry =>
            registry.hold entered.collectThrottled.2.tracker).ownTracker.isOpen = _ :=
          Registry.read_updateTracker Tracker.isOpen _ _ _ fun _ => rfl
        exact held.trans drained
      · exact fun _ _ => drained

/-- A tracker that is closed takes nothing. -/
theorem rejects_ofOwned
    (isClosed : session.ownTracker.isOpen = false)
    (handle : Handle) :
    (ofOwned handle).Ends session fun outcome session' =>
      session' = session ∧ ∃ error, outcome = .error (.error error) := by
  rw [ofOwned, Op.register, Op.ends_bind]
  simp only [Op.ends_bind, Op.ends_session, Op.andThen_ok]
  cases registered : session.register handle with
  | error reason => exact ⟨rfl, reason, rfl⟩
  | ok result =>
      rw [Session.register, isClosed] at registered
      split at registered
      · cases registered
      · cases registered

/-- An open tracker takes a reference that the caller owns. -/
theorem accepts_ofOwned
    {handle : Handle}
    (sound : session.Sound quiet False (handle ::ₘ owned))
    (isOpen : session.ownTracker.isOpen = true) :
    (ofOwned handle).Refused session fun _ => False := by
  rcases sound.exists_ledger with ⟨_, ledger, -⟩
  have live (room : session.interp.heap.HasRoom) : session.interp.heap.isLive handle = true :=
    ledger.isLive_of_mem room
      (Multiset.mem_add.mpr (.inl (Multiset.mem_cons_self handle owned)))
  refine (refused_ofOwned live).mono ?_
  rintro _ - ⟨isClosed, -⟩
  exact Bool.noConfusion (isOpen.symm.trans isClosed)

/-- Once it has taken one reference of the caller an open tracker takes the next. -/
theorem reaches_ofOwned
    {handle : Handle}
    (sound : session.Sound quiet False (handle ::ₘ owned))
    (isOpen : session.ownTracker.isOpen = true) :
    (ofOwned handle).Yields session fun _ session' =>
      session'.Sound quiet False owned ∧ session'.ownTracker.isOpen = true := by
  apply ((smooth_ofOwned sound).and (isOpen_ofOwned handle)).mono
  rintro _ session' ⟨smooth, still⟩ _ _
  exact ⟨smooth.sound, still.trans isOpen⟩

/-- Some wrappers, of which one is the first whose object is gone. -/
structure GoneAt
    (wrappers before : List Wrapper)
    (wrapper : Wrapper)
    (after : List Wrapper)
    (session : Session) :
    Prop where
  split : wrappers = before ++ wrapper :: after
  live : ∀ other ∈ before, session.interp.heap.isLive (other.handle session) = true
  gone : session.interp.heap.isLive (wrapper.handle session) = false

end Wrapper

namespace CapturedException

variable {triple : Triple} {value : Handle}

/-- While the tracker is open the components of a normalized triple can be wrapped. -/
theorem accepts_ofNormalized
    (isValue : triple.value = some value)
    (sound : session.Sound quiet False (triple.references + owned))
    (isOpen : session.ownTracker.isOpen = true) :
    (ofNormalized triple).Refused session fun _ => False := by
  have ready := sound_completeTraceback isValue sound
  simp only [ofNormalized, isValue, Op.Refused, Op.ends_bind, Op.ends_withInterp, Op.andThen_ok,
    Op.ends_session]
  generalize completeTraceback session.interp value triple.traceback = result at ready ⊢
  rcases result with ⟨traceback, interp⟩
  rw [← Op.ends_bind]
  refine (Wrapper.accepts_ofOwned ready isOpen).bind (Wrapper.reaches_ofOwned ready isOpen) ?_
  rintro typeWrapper session₁ ⟨ready₁, isOpen₁⟩
  have second := (Wrapper.accepts_ofOwned ready₁ isOpen₁).orDrop_never [typeWrapper]
  refine second.bind ((Wrapper.reaches_ofOwned ready₁ isOpen₁).orDrop _) ?_
  rintro valueWrapper session₂ ⟨ready₂, isOpen₂⟩
  cases traceback with
  | none => exact fun _ _ _ => by contradiction
  | some entry =>
      have ready₂ := ready₂.congr (entry ::ₘ owned) (by simp)
      refine ((Wrapper.accepts_ofOwned ready₂ isOpen₂).orDrop_never _).bind
        ((Wrapper.reaches_ofOwned ready₂ isOpen₂).orDrop _) ?_
      intro entryWrapper session₃ _ error failed
      cases failed

/-- A normalized triple is refused by a closed tracker, before any component is wrapped. -/
theorem refused_ofNormalized
    (isValue : triple.value = some value)
    (sound : session.Sound quiet False (triple.references + owned)) :
    (ofNormalized triple).Refused session fun session' =>
      session.ownTracker.isOpen = false ∧
        session' =
          { session with
            interp := (completeTraceback session.interp value triple.traceback).2 } := by
  cases isOpen : session.ownTracker.isOpen with
  | true => exact (accepts_ofNormalized isValue sound isOpen).mono fun _ _ => False.elim
  | false =>
      simp only [ofNormalized, isValue, Op.Refused, Op.ends_bind, Op.ends_withInterp, Op.andThen_ok,
        Op.ends_session]
      generalize completeTraceback session.interp value triple.traceback = result
      rcases result with ⟨traceback, interp⟩
      have isClosed : ({ session with interp } : Session).ownTracker.isOpen = false := isOpen
      apply (Wrapper.rejects_ofOwned isClosed triple.type).mono
      rintro _ session' ⟨rfl, error, rfl⟩ _ _ _
      exact ⟨trivial, rfl⟩

/-- What is left behind of a triple that was refused, if nothing happened to its references before. -/
theorem leaves_completeTraceback
    {interp : Interpreter}
    (accounts :
      ∀ credit,
        session.interp.Ledger False credit → interp.Ledger False (triple.references + credit))
    (isValue : triple.value = some value)
    (whole : interp.heap.Whole) :
    session.Leaves
      (⟨triple.type, some value, triple.traceback <|> interp.heap.tracebackOf value⟩ :
        Triple).references
      { session with interp := (completeTraceback interp value triple.traceback).2 } := by
  rw [← completeTraceback_eq fun _ attached => whole (Heap.points_of_tracebackOf attached)]
  refine .of_interp fun credit ledger => ?_
  have before := (accounts credit ledger).congr
    (triple.traceback.toList + (triple.type ::ₘ value ::ₘ credit))
    (by
      simp only [Triple.references, isValue, Option.toList_some, Multiset.coe_singleton,
        Multiset.singleton_add, Multiset.cons_add, Multiset.add_cons])
  refine (ledger_completeTraceback value before).congr _ ?_
  simp only [Triple.references, Option.toList_some, Multiset.coe_singleton,
    Multiset.singleton_add, Multiset.cons_add, Multiset.add_cons]

/--
If the pending error cannot be captured, it is gone, and all the references to what it
was normalized to are left behind.
-/
theorem refused_fetch
    (sound : session.Sound False False owned)
    (evolves : session.interp.heap.HasRoom → Interpreter.initial.Evolves session.interp) :
    fetch.Refused session fun session' =>
      session.ownTracker.isOpen = false ∧
        session.Forfeits session.interp session' := by
  intro error failed room
  cases pending : session.interp.pending with
  | none =>
      have nothing : fetch.on session = (.ok none, session) := by
        rw [fetch, Op.on_bind]
        simp only [Op.session, Op.of, Op.on, Interpreter.fetch, pending]
        rfl
      rw [nothing] at failed
      cases failed
  | some triple =>
      rcases settles_fetch sound evolves pending room with
        ⟨failures, normal, value, interp, settles, wrapped⟩
      have accounts (credit : Multiset Handle) (ledger : session.interp.Ledger False credit) :
          interp.Ledger False (normal.references + credit) :=
        settles.attempts.ledger (ledger.fetch (Interpreter.fetch_of_pending pending))
      have ready : Session.Sound False False { session with interp } (normal.references + owned) :=
        sound.useInterp fun _ ledger => (accounts _ ledger).congr _ (add_assoc _ _ _)
      have refused := refused_ofNormalized settles.valued ready
      rw [Op.Refused, Op.Ends] at refused
      rw [wrapped, Op.on_map] at failed room ⊢
      generalize (ofNormalized normal).on { session with interp } = result
        at refused failed room ⊢
      rcases result with ⟨_ | _, session'⟩
      · cases failed
        rcases refused error rfl room with ⟨isClosed, rfl⟩
        have shrinks := shrinks_completeTraceback interp value normal.traceback
        rcases ready.exists_ledger with ⟨_, ledger, -⟩
        exact ⟨isClosed, triple, failures, normal, value, interp, pending, settles,
          leaves_completeTraceback accounts settles.valued
            (ledger.whole (shrinks.hasRoom_iff.mp room))⟩
      · cases failed

/-- There is nothing to look up if the traceback of a triple is that of its value. -/
theorem completeTraceback_of_attached
    {interp : Interpreter}
    {traceback : Option Handle}
    (attached : interp.heap.tracebackOf value = traceback) :
    completeTraceback interp value traceback = (traceback, interp) := by
  cases traceback with
  | some entry => rfl
  | none => rw [completeTraceback, attached]

/-- What is left behind of a triple to whose components references were taken. -/
theorem refused_ofRetained
    (isValue : triple.value = some value)
    (attached : session.interp.heap.tracebackOf value = triple.traceback)
    (sound : session.Sound quiet False owned)
    (live : ∀ handle ∈ triple.components, session.interp.heap.isLive handle = true) :
    (ofNormalized triple).Refused
      (session.updateInterp fun interp => triple.components.foldl Interpreter.retain interp)
      fun session' =>
        session.ownTracker.isOpen = false ∧ session.Leaves triple.references session' := by
  have accounts (credit : Multiset Handle) (ledger : session.interp.Ledger False credit) :=
    (ledger.retainAll fun _ => live).congr (triple.references + credit)
      (by rw [Triple.coe_components])
  have ready := sound.useInterp fun rest ledger =>
    (accounts (owned + rest) ledger).congr _ (add_assoc _ _ _)
  have attached' := (session.interp.tracebackOf_retainAll triple.components value).trans attached
  refine (refused_ofNormalized isValue ready).mono ?_
  rintro _ - ⟨isClosed, rfl⟩
  rw [completeTraceback_of_attached attached']
  exact ⟨isClosed, .of_interp accounts⟩

/-- If the cause of an exception cannot be captured, the references taken to it are left behind. -/
theorem refused_cause
    (exception : CapturedException)
    (sound : session.Sound quiet False owned) :
    exception.cause.Refused session fun session' =>
      exception.value.tracker ≠ session.tracker ∧ session' = session ∨
        session.ownTracker.isOpen = false ∧
          ∃ cause type,
            session.interp.heap.causeOf (exception.value.handle session) = some cause ∧
              session.interp.typeOf cause = .ok type ∧
                session.Leaves
                  (⟨type, some cause, session.interp.heap.tracebackOf cause⟩ : Triple).references
                  session' := by
  rw [cause, Op.Refused, Op.ends_bind]
  apply Wrapper.ends_requireOwn
  · intro _
    simp only [Op.andThen_ok, Op.ends_bind, Op.ends_session]
    split
    · exact fun _ failed => by cases failed
    · next cause linked =>
        rcases sound.exists_ledger with ⟨_, ledger, -⟩
        have there (room : session.interp.heap.HasRoom) :=
          ledger.heap.isLive_of_points room (Heap.points_of_causeOf linked)
        rw [Op.ends_bind]
        apply Op.ends_ofHeap
        · intro type typed
          have live (room : session.interp.heap.HasRoom) :=
            isLive_of_causeOf ledger room linked typed
          rw [Op.andThen_ok]
          apply Op.ends_retaining
          · intro held
            rw [Op.ends_bind]
            apply Op.Ends.mono (refused_ofRetained rfl rfl sound held)
            rintro ((error | panic) | exception) session' refused other failed room
            · rcases refused error rfl room with ⟨isClosed, leaves⟩
              exact .inr ⟨isClosed, cause, type, linked, typed, leaves⟩
            · cases failed
            · cases failed
          · intro before handle after reason split _ gone error _ room
            have room' := (Interpreter.shrinks_retainAll before session.interp).hasRoom_iff.mp room
            have found := live room' handle (by rw [split]; simp)
            exact Bool.noConfusion (gone.symm.trans found)
        · intro reason failed error _ room
          rcases Interpreter.exists_typeName (there room) with ⟨_, named⟩
          rcases Except.bind_eq_ok_iff.mp named with ⟨type, typed, -⟩
          exact absurd (failed.symm.trans typed) (by simp)
  · exact fun foreign _ _ _ => .inl ⟨foreign, rfl⟩

/--
An exception could not be made pending again: it is of another runtime, or one of its
objects is gone.  The references that were taken to the objects before that one are left
behind, each of which has as many more as it was listed.
-/
structure Strands
    (exception : CapturedException)
    (session : Session)
    (behind : List Handle)
    (session' : Session) :
    Prop where
  reason :
    exception.value.tracker ≠ session.tracker ∧ behind = [] ∨
      ∃ before wrapper after,
        Wrapper.GoneAt exception.wrappers before wrapper after session ∧
          behind = before.map fun other => other.handle session
  leaves : session.Leaves behind session'
  counts :
    ∀ handle,
      session'.interp.heap.refcount? handle =
        (session.interp.heap.refcount? handle).map (· + (behind.count handle : Int))

theorem refused_restoreClone (exception : CapturedException) :
    exception.restoreClone.Refused session fun session' =>
      ∃ behind, exception.Strands session behind session' := by
  rw [restoreClone, Op.Refused, Op.ends_bind]
  apply Wrapper.ends_requireOwn
  · intro _
    rw [Op.andThen_ok, Op.ends_bind, Op.ends_session, Op.andThen_ok]
    apply Op.ends_retaining
    · intro _ _ failed
      cases failed
    · intro before handle after reason split live gone error _ _
      have split' : (exception.triple session).components = before ++ handle :: after := split
      rw [components_triple, List.map_eq_append_iff] at split'
      rcases split' with ⟨before, rest, parts, rfl, others⟩
      rw [List.map_eq_cons_iff] at others
      rcases others with ⟨wrapper, after, rfl, rfl, rfl⟩
      have goneAt : Wrapper.GoneAt exception.wrappers before wrapper after session :=
        ⟨parts, fun other among => live _ (List.mem_map_of_mem among), gone⟩
      exact ⟨_,
        { reason := .inr ⟨before, wrapper, after, goneAt, rfl⟩
          leaves := .of_interp fun _ ledger => ledger.retainAll fun _ => live
          counts := Interpreter.refcount?_retainAll live }⟩
  · intro foreign _ _ _
    exact ⟨[],
      { reason := .inl ⟨foreign, rfl⟩
        leaves := .refl session
        counts := by simp }⟩

/-- The error that a call has just raised is left behind if it cannot be captured. -/
theorem refused_raised
    {α : Type}
    (sound : session.Sound False False owned)
    (evolves : session.interp.heap.HasRoom → Interpreter.initial.Evolves session.interp)
    (pending : session.interp.heap.HasRoom → session.interp.pending ≠ none) :
    (raised : Op α).Ends session fun outcome session' =>
      ∀ error,
        outcome = .error (.error error) →
          session'.interp.heap.HasRoom →
            (∃ exception, error = .foreign exception) ∨
              session.ownTracker.isOpen = false ∧ session.Forfeits session.interp session' := by
  rw [raised, Op.ends_bind]
  have fetched : fetch.Ends session (Fetches False session) := fetches False.elim
  have started : fetch.Ends session fun _ session' =>
      session'.interp.heap.HasRoom → session.interp.heap.HasRoom := fun room =>
    Session.Strokes.hasRoom relates_fetch ((sound_fetch sound False.elim).untroubled room) room
  apply ((refused_fetch sound evolves).and (fetched.and started)).mono
  rintro ((error | panic) | (_ | exception)) session' ⟨refused, fetched, started⟩
  · rintro _ failed room
    exact .inr (refused error rfl room)
  · rintro _ failed
    cases failed
  · rintro _ _ room
    exact absurd fetched (pending (started room))
  · rintro error failed -
    cases failed
    exact .inl ⟨exception, rfl⟩

end CapturedException

namespace HostError

/--
If a host error cannot be raised, an exception that it carries cannot be made pending
again, or nothing is left behind.
-/
theorem refused_raise (error : HostError) :
    error.raise.Refused session fun session' =>
      (∃ exception behind,
        error.Carries exception ∧ exception.Strands session behind session') ∨
        session.Leaves 0 session' := by
  rw [raise]
  cases captured : error.exception? with
  | some exception =>
      have carries := exception?_eq_some_iff.mp captured
      refine exception.refused_restoreClone.mono ?_
      rintro session' - ⟨behind, strands⟩
      exact .inl ⟨exception, behind, carries, strands⟩
  | none =>
      simp only [Op.Refused, Op.ends_bind, Op.ends_withInterp, Op.andThen_ok, Op.ends_session]
      have same {credit : Multiset Handle} {interp : Interpreter}
          (ledger : interp.Ledger False credit) : interp.Ledger False (0 + credit) :=
        ledger.congr _ (zero_add credit)
      apply Op.ends_ofHeap
      · rintro ⟨value, interp⟩ made
        simp only [Op.andThen_ok, Op.ends_bind, Op.ends_changeInterp, Op.ends_onError]
        apply Op.ends_tryInterp
        · exact fun _ _ _ failed => by cases failed
        · intro reason _ _ _ _
          refine .inr (.of_interp fun credit ledger => same ?_)
          exact ((ledger.hostClass error.description.1).newException made).release
      · exact fun _ _ _ _ _ => .inr (.of_interp fun credit ledger => same (ledger.hostClass _))

end HostError

namespace Wrapper

/--
If an item cannot be wrapped, the wrapper of the container is of another runtime, or the
item is left behind, or the error is that raised instead of an item.
-/
theorem refused_getItem
    (sound : session.Sound False False owned)
    (evolves : session.interp.heap.HasRoom → Interpreter.initial.Evolves session.interp)
    (wrapper : Wrapper)
    (index : Int) :
    (wrapper.getItem index).Ends session fun outcome session' =>
      ∀ error,
        outcome = .error (.error error) →
          session'.interp.heap.HasRoom →
            (∃ exception, error = .foreign exception) ∨
              wrapper.tracker ≠ session.tracker ∧ session' = session ∨
                session.ownTracker.isOpen = false ∧
                  ((∃ item,
                    (session.interp.getItem (wrapper.handle session) index).1 = .ok item ∧
                      session.Leaves {item} session') ∨
                    ∃ sign raised,
                      session.interp.getItem (wrapper.handle session) index =
                          (.error sign, raised) ∧
                        session.Forfeits raised session') := by
  rw [getItem, Op.ends_bind]
  apply ends_requireOwn
  · intro _
    simp only [Op.andThen_ok, Op.ends_bind, Op.ends_session, Op.ends_withInterp]
    rcases sound.exists_ledger with ⟨_, ledger, -⟩
    have evolved := Interpreter.Evolves.getItem session.interp (wrapper.handle session) index
    have armed (room : session.interp.heap.HasRoom) :=
      (ledger.armed room).signals_getItem (wrapper.handle session) index
    have accounts (credit : Multiset Handle) (ledger : session.interp.Ledger False credit) :=
      ledger.getItem (wrapper.handle session) index
    generalize session.interp.getItem (wrapper.handle session) index = result
      at evolved armed accounts ⊢
    rcases result with ⟨sign | item, interp⟩
    · have ready : Session.Sound False False { session with interp } owned :=
        sound.useInterp fun rest ledger => (accounts _ ledger).congr _ (by simp [Except.toOption])
      apply (CapturedException.refused_raised ready
        (fun room => (evolves (evolved.heap.hasRoom room)).trans evolved)
        fun room => armed (evolved.heap.hasRoom room)).mono
      intro outcome session' refused error failed room
      rcases refused error failed room with
        foreign | ⟨isClosed, forfeits⟩
      · exact .inl foreign
      · refine .inr (.inr ⟨isClosed, .inr ⟨sign, interp, rfl, ?_⟩⟩)
        refine forfeits.of_interp fun credit ledger => ?_
        exact (accounts credit ledger).congr _ (by simp [Except.toOption])
    · have leaves : session.Leaves {item} { session with interp } :=
        .of_interp fun credit ledger =>
          (accounts credit ledger).congr _ (by simp [Except.toOption])
      apply Op.Ends.mono (isClosed_of_leaves sound leaves)
      intro outcome session' refused error failed room
      rcases refused error failed room with ⟨isClosed, rfl⟩
      exact .inr (.inr ⟨isClosed, .inl ⟨item, rfl, leaves⟩⟩)
  · exact fun foreign _ _ _ => .inr (.inl ⟨foreign, rfl⟩)

end Wrapper

end Custody
