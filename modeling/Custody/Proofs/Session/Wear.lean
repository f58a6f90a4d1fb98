import Custody.Proofs.Session.Failing

/-!
# Worn runtimes

Nothing is asked of the wrappers that a request borrows: those of the items of a list or
of an exception may be of another runtime, and their objects may be gone.  Such a request
is refused, and references may be left behind.  Nobody else loses anything by that, and so
the runtime goes on as before.

What a refused request leaves behind is the same whatever was left behind before.
-/

namespace Custody

variable {session session' : Session} {owned : Multiset Handle}

namespace Session

/-- References that were left behind are lost to everybody. -/
theorem Sound.of_leaves
    {behind : Multiset Handle}
    (sound : session.Sound False False owned)
    (leaves : session.Leaves behind session') :
    session'.Sound False False owned := by
  have held : Sound False False { session with interp := session'.interp } (behind + owned) :=
    sound.useInterp fun rest ledger => (leaves.accounts _ ledger).congr _ (add_assoc _ _ _)
  rw [← leaves.same] at held
  exact held.lose id (Multiset.le_add_left _ _)

end Session

/-! ## Whatever is borrowed -/

namespace Wrapper

theorem sound_ofList_any
    (items : List Wrapper)
    (sound : session.Sound False False owned) :
    (ofList items).Ends session fun _ session' => session'.Sound False False owned := by
  by_cases usable : AreUsable items session
  · exact sound_ofList usable sound
  · rw [ofList]
    apply (ends_retainAll items).bind
    · exact fun _ _ taken => absurd taken.2.1 usable
    · rintro (error | panic) session' stopped
      · rcases stopped with ⟨before, wrapper, after, -, leaves⟩
        exact sound.of_leaves leaves
      · exact stopped.elim

/-- Giving a wrapper up hands its reference over, or fails, and is over with in the registry. -/
private theorem handover
    {wrapper : Wrapper}
    (own : wrapper.tracker = session.tracker)
    (sound : session.Sound False False owned) :
    wrapper.intoHandle.Ends session fun outcome session' =>
      session'.tracker = session.tracker ∧
        match outcome with
        | .ok handle => session'.Sound False False (handle ::ₘ owned)
        | .error _ => session'.Sound False False owned := by
  have stays : wrapper.intoHandle.Ends session fun _ session' =>
      session'.tracker = session.tracker := rfl
  apply (stays.and (sound_intoHandle own sound)).mono
  rintro (abort | handle) session' ⟨tracker, handed⟩
  · exact ⟨tracker, handed.congr _ (by simp [Except.toOption])⟩
  · exact ⟨tracker, handed.congr _ (by simp [Except.toOption])⟩

end Wrapper

namespace CapturedException

theorem sound_restoreClone_any
    (exception : CapturedException)
    (sound : session.Sound False False owned) :
    exception.restoreClone.Ends session fun _ session' => session'.Sound False False owned := by
  rw [restoreClone, Op.ends_bind]
  apply Wrapper.ends_requireOwn
  · intro _
    rw [Op.andThen_ok, Op.ends_bind, Op.ends_session, Op.andThen_ok]
    apply Op.ends_retaining
    · intro live
      refine sound_restored (sound.useInterp fun rest ledger => ?_)
      refine (ledger.retainAll fun _ => live).congr _ ?_
      rw [Triple.coe_components, add_assoc]
    · intro before handle after reason _ live _
      exact sound.of_leaves (.of_interp fun _ ledger => ledger.retainAll fun _ => live)
  · exact fun _ => sound

/-- An exception that cannot be handed over is given up, with what was handed over before. -/
theorem sound_restore_own
    {exception : CapturedException}
    (own : ∀ wrapper ∈ exception.wrappers, wrapper.tracker = session.tracker)
    (sound : session.Sound False False owned) :
    exception.restore.Ends session fun _ session' => session'.Sound False False owned := by
  have dropped {session : Session} {others : Multiset Handle} (wrappers : List Wrapper)
      (sound : session.Sound False False (others + owned)) :
      (session.updateRegistry fun registry => registry.dropWrappers wrappers).Sound False False
        owned :=
    (sound.lose id (Multiset.le_add_left _ _)).of_spares
      (.updateRegistry (Registry.Defers.dropWrappers _ wrappers).mild)
  rw [restore, Op.ends_bind, Op.ends_orDrop]
  apply Wrapper.ends_requireOwn
  · intro _
    rw [Op.orDropped, Op.andThen_ok, Op.ends_bind, Op.ends_orDrop]
    apply (Wrapper.handover (own exception.type (by simp [wrappers])) sound).mono
    rintro (abort | type) session₁ ⟨tracker₁, handed₁⟩
    · exact dropped _ (handed₁.congr _ (zero_add _))
    rw [Op.orDropped, Op.andThen_ok, Op.ends_bind, Op.ends_orDrop]
    have own₁ := (own exception.value (by simp [wrappers])).trans tracker₁.symm
    apply (Wrapper.handover own₁ handed₁).mono
    rintro (abort | value) session₂ ⟨tracker₂, handed₂⟩
    · exact dropped _ (handed₂.congr ({type} + owned) (Multiset.singleton_add _ _))
    rw [Op.orDropped, Op.andThen_ok]
    cases traced : exception.traceback with
    | none =>
        refine sound_restored (handed₂.congr _ ?_)
        simp [Triple.references, Multiset.cons_swap]
    | some wrapper =>
        have own₂ : wrapper.tracker = session₂.tracker :=
          (own wrapper (by simp [wrappers, traced])).trans (tracker₂.trans tracker₁).symm
        simp only [Op.ends_bind, Op.ends_map]
        apply (Wrapper.handover own₂ handed₂).mono
        rintro (abort | entry) session₃ ⟨-, handed₃⟩
        · exact handed₃.lose id
            ((Multiset.le_cons_self _ _).trans (Multiset.le_cons_self _ _))
        · refine sound_restored (handed₃.congr _ ?_)
          simp only [Triple.references, Option.toList_some, Multiset.coe_singleton,
            Multiset.cons_add, Multiset.singleton_add]
          rw [Multiset.cons_swap entry value, Multiset.cons_swap entry type,
            Multiset.cons_swap value type]
  · exact fun _ => dropped _ (sound.congr _ (zero_add _))

end CapturedException

theorem HostError.sound_raise_any
    (error : HostError)
    (sound : session.Sound False False owned) :
    error.raise.Ends session fun _ session' => session'.Sound False False owned := by
  cases captured : error.exception? with
  | some exception =>
      rw [raise, captured]
      exact exception.sound_restoreClone_any sound
  | none => exact sound_raise (fun _ found => by rw [captured] at found; cases found) sound

namespace Session

/-- As `Tolerated`, but what is borrowed may be anything, and what is used up may be worn. -/
def Request.Endured (session : Session) : Request → Prop
  | .wrapList _ => True
  | .restoreClone _ => True
  | .raiseError _ => True
  | .restore exception => ∀ wrapper ∈ exception.wrappers, wrapper.tracker = session.tracker
  | request => request.Tolerated session

/-- Whatever is borrowed, an account of the references of the runtime can be given. -/
theorem Sound.endure
    {request : Request}
    (sound : session.Sound False False (request.taken + owned))
    (endured : request.Endured session) :
    (request.perform session).2.Sound False False ((request.perform session).1 + owned) := by
  have nothing {session' : Session} (sound : session'.Sound False False owned) :
      session'.Sound False False (([] : List Handle) + owned) :=
    sound.congr _ (zero_add _)
  have plain (free : request.taken = 0) : session.Sound False False owned :=
    sound.congr _ (by rw [free, zero_add])
  cases request with
  | wrapList items => exact nothing (Wrapper.sound_ofList_any items (plain rfl))
  | restoreClone exception => exact nothing (exception.sound_restoreClone_any (plain rfl))
  | raiseError error => exact nothing (error.sound_raise_any (plain rfl))
  | restore exception =>
      exact nothing (CapturedException.sound_restore_own endured (plain rfl))
  | _ => exact sound.perform endured False.elim False.elim

/--
A runtime in use, whatever wrappers its requests borrow.  Callbacks may panic, and the
runtime may be shut down.
-/
inductive Worn
    (config : Config)
    (hasTable : Bool) :
    Session → Multiset Handle → Prop
  | opened : Worn config hasTable (opened config hasTable) 0
  | request
      {session : Session}
      {owned : Multiset Handle}
      (request : Request)
      (before : Worn config hasTable session (request.taken + owned))
      (endured : request.Endured session) :
      Worn config hasTable (request.perform session).2 ((request.perform session).1 + owned)

theorem Request.Tolerated.endured
    {request : Request}
    (tolerated : request.Tolerated session) :
    request.Endured session := by
  cases request with
  | wrapList items => trivial
  | restoreClone exception => trivial
  | raiseError error => trivial
  | restore exception => exact Wrapper.AreIntact.own tolerated
  | _ => exact tolerated

namespace Worn

variable {config : Config} {hasTable : Bool}

theorem of_employed (employed : Employed config hasTable session owned) :
    Worn config hasTable session owned := by
  induction employed with
  | opened => exact .opened
  | request request _ tolerated before => exact .request request before tolerated.endured

theorem sound (worn : Worn config hasTable session owned) : session.Sound False False owned := by
  induction worn with
  | opened => exact sound_opened False False config hasTable
  | request request _ endured before => exact before.endure endured

/-- As long as there is room, objects remain what they are. -/
theorem evolves
    (worn : Worn config hasTable session owned)
    (room : session.interp.heap.HasRoom) :
    Interpreter.initial.Evolves session.interp := by
  induction worn with
  | opened => exact evolves_opened config hasTable
  | request request before endured step =>
      have untroubled := (before.request request endured).sound.untroubled room
      have heap := (passes_perform request _).heap untroubled
      exact (step (heap.hasRoom room)).trans ⟨heap, builtins_perform request untroubled⟩

/-- The counts of a worn runtime are positive as long as there is room. -/
theorem wellFormed
    (worn : Worn config hasTable session owned)
    (room : session.interp.heap.HasRoom) :
    session.interp.heap.WellFormed :=
  Heap.Evolves.wellFormed
    (Relation.ReflTransGen.trans Interpreter.evolves_initial (worn.evolves room).heap) room

end Worn

end Session

/-! ## What refused requests leave behind -/

variable {config : Config} {hasTable : Bool}

namespace Wrapper

/--
What a maker of wrappers leaves behind if it is refused, whatever it is asked to wrap.  No
record is registered.  A new object, or the item of a container, is left behind as a whole,
which happens only if the tracker is closed.  So is the error that was raised instead of
an item and cannot be captured.  A list leaves behind what was taken of its items, up to
the first that cannot be used.  Only a second wrapper of an object leaves nothing behind.
-/
theorem left_behind (worn : session.Worn config hasTable owned) :
    (ofNone.Refused session fun session' =>
      session.ownTracker.isOpen = false ∧
        session.Leaves {session.interp.noneObject} session') ∧
    (∀ payload : Payload, payload.children = [] →
      (ofPayload payload).Refused session fun session' =>
        session.ownTracker.isOpen = false ∧
          session.Leaves {(session.interp.allocate payload).1} session') ∧
    (∀ items,
      (ofList items).Refused session fun session' =>
        (∃ before wrapper after,
          FailsAt items before wrapper after session ∧
            session.Leaves (before.map fun wrapper => wrapper.handle session) session') ∨
          session.ownTracker.isOpen = false ∧
            AreUsable items session ∧
              ∃ list,
                session.Leaves {list} session' ∧
                  session'.interp.heap.payload? list =
                    some (.list (items.map fun wrapper => wrapper.handle session))) ∧
    (∀ handle, (ofBorrowed handle).Refused session fun session' => session' = session) ∧
    (∀ wrapper : Wrapper, wrapper.clone.Refused session fun session' => session' = session) ∧
    ∀ (wrapper : Wrapper) (index : Int),
      (wrapper.getItem index).Ends session fun outcome session' =>
        ∀ error,
          outcome = .error (.error error) →
            session'.interp.heap.HasRoom →
              (∃ exception, error = .foreign exception) ∨
                wrapper.tracker ≠ session.tracker ∧ session' = session ∨
                  session.ownTracker.isOpen = false ∧
                    ((∃ item,
                      (session.interp.getItem (wrapper.handle session) index).1 = .ok item ∧
                        session.Leaves {item} session') ∨
                      ∃ sign raised,
                        session.interp.getItem (wrapper.handle session) index =
                            (.error sign, raised) ∧
                          session.Forfeits raised session') :=
  ⟨refused_ofNone worn.sound, fun _ => refused_ofPayload worn.sound,
    fun _ => refused_ofList worn.sound, refused_ofBorrowed worn.wellFormed,
    refused_clone worn.wellFormed, refused_getItem worn.sound worn.evolves⟩

end Wrapper

/-- A runtime in which a number is wrapped. -/
def Session.seven : Session :=
  (Request.perform (opened .standard true) (.wrapPayload (.int 7))).2

theorem Session.worn_seven : seven.Worn .standard true 0 :=
  .of_employed (Employed.opened.follow (.wrapPayload (.int 7)) rfl rfl trivial)

/-- A list of the number and of something of another runtime is refused. -/
theorem Wrapper.left_behind_seven :
    ((ofList [⟨0, 0, none⟩, ⟨1, 1, none⟩]).on Session.seven).1 =
        .error (.error (.misuse (.foreignWrapper "list" (handle ⟨1, 1, none⟩ Session.seven)))) ∧
      Session.seven.Leaves {⟨53, 0⟩}
        ((ofList [⟨0, 0, none⟩, ⟨1, 1, none⟩]).on Session.seven).2 := by
  have facts :
      ((ofList [⟨0, 0, none⟩, ⟨1, 1, none⟩]).on Session.seven).1 =
          .error (.error (.misuse (.foreignWrapper "list" (handle ⟨1, 1, none⟩ Session.seven)))) ∧
        ((ofList [⟨0, 0, none⟩, ⟨1, 1, none⟩]).on Session.seven).2.interp.heap.HasRoom ∧
          Session.seven.ownTracker.isOpen = true ∧ Session.seven.tracker = 0 ∧
            handle ⟨0, 0, none⟩ Session.seven = ⟨53, 0⟩ ∧
              Session.seven.interp.heap.isLive ⟨53, 0⟩ = true := by
    decide +kernel
  rcases facts with ⟨failed, room, isOpen, tracker, handle, live⟩
  refine ⟨failed, ?_⟩
  rcases (left_behind Session.worn_seven).2.2.1 [⟨0, 0, none⟩, ⟨1, 1, none⟩] _ failed room with
    ⟨before, wrapper, after, fails, leaves⟩ | ⟨isClosed, -⟩
  · have split := fails.split
    match before with
    | [] =>
        cases split
        have gone := fails.unusable tracker.symm
        rw [handle, live] at gone
        cases gone
    | [first] =>
        cases split
        rw [List.map_singleton, handle] at leaves
        exact leaves
    | first :: second :: rest =>
        have lengths := congrArg List.length split
        simp only [List.length_cons, List.length_append, List.length_nil] at lengths
        omega
  · rw [isOpen] at isClosed
    cases isClosed

/--
The refusal of a list is not without effect: the number has one reference more than before,
though as many records are live as before.
-/
theorem Wrapper.not_atomic_seven :
    ((ofList [⟨0, 0, none⟩, ⟨1, 1, none⟩]).on Session.seven).1 =
        .error (.error (.misuse (.foreignWrapper "list" (handle ⟨1, 1, none⟩ Session.seven)))) ∧
      ((ofList [⟨0, 0, none⟩, ⟨1, 1, none⟩]).on Session.seven).2.registry.liveRecords =
          Session.seven.registry.liveRecords ∧
        Session.seven.interp.heap.refcount? ⟨53, 0⟩ = some 1 ∧
          ((ofList [⟨0, 0, none⟩, ⟨1, 1, none⟩]).on Session.seven).2.interp.heap.refcount?
              ⟨53, 0⟩ =
            some 2 := by
  decide +kernel

namespace CapturedException

/--
What an exception leaves behind that cannot be captured or made pending again.  A capture
fails only once the tracker is closed.  Then the pending error is gone and the references to
what it was normalized to are left behind, or those that were taken to a cause and its
components.  An exception that is made pending again leaves behind what was taken of its
components up to the first that is gone.  An error of the host that carries no exception
leaves nothing behind.
-/
theorem left_behind_uncaptured (worn : session.Worn config hasTable owned) :
    (fetch.Refused session fun session' =>
      session.ownTracker.isOpen = false ∧ session.Forfeits session.interp session') ∧
    (∀ exception : CapturedException,
      exception.cause.Refused session fun session' =>
        exception.value.tracker ≠ session.tracker ∧ session' = session ∨
          session.ownTracker.isOpen = false ∧
            ∃ cause type,
              session.interp.heap.causeOf (exception.value.handle session) = some cause ∧
                session.interp.typeOf cause = .ok type ∧
                  session.Leaves
                    (⟨type, some cause, session.interp.heap.tracebackOf cause⟩ :
                      Triple).references
                    session') ∧
    (∀ exception : CapturedException,
      exception.restoreClone.Refused session fun session' =>
        ∃ behind, exception.Strands session behind session') ∧
    ∀ error : HostError,
      error.raise.Refused session fun session' =>
        (∃ exception behind,
          error.Carries exception ∧ exception.Strands session behind session') ∨
          session.Leaves 0 session' :=
  ⟨refused_fetch worn.sound worn.evolves, fun exception => exception.refused_cause worn.sound,
    refused_restoreClone, HostError.refused_raise⟩

end CapturedException

/--
A runtime that was shut down, and in which an instance that the caller made afterwards is
pending.
-/
def Session.belated : Session :=
  [Request.act .shutDown, .interpret (.newException ⟨38, 0⟩ none),
    .interpret (.setErrorObject ⟨38, 0⟩ (some ⟨53, 0⟩))].foldl
      (fun session request => (request.perform session).2) (opened .standard true)

theorem Session.worn_belated : belated.Worn .standard true {⟨53, 0⟩} := by
  have shut : Employed .standard true
      ((Request.act .shutDown).perform (opened .standard true)).2 0 :=
    Employed.opened.follow (.act .shutDown) rfl rfl trivial
  have facts :
      ((Request.act .shutDown).perform (opened .standard true)).2.interp.heap.isLive ⟨38, 0⟩ =
          true ∧
        ((Request.interpret (.newException ⟨38, 0⟩ none)).perform
            ((Request.act .shutDown).perform (opened .standard true)).2).1 = [⟨53, 0⟩] ∧
          ∀ handle ∈ [(⟨38, 0⟩ : Handle), ⟨53, 0⟩],
            ((Request.interpret (.newException ⟨38, 0⟩ none)).perform
              ((Request.act .shutDown).perform
                (opened .standard true)).2).2.interp.heap.isLive handle = true := by
    decide +kernel
  rw [belated, List.foldl_cons, List.foldl_cons, List.foldl_cons, List.foldl_nil]
  generalize ((Request.act .shutDown).perform (opened .standard true)).2 = session
    at shut facts ⊢
  rcases facts with ⟨live, received, there⟩
  have made := Employed.request (.interpret (.newException ⟨38, 0⟩ none))
    (show session.Employed .standard true
      ((Request.interpret (.newException ⟨38, 0⟩ none)).taken + 0) from shut)
    fun handle borrowed => List.mem_singleton.mp borrowed ▸ live
  rw [received] at made
  generalize ((Request.interpret (.newException ⟨38, 0⟩ none)).perform session).2 = session'
    at made there ⊢
  refine .of_employed (made.follow (.interpret (.setErrorObject ⟨38, 0⟩ (some ⟨53, 0⟩))) rfl ?_ there)
  rw [Request.perform, Interpreter.Call.perform]
  cases session'.interp.setErrorObject ⟨38, 0⟩ (some ⟨53, 0⟩) with
  | ok interp => rfl
  | error reason => rfl

/-- The instance is left behind by a fetch, with its class. -/
theorem CapturedException.left_behind_uncaptured_belated :
    (fetch.on Session.belated).1 = .error (.error (.misuse (.registerClosed ⟨38, 0⟩))) ∧
      Session.belated.Forfeits Session.belated.interp (fetch.on Session.belated).2 := by
  have facts :
      (fetch.on Session.belated).1 = .error (.error (.misuse (.registerClosed ⟨38, 0⟩))) ∧
        (fetch.on Session.belated).2.interp.heap.HasRoom := by
    decide +kernel
  rcases facts with ⟨failed, room⟩
  exact ⟨failed, ((left_behind_uncaptured Session.worn_belated).1 _ failed room).2⟩

/--
The caller owns one reference to the instance, and the pending error the other.  The fetch
fails, the error is no longer pending and no record is live, but both references are still
there.
-/
theorem CapturedException.not_released_belated :
    Session.belated.Worn .standard true {⟨53, 0⟩} ∧
      Session.belated.interp.pending = some ⟨⟨38, 0⟩, some ⟨53, 0⟩, none⟩ ∧
        Session.belated.interp.heap.refcount? ⟨53, 0⟩ = some 2 ∧
          (fetch.on Session.belated).1 = .error (.error (.misuse (.registerClosed ⟨38, 0⟩))) ∧
            (fetch.on Session.belated).2.registry.liveRecords = 0 ∧
              (fetch.on Session.belated).2.interp.pending = none ∧
                (fetch.on Session.belated).2.interp.heap.refcount? ⟨53, 0⟩ = some 2 :=
  ⟨Session.worn_belated, by decide +kernel⟩

end Custody
