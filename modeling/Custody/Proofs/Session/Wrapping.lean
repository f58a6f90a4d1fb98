import Custody.Proofs.Finalizer.Ledger
import Custody.Proofs.Session.Operations

/-!
# Wrapping keeps the ledger

A wrapper takes its reference over from the caller: the caller owns it no
longer, and a record does instead.  This is so even if the drain that a
registration starts finds much to do.  Giving a wrapper up returns the reference
to the heap or to the caller, or leaves it to a later drain.
-/

namespace Custody

variable {quiet acyclic : Prop} {session : Session} {owned owned' : Multiset Handle}

namespace Op

variable {α β : Type}

/--
What follows a smooth operation starts in a sound session.  If it ends early, a
panic may have cost the caller some of its references, and without room the
caller may own whatever is convenient.
-/
theorem Ends.bind_smooth
    {op : Op α}
    {next : α → Op β}
    {post : Except Abort β → Session → Prop}
    (ends : op.Ends session fun outcome session' => session'.Smooth quiet acyclic owned outcome)
    (continues :
      ∀ value session', session'.Sound quiet acyclic owned → (next value).Ends session' post)
    (stops :
      ∀ abort session',
        (∀ owned' ≤ owned, session'.Sound quiet acyclic owned') →
          (abort.IsAmiss quiet → ¬ session'.interp.heap.HasRoom) → post (.error abort) session') :
    (op >>= next).Ends session post := by
  apply ends.bind
  · exact fun value session' smooth => continues value session' smooth.sound
  · exact fun abort session' smooth =>
      stops abort session' (fun _ fewer => smooth.lose abort rfl fewer) (smooth.full abort rfl)

/-- What follows an operation that keeps the ledger, whatever its outcome, starts with it kept. -/
theorem Ends.bind_sound
    {op : Op α}
    {next : α → Op β}
    (ends : op.Ends session fun _ session' => session'.Sound quiet acyclic owned)
    (continues :
      ∀ value session', session'.Sound quiet acyclic owned →
        (next value).Ends session' fun _ session' => session'.Sound quiet acyclic owned) :
    (op >>= next).Ends session fun _ session' => session'.Sound quiet acyclic owned :=
  ends.bind continues fun _ _ sound => sound

/-- Dropping wrappers does not disturb a smooth end. -/
theorem Ends.orDrop_smooth
    {op : Op α}
    (ends : op.Ends session fun outcome session' => session'.Smooth quiet acyclic owned outcome)
    (wrappers : List Wrapper) :
    (op.orDrop wrappers).Ends session fun outcome session' =>
      session'.Smooth quiet acyclic owned outcome := by
  rw [ends_orDrop]
  apply ends.mono
  intro outcome session' smooth
  cases outcome with
  | ok value => exact smooth
  | error abort =>
      exact ⟨smooth.sound.of_spares (.updateRegistry (Registry.Defers.dropWrappers _ wrappers).mild), smooth.full⟩

/-- A record takes the reference over, unless an error says that it stays with the caller. -/
theorem smooth_register
    {handle : Handle}
    (sound : session.Sound quiet acyclic (handle ::ₘ owned)) :
    (register handle).Ends session fun outcome session' =>
      session'.Smooth quiet acyclic owned outcome ∧
        ∀ error, outcome = .error (.error error) →
          session'.Sound quiet acyclic (handle ::ₘ owned) := by
  simp only [register, ends_bind, ends_session, andThen_ok]
  split
  · next error failed =>
      have full (isQuiet : quiet) : ¬ session.interp.heap.HasRoom := by
        intro room
        rcases sound.exists_register (sound.isOpen isQuiet) room with ⟨_, registered⟩
        exact absurd (failed.symm.trans registered) (by simp)
      have refused : (Abort.error error).IsAmiss quiet → ¬ session.interp.heap.HasRoom := by
        cases error with
        | incorrectRefCount mismatch => exact absurd failed (session.register_ne_mismatch _ _)
        | _ => exact full
      have stays : session.Smooth quiet acyclic (handle ::ₘ owned)
          (.error (.error error) : Except Abort RecordRef) :=
        .error sound refused
      have less : owned ≤ handle ::ₘ owned := Multiset.le_cons_self _ _
      exact ⟨.error (stays.lose _ rfl less) refused, fun _ _ => sound⟩
  · next record session' registered =>
      have drained := (sound.register registered).collectThrottled
      simp only [ends_bind, ends_change, andThen_ok]
      apply ends_ofPanicking
      · exact fun _ _ => ⟨.ok drained.sound, fun _ same => by cases same⟩
      · intro panic panicked
        exact ⟨.error drained.sound (drained.full (.panic panic) (by rw [panicked]; rfl)),
          fun _ same => by cases same⟩

/-- One more reference is taken to an object that is there, and nothing goes away. -/
theorem smooth_incref
    {handle : Handle}
    (sound : session.Sound quiet acyclic owned)
    (live : session.interp.heap.HasRoom → session.interp.heap.isLive handle = true) :
    (tryInterp fun interp => interp.incref handle).Ends session fun outcome session' =>
      session'.Smooth quiet acyclic (handle ::ₘ owned) outcome ∧
        ∀ other,
          (session.interp.heap.HasRoom → session.interp.heap.isLive other = true) →
            session'.interp.heap.HasRoom → session'.interp.heap.isLive other = true := by
  apply ends_tryInterp
  · intro interp taken
    constructor
    · exact .ok (sound.incref taken)
    · intro other there room
      have kept : session.interp.retain handle = interp := by rw [Interpreter.retain, taken]
      rw [← kept] at room ⊢
      exact Interpreter.isLive_retain handle (there ((Interpreter.hasRoom_retain _ _).mp room))
  · intro reason failed
    have full : ¬ session.interp.heap.HasRoom := by
      intro room
      rcases Interpreter.incref_of_isLive (live room) with ⟨_, taken⟩
      exact absurd (failed.symm.trans taken) (by simp)
    exact ⟨⟨sound.of_full full, fun _ _ _ => full⟩, fun _ there => there⟩

/-- What follows once there is a reference to each component of a triple that is there. -/
theorem sound_retaining
    {next : Op β}
    {type value : Handle}
    {traceback : Option Handle}
    (sound : session.Sound quiet acyclic owned)
    (live :
      session.interp.heap.HasRoom →
        ∀ handle ∈ (⟨type, some value, traceback⟩ : Triple).components,
          session.interp.heap.isLive handle = true)
    (continues :
      ∀ session' : Session,
        session'.Sound quiet acyclic ((⟨type, some value, traceback⟩ : Triple).references + owned) →
          next.Ends session' fun _ session' => session'.Sound quiet acyclic owned) :
    (do
      tryInterp fun interp => interp.incref type
      tryInterp fun interp => interp.incref value
      match traceback with
      | none => next
      | some entry =>
          tryInterp fun interp => interp.incref entry
          next : Op β).Ends session fun _ session' => session'.Sound quiet acyclic owned := by
  have there (handle : Handle)
      (member : handle ∈ (⟨type, some value, traceback⟩ : Triple).components)
      (room : session.interp.heap.HasRoom) :
      session.interp.heap.isLive handle = true :=
    live room handle member
  have less₁ : owned ≤ type ::ₘ owned := Multiset.le_cons_self _ _
  have less₂ : owned ≤ value ::ₘ type ::ₘ owned := less₁.trans (Multiset.le_cons_self _ _)
  apply (smooth_incref sound (there type (by simp [Triple.components]))).bind
  · rintro _ session₁ ⟨typed, there₁⟩
    have live₁ := there₁ value (there value (by simp [Triple.components]))
    apply (smooth_incref typed.sound live₁).bind
    · rintro _ session₂ ⟨valued, there₂⟩
      cases traceback with
      | none =>
          refine continues session₂ (valued.sound.congr _ ?_)
          simp [Triple.references, Multiset.cons_swap]
      | some entry =>
          have live₂ := there₂ entry (there₁ entry (there entry (by simp [Triple.components])))
          apply (smooth_incref valued.sound live₂).bind
          · rintro _ session₃ ⟨traced, -⟩
            refine continues session₃ (traced.sound.congr _ ?_)
            simp only [Triple.references, Option.toList_some, Multiset.coe_singleton,
              Multiset.cons_add, Multiset.singleton_add]
            rw [Multiset.cons_swap entry value, Multiset.cons_swap entry type,
              Multiset.cons_swap value type]
          · exact fun abort _ failed =>
              failed.1.lose abort rfl (less₂.trans (Multiset.le_cons_self _ _))
    · exact fun abort _ failed => failed.1.lose abort rfl less₂
  · exact fun abort _ failed => failed.1.lose abort rfl less₁

end Op

namespace Wrapper

/-! ## Making wrappers -/

theorem ofOwned_ends
    {handle : Handle}
    (sound : session.Sound quiet acyclic (handle ::ₘ owned)) :
    (ofOwned handle).Ends session fun outcome session' =>
      session'.Smooth quiet acyclic owned outcome ∧
        ∀ error, outcome = .error (.error error) →
          session'.Sound quiet acyclic (handle ::ₘ owned) := by
  rw [ofOwned]
  apply (Op.smooth_register sound).bind
  · rintro record session' ⟨smooth, -⟩
    simp only [Op.ends_bind, Op.ends_session, Op.ends_change, Op.andThen_ok, Op.ends_pure]
    exact ⟨.ok (smooth.sound.of_spares (.updateRegistry (.hold _ _))), fun _ same => by cases same⟩
  · rintro abort session' ⟨smooth, stays⟩
    refine ⟨.error smooth.sound (smooth.full abort rfl), fun error same => ?_⟩
    cases same
    exact stays error rfl

theorem smooth_ofOwned
    {handle : Handle}
    (sound : session.Sound quiet acyclic (handle ::ₘ owned)) :
    (ofOwned handle).Ends session fun outcome session' =>
      session'.Smooth quiet acyclic owned outcome :=
  (ofOwned_ends sound).mono fun _ _ wrapped => wrapped.1

theorem sound_ofOwned
    {handle : Handle}
    (sound : session.Sound quiet acyclic (handle ::ₘ owned)) :
    (ofOwned handle).Ends session fun _ session' => session'.Sound quiet acyclic owned :=
  (smooth_ofOwned sound).mono fun _ _ smooth => smooth.sound

/-- A borrowed reference stays with its owner; the wrapper has one of its own. -/
theorem sound_ofBorrowed
    (handle : Handle)
    (sound : session.Sound quiet acyclic owned) :
    (ofBorrowed handle).Ends session fun _ session' => session'.Sound quiet acyclic owned := by
  rw [ofBorrowed]
  split
  · exact sound
  · rw [Op.ends_bind]
    apply Op.ends_tryInterp
    · intro interp taken
      rw [Op.andThen_ok, Op.ends_onError]
      apply (ofOwned_ends (sound.incref taken)).mono
      rintro outcome session' ⟨smooth, stays⟩
      rcases outcome with (error | panic) | wrapper
      · exact (stays error rfl).useInterp fun _ ledger =>
          (ledger.congr _ (Multiset.cons_add _ _ _).symm).release
      · exact smooth.sound
      · exact smooth.sound
    · exact fun _ _ => sound

theorem sound_ofNone
    (sound : session.Sound quiet acyclic owned) :
    ofNone.Ends session fun _ session' => session'.Sound quiet acyclic owned := by
  simp only [ofNone, Op.ends_bind, Op.ends_withInterp, Op.andThen_ok]
  exact sound_ofOwned
    (sound.useInterp fun _ ledger => ledger.newNone.congr _ (Multiset.cons_add _ _ _))

/-- A new object takes the references to its children over. -/
theorem sound_ofPayload
    {payload : Payload}
    (sound : session.Sound quiet acyclic (payload.children + owned)) :
    (ofPayload payload).Ends session fun _ session' => session'.Sound quiet acyclic owned := by
  simp only [ofPayload, Op.ends_bind, Op.ends_withInterp, Op.andThen_ok]
  refine sound_ofOwned (sound.useInterp fun _ ledger => ?_)
  exact ((ledger.congr _ (add_assoc _ _ _).symm).allocate payload).congr _
    (Multiset.cons_add _ _ _)

/-- The wrappers belong to a runtime and their objects are there. -/
def AreUsable (wrappers : List Wrapper) (session : Session) : Prop :=
  ∀ wrapper ∈ wrappers,
    wrapper.tracker = session.tracker ∧
      session.interp.heap.isLive (wrapper.handle session) = true

/-- Taking one more reference to an object takes no other object away. -/
theorem AreUsable.incref
    {wrappers : List Wrapper}
    {handle : Handle}
    {interp : Interpreter}
    (usable : AreUsable wrappers session)
    (taken : session.interp.incref handle = .ok interp) :
    AreUsable wrappers { session with interp } := by
  intro wrapper member
  rcases usable wrapper member with ⟨own, live⟩
  have still := Interpreter.isLive_retain handle live
  rw [Interpreter.retain, taken] at still
  exact ⟨own, still⟩

theorem sound_retainAll
    {wrappers : List Wrapper}
    (usable : AreUsable wrappers session)
    (sound : session.Sound quiet acyclic owned) :
    (retainAll wrappers).Ends session fun outcome session' =>
      ∃ handles : List Handle,
        outcome = .ok handles ∧ session'.Sound quiet acyclic (handles + owned) := by
  induction wrappers generalizing session owned with
  | nil => exact ⟨[], rfl, sound.congr _ (by simp)⟩
  | cons wrapper rest step =>
      rcases usable wrapper (by simp) with ⟨own, live⟩
      rcases Interpreter.incref_of_isLive live with ⟨interp, taken⟩
      have later := step
        (AreUsable.incref (fun other among => usable other (List.mem_cons_of_mem _ among)) taken)
        (sound.incref taken)
      rw [retainAll, Op.ends_bind]
      apply ends_requireOwn
      · intro _
        simp only [Op.andThen_ok, Op.ends_bind, Op.ends_session]
        apply Op.ends_tryInterp
        · intro interp' taken'
          rw [taken] at taken'
          cases taken'
          rw [Op.andThen_ok, Op.ends_bind]
          apply later.mono
          rintro _ session' ⟨handles, rfl, sound'⟩
          refine ⟨_ :: handles, rfl, sound'.congr _ ?_⟩
          rw [← Multiset.cons_coe, Multiset.cons_add, Multiset.add_cons]
        · intro reason failed
          rw [taken] at failed
          cases failed
      · exact fun foreign => absurd own foreign

/-- A list has a reference of its own to each item. -/
theorem sound_ofList
    {items : List Wrapper}
    (usable : AreUsable items session)
    (sound : session.Sound quiet acyclic owned) :
    (ofList items).Ends session fun _ session' => session'.Sound quiet acyclic owned := by
  rw [ofList, Op.ends_bind]
  apply (sound_retainAll usable sound).mono
  rintro _ session' ⟨handles, rfl, held⟩
  exact sound_ofPayload held

theorem sound_clone
    (wrapper : Wrapper)
    (sound : session.Sound quiet acyclic owned) :
    wrapper.clone.Ends session fun _ session' => session'.Sound quiet acyclic owned := by
  rw [clone, Op.ends_bind]
  apply ends_requireOwn
  · intro _
    simp only [Op.andThen_ok, Op.ends_bind, Op.ends_session]
    exact sound_ofBorrowed _ sound
  · exact fun _ => sound

/-! ## Giving wrappers up -/

theorem sound_dispose
    (wrapper : Wrapper)
    (sound : session.Sound quiet acyclic owned) :
    wrapper.dispose.Ends session fun _ session' => session'.Sound quiet acyclic owned := by
  rw [dispose, Op.ends_bind, Op.ends_orDrop]
  apply ends_requireOwn
  · intro _
    rw [Op.orDropped, Op.andThen_ok]
    apply Op.Ends.bind_sound
    · rw [Op.ends_of]
      cases wrapper.hook with
      | none => exact sound
      | some hook =>
          exact sound.of_spares (.ranHook wrapper.record hook session)
    · intro failure session' sound'
      apply Op.Ends.bind_sound
      · exact (sound'.releaseNow wrapper.record).of_spares
          (.updateRegistry (Registry.Defers.letGo wrapper.tracker _).mild)
      · intro _ session'' sound''
        cases failure with
        | none => exact sound''
        | some text => exact sound''
  · exact fun _ => sound.of_spares (.updateRegistry (Registry.Defers.dropWrappers _ _).mild)

/-- The caller gets the reference of a live record, and no reference otherwise. -/
theorem sound_intoHandle
    {wrapper : Wrapper}
    (own : wrapper.tracker = session.tracker)
    (sound : session.Sound quiet acyclic owned) :
    wrapper.intoHandle.Ends session fun outcome session' =>
      session'.Sound quiet acyclic (outcome.toOption.toList + owned) := by
  have discarded := sound.of_spares (.discardHook session wrapper.hook)
  have detached := discarded.detach wrapper.record
  simp only [Session.detach, Session.updateRegistry, ← own] at detached
  simp only [intoHandle, Op.ends_of, Registry.giveUp]
  exact detached.of_spares (.updateRegistry (Registry.Defers.letGo wrapper.tracker _).mild)

/--
Wrappers of a runtime that can be given up one after another, as those of a
captured exception can as long as they are live: nobody else has a wrapper of
the same record or could add a hook, and the tracker is held by each of them and
by the runtime.
-/
structure AreIntact (wrappers : List Wrapper) (session : Session) : Prop where
  own : ∀ wrapper ∈ wrappers, wrapper.tracker = session.tracker
  bare : ∀ wrapper ∈ wrappers, wrapper.hook = none
  live : ∀ wrapper ∈ wrappers, (session.record wrapper.record).state = .live
  distinct : (wrappers.map Wrapper.record).Nodup
  holders : wrappers.length < session.ownTracker.holders

theorem areIntact_iff
    {wrappers : List Wrapper} :
    AreIntact wrappers session ↔
      (∀ wrapper ∈ wrappers,
        wrapper.tracker = session.tracker ∧ wrapper.hook = none ∧
          (session.record wrapper.record).state = .live) ∧
        (wrappers.map Wrapper.record).Nodup ∧ wrappers.length < session.ownTracker.holders := by
  constructor
  · rintro ⟨own, bare, live, distinct, holders⟩
    exact ⟨fun wrapper among => ⟨own wrapper among, bare wrapper among, live wrapper among⟩,
      distinct, holders⟩
  · rintro ⟨each, distinct, holders⟩
    constructor
    · exact fun wrapper among => (each wrapper among).1
    · exact fun wrapper among => (each wrapper among).2.1
    · exact fun wrapper among => (each wrapper among).2.2
    · exact distinct
    · exact holders

instance (wrappers : List Wrapper) (session : Session) : Decidable (AreIntact wrappers session) :=
  decidable_of_iff _ areIntact_iff.symm

/-- The order of the wrappers is of no account. -/
theorem AreIntact.perm
    {wrappers wrappers' : List Wrapper}
    (intact : AreIntact wrappers session)
    (same : wrappers.Perm wrappers') :
    AreIntact wrappers' session where
  own := fun wrapper among => intact.own wrapper (same.mem_iff.mpr among)
  bare := fun wrapper among => intact.bare wrapper (same.mem_iff.mpr among)
  live := fun wrapper among => intact.live wrapper (same.mem_iff.mpr among)
  distinct := (same.map Wrapper.record).nodup_iff.mp intact.distinct
  holders := same.length_eq ▸ intact.holders

/-- Once the first wrapper is given up, which lets the tracker go, the others are intact. -/
theorem AreIntact.tail
    {session' : Session}
    {wrapper : Wrapper}
    {rest : List Wrapper}
    (intact : AreIntact (wrapper :: rest) session)
    (tracker : session'.tracker = session.tracker)
    (kept : ∀ ref ≠ wrapper.record, (session'.record ref).state = (session.record ref).state)
    (left : session'.ownTracker.holders + 1 = session.ownTracker.holders) :
    AreIntact rest session' where
  own := fun other among => (intact.own other (List.mem_cons_of_mem _ among)).trans tracker.symm
  bare := fun other among => intact.bare other (List.mem_cons_of_mem _ among)
  live := by
    intro other among
    have distinct : other.record ≠ wrapper.record := by
      intro same
      have nodup := intact.distinct
      rw [List.map_cons, List.nodup_cons, ← same] at nodup
      exact nodup.1 (List.mem_map.mpr ⟨other, among, rfl⟩)
    exact (kept _ distinct).trans (intact.live other (List.mem_cons_of_mem _ among))
  distinct := (List.nodup_cons.mp intact.distinct).2
  holders := by
    have holders : rest.length + 1 < session.ownTracker.holders := intact.holders
    omega

/--
Wrappers were given up: their records are detached, and they let the tracker go.
The other records, the queue and everything outside the registry are as before.
-/
structure HandsOver (wrappers : List Wrapper) (session session' : Session) : Prop where
  embedding : session'.toEmbedding = session.toEmbedding
  size : session'.registry.records.size = session.registry.records.size
  detached :
    ∀ wrapper ∈ wrappers,
      session'.record wrapper.record = { session.record wrapper.record with state := .detached }
  kept :
    ∀ ref, ref ∉ wrappers.map Wrapper.record → session'.record ref = session.record ref
  queue : session'.queue = session.queue
  isOpen : session'.ownTracker.isOpen = session.ownTracker.isOpen
  holders : session'.ownTracker.holders + wrappers.length = session.ownTracker.holders

namespace HandsOver

variable {session' session'' : Session} {wrapper : Wrapper} {rest wrappers : List Wrapper}

theorem tracker (handsOver : HandsOver wrappers session session') :
    session'.tracker = session.tracker :=
  congrArg Embedding.tracker handsOver.embedding

/-- Records that are detached remain records of their objects. -/
theorem handle_eq
    (handsOver : HandsOver wrappers session session')
    (other : Wrapper) :
    other.handle session' = other.handle session := by
  rw [handle, handle]
  by_cases among : other.record ∈ wrappers.map Wrapper.record
  · rcases List.mem_map.mp among with ⟨wrapper, member, same⟩
    rw [← same, handsOver.detached wrapper member]
  · rw [handsOver.kept _ among]

theorem cons
    (first : HandsOver [wrapper] session session')
    (later : HandsOver rest session' session'')
    (apart : wrapper.record ∉ rest.map Wrapper.record) :
    HandsOver (wrapper :: rest) session session'' where
  embedding := later.embedding.trans first.embedding
  size := later.size.trans first.size
  detached := by
    intro other among
    rcases List.mem_cons.mp among with rfl | member
    · rw [later.kept _ apart]
      exact first.detached other (by simp)
    · have distinct : other.record ≠ wrapper.record := by
        rintro same
        exact apart (List.mem_map.mpr ⟨other, member, same⟩)
      rw [later.detached other member, first.kept _ (by simpa using distinct)]
  kept := by
    intro ref outside
    rw [List.map_cons, List.mem_cons, not_or] at outside
    rw [later.kept ref outside.2, first.kept ref (by simpa using outside.1)]
  queue := later.queue.trans first.queue
  isOpen := later.isOpen.trans first.isOpen
  holders := by
    have before := first.holders
    have after := later.holders
    simp only [List.length_cons, List.length_nil] at before ⊢
    omega

end HandsOver

/-- An intact wrapper can be given up. -/
theorem handsOver_intoHandle
    {wrapper : Wrapper}
    {rest : List Wrapper}
    (intact : AreIntact (wrapper :: rest) session) :
    wrapper.intoHandle.Ends session fun outcome session' =>
      outcome = .ok (wrapper.handle session) ∧ HandsOver [wrapper] session session' := by
  have own : wrapper.tracker = session.tracker := intact.own wrapper (by simp)
  have bare : wrapper.hook = none := intact.bare wrapper (by simp)
  have live : (session.registry.record wrapper.record).state = .live :=
    intact.live wrapper (by simp)
  have inside : wrapper.record < session.registry.records.size :=
    Registry.lt_size_of_owns (congrArg RecordState.owns live)
  have holders : rest.length + 1 < (session.registry.tracker session.tracker).holders :=
    intact.holders
  have detached :
      session.registry.detach session.tracker wrapper.record =
        (.ok (session.registry.record wrapper.record).handle,
          (session.registry.setState wrapper.record .detached).unregister session.tracker
            wrapper.record) := by
    simp only [Registry.detach, if_pos live]
  have reads {α : Type} (read : Tracker → α)
      (kept : ∀ (tracker : Tracker) (owners : Owners), read { tracker with owners } = read tracker) :
      read (((session.registry.setState wrapper.record .detached).unregister session.tracker
        wrapper.record).tracker session.tracker) =
          read (session.registry.tracker session.tracker) :=
    Registry.read_updateTracker read _ _ _ fun tracker => kept tracker _
  have counted := reads Tracker.holders fun _ _ => rfl
  have held :
      1 < (((session.registry.setState wrapper.record .detached).unregister session.tracker
        wrapper.record).tracker session.tracker).holders := by
    omega
  simp only [intoHandle, Op.ends_of, Registry.giveUp, bare, own, Registry.discardHook,
    Registry.discardHookWith, detached]
  rw [Registry.letGo_of_held held]
  have leaves {α : Type} (read : Tracker → α)
      (kept :
        ∀ tracker : Tracker, read { tracker with holders := tracker.holders - 1 } = read tracker) :=
    Registry.read_updateTracker read
      ((session.registry.setState wrapper.record .detached).unregister session.tracker
        wrapper.record) session.tracker session.tracker kept
  constructor
  · rfl
  · constructor
    · rfl
    · exact Registry.size_alter _ _ _
    · intro other among
      rw [List.mem_singleton.mp among]
      show (session.registry.setState wrapper.record .detached).record wrapper.record = _
      rw [Registry.record_setState, if_pos ⟨rfl, inside⟩]
      rfl
    · intro ref outside
      show (session.registry.setState wrapper.record .detached).record ref = _
      rw [Registry.record_setState, if_neg fun found => outside (by simp [found.1])]
      rfl
    · exact (leaves Tracker.queue fun _ => rfl).trans (reads Tracker.queue fun _ _ => rfl)
    · exact (leaves Tracker.isOpen fun _ => rfl).trans (reads Tracker.isOpen fun _ _ => rfl)
    · exact (Registry.holders_leave held).trans counted

/-- Once the first wrapper was given up the others are intact. -/
theorem AreIntact.handedOver
    {session' : Session}
    {wrapper : Wrapper}
    {rest : List Wrapper}
    (intact : AreIntact (wrapper :: rest) session)
    (handsOver : HandsOver [wrapper] session session') :
    AreIntact rest session' := by
  refine intact.tail handsOver.tracker (fun ref distinct => ?_) handsOver.holders
  rw [handsOver.kept ref (by simpa using distinct)]

/-- The caller gets the reference of an intact wrapper. -/
theorem sound_intoHandle_of_intact
    {wrapper : Wrapper}
    {rest : List Wrapper}
    (intact : AreIntact (wrapper :: rest) session)
    (sound : session.Sound quiet acyclic owned) :
    wrapper.intoHandle.Ends session fun outcome session' =>
      ∃ handle, outcome = .ok handle ∧ AreIntact rest session' ∧
        session'.Sound quiet acyclic (handle ::ₘ owned) := by
  have own : wrapper.tracker = session.tracker := intact.own wrapper (by simp)
  apply ((handsOver_intoHandle intact).and (sound_intoHandle own sound)).mono
  rintro _ session' ⟨⟨rfl, handsOver⟩, sound'⟩
  exact ⟨_, rfl, intact.handedOver handsOver, sound'.congr _ (by simp [Except.toOption])⟩

end Wrapper

end Custody
