import Custody.Proofs.Finalizer.Survival
import Custody.Proofs.Interpreter.NormalForm
import Custody.Proofs.Session.RoundTrip
import Custody.Proofs.Session.Signals

/-!
# Wrapping in an orderly runtime

While the tracker is open and no handler panics, a reference that the caller owns can
be wrapped whatever waits in the queue, as long as there are handles left.  The
registration may start a drain, which does nothing to the interpreter but give
references back, and the new record is live unless a hook deferred it.
-/

namespace Custody

variable {session session' session'' : Session} {owned owned' owned'' : Multiset Handle}

/-! ## Orderly runtimes -/

/-- A runtime in which no handler panics and that takes registrations loses nothing from now on. -/
theorem Session.Sound.hush
    (sound : session.Sound False False owned)
    (calm : session.finalizer.Calm True)
    (isOpen : session.ownTracker.isOpen = true) :
    ∃ lost, session.Sound True False (owned + lost) := by
  rcases sound.accounts with ⟨lost, -, ledger⟩
  exact ⟨lost, ⟨sound.accurate, calm, fun _ => isOpen⟩,
    ⟨0, fun _ => rfl, by rwa [add_zero]⟩, sound.untroubled⟩

/-- An operation that ends where there are handles left started where there were. -/
theorem Session.Strokes.hasRoom
    (strokes : session.Strokes session')
    (untroubled : session'.registry.Untroubled)
    (room : session'.interp.heap.HasRoom) :
    session.interp.heap.HasRoom :=
  (strokes.passes.heap untroubled).hasRoom room

namespace Op

variable {α β : Type} {op : Op α} {post : α → Session → Prop}

/--
The operation ends with a result, of which something is true, unless it ends where
the handles are used up or a resolver was asked.
-/
def Succeeds (op : Op α) (session : Session) (post : α → Session → Prop) : Prop :=
  op.Ends session fun outcome session' =>
    session'.interp.heap.HasRoom →
      session'.registry.Untroubled → ∃ value, outcome = .ok value ∧ post value session'

namespace Succeeds

theorem pure
    {value : α}
    (holds : post value session) :
    (Pure.pure value : Op α).Succeeds session post :=
  fun _ _ => ⟨value, rfl, holds⟩

/-- An operation that starts where the handles are used up ends where they are. -/
theorem of_room
    (strokes : op.Relates Session.Strokes session)
    (succeeds :
      session.interp.heap.HasRoom → session.registry.Untroubled → op.Succeeds session post) :
    op.Succeeds session post := by
  intro room untroubled
  have started := Session.Strokes.hasRoom strokes untroubled room
  exact succeeds started (Session.Strokes.passes strokes |>.untroubled untroubled) room untroubled

/-- What follows a result starts where there are handles left if it ends where there are. -/
theorem bind
    {next : α → Op β}
    {post' : β → Session → Prop}
    (first : op.Succeeds session post)
    (strokes : ∀ value session', (next value).Relates Session.Strokes session')
    (later : ∀ value session', post value session' → (next value).Succeeds session' post') :
    (op >>= next).Succeeds session post' := by
  rw [Succeeds]
  apply Ends.bind first
  · intro value session' reached room untroubled
    have between := strokes value session'
    rcases reached (Session.Strokes.hasRoom between untroubled room)
      (Session.Strokes.passes between |>.untroubled untroubled) with ⟨_, same, holds⟩
    cases same
    exact later value session' holds room untroubled
  · intro abort session' reached room untroubled
    rcases reached room untroubled with ⟨_, failed, -⟩
    cases failed

/-- Wrappers are dropped only if there is no result. -/
theorem orDrop
    (succeeds : op.Succeeds session post)
    (wrappers : List Wrapper) :
    (op.orDrop wrappers).Succeeds session post := by
  rw [Succeeds, ends_orDrop]
  apply Ends.mono succeeds
  intro outcome session' reached
  cases outcome with
  | ok value => exact reached
  | error abort =>
      intro room untroubled
      have kept : session'.registry.Untroubled :=
        untroubled.of_told fun _ => (Registry.Defers.dropWrappers _ wrappers).told
      rcases reached room kept with ⟨_, failed, -⟩
      cases failed

end Succeeds

end Op

/-! ## What wrapping leaves alone -/

namespace Op

variable {α β : Type} {op : Op α}

/-- However the operation ends, unless a resolver was asked it touched nothing but the heap. -/
def UsesHeap (op : Op α) (session : Session) : Prop :=
  op.Ends session fun _ session' =>
    session.Strokes session' ∧
      (session'.registry.Untroubled → session.interp.OnHeap session'.interp)

namespace UsesHeap

theorem pure (value : α) : (Pure.pure value : Op α).UsesHeap session :=
  ⟨.refl, fun _ => .refl _⟩

theorem bind
    {next : α → Op β}
    (first : op.UsesHeap session)
    (later : ∀ value session', (next value).UsesHeap session') :
    (op >>= next).UsesHeap session := by
  apply Ends.bind first
  · rintro value session' ⟨strokes, onHeap⟩
    rcases later value session' with ⟨strokes', onHeap'⟩
    refine ⟨Relation.ReflTransGen.trans strokes strokes', fun untroubled => ?_⟩
    exact (onHeap (strokes'.passes.untroubled untroubled)).trans (onHeap' untroubled)
  · exact fun _ _ reached => reached

theorem orDrop
    (first : op.UsesHeap session)
    (wrappers : List Wrapper) :
    (op.orDrop wrappers).UsesHeap session := by
  rw [UsesHeap, ends_orDrop]
  apply Ends.mono first
  rintro (abort | value) session' ⟨strokes, onHeap⟩
  · have dropped : session'.Strokes (session'.updateRegistry fun registry =>
        registry.dropWrappers wrappers) := .updateRegistry (.dropWrappers _ wrappers)
    exact ⟨Relation.ReflTransGen.trans strokes dropped, fun untroubled =>
      onHeap (dropped.passes.untroubled untroubled)⟩
  · exact ⟨strokes, onHeap⟩

end UsesHeap

end Op

theorem Wrapper.usesHeap_ofOwned (handle : Handle) : (ofOwned handle).UsesHeap session := by
  have onHeap : (ofOwned handle).Ends session fun _ session' =>
      session'.registry.Untroubled → session.interp.OnHeap session'.interp := by
    rw [ofOwned, Op.register, Op.ends_bind]
    simp only [Op.ends_bind, Op.ends_session, Op.andThen_ok]
    cases registered : session.register handle with
    | error error => exact fun _ => .refl _
    | ok result =>
        rcases result with ⟨ref, entered⟩
        have drained (untroubled : entered.collectThrottled.2.registry.Untroubled) :=
          Session.kept_collectThrottled (Session.survivesReleases_onHeap entered.interp)
            untroubled (.refl _)
        rcases Session.register_eq_ok registered with ⟨typeName, rfl, rfl⟩
        simp only [Op.ends_bind, Op.ends_change, Op.andThen_ok]
        apply Op.ends_ofPanicking
        · exact fun _ _ untroubled => drained untroubled
        · exact fun _ _ untroubled => drained untroubled
  exact Op.Ends.and (relates_ofOwned handle) onHeap

theorem CapturedException.usesHeap_ofNormalized (triple : Triple) :
    (ofNormalized triple).UsesHeap session := by
  rw [ofNormalized]
  cases triple.value with
  | none =>
      have gives : (Op.changeInterp fun interp => interp.release triple.type).UsesHeap session :=
        ⟨Op.Relates.changeInterp (.release _ _), fun _ => .release _ _⟩
      exact gives.bind fun _ _ => ⟨.refl, fun _ => .refl _⟩
  | some value =>
      have completes : (Op.withInterp fun interp =>
          completeTraceback interp value triple.traceback).UsesHeap session :=
        ⟨Op.Relates.withInterp (evolves_completeTraceback _ _ _), fun _ =>
          onHeap_completeTraceback _ _ _⟩
      refine completes.bind fun traceback session₁ => ?_
      refine Op.UsesHeap.bind ⟨.refl, fun _ => .refl _⟩ fun between session₂ => ?_
      refine (Wrapper.usesHeap_ofOwned _).bind fun typeWrapper session₃ => ?_
      refine ((Wrapper.usesHeap_ofOwned value).orDrop _).bind fun valueWrapper session₄ => ?_
      cases traceback with
      | none => exact .pure _
      | some entry => exact ((Wrapper.usesHeap_ofOwned entry).orDrop _).bind fun _ _ => .pure _

namespace Wrapper

variable {handles handles' : List Handle} {wrappers wrappers' : List Wrapper}
variable {wrapper other : Wrapper}

/--
A wrapper was made of a new record.  It is live, unless a hook mentioned it before it was
there.
-/
structure Lasts (wrapper : Wrapper) (session session' : Session) : Prop where
  grows : session.registry.records.size ≤ session'.registry.records.size
  new : session.registry.records.size ≤ wrapper.record
  overlooks : ∀ bound, Registry.Overlooks bound session.registry session'.registry
  live :
    session.registry.MentionsBelow session.registry.records.size →
      (session'.record wrapper.record).state = .live

theorem Lasts.before
    {session'' : Session}
    (first : wrapper.Lasts session session')
    (later : other.Lasts session' session'') :
    wrapper.Lasts session session'' where
  grows := first.grows.trans later.grows
  new := first.new
  overlooks := fun bound => (first.overlooks bound).trans (later.overlooks bound)
  live := fun below =>
    (later.overlooks _ (first.overlooks _ below).1).2 _ first.new (first.live below)

theorem Lasts.after
    {session'' : Session}
    (later : wrapper.Lasts session' session'')
    (first : other.Lasts session session') :
    wrapper.Lasts session session'' where
  grows := first.grows.trans later.grows
  new := first.grows.trans later.new
  overlooks := fun bound => (first.overlooks bound).trans (later.overlooks bound)
  live := fun below => later.live ((first.overlooks _ below).1.mono first.grows)

/-- A drain that the registration starts gives up only what hooks mention. -/
theorem lasts_ofOwned (handle : Handle) :
    (ofOwned handle).Yields session fun wrapper session' => wrapper.Lasts session session' := by
  rw [Op.Yields, ofOwned, Op.register, Op.ends_bind]
  simp only [Op.ends_bind, Op.ends_session, Op.andThen_ok]
  cases registered : session.register handle with
  | error reason =>
      intro wrapper made
      cases made
  | ok result =>
      rcases result with ⟨ref, entered⟩
      simp only [Op.ends_bind, Op.ends_change, Op.andThen_ok]
      apply Op.ends_ofPanicking
      · intro count _
        simp only [Op.andThen_ok, Op.ends_pure, Op.ends_bind, Op.ends_session, Op.ends_change]
        intro wrapper made
        cases made
        rcases Session.register_eq_ok registered with ⟨typeName, rfl, rfl⟩
        have added (bound : Nat) :
            Registry.Overlooks bound session.registry
              (session.registry.addRecord session.tracker handle typeName).2 :=
          .addRecord session.registry session.tracker handle typeName
        have drained := fun bound => @Session.overlooks_collectThrottled bound
          { session with
            registry := (session.registry.addRecord session.tracker handle typeName).2 }
        have grown := (Session.Strokes.collectThrottled
          { session with
            registry :=
              (session.registry.addRecord session.tracker handle typeName).2 }).passes.objects.grows
        have fresh := congrArg Record.state
          (session.registry.record_addRecord_self session.tracker handle typeName)
        rw [Registry.size_addRecord] at grown
        exact
          { grows := (Nat.le_succ _).trans grown
            new := by simp
            overlooks := fun bound => ((added bound).trans (drained bound)).trans
              (.updateTracker _ _ fun _ => rfl)
            live := fun below => (drained _ (added _ below).1).2 _ le_rfl fresh }
      · intro panic _ wrapper made
        cases made

/--
Wrappers were made, of new records of some objects, whose references they took over
from the caller.  Nothing else happened but drains.
-/
structure Gathers
    (handles : List Handle)
    (wrappers : List Wrapper)
    (session session' : Session)
    (owned : Multiset Handle) :
    Prop where
  sound : session'.Sound True False owned
  passes : session.Passes Heap.Shrinks session'
  interp : session.interp.OnHeap session'.interp
  tracker : session'.tracker = session.tracker
  handles : (wrappers.map fun wrapper => wrapper.handle session') = handles
  inside : ∀ wrapper ∈ wrappers, wrapper.record < session'.registry.records.size
  own : ∀ wrapper ∈ wrappers, wrapper.tracker = session.tracker
  new : ∀ wrapper ∈ wrappers, session.registry.records.size ≤ wrapper.record
  overlooks :
    ∀ bound ≤ session.registry.records.size,
      Registry.Overlooks bound session.registry session'.registry
  live :
    session.registry.MentionsBelow session.registry.records.size →
      ∀ wrapper ∈ wrappers, (session'.record wrapper.record).state = .live

namespace Gathers

theorem congr
    (owned' : Multiset Handle)
    (gathers : Gathers handles wrappers session session' owned)
    (total : owned' = owned) :
    Gathers handles wrappers session session' owned' :=
  total ▸ gathers

theorem append
    (first : Gathers handles wrappers session session' owned)
    (later : Gathers handles' wrappers' session' session'' owned') :
    Gathers (handles ++ handles') (wrappers ++ wrappers') session session'' owned' where
  sound := later.sound
  passes := first.passes.trans later.passes
  interp := first.interp.trans later.interp
  tracker := later.tracker.trans first.tracker
  handles := by
    rw [List.map_append, later.handles, ← first.handles]
    congr 1
    exact List.map_congr_left fun wrapper among =>
      later.passes.handle_eq (first.inside wrapper among)
  inside := by
    intro wrapper among
    rcases List.mem_append.mp among with old | new
    · exact (first.inside wrapper old).trans_le later.passes.objects.grows
    · exact later.inside wrapper new
  own := by
    intro wrapper among
    rcases List.mem_append.mp among with old | new
    · exact first.own wrapper old
    · exact (later.own wrapper new).trans first.tracker
  new := by
    intro wrapper among
    rcases List.mem_append.mp among with old | new
    · exact first.new wrapper old
    · exact first.passes.objects.grows.trans (later.new wrapper new)
  overlooks := fun bound within =>
    (first.overlooks bound within).trans
      (later.overlooks bound (within.trans first.passes.objects.grows))
  live := by
    intro below wrapper among
    have grown := first.passes.objects.grows
    have below' := (first.overlooks _ le_rfl below).1
    rcases List.mem_append.mp among with old | new
    · exact (later.overlooks _ grown below').2 _ (first.new wrapper old)
        (first.live below wrapper old)
    · exact later.live (below'.mono grown) wrapper new

/-- What gives no more than references back may come first. -/
theorem of_interp
    {interp : Interpreter}
    (onHeap : session.interp.OnHeap interp)
    (shrinks : session.interp.heap.Shrinks interp.heap)
    (gathers : Gathers handles wrappers { session with interp } session' owned) :
    Gathers handles wrappers session session' owned where
  sound := gathers.sound
  passes := ⟨gathers.passes.objects, gathers.passes.told, fun untroubled =>
    shrinks.trans (gathers.passes.heap untroubled)⟩
  interp := onHeap.trans gathers.interp
  tracker := gathers.tracker
  handles := gathers.handles
  inside := gathers.inside
  own := gathers.own
  new := gathers.new
  overlooks := gathers.overlooks
  live := gathers.live

/-- The references of the new wrappers are given back by no one else. -/
theorem isLive
    (gathers : Gathers handles wrappers session session' owned)
    (room : session'.interp.heap.HasRoom)
    (below : session.registry.MentionsBelow session.registry.records.size)
    (handle : Handle)
    (among : handle ∈ handles) :
    session'.interp.heap.isLive handle = true := by
  rw [← gathers.handles] at among
  rcases List.mem_map.mp among with ⟨wrapper, member, rfl⟩
  exact gathers.sound.isLive_of_owns room
    (congrArg RecordState.owns (gathers.live below wrapper member))

end Gathers

/-- In an orderly runtime with handles left a reference that the caller owns can be wrapped. -/
theorem gathers_ofOwned
    {handle : Handle}
    (sound : session.Sound True False (handle ::ₘ owned)) :
    (ofOwned handle).Succeeds session fun wrapper session' =>
      Gathers [handle] [wrapper] session session' owned := by
  have wrapped := ((smooth_ofOwned sound).and (shows_ofOwned handle)).and (lasts_ofOwned handle)
  rw [Op.Succeeds]
  rw [ofOwned, Op.register, Op.ends_bind] at wrapped ⊢
  simp only [Op.ends_bind, Op.ends_session, Op.andThen_ok] at wrapped ⊢
  cases registered : session.register handle with
  | error error =>
      intro room _
      rcases sound.exists_register (sound.isOpen trivial) room with ⟨_, registered'⟩
      exact absurd (registered.symm.trans registered') (by simp)
  | ok result =>
      rcases result with ⟨ref, entered⟩
      have stepped :
          (Op.ofPanicking Session.collectThrottled).Ends entered fun _ session' =>
            session' = entered.collectThrottled.2 :=
        Op.ends_ofPanicking (fun _ _ => rfl) fun _ _ => rfl
      simp only [registered, Op.ends_bind, Op.ends_change, Op.andThen_ok] at wrapped ⊢
      apply (wrapped.and stepped).mono
      rintro (abort | count) drained ⟨wrapped, rfl⟩
      · intro room _
        exact absurd room (wrapped.1.1.full abort rfl (abort.isAmiss_of_quiet trivial))
      · simp only [Op.andThen_ok, Op.ends_pure, Op.ends_bind, Op.ends_session, Op.ends_change]
          at wrapped ⊢
        intro room untroubled
        rcases wrapped with ⟨⟨smooth, shown⟩, lasting⟩
        rcases shown _ rfl with ⟨passes, shows⟩
        have lasts := lasting _ rfl
        rcases Session.register_eq_ok registered with ⟨typeName, rfl, rfl⟩
        have tracker := (Session.leads_collectThrottled 0
          { session with
            registry := (session.registry.addRecord session.tracker handle typeName).2 }).tracker
        refine ⟨_, rfl, ?_⟩
        exact
          { sound := smooth.sound
            passes := passes
            interp := Session.kept_collectThrottled (Session.survivesReleases_onHeap session.interp)
              untroubled (.refl _)
            tracker := tracker
            handles := congrArg (fun shown => [shown]) shows.handle
            inside := by simpa using shows.inside
            own := by simpa using tracker
            new := by simp
            overlooks := fun bound _ => lasts.overlooks bound
            live := by
              intro below wrapper among
              rw [List.mem_singleton.mp among]
              exact lasts.live below }

end Wrapper

namespace CapturedException

variable {type value : Handle} {traceback : Option Handle}

/-- The traceback of the triple is taken, or else that of its value. -/
theorem completeTraceback_eq
    {interp : Interpreter}
    (linked :
      ∀ entry, interp.heap.tracebackOf value = some entry → interp.heap.isLive entry = true) :
    (completeTraceback interp value traceback).1 =
      (traceback <|> interp.heap.tracebackOf value) := by
  cases traceback with
  | some entry => rfl
  | none =>
      cases attached : interp.heap.tracebackOf value with
      | none => simp [completeTraceback, attached]
      | some entry =>
          rcases Interpreter.incref_of_isLive (linked entry attached) with ⟨_, taken⟩
          simp [completeTraceback, attached, taken]

/-- In an orderly runtime with handles left the references of a complete triple can be wrapped. -/
theorem gathers_ofNormalized
    (sound :
      session.Sound True False
        ((⟨type, some value, traceback⟩ : Triple).references + owned)) :
    (ofNormalized ⟨type, some value, traceback⟩).Succeeds session fun exception session' =>
      exception.Renders
          ⟨type, some value, traceback <|> session.interp.heap.tracebackOf value⟩
          (session.interp.heap.className type) (session.interp.heap.str value) session' ∧
        Wrapper.Gathers
          (⟨type, some value, traceback <|> session.interp.heap.tracebackOf value⟩ :
            Triple).components
          exception.wrappers session session' owned := by
  refine .of_room (relates_ofNormalized _) fun room _ => ?_
  rcases sound.exists_ledger with ⟨_, ledger, -⟩
  have whole : session.interp.heap.Whole := ledger.whole room
  have completed : (completeTraceback session.interp value traceback).1 = _ :=
    completeTraceback_eq fun _ attached => whole (Heap.points_of_tracebackOf attached)
  have onHeap := onHeap_completeTraceback session.interp value traceback
  have shrinks := shrinks_completeTraceback session.interp value traceback
  have ready : Session.Sound True False
      { session with interp := (completeTraceback session.interp value traceback).2 } _ :=
    sound_completeTraceback rfl sound
  rw [completed] at ready
  simp only [Op.Succeeds, ofNormalized, Op.ends_bind, Op.ends_withInterp, Op.ends_session,
    Op.andThen_ok, completed]
  generalize (completeTraceback session.interp value traceback).2 = interp
    at onHeap shrinks ready ⊢
  generalize (traceback <|> session.interp.heap.tracebackOf value) = traceback' at ready ⊢
  have room' := shrinks.hasRoom_iff.mpr room
  have typeLive : interp.heap.isLive type = true := ready.isLive_of_mem room' (by simp)
  have valueLive : interp.heap.isLive value = true := ready.isLive_of_mem room' (by simp)
  rcases ready.exists_ledger with ⟨_, ledger', -⟩
  have agree := Heap.Agree.of_shrinks shrinks (ledger'.whole room')
  rw [← agree.className_eq typeLive, ← agree.str_eq valueLive, ← Op.ends_bind]
  cases traceback' with
  | none =>
      refine (Wrapper.gathers_ofOwned ready).bind
        (fun _ _ => ((Wrapper.relates_ofOwned value).orDrop _).bind fun _ _ => .pure _) ?_
      intro typeWrapper session₁ first
      refine ((Wrapper.gathers_ofOwned first.sound).orDrop [typeWrapper]).bind
        (fun _ _ => .pure _) ?_
      intro valueWrapper session₂ second
      have both := first.append (second.congr owned (by simp))
      have handles := both.handles
      simp only [List.cons_append, List.nil_append, List.map_cons, List.map_nil, List.cons.injEq,
        and_true] at handles
      refine .pure ⟨⟨?_, rfl, rfl⟩, both.of_interp onHeap shrinks⟩
      simp only [triple, handles.1, handles.2, Option.map_none]
  | some entry =>
      refine (Wrapper.gathers_ofOwned ready).bind
        (fun _ _ => ((Wrapper.relates_ofOwned value).orDrop _).bind fun _ _ =>
          ((Wrapper.relates_ofOwned entry).orDrop _).bind fun _ _ => .pure _) ?_
      intro typeWrapper session₁ first
      refine ((Wrapper.gathers_ofOwned first.sound).orDrop [typeWrapper]).bind
        (fun _ _ => ((Wrapper.relates_ofOwned entry).orDrop _).bind fun _ _ => .pure _) ?_
      intro valueWrapper session₂ second
      have both := first.append second
      have ready' := second.sound.congr (entry ::ₘ owned) (by simp)
      refine ((Wrapper.gathers_ofOwned ready').orDrop [valueWrapper, typeWrapper]).bind
        (fun _ _ => .pure _) ?_
      intro entryWrapper session₃ third
      have all := both.append third
      have handles := all.handles
      simp only [List.cons_append, List.nil_append, List.map_cons, List.map_nil, List.cons.injEq,
        and_true] at handles
      refine .pure ⟨⟨?_, rfl, rfl⟩, all.of_interp onHeap shrinks⟩
      simp only [triple, handles.1, handles.2.1, handles.2.2, Option.map_some]

end CapturedException

end Custody
