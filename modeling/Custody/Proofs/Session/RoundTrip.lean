import Custody.Proofs.Session.Portraits
import Custody.Proofs.Session.Refetching

/-!
# Exceptions pass through unchanged

An exception that was captured can be put back at any later time, by handing it
over or by raising a host error that carries it.  What becomes pending are the
very objects that were captured; and if it is captured once more, it says the same
of itself, as long as nobody has changed its value.

What is captured as the cause of an exception need not be an exception.  It can be
put back, but when it is captured again it is normalized, and that raises.
-/

namespace Custody

variable {session session' : Session}

/-! ## Counting wrappers -/

namespace Wrapper

variable {handles : List Handle} {wrappers : List Wrapper}

/-- Each wrapper that is handed over takes one record off the books. -/
theorem HandsOver.registered
    (handsOver : HandsOver wrappers session session')
    (intact : AreIntact wrappers session)
    (books : session.registry.Exact session.tracker)
    (books' : session'.registry.Exact session'.tracker) :
    session'.ownTracker.registered + wrappers.length = session.ownTracker.registered := by
  have owns (ref : RecordRef) :
      (session.record ref).state.owns = true ↔
        (session'.record ref).state.owns = true ∨ ref ∈ wrappers.map Wrapper.record := by
    by_cases among : ref ∈ wrappers.map Wrapper.record
    · rcases List.mem_map.mp among with ⟨wrapper, member, rfl⟩
      simp [among, intact.live wrapper member, RecordState.owns]
    · simp [among, handsOver.kept ref among]
  have apart : ∀ ref ∈ wrappers.map Wrapper.record, (session'.record ref).state.owns = false := by
    intro ref among
    rcases List.mem_map.mp among with ⟨wrapper, member, rfl⟩
    rw [handsOver.detached wrapper member]
    rfl
  have counted := books.registered_eq_add books' intact.distinct owns apart
  rw [List.length_map] at counted
  exact counted.symm

/-- Each new wrapper puts one record on the books. -/
theorem TakesOver.registered
    (takesOver : TakesOver handles wrappers session session')
    (books : session.registry.Exact session.tracker)
    (books' : session'.registry.Exact session'.tracker) :
    session'.ownTracker.registered = session.ownTracker.registered + wrappers.length := by
  have old {ref : RecordRef} (bound : ref < session.registry.records.size) :
      ref ∉ wrappers.map Wrapper.record := by
    intro among
    rcases List.mem_map.mp among with ⟨wrapper, member, rfl⟩
    exact absurd bound (not_lt.mpr (takesOver.inside member).1)
  have owns (ref : RecordRef) :
      (session'.record ref).state.owns = true ↔
        (session.record ref).state.owns = true ∨ ref ∈ wrappers.map Wrapper.record := by
    by_cases bound : ref < session.registry.records.size
    · simp [takesOver.kept ref bound, old bound]
    · constructor
      · intro owned
        have bound' := Registry.lt_size_of_owns owned
        rw [takesOver.size] at bound'
        refine .inr ?_
        rw [takesOver.records, List.mem_range'_1]
        exact ⟨not_lt.mp bound, bound'⟩
      · rintro (owned | among)
        · exact absurd (Registry.lt_size_of_owns owned) bound
        · rcases List.mem_map.mp among with ⟨wrapper, member, rfl⟩
          rw [takesOver.live wrapper member]
          rfl
  have apart : ∀ ref ∈ wrappers.map Wrapper.record, (session.record ref).state.owns = false := by
    intro ref among
    rw [← Bool.not_eq_true]
    exact fun owned => old (Registry.lt_size_of_owns owned) among
  have distinct : (wrappers.map Wrapper.record).Nodup := takesOver.records ▸ List.nodup_range'
  have counted := books'.registered_eq_add books distinct owns apart
  rwa [List.length_map] at counted

end Wrapper

/-! ## What lasts -/

namespace CapturedException

variable {exception : CapturedException} {heap heap' : Heap} {type value : Handle}
variable {traceback : Option Handle}

/-- While references are given back an exception says the same of what is left. -/
theorem Depicts.of_shrinks
    (depicts : exception.Depicts heap type value traceback)
    (shrinks : heap.Shrinks heap')
    (whole' : heap'.Whole)
    (typeLive : heap'.isLive type = true)
    (valueLive : heap'.isLive value = true) :
    exception.Depicts heap' type value traceback where
  toSuits := depicts.toSuits.of_shrinks shrinks
  typeName :=
    depicts.typeName.trans ((Heap.Agree.of_shrinks shrinks whole').className_eq typeLive).symm
  valueText :=
    depicts.valueText.trans ((Heap.Agree.of_shrinks shrinks whole').str_eq valueLive).symm

/--
In the course of a run an exception says the same of its objects, if the value has
the traceback that it had.
-/
theorem Depicts.of_evolves
    (depicts : exception.Depicts heap type value traceback)
    (origin : Heap.empty.Evolves heap)
    (evolves : heap.Evolves heap')
    (room : heap'.HasRoom)
    (whole : heap.Whole)
    (whole' : heap'.Whole)
    (live :
      ∀ handle ∈ (⟨type, some value, traceback⟩ : Triple).components,
        heap.isLive handle = true ∧ heap'.isLive handle = true)
    (unchanged : heap'.tracebackOf value = heap.tracebackOf value) :
    exception.Depicts heap' type value traceback := by
  have agree := Heap.Agree.of_evolves origin evolves room whole whole'
  have typeLive := live type (by simp [Triple.components])
  have valueLive := live value (by simp [Triple.components])
  -- The value was an exception of the same class before, with the same traceback.
  have before {info' : ExceptionInfo} (holds' : heap'.payload? value = some (.exception info')) :
      ∃ info,
        heap.payload? value = some (.exception info) ∧
          info.type = info'.type ∧ info.traceback = info'.traceback := by
    rcases agree.payload?_cases valueLive with
      ⟨plain, same⟩ | ⟨info, info'', holds, holds'', sameType, -⟩
    · exact absurd (same.symm.trans holds') (plain info')
    · rw [holds', Option.some.injEq, Payload.exception.injEq] at holds''
      subst holds''
      refine ⟨info, holds, sameType.symm, ?_⟩
      simpa [Heap.tracebackOf, holds, holds'] using unchanged.symm
  constructor
  · constructor
    · constructor
      · intro info' holds'
        rcases before holds' with ⟨info, holds, sameType, -⟩
        exact sameType.symm.trans (depicts.typed info holds)
      · intro info' entry holds' isTraceback _
        rcases before holds' with ⟨info, holds, -, sameTraceback⟩
        rw [← sameTraceback]
        exact depicts.traced info entry holds isTraceback
          (live entry (by simp [Triple.components, isTraceback])).1
    · intro info' entry holds' isLinked _
      rcases before holds' with ⟨info, holds, -, sameTraceback⟩
      rw [← sameTraceback] at isLinked
      have attached : heap.tracebackOf value = some entry := by
        simp [Heap.tracebackOf, holds, isLinked]
      exact depicts.complete info entry holds isLinked (whole (Heap.points_of_tracebackOf attached))
  · exact depicts.typeName.trans (agree.className_eq typeLive).symm
  · exact depicts.valueText.trans (agree.str_eq valueLive).symm

end CapturedException

/-- An exception stays one of a class of exceptions while references are given back. -/
theorem Interpreter.IsException.of_shrinks
    {interp interp' : Interpreter}
    {value : Handle}
    (isException : interp.IsException value)
    (builtins : interp'.builtins = interp.builtins)
    (shrinks : interp.heap.Shrinks interp'.heap)
    (whole' : interp'.heap.Whole)
    (live : interp'.heap.isLive value = true) :
    interp'.IsException value := by
  rcases isException with ⟨info, holds, isClass⟩
  have holds' : interp'.heap.payload? value = some (.exception info) :=
    (shrinks.payload?_eq live).trans holds
  have classLive : interp'.heap.isLive info.type = true :=
    whole' ⟨_, holds', by simp [Payload.children]⟩
  have agree := Heap.Agree.of_shrinks shrinks whole'
  refine ⟨info, holds', ?_⟩
  rw [isExceptionClass, lookup] at isClass ⊢
  rw [builtins, agree.isType_eq classLive]
  split at isClass
  · next base found =>
      rw [agree.isSubclass_eq base classLive]
      exact isClass
  · cases isClass

/-- What is pending is there. -/
theorem Session.Employed.isLive_of_pending
    {config : Config}
    {hasTable : Bool}
    {owned : Multiset Handle}
    {triple : Triple}
    (employed : session.Employed config hasTable owned)
    (room : session.interp.heap.HasRoom)
    (pending : session.interp.pending = some triple)
    (handle : Handle)
    (among : handle ∈ triple.components) :
    session.interp.heap.isLive handle = true := by
  rcases employed.sound.exists_ledger with ⟨others, ledger, -⟩
  refine ledger.isLive_of_held room (Interpreter.mem_held_of_pending pending ?_)
  rwa [← Triple.coe_components, Multiset.mem_coe]

/-- The objects of wrappers that can be given up are there. -/
theorem Wrapper.AreIntact.isLive
    {wrappers : List Wrapper}
    {config : Config}
    {hasTable : Bool}
    {owned : Multiset Handle}
    (intact : AreIntact wrappers session)
    (employed : session.Employed config hasTable owned)
    (room : session.interp.heap.HasRoom)
    (wrapper : Wrapper)
    (among : wrapper ∈ wrappers) :
    session.interp.heap.isLive (wrapper.handle session) = true :=
  employed.sound.isLive_of_owns room (congrArg RecordState.owns (intact.live wrapper among))

theorem Wrapper.AreIntact.usable
    {wrappers : List Wrapper}
    {config : Config}
    {hasTable : Bool}
    {owned : Multiset Handle}
    (intact : AreIntact wrappers session)
    (employed : session.Employed config hasTable owned)
    (room : session.interp.heap.HasRoom) :
    AreUsable wrappers session :=
  fun wrapper among => ⟨intact.own wrapper among, intact.isLive employed room wrapper among⟩

/-! ## There and back -/

namespace CapturedException

variable {exception : CapturedException} {triple : Triple}
variable {config : Config} {hasTable : Bool} {owned : Multiset Handle}

/--
The components of an exception became pending.  Other than that references were
taken and given back, and the tracker still takes registrations if it did before.
-/
structure MakesPending (exception : CapturedException) (session session' : Session) : Prop where
  pending : session'.interp.pending = some (exception.triple session)
  shrinks : session.interp.heap.Shrinks session'.interp.heap
  builtins : session'.interp.builtins = session.interp.builtins
  receptive : session.Receptive → session'.Receptive
  held : 0 < session'.ownTracker.holders

/--
An exception was put back: what was pending is given back, its own references are
pending instead, and its records are off the books.
-/
structure PutsBack (exception : CapturedException) (session session' : Session) : Prop
    extends exception.MakesPending session session' where
  interp :
    session'.interp = { session.interp.clear with pending := some (exception.triple session) }
  detached :
    ∀ wrapper ∈ exception.wrappers,
      session'.record wrapper.record = { session.record wrapper.record with state := .detached }
  kept :
    ∀ ref, ref ∉ exception.wrappers.map Wrapper.record →
      session'.record ref = session.record ref
  registered :
    session'.ownTracker.registered + exception.wrappers.length = session.ownTracker.registered

/--
New references to the components of an exception are pending, and what was pending
is given back.  The wrappers keep theirs.
-/
structure Lends (exception : CapturedException) (session session' : Session) : Prop
    extends exception.MakesPending session session' where
  same :
    session' =
      session.updateInterp fun interp =>
        { ((exception.triple session).components.foldl Interpreter.retain interp).clear with
          pending := some (exception.triple session) }
  counted :
    ∀ handle,
      ((exception.triple session).components.foldl Interpreter.retain
          session.interp).heap.refcount? handle =
        (session.interp.heap.refcount? handle).map
          (· + ((exception.triple session).components.count handle : Int))
  intact : Wrapper.AreIntact exception.wrappers session'
  usable : Wrapper.AreUsable exception.wrappers session'

/-- An exception whose wrappers can be given up can be put back. -/
theorem putsBack_restore
    (intact : Wrapper.AreIntact exception.wrappers session)
    (isObject : (exception.triple session).type.isNull = false)
    (books : session.registry.Exact session.tracker) :
    exception.restore.Ends session fun outcome session' =>
      outcome = .ok () ∧ exception.PutsBack session session' := by
  have books' := (Session.Keeps.turn (.request (.restore exception) intact.own)).exact books
  rcases ends_restore intact with ⟨succeeds, given, handsOver, restores⟩
  have performed :
      (Session.Request.perform session (.restore exception)).2 =
        given.updateInterp fun interp => interp.restore (exception.triple session) :=
    restores
  rw [performed] at books'
  refine ⟨succeeds, ?_⟩
  rw [restores]
  have interp :
      (given.updateInterp fun interp => interp.restore (exception.triple session)).interp =
        { session.interp.clear with pending := some (exception.triple session) } := by
    rw [← Interpreter.restore_eq isObject, ← show given.interp = session.interp from
      congrArg Embedding.interp handsOver.embedding]
    rfl
  constructor
  · constructor
    · rw [interp]
    · rw [interp]
      exact session.interp.shrinks_replacePending none
    · rw [interp]
      exact (Interpreter.Evolves.replacePending session.interp none).builtins
    · intro receptive
      have threshold : given.finalizer.threshold = session.finalizer.threshold :=
        congrArg (fun embedding => embedding.finalizer.threshold) handsOver.embedding
      have few := receptive.few
      rw [← handsOver.queue, ← threshold] at few
      exact ⟨books'.there, handsOver.isOpen.trans receptive.isOpen, few⟩
    · exact Nat.pos_of_lt_add_left (handsOver.holders.symm ▸ intact.holders)
  · exact interp
  · exact handsOver.detached
  · exact handsOver.kept
  · exact handsOver.registered intact books books'

/-- An error that carries an exception lends it. -/
theorem lends_raise
    {error : HostError}
    (carries : error.Carries exception)
    (intact : Wrapper.AreIntact exception.wrappers session)
    (employed : session.Employed config hasTable owned)
    (room : session.interp.heap.HasRoom) :
    error.raise.Ends session fun outcome session' =>
      outcome = .ok () ∧ exception.Lends session session' := by
  have live := intact.isLive employed room
  have usable := intact.usable employed room
  have isObject : (exception.triple session).type.isNull = false :=
    Heap.isNull_of_isLive (live exception.type (by simp [wrappers]))
  have employed' := employed.follow (.restoreClone exception) rfl rfl usable
  have ended := ends_restoreClone (intact.own exception.value (by simp [wrappers])) live
  rw [HostError.raise_of_carries carries]
  rcases ended with ⟨succeeds, restores⟩
  have performed :
      (Session.Request.perform session (.restoreClone exception)).2 =
        session.updateInterp fun interp =>
          ((exception.triple session).components.foldl Interpreter.retain interp).restore
            (exception.triple session) :=
    restores
  simp only [Interpreter.restore_eq isObject] at performed restores
  rw [performed] at employed'
  refine ⟨succeeds, ?_⟩
  rw [restores]
  have shrinks := (Interpreter.shrinks_retainAll (exception.triple session).components
    session.interp).trans (Interpreter.shrinks_replacePending _ none)
  have intact' :
      Wrapper.AreIntact exception.wrappers
        (session.updateInterp fun interp =>
          { ((exception.triple session).components.foldl Interpreter.retain interp).clear with
            pending := some (exception.triple session) }) :=
    ⟨intact.own, intact.bare, intact.live, intact.distinct, intact.holders⟩
  constructor
  · constructor
    · rfl
    · exact shrinks
    · exact ((Interpreter.Evolves.foldl .retain _ session.interp).trans
        (.replacePending _ none)).builtins
    · exact fun receptive => ⟨receptive.there, receptive.isOpen, receptive.few⟩
    · exact Nat.zero_lt_of_lt intact.holders
  · rfl
  · exact Interpreter.refcount?_retainAll (forall_mem_components.mpr live)
  · exact intact'
  · exact intact'.usable employed' (shrinks.hasRoom_iff.mpr room)

/--
The pending error is captured, with the texts of an exception, and if it is then
put back the interpreter is what it was, and nothing more is registered.
-/
def ComesBack (exception : CapturedException) (triple : Triple) (session : Session) : Prop :=
  fetch.Ends session fun outcome fetched =>
    ∃ again,
      outcome = .ok (some again) ∧
        again.Renders triple exception.typeName exception.valueText fetched ∧
          fetched.interp = { session.interp with pending := none } ∧
            fetched.ownTracker.registered =
              session.ownTracker.registered + again.wrappers.length ∧
              again.restore.Ends fetched fun outcome restored =>
                outcome = .ok () ∧
                  restored.interp = session.interp ∧
                    restored.ownTracker.registered = session.ownTracker.registered

/-- A normalized error that is pending is captured and put back without a trace. -/
theorem comesBack_of_depicts
    {type value : Handle}
    {traceback : Option Handle}
    (employed : session.Employed config hasTable owned)
    (room : session.interp.heap.HasRoom)
    (receptive : session.Receptive)
    (held : 0 < session.ownTracker.holders)
    (pending : session.interp.pending = some ⟨type, some value, traceback⟩)
    (isException : session.interp.IsException value)
    (depicts : exception.Depicts session.interp.heap type value traceback) :
    exception.ComesBack ⟨type, some value, traceback⟩ session := by
  have books := (Session.Keeps.turns employed.turns).exact (Session.exact_opened config hasTable)
  have books' := (Session.Keeps.turn (.request .fetch trivial)).exact books
  have live := employed.isLive_of_pending room pending
  have linked (entry : Handle) (attached : session.interp.heap.tracebackOf value = some entry) :
      session.interp.heap.isLive entry = true :=
    employed.whole room (Heap.points_of_tracebackOf attached)
  have fetched := takesOver_fetch receptive pending isException depicts.toSuits live linked
  rcases fetched with ⟨again, succeeds, renders, takesOver⟩
  have performed :
      (Session.Request.perform session .fetch).2 = (fetch.on session).2 :=
    rfl
  rw [performed] at books'
  rw [← depicts.typeName, ← depicts.valueText] at renders
  have registered := takesOver.registered books books'
  have intact := takesOver.intact held
  have isObject : (again.triple (fetch.on session).2).type.isNull = false := by
    rw [renders.triple]
    exact Heap.isNull_of_isLive (live type (by simp [Triple.components]))
  refine ⟨again, succeeds, renders, takesOver.interp, registered, ?_⟩
  apply (putsBack_restore intact isObject books').mono
  rintro _ restored ⟨rfl, putsBack⟩
  refine ⟨rfl, ?_, ?_⟩
  · rw [putsBack.interp, takesOver.interp, renders.triple, ← pending]
    rfl
  · have counted := putsBack.registered
    rw [registered] at counted
    exact Nat.add_right_cancel counted

/-- An exception that was made pending can be captured again. -/
theorem MakesPending.comesBack
    (makesPending : exception.MakesPending session session')
    (employed' : session'.Employed config hasTable owned)
    (room : session.interp.heap.HasRoom)
    (receptive : session.Receptive)
    (isException : session.interp.IsException (exception.value.handle session))
    (depicts :
      exception.Depicts session.interp.heap (exception.type.handle session)
        (exception.value.handle session)
        (exception.traceback.map fun wrapper => wrapper.handle session)) :
    exception.ComesBack (exception.triple session) session' := by
  have room' := makesPending.shrinks.hasRoom_iff.mpr room
  have whole' : session'.interp.heap.Whole := employed'.whole room'
  have live := employed'.isLive_of_pending room' makesPending.pending
  have typeLive := live (exception.type.handle session) (by simp [Triple.components, triple])
  have valueLive := live (exception.value.handle session) (by simp [Triple.components, triple])
  exact comesBack_of_depicts employed' room' (makesPending.receptive receptive) makesPending.held
    makesPending.pending
    (isException.of_shrinks makesPending.builtins makesPending.shrinks whole' valueLive)
    (depicts.of_shrinks makesPending.shrinks whole' typeLive valueLive)

/-! ## Any time later -/

/-- An exception whose objects are there still says the same of them after it was captured. -/
theorem Portrayed.depicts
    (portrayed : exception.Portrayed session)
    (employed : session.Employed config hasTable owned)
    (room : session.interp.heap.HasRoom)
    (live :
      ∀ wrapper ∈ exception.wrappers,
        session.interp.heap.isLive (wrapper.handle session) = true) :
    exception.Depicts session.interp.heap (exception.type.handle session)
      (exception.value.handle session)
      (exception.traceback.map fun wrapper => wrapper.handle session) := by
  have addressable : session.interp.heap.Addressable := by
    rcases (employed.origin room).after with ⟨operations, made⟩
    rw [made] at room ⊢
    exact (Heap.Evolves.fits room).1
  have whole : session.interp.heap.Whole := employed.whole room
  rcases portrayed.likeness (employed.sound.untroubled room) addressable with
    ⟨taken, shrinks, depicts⟩
  exact depicts.of_shrinks shrinks whole (live exception.type (by simp [wrappers]))
    (live exception.value (by simp [wrappers]))

/--
An exception whose wrappers can be given up still says the same of its objects, if
its value has the traceback that it had when it was captured.
-/
theorem depicts_onward
    {start : Session}
    {request : Session.Request}
    (brought : (request.answer start).exception? = some exception)
    (onward : Session.Onward config hasTable (request.perform start).2 session owned)
    (room : session.interp.heap.HasRoom)
    (intact : Wrapper.AreIntact exception.wrappers session)
    (unchanged :
      session.interp.heap.tracebackOf (exception.value.handle session) =
        (request.perform start).2.interp.heap.tracebackOf (exception.value.handle session)) :
    exception.Depicts session.interp.heap (exception.type.handle session)
      (exception.value.handle session)
      (exception.traceback.map fun wrapper => wrapper.handle session) := by
  have portrayed := Session.portrayed_perform brought
  rcases onward.exists_employed with ⟨owned', employed'⟩
  have passes := onward.passes
  generalize (request.perform start).2 = captured at *
  have evolves := passes.heap (onward.employed.sound.untroubled room)
  have room' := evolves.hasRoom room
  have handle_eq (wrapper : Wrapper) (among : wrapper ∈ exception.wrappers) :
      wrapper.handle session = wrapper.handle captured :=
    passes.handle_eq (portrayed.inside wrapper among)
  -- A record that is live now was live then, so the objects were there all the time.
  have isLive := intact.isLive onward.employed room
  have wasLive (wrapper : Wrapper) (among : wrapper ∈ exception.wrappers) :
      captured.interp.heap.isLive (wrapper.handle captured) = true := by
    have stillLive := intact.live wrapper among
    have live := passes.objects.live wrapper.record (portrayed.inside wrapper among) stillLive
    exact employed'.sound.isLive_of_owns room' (congrArg RecordState.owns live)
  have depicts := portrayed.depicts employed' room' wasLive
  have traceback :
      (exception.traceback.map fun wrapper => wrapper.handle captured) =
        exception.traceback.map fun wrapper => wrapper.handle session := by
    apply Option.map_congr
    intro wrapper isTraceback
    exact (handle_eq wrapper (by simp [wrappers, isTraceback])).symm
  rw [← handle_eq exception.type (by simp [wrappers]),
    ← handle_eq exception.value (by simp [wrappers]), traceback] at depicts
  have whole : captured.interp.heap.Whole := employed'.whole room'
  have whole' : session.interp.heap.Whole := onward.employed.whole room
  refine depicts.of_evolves (employed'.origin room') evolves room whole whole' ?_ unchanged
  refine forall_mem_components.mpr fun wrapper among => ⟨?_, isLive wrapper among⟩
  rw [handle_eq wrapper among]
  exact wasLive wrapper among

/--
At any time after an exception was captured, as long as its wrappers can be given
up, it can be put back and it can be raised with an error that carries it.  Its very
components become pending.  Putting it back hands its references over; raising
it takes new ones.  And if the value is an exception, and has the traceback that
it had, what is pending is captured with the same texts and can be put back again.
-/
theorem passes_through_unchanged
    {start : Session}
    {request : Session.Request}
    (brought : (request.answer start).exception? = some exception)
    (onward : Session.Onward config hasTable (request.perform start).2 session owned)
    (room : session.interp.heap.HasRoom)
    (isOpen : session.ownTracker.isOpen = true)
    (few : session.queue.count < session.finalizer.threshold)
    (intact : Wrapper.AreIntact exception.wrappers session)
    (unchanged :
      session.interp.heap.tracebackOf (exception.value.handle session) =
        (request.perform start).2.interp.heap.tracebackOf (exception.value.handle session)) :
    (exception.restore.Ends session fun outcome restored =>
        outcome = .ok () ∧
          exception.PutsBack session restored ∧
            (session.interp.IsException (exception.value.handle session) →
              exception.ComesBack (exception.triple session) restored)) ∧
      ∀ error : HostError,
        error.Carries exception →
          error.raise.Ends session fun outcome raised =>
            outcome = .ok () ∧
              exception.Lends session raised ∧
                (session.interp.IsException (exception.value.handle session) →
                  exception.ComesBack (exception.triple session) raised) := by
  have employed := onward.employed
  have books := (Session.Keeps.turns employed.turns).exact (Session.exact_opened config hasTable)
  have receptive : session.Receptive := ⟨books.there, isOpen, few⟩
  have depicts := depicts_onward brought onward room intact unchanged
  have live := intact.isLive employed room
  constructor
  · have isObject : (exception.triple session).type.isNull = false :=
      Heap.isNull_of_isLive (live exception.type (by simp [wrappers]))
    rcases putsBack_restore intact isObject books with ⟨succeeds, putsBack⟩
    refine ⟨succeeds, putsBack, fun isException => ?_⟩
    have employed' := employed.follow (.restore exception) rfl rfl intact
    exact putsBack.comesBack employed' room receptive isException depicts
  · intro error carries
    rcases lends_raise carries intact employed room with ⟨succeeds, lends⟩
    refine ⟨succeeds, lends, fun isException => ?_⟩
    have usable (carried : CapturedException) (found : error.exception? = some carried) :
        Wrapper.AreUsable carried.wrappers session := by
      rw [HostError.exception?_eq_some_iff.mpr carries, Option.some.injEq] at found
      subst found
      exact intact.usable employed room
    have employed' := employed.follow (.raiseError error) rfl rfl usable
    exact lends.comesBack employed' room receptive isException depicts

end CapturedException

/-- The runtime in which the error was raised that is going to be captured. -/
def Session.raising : Session :=
  [Request.interpret (.pushFrame ⟨"main", "main.py", 1, none⟩),
    .interpret (.raise "TypeError" "no")].foldl
      (fun session request => (request.perform session).2) (opened .standard true)

/-- The error as it is captured. -/
def CapturedException.caught : CapturedException :=
  ⟨⟨0, 0, none⟩, ⟨0, 1, none⟩, some ⟨0, 2, none⟩, "TypeError", "no"⟩

/-- The error can be put back, and it can be raised with an error that was wrapped twice. -/
theorem CapturedException.passes_through_unchanged_caught :
    (caught.restore.Ends Session.captured fun outcome restored =>
        outcome = .ok () ∧
          restored.ownTracker.registered = 0 ∧
            caught.ComesBack ⟨⟨38, 0⟩, some ⟨54, 0⟩, some ⟨55, 0⟩⟩ restored) ∧
      (HostError.wrapped "k" "outer" (.wrapped "k" "inner" (.captured caught))).raise.Ends
        Session.captured fun outcome raised =>
          outcome = .ok () ∧
            caught.Lends Session.captured raised ∧
              caught.ComesBack ⟨⟨38, 0⟩, some ⟨54, 0⟩, some ⟨55, 0⟩⟩ raised := by
  have onward :
      Session.Onward .standard true (Session.Request.fetch.perform Session.raising).2
        Session.captured 0 :=
    .start (.of_reached (Session.reached_captured False))
  have facts :
      (Session.Request.fetch.answer Session.raising).exception? = some caught ∧
        Session.captured.ownTracker.isOpen = true ∧
          Session.captured.queue.count < Session.captured.finalizer.threshold ∧
            Wrapper.AreIntact caught.wrappers Session.captured ∧
              caught.triple Session.captured = ⟨⟨38, 0⟩, some ⟨54, 0⟩, some ⟨55, 0⟩⟩ ∧
                Session.captured.ownTracker.registered = 3 := by
    decide +kernel
  have isException :
      Session.captured.interp.IsException (caught.value.handle Session.captured) := by
    refine ⟨⟨⟨38, 0⟩, [⟨53, 0⟩], none, some ⟨55, 0⟩⟩, ?_⟩
    decide +kernel
  rcases facts with ⟨brought, isOpen, few, intact, stands, registered⟩
  rcases passes_through_unchanged brought onward Session.hasRoom_captured isOpen few intact rfl with
    ⟨⟨succeeds, putsBack, again⟩, raises⟩
  constructor
  · have counted := putsBack.registered
    rw [registered] at counted
    exact ⟨succeeds, Nat.add_right_cancel counted, stands ▸ again isException⟩
  · rcases raises _ (.wrapped _ _ (.wrapped _ _ (.captured caught))) with
      ⟨succeeds', lends, again'⟩
    exact ⟨succeeds', lends, stands ▸ again' isException⟩

/-! ## A cause that is no exception -/

/-- The runtime in which a number was made the cause of the error. -/
def Session.linked : Session :=
  [Request.interpret (.newObject (.int 7)),
    .interpret (.setCause ⟨54, 0⟩ (some ⟨56, 0⟩))].foldl
      (fun session request => (request.perform session).2) captured

theorem Session.employed_linked : linked.Employed .standard true 0 := by
  have started : captured.Employed .standard true 0 :=
    .of_reached (reached_captured False)
  have made := Employed.request (.interpret (.newObject (.int 7)))
    (show captured.Employed .standard true
      ((Request.interpret (.newObject (.int 7))).taken + 0) from started) nofun
  have facts :
      ((Request.interpret (.newObject (.int 7))).perform captured).1 = [⟨56, 0⟩] ∧
        ((Request.interpret (.newObject (.int 7))).perform captured).2.interp.heap.isLive ⟨54, 0⟩ =
          true := by
    decide +kernel
  rcases facts with ⟨received, live⟩
  rw [received] at made
  rw [linked, List.foldl_cons, List.foldl_cons, List.foldl_nil]
  generalize ((Request.interpret (.newObject (.int 7))).perform captured).2 =
    session at made live ⊢
  have assigned := Employed.request (.interpret (.setCause ⟨54, 0⟩ (some ⟨56, 0⟩))) made
    fun handle borrowed => List.mem_singleton.mp borrowed ▸ live
  have nothing :
      ((Request.interpret (.setCause ⟨54, 0⟩ (some ⟨56, 0⟩))).perform session).1 = [] := by
    rw [Request.perform, Interpreter.Call.perform]
    cases session.interp.setCause ⟨54, 0⟩ (some ⟨56, 0⟩) with
    | ok interp => rfl
    | error reason => rfl
  rwa [nothing] at assigned

/-- The number, captured as the cause of the error. -/
def CapturedException.number : CapturedException :=
  ⟨⟨0, 3, none⟩, ⟨0, 4, none⟩, none, "int", "7"⟩

/-- The runtime in which the number was captured. -/
def Session.numbered : Session :=
  ((Request.cause .caught).perform linked).2

/-- The number can be put back.  But when it is captured again it is refused, and that is raised. -/
theorem CapturedException.not_comesBack_number :
    ((Session.Request.cause caught).answer Session.linked).exception? = some number ∧
      Session.Onward .standard true ((Session.Request.cause caught).perform Session.linked).2
          Session.numbered 0 ∧
        Session.numbered.interp.heap.HasRoom ∧
          Session.numbered.ownTracker.isOpen = true ∧
            Session.numbered.queue.count < Session.numbered.finalizer.threshold ∧
              Wrapper.AreIntact number.wrappers Session.numbered ∧
                number.restore.Ends Session.numbered fun outcome restored =>
                  outcome = .ok () ∧
                    restored.interp.pending = some ⟨⟨4, 0⟩, some ⟨56, 0⟩, none⟩ ∧
                      (fetch.on restored).1.toOption.join.map CapturedException.typeName =
                        some "TypeError" ∧
                        ¬ number.ComesBack (number.triple Session.numbered) restored := by
  have before : Session.Employed .standard true Session.numbered 0 :=
    Session.employed_linked.follow (.cause caught) rfl rfl trivial
  have facts :
      ((Session.Request.cause caught).answer Session.linked).exception? = some number ∧
        Session.numbered.interp.heap.stats.allocations < Heap.capacity ∧
          Session.numbered.ownTracker.isOpen = true ∧
            Session.numbered.queue.count < Session.numbered.finalizer.threshold ∧
              Wrapper.AreIntact number.wrappers Session.numbered ∧
                (number.restore.on Session.numbered).1 = .ok () ∧
                  (number.restore.on Session.numbered).2.interp.pending =
                    some ⟨⟨4, 0⟩, some ⟨56, 0⟩, none⟩ ∧
                    (fetch.on (number.restore.on Session.numbered).2).1.toOption.join.map
                      CapturedException.typeName = some "TypeError" := by
    decide +kernel
  rcases facts with ⟨brought, room, isOpen, few, intact, succeeds, pending, refused⟩
  refine ⟨brought, .start before, room, isOpen, few, intact, succeeds, pending, refused, ?_⟩
  rintro ⟨again, returned, renders, -⟩
  have sameName : again.typeName = "int" := renders.typeName
  rw [returned] at refused
  exact absurd (sameName.symm.trans (Option.some.inj refused)) (by decide)

end Custody
