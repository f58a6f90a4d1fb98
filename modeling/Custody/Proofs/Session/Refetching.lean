import Custody.Proofs.Interpreter.Normalized
import Custody.Proofs.Session.Restoring
import Custody.Proofs.Tracking.Exactness

/-!
# Capturing what was put back

While the tracker is open and less waits than the threshold, wrapping an object
that is there succeeds, and no drain runs.  So if the pending error is a
normalized triple whose components are there, a fetch does nothing but make
wrappers of them.
-/

namespace Custody

variable {session session' session'' : Session}

/-- A registration does not start a drain, and the tracker takes it. -/
structure Session.Receptive (session : Session) : Prop where
  there : session.tracker < session.registry.trackers.size
  isOpen : session.ownTracker.isOpen = true
  few : session.queue.count < session.finalizer.threshold

namespace Wrapper

/--
Wrappers were made, of new records of some objects, which hold the tracker.  The
records before, the queue and everything outside the registry are as they were.
-/
structure TakesOver
    (handles : List Handle)
    (wrappers : List Wrapper)
    (session session' : Session) :
    Prop where
  embedding : session'.toEmbedding = session.toEmbedding
  there : session.tracker < session.registry.trackers.size →
    session.tracker < session'.registry.trackers.size
  size : session'.registry.records.size = session.registry.records.size + wrappers.length
  records :
    wrappers.map Wrapper.record = List.range' session.registry.records.size wrappers.length
  kept : ∀ ref < session.registry.records.size, session'.record ref = session.record ref
  handles : (wrappers.map fun wrapper => wrapper.handle session') = handles
  own : ∀ wrapper ∈ wrappers, wrapper.tracker = session.tracker
  bare : ∀ wrapper ∈ wrappers, wrapper.hook = none
  live : ∀ wrapper ∈ wrappers, (session'.record wrapper.record).state = .live
  queue : session'.queue = session.queue
  isOpen : session'.ownTracker.isOpen = session.ownTracker.isOpen
  holders : session'.ownTracker.holders = session.ownTracker.holders + wrappers.length

namespace TakesOver

variable {handles handles' : List Handle} {wrappers wrappers' : List Wrapper}

theorem tracker (takesOver : TakesOver handles wrappers session session') :
    session'.tracker = session.tracker :=
  congrArg Embedding.tracker takesOver.embedding

theorem interp (takesOver : TakesOver handles wrappers session session') :
    session'.interp = session.interp :=
  congrArg Embedding.interp takesOver.embedding

theorem receptive
    (takesOver : TakesOver handles wrappers session session')
    (receptive : session.Receptive) :
    session'.Receptive where
  there := takesOver.tracker ▸ takesOver.there receptive.there
  isOpen := takesOver.isOpen.trans receptive.isOpen
  few := by
    rw [takesOver.queue, show session'.finalizer = session.finalizer from
      congrArg Embedding.finalizer takesOver.embedding]
    exact receptive.few

/-- A record is new if a wrapper was made for it. -/
theorem inside
    {wrapper : Wrapper}
    (takesOver : TakesOver handles wrappers session session')
    (among : wrapper ∈ wrappers) :
    session.registry.records.size ≤ wrapper.record ∧
      wrapper.record < session'.registry.records.size := by
  have listed : wrapper.record ∈ List.range' session.registry.records.size wrappers.length :=
    takesOver.records ▸ List.mem_map_of_mem among
  rw [List.mem_range'_1] at listed
  exact ⟨listed.1, listed.2.trans_eq takesOver.size.symm⟩

theorem append
    (first : TakesOver handles wrappers session session')
    (later : TakesOver handles' wrappers' session' session'') :
    TakesOver (handles ++ handles') (wrappers ++ wrappers') session session'' where
  embedding := later.embedding.trans first.embedding
  there := fun there => first.tracker ▸ later.there (first.tracker.symm ▸ first.there there)
  size := by
    rw [later.size, first.size, List.length_append, Nat.add_assoc]
  records := by
    rw [List.map_append, first.records, later.records, first.size, List.length_append,
      List.range'_append_1]
  kept := by
    intro ref bound
    rw [later.kept ref (bound.trans_le (by rw [first.size]; omega)), first.kept ref bound]
  handles := by
    rw [List.map_append, later.handles, ← first.handles]
    congr 1
    apply List.map_congr_left
    intro wrapper among
    rw [handle, handle, later.kept _ (first.inside among).2]
  own := by
    intro wrapper among
    rcases List.mem_append.mp among with old | new
    · exact first.own wrapper old
    · exact (later.own wrapper new).trans first.tracker
  bare := by
    intro wrapper among
    rcases List.mem_append.mp among with old | new
    · exact first.bare wrapper old
    · exact later.bare wrapper new
  live := by
    intro wrapper among
    rcases List.mem_append.mp among with old | new
    · rw [later.kept _ (first.inside old).2]
      exact first.live wrapper old
    · exact later.live wrapper new
  queue := later.queue.trans first.queue
  isOpen := later.isOpen.trans first.isOpen
  holders := by
    rw [later.holders, first.holders, List.length_append, Nat.add_assoc]

/-- New wrappers can be given up. -/
theorem intact
    (takesOver : TakesOver handles wrappers session session')
    (held : 0 < session.ownTracker.holders) :
    AreIntact wrappers session' where
  own := fun wrapper among => (takesOver.own wrapper among).trans takesOver.tracker.symm
  bare := takesOver.bare
  live := takesOver.live
  distinct := takesOver.records ▸ List.nodup_range'
  holders := by
    rw [takesOver.holders]
    omega

end TakesOver

/-- A new record for an object, held by a wrapper. -/
theorem takesOver_addRecord
    (there : session.tracker < session.registry.trackers.size)
    (handle : Handle)
    (typeName : String) :
    TakesOver [handle] [⟨session.tracker, session.registry.records.size, none⟩] session
      { session with
        registry :=
          (session.registry.addRecord session.tracker handle typeName).2.hold
            session.tracker } := by
  have trackers :
      ((session.registry.addRecord session.tracker handle typeName).2.hold
        session.tracker).trackers.size = session.registry.trackers.size := by
    simp [Registry.addRecord, Registry.hold, Registry.updateTracker]
  have added := session.registry.record_addRecord_self session.tracker handle typeName
  have own :
      ((session.registry.addRecord session.tracker handle typeName).2.hold session.tracker).tracker
          session.tracker =
        { session.ownTracker with
          owners := session.ownTracker.owners.add handle session.registry.records.size
          nextId := session.ownTracker.nextId + 1
          holders := session.ownTracker.holders + 1 } := by
    have still :
        session.tracker <
          (session.registry.addRecord session.tracker handle typeName).2.trackers.size := by
      simpa [Registry.addRecord] using there
    rw [Registry.hold, Registry.tracker_updateTracker_self still,
      Registry.tracker_addRecord_self there]
    rfl
  constructor
  · rfl
  · exact fun _ => there.trans_eq trackers.symm
  · exact session.registry.size_addRecord session.tracker handle typeName
  · rfl
  · exact fun ref bound => Registry.record_addRecord_of_lt bound
  · exact congrArg (fun record : Record => [record.handle]) added
  · simp
  · simp
  · intro wrapper among
    rw [List.mem_singleton.mp among]
    exact congrArg Record.state added
  · exact (congrArg Tracker.queue own).trans rfl
  · exact (congrArg Tracker.isOpen own).trans rfl
  · exact (congrArg Tracker.holders own).trans rfl

/-- An object that is there is wrapped, and that is all. -/
theorem takesOver_ofOwned
    {handle : Handle}
    (receptive : session.Receptive)
    (live : session.interp.heap.isLive handle = true) :
    (ofOwned handle).Ends session fun outcome session' =>
      ∃ wrapper, outcome = .ok wrapper ∧ TakesOver [handle] [wrapper] session session' := by
  have notNull := Heap.isNull_of_isLive live
  rcases Interpreter.exists_typeName live with ⟨typeName, named⟩
  have registered :
      session.register handle =
        .ok (session.registry.records.size,
          { session with
            registry := (session.registry.addRecord session.tracker handle typeName).2 }) := by
    rw [Session.register, notNull, receptive.isOpen, named]
    rfl
  have entered := takesOver_addRecord receptive.there handle typeName
  have waits :
      ({ session with
        registry := (session.registry.addRecord session.tracker handle typeName).2 } :
          Session).queue = session.queue := by
    exact (congrArg Tracker.queue
      (Registry.tracker_addRecord_self receptive.there handle typeName)).trans rfl
  have quiet :
      ({ session with
        registry := (session.registry.addRecord session.tracker handle typeName).2 } :
          Session).shouldCollect = false := by
    rw [Session.shouldCollect, waits, decide_eq_false_iff_not, not_le]
    exact receptive.few
  rw [ofOwned, Op.register, Op.ends_bind]
  simp only [Op.ends_bind, Op.ends_session, Op.andThen_ok, registered, Op.ends_change]
  apply Op.ends_ofPanicking
  · intro count _
    rw [Session.collectThrottled, quiet, if_neg Bool.false_ne_true]
    exact ⟨_, rfl, entered⟩
  · intro panic panicked
    rw [Session.collectThrottled, quiet, if_neg Bool.false_ne_true] at panicked
    cases panicked

end Wrapper

/-! ## Fetching -/

namespace CapturedException

/-- A captured exception stands for a triple, and has the given texts. -/
structure Renders
    (exception : CapturedException)
    (triple : Triple)
    (typeName valueText : String)
    (session : Session) :
    Prop where
  triple : exception.triple session = triple
  typeName : exception.typeName = typeName
  valueText : exception.valueText = valueText

/-- The references of a complete triple go to new wrappers, and that is all. -/
theorem takesOver_ofNormalized
    {type value : Handle}
    {traceback : Option Handle}
    (receptive : session.Receptive)
    (live :
      ∀ handle ∈ (⟨type, some value, traceback⟩ : Triple).components,
        session.interp.heap.isLive handle = true)
    (complete : traceback = none → session.interp.heap.tracebackOf value = none) :
    (ofNormalized ⟨type, some value, traceback⟩).Ends session fun outcome session' =>
      ∃ exception,
        outcome = .ok exception ∧
          exception.Renders ⟨type, some value, traceback⟩ (session.interp.heap.className type)
            (session.interp.heap.str value) session' ∧
          Wrapper.TakesOver (⟨type, some value, traceback⟩ : Triple).components
            exception.wrappers session session' := by
  have completed :
      completeTraceback session.interp value traceback = (traceback, session.interp) := by
    cases traceback with
    | none => simp [completeTraceback, complete rfl]
    | some entry => rfl
  have there {session' : Session} {handles : List Handle} {wrappers : List Wrapper}
      (takesOver : Wrapper.TakesOver handles wrappers session session') (handle : Handle)
      (among : handle ∈ (⟨type, some value, traceback⟩ : Triple).components) :
      session'.interp.heap.isLive handle = true := by
    rw [takesOver.interp]
    exact live handle among
  simp only [ofNormalized, Op.ends_bind, Op.ends_withInterp, Op.ends_session, Op.andThen_ok,
    completed]
  apply (Wrapper.takesOver_ofOwned receptive (live type (by simp [Triple.components]))).mono
  rintro _ session₁ ⟨typeWrapper, rfl, first⟩
  rw [Op.andThen_ok, Op.ends_bind, Op.ends_orDrop]
  have valueLive := there first value (by simp [Triple.components])
  apply (Wrapper.takesOver_ofOwned (first.receptive receptive) valueLive).mono
  rintro _ session₂ ⟨valueWrapper, rfl, second⟩
  have both := first.append second
  rw [Op.orDropped, Op.andThen_ok]
  cases traceback with
  | none =>
      rw [Op.ends_pure]
      refine ⟨_, rfl, ⟨?_, rfl, rfl⟩, both⟩
      have handles := both.handles
      simp only [List.cons_append, List.nil_append, List.map_cons, List.map_nil, List.cons.injEq,
        and_true] at handles
      simp only [triple, handles.1, handles.2, Option.map_none]
  | some entry =>
      have entryLive := there both entry (by simp [Triple.components])
      simp only [Op.ends_bind, Op.ends_orDrop]
      apply (Wrapper.takesOver_ofOwned (both.receptive receptive) entryLive).mono
      rintro _ session₃ ⟨entryWrapper, rfl, third⟩
      have all := both.append third
      rw [Op.orDropped, Op.andThen_ok, Op.ends_pure]
      refine ⟨_, rfl, ⟨?_, rfl, rfl⟩, all⟩
      have handles := all.handles
      simp only [List.cons_append, List.nil_append, List.map_cons, List.map_nil, List.cons.injEq,
        and_true] at handles
      simp only [triple, handles.1, handles.2.1, handles.2.2, Option.map_some]

/-- A normalized error that is pending is captured as it is. -/
theorem takesOver_fetch
    {type value : Handle}
    {traceback : Option Handle}
    (receptive : session.Receptive)
    (pending : session.interp.pending = some ⟨type, some value, traceback⟩)
    (isException : session.interp.IsException value)
    (suits : session.interp.heap.Suits type value traceback)
    (live :
      ∀ handle ∈ (⟨type, some value, traceback⟩ : Triple).components,
        session.interp.heap.isLive handle = true)
    (linked :
      ∀ entry, session.interp.heap.tracebackOf value = some entry →
        session.interp.heap.isLive entry = true) :
    fetch.Ends session fun outcome session' =>
      ∃ exception,
        outcome = .ok (some exception) ∧
          exception.Renders ⟨type, some value, traceback⟩ (session.interp.heap.className type)
            (session.interp.heap.str value) session' ∧
          Wrapper.TakesOver (⟨type, some value, traceback⟩ : Triple).components
            exception.wrappers
            (session.updateInterp fun interp => { interp with pending := none }) session' := by
  have fetched := Interpreter.fetch_of_pending pending
  have normalized :
      ({ session.interp with pending := none } : Interpreter).normalize
          ⟨type, some value, traceback⟩ =
        (.ok ⟨type, some value, traceback⟩, { session.interp with pending := none }) := by
    apply Interpreter.normalize_of_fits
    · exact isException
    · exact suits.toFits
    · exact fun entry isTraceback => live entry (by simp [Triple.components, isTraceback])
  have complete (bare : traceback = none) : session.interp.heap.tracebackOf value = none := by
    rcases isException with ⟨info, holds, -⟩
    by_contra attached
    rcases Option.ne_none_iff_exists'.mp attached with ⟨entry, isLinked⟩
    have links : info.traceback = some entry := by simpa [Heap.tracebackOf, holds] using isLinked
    have some_traceback := suits.complete info entry holds links (linked entry isLinked)
    rw [bare] at some_traceback
    cases some_traceback
  have receptive' :
      (session.updateInterp fun interp => { interp with pending := none }).Receptive :=
    ⟨receptive.there, receptive.isOpen, receptive.few⟩
  have taken := takesOver_ofNormalized receptive' live complete
  simp only [fetch, Op.ends_bind, Op.ends_session, Op.andThen_ok, fetched, Op.ends_changeInterp,
    normalizationAttempts, ofTriple, Op.ends_withInterp, Session.updateInterp, normalized]
  apply taken.mono
  rintro _ session' ⟨exception, rfl, renders, takesOver⟩
  exact ⟨exception, rfl, renders, takesOver⟩

end CapturedException

end Custody
