import Custody.Host
import Custody.Proofs.Session.Answers

/-!
# The books of a runtime

A runtime is used in any way: every request is allowed, the queue may be filled
and emptied by hand, callbacks may panic, the interpreter may be changed at will,
and in the end the runtime may be shut down or abandoned.  After each step its
tracker lists exactly the records that own a reference.

A shutdown empties the books at a stroke and then releases the records that they
listed one by one; since they listed all of them, the books are exact again.
-/

namespace Custody

namespace Session

variable {session session' : Session}

/-! ## Emptying the books -/

/-- Of some records those that owned a reference were released, and nothing else changed. -/
structure Releases (refs : List RecordRef) (registry registry' : Registry) : Prop where
  trackers : registry'.trackers = registry.trackers
  size : registry'.records.size = registry.records.size
  released :
    ∀ ref ∈ refs, (registry.record ref).state.owns = true →
      registry'.record ref = { registry.record ref with state := .released }
  kept :
    ∀ ref, ref ∉ refs ∨ (registry.record ref).state.owns = false →
      registry'.record ref = registry.record ref
  told : ∀ ref, .deferred ref ∈ registry'.journal ↔ .deferred ref ∈ registry.journal

/-- A record keeps everything but its state. -/
theorem Releases.record
    {refs : List RecordRef}
    {registry registry' : Registry}
    (releases : Releases refs registry registry')
    (ref : RecordRef) :
    registry'.record ref = registry.record ref ∨
      registry'.record ref = { registry.record ref with state := .released } := by
  by_cases listed : ref ∈ refs
  · cases owns : (registry.record ref).state.owns with
    | true => exact .inr (releases.released ref listed owns)
    | false => exact .inl (releases.kept ref (.inr owns))
  · exact .inl (releases.kept ref (.inl listed))

theorem owns_iff (state : RecordState) :
    state = .live ∨ state = .deferred ↔ state.owns = true := by
  cases state with
  | live => exact ⟨fun _ => rfl, fun _ => .inl rfl⟩
  | deferred => exact ⟨fun _ => rfl, fun _ => .inr rfl⟩
  | released => exact ⟨fun owns => by simp at owns, nofun⟩
  | detached => exact ⟨fun owns => by simp at owns, nofun⟩

theorem releases_releaseOwner
    (ref : RecordRef)
    (session : Session) :
    Releases [ref] session.registry (session.releaseOwner ref).2.registry := by
  have released (journal : List Event)
      (owns : (session.registry.record ref).state.owns = true)
      (told : ∀ other, .deferred other ∈ journal ↔ .deferred other ∈ session.registry.journal) :
      Releases [ref] session.registry
        { session.registry.setState ref .released with journal } := by
    refine ⟨rfl, Registry.size_alter _ _ _, fun other member _ => ?_, fun other apart => ?_, told⟩
    · rw [List.mem_singleton.mp member]
      refine (Registry.record_setState _ _ _ _).trans ?_
      rw [if_pos ⟨rfl, Registry.lt_size_of_owns owns⟩]
    · refine (Registry.record_setState _ _ _ _).trans ?_
      rw [if_neg]
      rintro ⟨rfl, -⟩
      rcases apart with foreign | spent
      · exact foreign (by simp)
      · rw [owns] at spent
        cases spent
  simp only [releaseOwner]
  split
  · next owns =>
      have owned : (session.registry.record ref).state.owns = true := (owns_iff _).mp owns
      split
      · exact released _ owned (by simp [updateRegistry, Registry.setState])
      · exact released _ owned fun _ => .rfl
  · next spent =>
      refine ⟨rfl, rfl, fun other member owns => ?_, fun _ _ => rfl, fun _ => .rfl⟩
      rw [List.mem_singleton.mp member] at owns
      exact absurd ((owns_iff _).mpr owns) spent

theorem releases_releaseOwners
    (refs : List RecordRef)
    (session : Session) :
    Releases refs session.registry (session.releaseOwners refs).2.registry := by
  induction refs generalizing session with
  | nil => exact ⟨rfl, rfl, nofun, fun _ _ => rfl, fun _ => .rfl⟩
  | cons ref rest step =>
      have first := releases_releaseOwner ref session
      have others := step (session.releaseOwner ref).2
      refine ⟨others.trackers.trans first.trackers, others.size.trans first.size,
        fun other member owns => ?_, fun other apart => ?_,
        fun other => (others.told other).trans (first.told other)⟩
      · by_cases same : other = ref
        · subst same
          have settled := first.released other (by simp) owns
          have final := others.kept other (.inr (by rw [settled]; rfl))
          exact final.trans settled
        · have unchanged := first.kept other (.inl (by simpa using same))
          have later := others.released other
            ((List.mem_cons.mp member).resolve_left same) (by rwa [unchanged])
          rw [unchanged] at later
          exact later
      · have unchanged := first.kept other
          (apart.imp_left fun outside among => outside (by simp_all))
        have later := others.kept other (apart.imp
          (fun outside among => outside (List.mem_cons_of_mem _ among))
          fun spent => by rwa [unchanged])
        exact later.trans unchanged

/-- Releasing records is done with the interpreter and the registry alone. -/
theorem frame_releaseOwner
    (ref : RecordRef)
    (session : Session) :
    (session.releaseOwner ref).2.tracker = session.tracker ∧
      (session.releaseOwner ref).2.finalizer = session.finalizer ∧
        (session.releaseOwner ref).2.isShutDown = session.isShutDown := by
  unfold releaseOwner
  by_cases owns : (session.record ref).state = .live ∨ (session.record ref).state = .deferred
  · simp only [if_pos owns]
    split
    · exact ⟨rfl, rfl, rfl⟩
    · exact ⟨rfl, rfl, rfl⟩
  · simp only [if_neg owns, and_self]

theorem frame_releaseOwners
    (refs : List RecordRef)
    (session : Session) :
    (session.releaseOwners refs).2.tracker = session.tracker ∧
      (session.releaseOwners refs).2.finalizer = session.finalizer ∧
        (session.releaseOwners refs).2.isShutDown = session.isShutDown := by
  induction refs generalizing session with
  | nil => exact ⟨rfl, rfl, rfl⟩
  | cons ref rest step =>
      have first := frame_releaseOwner ref session
      have others := step (session.releaseOwner ref).2
      exact ⟨others.1.trans first.1, others.2.1.trans first.2.1, others.2.2.trans first.2.2⟩

theorem ownTracker_takeSnapshot
    (there : session.tracker < session.registry.trackers.size) :
    session.takeSnapshot.2.2.ownTracker =
      { session.ownTracker with queue := session.queue.takeSnapshot.2 } :=
  Registry.tracker_updateTracker_self there _

/-- The session with its tracker closed. -/
def closed (session : Session) : Session :=
  session.updateRegistry fun registry => registry.close session.tracker

theorem ownTracker_closed
    (there : session.tracker < session.registry.trackers.size) :
    session.closed.ownTracker = { session.ownTracker with isOpen := false } :=
  Registry.tracker_updateTracker_self there _

theorem there_closed
    (there : session.tracker < session.registry.trackers.size) :
    session.closed.tracker < session.closed.registry.trackers.size :=
  there.trans_eq (Registry.size_updateTracker _ _ _).symm

/-- At the end of its runtime a tracker is closed, with nothing waiting and without owners. -/
theorem tracker_emptied
    (there : session.tracker < session.registry.trackers.size) :
    session.tracker < session.emptied.registry.trackers.size ∧
      session.emptied.registry.tracker session.tracker =
        { session.ownTracker with
          queue := session.queue.takeSnapshot.2
          owners := []
          isOpen := false } := by
  have closing := ownTracker_closed there
  have taking := ownTracker_takeSnapshot (there_closed there)
  have there' : session.tracker < session.closed.takeSnapshot.2.2.registry.trackers.size :=
    (there_closed there).trans_eq (Registry.size_updateTracker _ _ _).symm
  have emptying :
      session.emptied.registry.tracker session.tracker =
        { session.closed.takeSnapshot.2.2.ownTracker with owners := [] } :=
    Registry.tracker_updateTracker_self there' _
  constructor
  · exact there'.trans_eq (Registry.size_updateTracker _ _ _).symm
  · rw [emptying, taking, queue, closing]
    rfl

/-- A shutdown empties the books, releases who was on them, and discards what waited. -/
theorem releaseAll_eq_emptied (session : Session) :
    session.releaseAll =
      ((session.emptied.releaseOwners
          session.closed.takeSnapshot.2.2.ownTracker.owners.all).1,
        (session.emptied.releaseOwners
          session.closed.takeSnapshot.2.2.ownTracker.owners.all).2.updateRegistry
            fun registry => registry.discardBatch session.closed.takeSnapshot.2.1) := by
  simp only [releaseAll, emptied, closed]

theorem tracker_releaseAll (session : Session) :
    session.releaseAll.2.tracker = session.tracker := by
  rw [releaseAll_eq_emptied, updateRegistry, (frame_releaseOwners _ _).1, emptied]
  rfl

theorem finalizer_releaseAll (session : Session) :
    session.releaseAll.2.finalizer = session.finalizer := by
  rw [releaseAll_eq_emptied, updateRegistry, (frame_releaseOwners _ _).2.1, emptied]
  rfl

theorem isShutDown_releaseAll (session : Session) :
    session.releaseAll.2.isShutDown = session.isShutDown := by
  rw [releaseAll_eq_emptied, updateRegistry, (frame_releaseOwners _ _).2.2, emptied]
  rfl

theorem told_releaseOwner
    {event : Event}
    (ref : RecordRef)
    (before : event ∈ session.registry.journal) :
    event ∈ (session.releaseOwner ref).2.registry.journal := by
  simp only [releaseOwner]
  split
  · split
    · exact List.mem_append_left _ before
    · exact before
  · exact before

theorem told_releaseOwners
    {event : Event}
    (refs : List RecordRef)
    (before : event ∈ session.registry.journal) :
    event ∈ (session.releaseOwners refs).2.registry.journal := by
  induction refs generalizing session with
  | nil => exact before
  | cons ref rest step => exact step (told_releaseOwner ref before)

theorem told_releaseAll
    {event : Event}
    (before : event ∈ session.registry.journal) :
    event ∈ session.releaseAll.2.registry.journal := by
  rw [releaseAll_eq_emptied]
  apply (Registry.Defers.discardBatch _ _).told
  exact @told_releaseOwners session.emptied event _ before

/-- The session in which every record on the books was released, and what waited is set aside. -/
def settled (session : Session) : Session :=
  (session.emptied.releaseOwners session.ownTracker.owners.all).2

theorem releases_settled (session : Session) :
    Releases session.ownTracker.owners.all session.emptied.registry session.settled.registry :=
  releases_releaseOwners _ _

/-- The owners that a shutdown releases are all those on the books. -/
theorem releaseAll_eq
    (there : session.tracker < session.registry.trackers.size) :
    session.releaseAll.2 =
      session.settled.updateRegistry fun registry =>
        registry.discardBatch session.queue.items := by
  have owners : session.closed.takeSnapshot.2.2.ownTracker.owners = session.ownTracker.owners := by
    rw [ownTracker_takeSnapshot (there_closed there), ownTracker_closed there]
  have items : session.closed.takeSnapshot.2.1 = session.queue.items := by
    show session.closed.ownTracker.queue.items = _
    rw [ownTracker_closed there]
    rfl
  rw [releaseAll_eq_emptied, owners, items, settled]

/-- The tracker is closed, nothing waits, and it has no owners. -/
theorem tracker_settled
    (there : session.tracker < session.registry.trackers.size) :
    session.settled.registry.tracker session.tracker =
      { session.ownTracker with
        queue := session.queue.takeSnapshot.2
        owners := []
        isOpen := false } := by
  rw [Registry.tracker, (releases_settled session).trackers]
  exact (tracker_emptied there).2

theorem size_settled (session : Session) :
    session.settled.registry.trackers.size = session.registry.trackers.size := by
  rw [(releases_settled session).trackers]
  simp [emptied, updateRegistry, takeSnapshot, Registry.close, Registry.updateQueue]

/-- With exact books all records that own a reference are on the list, and are released. -/
theorem spent_settled
    (books : session.registry.Exact session.tracker)
    (ref : RecordRef) :
    (session.settled.registry.record ref).state.owns = false := by
  have releases := releases_settled session
  cases owns : (session.registry.record ref).state.owns with
  | true =>
      have listed : ref ∈ session.ownTracker.owners.all := by
        refine books.all_perm.mem_iff.mpr (List.mem_filter.mpr ⟨?_, owns⟩)
        exact List.mem_range.mpr (Registry.lt_size_of_owns owns)
      rw [releases.released ref listed owns]
      rfl
  | false =>
      rw [releases.kept ref (.inr owns)]
      exact owns

theorem exact_settled
    (books : session.registry.Exact session.tracker) :
    session.settled.registry.Exact session.tracker := by
  have releases := releases_settled session
  have own := tracker_settled books.there
  constructor
  · exact (size_settled session).symm ▸ books.there
  · rw [own]
    exact List.nodup_nil
  · intro handle refs listed
    rw [own] at listed
    cases listed
  · intro handle
    rw [Registry.ownersOf, own, Owners.of_nil, Registry.ownersInOrder]
    refine (List.filter_eq_nil_iff.mpr fun ref _ => ?_).symm
    simp [Registry.ownsAt, spent_settled books]
  · intro ref inside
    rw [releases.size] at inside
    rcases releases.record ref with same | changed
    · rw [same]
      exact books.numbered ref inside
    · rw [changed]
      exact books.numbered ref inside
  · rw [own, releases.size]
    exact books.nextId

/-- Once a runtime was shut down no record owns a reference, and the books are empty. -/
theorem exact_releaseAll
    (books : session.registry.Exact session.tracker) :
    session.releaseAll.2.registry.Exact session.tracker ∧
      ∀ ref, (session.releaseAll.2.registry.record ref).state.owns = false := by
  have discarded := Registry.Defers.discardBatch session.settled.registry session.queue.items
  have spent := spent_settled books
  rw [releaseAll_eq books.there]
  refine ⟨(exact_settled books).of_defers discarded, fun ref => ?_⟩
  rcases discarded.record ref with kept | ⟨live, -⟩
  · exact (congrArg (RecordState.owns ∘ Record.state) kept).trans (spent ref)
  · have owns := congrArg RecordState.owns live
    rw [spent ref] at owns
    cases owns

theorem counted_releaseAll (counted : session.queue.IsCounted) :
    session.releaseAll.2.queue.IsCounted := by
  have closed : session.closed.queue = session.queue :=
    Registry.read_updateTracker Tracker.queue _ _ _ fun _ => rfl
  rw [← closed] at counted
  have taken := (Spares.takeSnapshot session.closed).registry.counted session.tracker counted
  have emptied : (session.emptied.registry.tracker session.tracker).queue =
      (session.closed.takeSnapshot.2.2.registry.tracker session.tracker).queue :=
    Registry.read_updateTracker Tracker.queue _ _ _ fun _ => rfl
  rw [queue, ownTracker, tracker_releaseAll, releaseAll_eq_emptied]
  refine (Registry.Defers.discardBatch _ _).counted session.tracker ?_
  rw [Registry.tracker, (releases_releaseOwners _ _).trackers, ← Registry.tracker, emptied]
  exact taken

/-! ## Whatever is done -/

/--
What is left of a session when its runtime is abandoned: the tracker is let go,
and closed before that unless the runtime was shut down.
-/
def abandoned (session : Session) : Session :=
  session.updateRegistry fun registry =>
    (if session.isShutDown then registry else registry.close session.tracker).letGo session.tracker

theorem leads_abandoned
    (session : Session)
    (hand : Nat) :
    session.Leads (hand + 1) [] session.abandoned hand [] := by
  have closing :
      session.Leads (hand + 1) []
        { session with
          registry :=
            if session.isShutDown then
              session.registry
            else
              session.registry.close session.tracker } (hand + 1) [] := by
    split
    · exact .refl _ _ _
    · exact .move (.adjust _ _ _ _ fun tracker => ⟨false, tracker.defers, rfl, nofun⟩)
  exact closing.trans (.letGo _ hand session.tracker)

/-- This is what becomes of the registry when the host abandons a runtime. -/
theorem registry_abandon
    {host : Host}
    {number : Nat}
    (found : host.session? number = some session) :
    (host.abandon number).map Host.registry = some session.abandoned.registry := by
  simp [Host.abandon, found, abandoned, updateRegistry]

/-- One step in the life of a tracker: a request, any use of the interpreter, or the end. -/
inductive Turn (session : Session) : Session → Prop where
  | request (request : Request) (isOwn : request.IsOwn session) :
      session.Turn (request.perform session).2
  | useInterp (change : Interpreter → Interpreter) : session.Turn (session.updateInterp change)
  | abandon : session.Turn session.abandoned

/-- Any number of steps in any order. -/
def Turns : Session → Session → Prop :=
  Relation.ReflTransGen Turn

theorem turns_foldl
    {requests : List Request}
    (areOwn : ∀ request ∈ requests, ∀ session, request.IsOwn session)
    (session : Session) :
    session.Turns
      (requests.foldl (fun session request => (request.perform session).2) session) := by
  induction requests generalizing session with
  | nil => exact .refl
  | cons request rest step =>
      have first := Turn.request request (areOwn request List.mem_cons_self session)
      exact .head first (step (fun other among => areOwn other (List.mem_cons_of_mem _ among)) _)

/-- Filling or emptying the queue by hand does not show in the books. -/
theorem spares_manual
    {action : Action}
    (isManual : action.IsManual)
    (session : Session) :
    session.Spares (action.perform session) := by
  cases action with
  | push item => exact .push session item
  | takeSnapshot => exact .takeSnapshot session
  | requeueFront items => exact .requeueFront session items
  | _ => exact isManual.elim

/--
Of a session that leads to another, the books and the number of waiting items stay
right, neither a record nor a deferral that was told is taken away, and a drain is
running if one was before.
-/
structure Keeps (session session' : Session) : Prop where
  tracker : session'.tracker = session.tracker
  draining : session'.finalizer.draining = session.finalizer.draining
  grows : session.registry.records.size ≤ session'.registry.records.size
  told :
    ∀ ref, .deferred ref ∈ session.registry.journal → .deferred ref ∈ session'.registry.journal
  exact :
    session.registry.Exact session.tracker → session'.registry.Exact session'.tracker
  counted : session.queue.IsCounted → session'.queue.IsCounted

namespace Keeps

variable {session'' : Session}

theorem refl (session : Session) : session.Keeps session :=
  ⟨rfl, rfl, le_rfl, fun _ => id, id, id⟩

theorem trans
    (first : session.Keeps session')
    (second : session'.Keeps session'') :
    session.Keeps session'' :=
  ⟨second.tracker.trans first.tracker, second.draining.trans first.draining,
    first.grows.trans second.grows,
    fun ref told => second.told ref (first.told ref told),
    fun books => second.exact (first.exact books),
    fun counted => second.counted (first.counted counted)⟩

theorem of_leads
    {hand hand' : Nat}
    (leads : session.Leads hand [] session' hand' []) :
    session.Keeps session' := by
  refine ⟨leads.tracker, leads.draining, leads.moves.grows, fun ref => leads.moves.told,
    fun books => ?_, fun counted => ?_⟩
  · rw [leads.tracker]
    exact leads.moves.exact books
  · rw [queue, ownTracker, leads.tracker]
    exact leads.moves.counted counted

/-- Hooks and callbacks only defer. -/
theorem of_spares (spares : session.Spares session') : session.Keeps session' := by
  have defers := spares.registry
  refine ⟨spares.tracker, spares.finalizer.draining, defers.size.ge, fun ref => defers.told,
    fun books => ?_, fun counted => ?_⟩
  · rw [spares.tracker]
    exact books.of_defers defers
  · rw [queue, ownTracker, spares.tracker]
    exact defers.counted session.tracker counted

theorem of_serves
    {asked : List RecordRef}
    {hand hand' : Nat}
    (serves : session.Serves asked hand session' hand') :
    session.Keeps session' := by
  cases serves with
  | leads leads => exact of_leads leads
  | hooked ref hook _ _ _ leads =>
      exact (of_spares (Spares.ranHook ref hook session)).trans (of_leads leads)

theorem releaseAll (session : Session) : session.Keeps session.releaseAll.2 := by
  have tracker := tracker_releaseAll session
  have draining := congrArg Finalizer.draining (finalizer_releaseAll session)
  have grows := (advances_releaseAll session).grows
  have told (ref : RecordRef) := @told_releaseAll session (.deferred ref)
  have books := @exact_releaseAll session
  have counted := @counted_releaseAll session
  generalize session.releaseAll.2 = ended at tracker draining grows told books counted ⊢
  refine ⟨tracker, draining, grows, told, fun before => ?_, counted⟩
  rw [tracker]
  exact (books before).1

theorem shutDown (session : Session) : session.Keeps (Op.shutDown.on session).2 :=
  Op.shutDown_keeps
    (fun _ kept => kept.trans ⟨rfl, rfl, le_rfl, fun _ => id, id, id⟩)
    (fun _ _ kept (leads : Leads _ 0 [] _ 0 []) => kept.trans (of_leads leads))
    (fun _ kept => kept.trans (releaseAll _))
    (fun _ _ _ kept => kept.trans ⟨rfl, rfl, le_rfl, fun _ => id, id, id⟩)
    (refl session)

theorem request
    {request : Request}
    (isOwn : request.IsOwn session) :
    session.Keeps (request.perform session).2 := by
  by_cases stops : request = .act .shutDown
  · subst stops
    exact shutDown session
  · by_cases isManual : request.IsManual
    · cases request with
      | act action => exact of_spares (spares_manual isManual session)
      | _ => exact isManual.elim
    · exact of_serves (serves_perform isManual isOwn stops 0)

theorem abandoned (session : Session) : session.Keeps session.abandoned :=
  of_leads (leads_abandoned session 0)

theorem turn (turn : session.Turn session') : session.Keeps session' := by
  cases turn with
  | request _ isOwn => exact request isOwn
  | useInterp change => exact ⟨rfl, rfl, le_rfl, fun _ => id, id, id⟩
  | abandon => exact abandoned session

theorem turns (turns : session.Turns session') : session.Keeps session' := by
  induction turns with
  | refl => exact refl session
  | tail _ step before => exact before.trans (turn step)

end Keeps

/-! ## The books are exact -/

/-- The registry of a runtime that was just started holds its tracker and nothing else. -/
theorem registry_opened
    (config : Config)
    (hasTable : Bool) :
    (opened config hasTable).tracker = 0 ∧
      (opened config hasTable).registry = (Registry.empty.addTracker config.defers).2 := by
  rcases opened_eq_bare config hasTable with ⟨table, interp, started⟩
  rw [started]
  exact ⟨rfl, rfl⟩

/-- No drain is running at first. -/
theorem idle_opened
    (config : Config)
    (hasTable : Bool) :
    (opened config hasTable).finalizer.draining = false := by
  rcases opened_eq_bare config hasTable with ⟨table, interp, started⟩
  rw [started]
  rfl

/-- The books of a runtime that was just started are empty. -/
theorem exact_opened
    (config : Config)
    (hasTable : Bool) :
    (opened config hasTable).registry.Exact (opened config hasTable).tracker := by
  rw [(registry_opened config hasTable).1, (registry_opened config hasTable).2]
  exact
    { there := Nat.zero_lt_one
      keys := List.nodup_nil
      inhabited := nofun
      listed := fun _ => rfl
      numbered := nofun
      nextId := rfl }

/-- Nothing waits at first. -/
theorem counted_opened
    (config : Config)
    (hasTable : Bool) :
    (opened config hasTable).queue.IsCounted := by
  rw [queue, ownTracker, (registry_opened config hasTable).1, (registry_opened config hasTable).2]
  exact PendingQueue.isCounted_empty

/--
Whatever is done with a runtime, by hand, by hooks or by callbacks that may
panic: its tracker lists a record under the object of the record once if it is
live or deferred, and else not at all, and under no other object; the records of
an object stand in the order of their numbers, and no object without records is
listed; no number is used twice, then or later; and as many records are
registered as are live or deferred.
-/
theorem ownersOf_exact
    {config : Config}
    {hasTable : Bool}
    {session : Session}
    (run : (opened config hasTable).Turns session) :
    (∀ ref < session.registry.records.size,
      (session.registry.ownersOf session.tracker (session.record ref).handle).count ref =
        if (session.record ref).state = .live ∨ (session.record ref).state = .deferred then
          1
        else
          0) ∧
      (∀ handle, ∀ ref ∈ session.registry.ownersOf session.tracker handle,
        ref < session.registry.records.size ∧ (session.record ref).handle = handle) ∧
      (∀ handle,
        ((session.registry.ownersOf session.tracker handle).map fun ref =>
          (session.record ref).id).Pairwise (· < ·)) ∧
      (∀ handle refs, (handle, refs) ∈ session.ownTracker.owners → refs ≠ []) ∧
      (∀ session', session.Turns session' →
        ∀ ref < session.registry.records.size,
          (session'.record ref).id = (session.record ref).id ∧
            ∀ other < session'.registry.records.size, other ≠ ref →
              (session'.record other).id ≠ (session.record ref).id) ∧
      session.ownTracker.registered =
        session.registry.records.countP fun record =>
          decide (record.state = .live ∨ record.state = .deferred) := by
  have books := (Keeps.turns run).exact (exact_opened config hasTable)
  have numbered (ref : RecordRef) (inside : ref < session.registry.records.size) :
      (session.record ref).id = ref + 1 :=
    books.numbered ref inside
  refine ⟨?_, ?_, ?_, books.inhabited, ?_, ?_⟩
  · intro ref _
    rw [books.listed, (Registry.nodup_ownersInOrder _ _).count]
    refine if_congr ?_ rfl rfl
    rw [Registry.mem_ownersInOrder, owns_iff]
    exact ⟨fun owner => owner.1, fun owns => ⟨owns, rfl⟩⟩
  · intro handle ref member
    rw [books.listed, Registry.mem_ownersInOrder] at member
    exact ⟨Registry.lt_size_of_owns member.1, member.2⟩
  · intro handle
    rw [books.listed, List.pairwise_map]
    refine (List.pairwise_lt_range.filter _).imp_of_mem fun {ref other} member member' before => ?_
    have inside := Registry.lt_size_of_owns (Registry.mem_ownersInOrder.mp member).1
    have inside' := Registry.lt_size_of_owns (Registry.mem_ownersInOrder.mp member').1
    rw [numbered ref inside, numbered other inside']
    exact Nat.add_lt_add_right before 1
  · intro session' later ref inside
    have kept := Keeps.turns later
    have books' := kept.exact books
    refine ⟨(books'.numbered ref (inside.trans_le kept.grows)).trans (numbered ref inside).symm,
      fun other inside' distinct => ?_⟩
    rw [numbered ref inside]
    refine (books'.numbered other inside').trans_ne ?_
    rwa [ne_eq, Nat.add_right_cancel_iff]
  · refine books.registered_eq.trans (congrArg (Array.countP · _) (funext fun record => ?_))
    rw [Bool.eq_iff_iff, decide_eq_true_iff, owns_iff]

/--
A runtime in which of two records of the same object the first was deferred and
drained, whereupon the callback for finished drains panicked.
-/
def interrupted : Session :=
  [Request.act (.onCollect ⟨"stopping", [.panic "no"]⟩), .wrapNone, .wrapNone,
    .act (.deferRelease 0 none), .act .collect].foldl
      (fun session request => (request.perform session).2) (opened .standard false)

theorem ownersOf_exact_interrupted :
    (interrupted.record 0).handle = Interpreter.initial.noneObject ∧
      (interrupted.record 0).state = .released ∧
      (interrupted.record 1).handle = Interpreter.initial.noneObject ∧
      (interrupted.record 1).state = .live ∧
      (interrupted.registry.ownersOf interrupted.tracker Interpreter.initial.noneObject).count 0 =
        0 ∧
      (interrupted.registry.ownersOf interrupted.tracker Interpreter.initial.noneObject).count 1 =
        1 ∧
      interrupted.ownTracker.registered = 1 := by
  have run : (opened .standard false).Turns interrupted := by
    apply turns_foldl
    simp [Request.IsOwn, Action.IsOwn]
  have observed :
      interrupted.registry.records.size = 2 ∧
        (interrupted.record 0).handle = Interpreter.initial.noneObject ∧
        (interrupted.record 0).state = .released ∧
        (interrupted.record 1).handle = Interpreter.initial.noneObject ∧
        (interrupted.record 1).state = .live := by
    decide +kernel
  rcases observed with ⟨size, handle, state, handle', state'⟩
  rcases ownersOf_exact run with ⟨counted, -, -, -, -, registered⟩
  have first := counted 0 (by rw [size]; decide)
  have second := counted 1 (by rw [size]; decide)
  rw [handle, state] at first
  rw [handle', state'] at second
  refine ⟨handle, state, handle', state', first, second, registered.trans ?_⟩
  decide +kernel

end Session

end Custody
