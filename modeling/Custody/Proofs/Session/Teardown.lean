import Custody.Proofs.Finalizer.Reasons
import Custody.Proofs.Session.Inert
import Custody.Proofs.Session.Tenure

/-!
# What a shutdown takes down

A shutdown drains what waits and then releases, one after another, the records
that still own a reference.  Unless a callback panics it gets to the end, and
then nothing is left on the books, in the queue, in the table of exceptions and
in the interpreter's own hands.  Every record gave its reference back once, or
was quarantined, or found its object gone.
-/

namespace Custody

namespace Session

variable {session : Session} {ref : RecordRef}

/-! ## Owners one by one -/

/-- A record gives its reference back if it owns one and its object is there. -/
theorem drops_releaseOwner
    (ref : RecordRef)
    (session : Session)
    (other : RecordRef) :
    (session.releaseOwner ref).2.registry.drops other =
      session.registry.drops other +
        if other = ref ∧ (session.record ref).state.owns = true ∧
            session.interp.heap.isLive (session.record ref).handle = true then
          1
        else
          0 := by
  simp only [releaseOwner]
  split
  · next owns =>
      rw [owns_iff] at owns
      split
      · next remaining interp released =>
          have live : session.interp.heap.isLive (session.record ref).handle = true :=
            Interpreter.isLive_of_decref released
          refine (Registry.drops_enter _ _ _).trans
            (congrArg (session.registry.drops other + ·) (if_congr ?_ rfl rfl))
          simp only [owns, live, Event.dropped.injEq, @eq_comm _ ref, and_true]
      · next reason failed =>
          have dead : ¬ session.interp.heap.isLive (session.record ref).handle = true := by
            rintro live
            rcases Interpreter.exists_decref live with ⟨_, released⟩
            cases failed.symm.trans released
          rw [if_neg fun given => dead given.2.2]
          rfl
  · next spent =>
      rw [owns_iff] at spent
      rw [if_neg fun given => spent given.2.1]
      rfl

theorem releaseOwners_append
    (earlier later : List RecordRef)
    (session : Session) :
    (session.releaseOwners (earlier ++ later)).2 =
      ((session.releaseOwners earlier).2.releaseOwners later).2 := by
  induction earlier generalizing session with
  | nil => rfl
  | cons ref rest step => exact step (session.releaseOwner ref).2

/-- A record that is not on the list, or owns nothing, gives nothing back. -/
theorem drops_releaseOwners_of_apart
    {refs : List RecordRef}
    (apart : ref ∉ refs ∨ (session.record ref).state.owns = false) :
    (session.releaseOwners refs).2.registry.drops ref = session.registry.drops ref := by
  induction refs generalizing session with
  | nil => rfl
  | cons other rest step =>
      have kept := (releases_releaseOwner other session).kept ref
        (apart.imp_left fun outside among =>
          outside (List.mem_cons.mpr (.inl (List.mem_singleton.mp among))))
      have silent : ¬ (ref = other ∧ (session.record other).state.owns = true ∧
          session.interp.heap.isLive (session.record other).handle = true) := by
        rintro ⟨rfl, owns, -⟩
        rcases apart with outside | spent
        · exact outside List.mem_cons_self
        · exact Bool.false_ne_true (spent.symm.trans owns)
      have first := drops_releaseOwner other session ref
      rw [if_neg silent, Nat.add_zero] at first
      rw [← first]
      apply step
      exact apart.imp (fun outside among => outside (List.mem_cons_of_mem _ among))
        fun spent => (congrArg (RecordState.owns ∘ Record.state) kept).trans spent

/-- The turn of a record that owns a reference comes after those before it. -/
theorem drops_releaseOwners
    {earlier later : List RecordRef}
    (outside : ref ∉ earlier)
    (outside' : ref ∉ later)
    (owns : (session.record ref).state.owns = true) :
    (session.releaseOwners (earlier ++ ref :: later)).2.registry.drops ref =
      session.registry.drops ref +
        if (session.releaseOwners earlier).2.interp.heap.isLive (session.record ref).handle = true then
          1
        else
          0 := by
  have kept : (session.releaseOwners earlier).2.record ref = session.record ref :=
    (releases_releaseOwners earlier session).kept ref (.inl outside)
  have before := @drops_releaseOwners_of_apart session ref earlier (.inl outside)
  have turn := drops_releaseOwner ref (session.releaseOwners earlier).2 ref
  rw [kept, before] at turn
  simp only [true_and, owns] at turn
  rw [releaseOwners_append, releaseOwners, ← turn]
  exact drops_releaseOwners_of_apart (.inl outside')

/-- The object of a record is gone when the turn of the record comes at the end of its runtime. -/
def GoneAtTurn (session : Session) (ref : RecordRef) : Prop :=
  ∃ earlier later,
    session.ownTracker.owners.all = earlier ++ ref :: later ∧
      (session.emptied.releaseOwners earlier).2.interp.heap.isLive (session.record ref).handle =
        false

theorem drops_releaseAll
    (there : session.tracker < session.registry.trackers.size)
    (ref : RecordRef) :
    session.releaseAll.2.registry.drops ref = session.settled.registry.drops ref := by
  rw [releaseAll_eq there]
  exact Registry.drops_of_safe
    ((Registry.Defers.discardBatch _ _).mild.mono fun _ mild => mild.1) ref

/-- At the end of its runtime a record gives its reference back, unless its object is gone. -/
theorem drops_releaseAll_of_owns
    (books : session.registry.Exact session.tracker)
    (owns : (session.record ref).state.owns = true) :
    session.releaseAll.2.registry.drops ref = session.registry.drops ref + 1 ∨
      session.releaseAll.2.registry.drops ref = session.registry.drops ref ∧
        session.GoneAtTurn ref := by
  have listed : ref ∈ session.ownTracker.owners.all := by
    refine books.all_perm.mem_iff.mpr (List.mem_filter.mpr ⟨?_, owns⟩)
    exact List.mem_range.mpr (Registry.lt_size_of_owns owns)
  have nodup : session.ownTracker.owners.all.Nodup :=
    books.all_perm.nodup_iff.mpr (List.nodup_range.filter _)
  rcases List.append_of_mem listed with ⟨earlier, later, split⟩
  rw [split] at nodup
  have outside : ref ∉ earlier := fun among =>
    (List.nodup_append.mp nodup).2.2 ref among ref List.mem_cons_self rfl
  have outside' : ref ∉ later := (List.nodup_cons.mp (List.nodup_append.mp nodup).2.1).1
  have turn := @drops_releaseOwners session.emptied ref earlier later outside outside' owns
  rw [drops_releaseAll books.there, settled, split]
  change _ = session.registry.drops ref + _ at turn
  cases live : (session.emptied.releaseOwners earlier).2.interp.heap.isLive
      (session.record ref).handle with
  | true => exact .inl (turn.trans (congrArg (_ + ·) (if_pos live)))
  | false =>
      refine .inr ⟨turn.trans (congrArg (_ + ·) (if_neg ?_)), earlier, later, split, live⟩
      exact fun live' => Bool.false_ne_true (live.symm.trans live')

/-- At the end of its runtime a record that owns nothing gives nothing back. -/
theorem drops_releaseAll_of_spent
    (there : session.tracker < session.registry.trackers.size)
    (spent : (session.record ref).state.owns = false) :
    session.releaseAll.2.registry.drops ref = session.registry.drops ref := by
  rw [drops_releaseAll there]
  exact @drops_releaseOwners_of_apart session.emptied ref _ (.inr spent)

/-- At the end of their runtime the records that own a reference are released. -/
theorem state_releaseAll
    (books : session.registry.Exact session.tracker)
    (ref : RecordRef) :
    (session.releaseAll.2.record ref).state =
      if (session.record ref).state.owns = true then .released else (session.record ref).state := by
  have discarded := Registry.Defers.discardBatch session.settled.registry session.queue.items
  have same : (session.releaseAll.2.record ref).state = (session.settled.record ref).state := by
    rw [releaseAll_eq books.there]
    rcases discarded.record ref with kept | ⟨live, -⟩
    · exact congrArg Record.state kept
    · have spent := spent_settled books ref
      rw [live] at spent
      cases spent
  have releases := releases_settled session
  rw [same]
  split
  · next owns =>
      have listed : ref ∈ session.ownTracker.owners.all := by
        refine books.all_perm.mem_iff.mpr (List.mem_filter.mpr ⟨?_, owns⟩)
        exact List.mem_range.mpr (Registry.lt_size_of_owns owns)
      exact congrArg Record.state (releases.released ref listed owns)
  · next spent =>
      exact congrArg Record.state (releases.kept ref (.inr (Bool.eq_false_iff.mpr spent)))

/-! ## The end -/

/--
Nothing is left of the runtime on the books, in the queue, in the table of
exceptions and in the interpreter's own hands.
-/
structure TornDown (session : Session) : Prop where
  isShutDown : session.isShutDown = true
  isClosed : session.ownTracker.isOpen = false
  registered : session.ownTracker.registered = 0
  items : session.queue.items = []
  count : session.queue.count = 0
  settled : ∀ ref, (session.record ref).state = .released ∨ (session.record ref).state = .detached
  table : ∀ entry ∈ session.table.entries, entry.2 = none
  pending : session.interp.pending = none
  filters : session.interp.filters = []

theorem TornDown.inert (ended : session.TornDown) : session.Inert where
  isShutDown := ended.isShutDown
  registry :=
    { isClosed := ended.isClosed
      spent := fun ref => by
        rcases ended.settled ref with released | detached
        · exact congrArg RecordState.owns released
        · exact congrArg RecordState.owns detached }
  table := ended.table

/-- The tracker is closed, and its books are empty. -/
theorem books_releaseAll (there : session.tracker < session.registry.trackers.size) :
    session.releaseAll.2.ownTracker.isOpen = false ∧
      session.releaseAll.2.ownTracker.owners = [] := by
  have books := (Registry.Defers.discardBatch session.settled.registry
    session.queue.items).books session.tracker
  rw [ownTracker, tracker_releaseAll, releaseAll_eq there]
  rw [tracker_settled there] at books
  exact ⟨congrArg (fun books => books.2.2.1) books, congrArg Prod.fst books⟩

/-- Discarding what waited adds nothing to the queue of a tracker that is closed. -/
theorem items_releaseAll
    {hand : Nat}
    (held : session.Held hand []) :
    session.releaseAll.2.queue.items = [] := by
  have own := tracker_settled held.there
  rcases (held_settled held).discardBatch with ⟨added, queues⟩
  have nothing : added = [] := queues.closed (by rw [own])
  have items := queues.items
  rw [nothing, List.append_nil, own] at items
  rw [queue, ownTracker, tracker_releaseAll, releaseAll_eq held.there]
  exact items

/-- What the interpreter refers to itself is given back. -/
theorem interp_dismantled (session : Session) :
    session.dismantled.interp.pending = none ∧ session.dismantled.interp.filters = [] := by
  rcases (session.table.release session.interp).2.clear.resetFilters_eq with ⟨heap, reset⟩
  rw [dismantled, reset]
  exact ⟨Interpreter.pending_replacePending _ _, rfl⟩

theorem table_dismantled
    (session : Session)
    (entry : String × Option Handle)
    (listed : entry ∈ session.dismantled.table.entries) :
    entry.2 = none := by
  rcases List.mem_map.mp listed with ⟨_, _, rfl⟩
  rfl

theorem inert_dismantled
    (isShutDown : session.isShutDown = true)
    (isClosed : session.ownTracker.isOpen = false)
    (spent : ∀ ref, (session.record ref).state.owns = false) :
    session.dismantled.Inert where
  isShutDown
  registry := ⟨isClosed, spent⟩
  table := table_dismantled session

/-- A runtime whose shutdown got to its end is inert. -/
theorem inert_releaseAll
    (isShutDown : session.isShutDown = true)
    (books : session.registry.Exact session.tracker) :
    session.releaseAll.2.dismantled.Inert :=
  inert_dismantled ((isShutDown_releaseAll session).trans isShutDown)
    (books_releaseAll books.there).1 (exact_releaseAll books).2

theorem tornDown_dismantled
    (inert : session.dismantled.Inert)
    (owners : session.ownTracker.owners = [])
    (items : session.queue.items = [])
    (counted : session.queue.IsCounted) :
    session.dismantled.TornDown where
  isShutDown := inert.isShutDown
  isClosed := inert.registry.isClosed
  registered := congrArg (fun owners => (Owners.all owners).length) owners
  items
  count := counted.trans (congrArg List.length items)
  settled := fun ref => by
    have spent : (session.dismantled.record ref).state.owns = false := inert.registry.spent ref
    cases state : (session.dismantled.record ref).state with
    | live => rw [state] at spent; cases spent
    | deferred => rw [state] at spent; cases spent
    | released => exact .inl rfl
    | detached => exact .inr rfl
  table := inert.table
  pending := (interp_dismantled session).1
  filters := (interp_dismantled session).2

theorem tornDown_releaseAll
    {hand : Nat}
    (isShutDown : session.isShutDown = true)
    (books : session.registry.Exact session.tracker)
    (held : session.Held hand [])
    (counted : session.queue.IsCounted) :
    session.releaseAll.2.dismantled.TornDown :=
  tornDown_dismantled (inert_releaseAll isShutDown books) (books_releaseAll held.there).2
    (items_releaseAll held) (counted_releaseAll counted)

end Session

namespace Op

variable {session drained : Session}

/-! ## Drains -/

/-- Without a panic the drains of a shutdown come to an end, and settle records for a reason. -/
theorem justifies_drainPasses
    (passes drained : Nat)
    (never : session.finalizer.NeverPanics) :
    (drainPasses passes drained).Ends session fun outcome session' =>
      (∃ count, outcome = .ok count) ∧ session.registry.Justifies session'.registry := by
  induction passes generalizing drained session with
  | zero => exact ⟨⟨drained, rfl⟩, .refl _⟩
  | succ passes step =>
      rcases Session.justifies_collectReporting never with ⟨justified, never', count, returned⟩
      simp only [drainPasses, ends_bind, ends_session, andThen_ok]
      split
      · rw [ends_bind]
        apply ends_ofPanicking
        · intro count _
          rw [andThen_ok]
          apply (step (drained + count) never').mono
          exact fun _ _ ⟨returned, later⟩ => ⟨returned, justified.trans later⟩
        · intro panic panicked
          cases panicked.symm.trans returned
      · exact ⟨⟨drained, rfl⟩, .refl _⟩

/-- A shutdown goes on where its drains have ended. -/
theorem shutDown_of_drained
    {count : Nat}
    (inUse : session.isShutDown = false)
    (passes :
      (drainPasses shutdownPasses 0).on { session with isShutDown := true } = (.ok count, drained)) :
    shutDown.on session = (.ok ⟨count, drained.releaseAll.1⟩, drained.releaseAll.2.dismantled) := by
  have ends : shutDown.Ends session fun outcome session' =>
      (outcome, session') =
        (.ok ⟨count, drained.releaseAll.1⟩, drained.releaseAll.2.dismantled) := by
    simp only [shutDown, ends_bind, ends_session, andThen_ok, inUse, Bool.false_eq_true, if_false,
      ends_change]
    rw [Ends, passes]
    simp only [andThen_ok, ends_bind, ends_of, ends_change, ends_pure]
    rfl
  exact ends

end Op

namespace Session

variable {session drained : Session} {ref : RecordRef}

/-- A record that the drains did not settle is given back at the end, unless its object is gone. -/
theorem settled_releaseAll
    (justifies : session.registry.Justifies drained.registry)
    (advances : session.registry.Advances drained.registry)
    (books : drained.registry.Exact drained.tracker)
    (owns : (session.record ref).state.owns = true) :
    session.registry.Quarantines drained.registry ref ∧
        (drained.releaseAll.2.record ref).state = .detached ∨
      (drained.releaseAll.2.record ref).state = .released ∧
        (drained.releaseAll.2.registry.drops ref = session.registry.drops ref + 1 ∨
          drained.releaseAll.2.registry.drops ref = session.registry.drops ref ∧
            drained.GoneAtTurn ref) := by
  have state := state_releaseAll books ref
  rcases justifies.drops advances owns with ⟨owns', none⟩ | quarantined | ⟨released, once⟩
  · have owns' : (drained.record ref).state.owns = true := owns'
    rw [if_pos owns'] at state
    have given := drops_releaseAll_of_owns books owns'
    rw [none] at given
    exact .inr ⟨state, given⟩
  · have detached : (drained.record ref).state = .detached := quarantined.1
    rw [detached, if_neg (by decide)] at state
    exact .inl ⟨quarantined, state⟩
  · have released : (drained.record ref).state = .released := released
    rw [released, if_neg (by decide)] at state
    have same := drops_releaseAll_of_spent books.there (congrArg RecordState.owns released)
    exact .inr ⟨state, .inl (same.trans once)⟩

/--
Whatever was done with a runtime that is in use, whatever waits and whatever
hooks do, as long as no callback panics: a shutdown returns.  Then the tracker
is closed, nothing is registered and nothing waits, every record is released or
detached, and the table of exceptions, the pending error and the warning filters
are gone.

Each record that was live or deferred was quarantined by a drain, or it was
released and one reference was given back for it, or it was released and its
object was gone when its turn came.

From then on, whatever else is done, dropping and disposing of wrappers, draining
and shutting down leave the interpreter alone, and nothing can be registered.
-/
theorem shutDown_tears_down
    {byHand : Prop}
    {config : Config}
    {hasTable : Bool}
    {hand : Nat}
    {disposed : List RecordRef}
    (tenure : Tenure byHand config hasTable session hand disposed)
    (inUse : session.isShutDown = false)
    (never : session.finalizer.NeverPanics) :
    ∃ report drained session',
      (Op.drainPasses Op.shutdownPasses 0).on { session with isShutDown := true } =
          (.ok report.drained, drained) ∧
        Op.shutDown.on session = (.ok report, session') ∧
          session'.TornDown ∧
            (∀ ref,
              (session.record ref).state = .live ∨ (session.record ref).state = .deferred →
                session.registry.Quarantines drained.registry ref ∧
                    (session'.record ref).state = .detached ∨
                  (session'.record ref).state = .released ∧
                    (session'.registry.drops ref = session.registry.drops ref + 1 ∨
                      session'.registry.drops ref = session.registry.drops ref ∧
                        drained.GoneAtTurn ref)) ∧
              ∀ later, session'.Turns later → later.Disarmed := by
  rcases tenure.held with ⟨others, -, held⟩
  have opened := Keeps.turns tenure.turns
  have justifies := @Op.justifies_drainPasses { session with isShutDown := true }
    Op.shutdownPasses 0 never
  have leads := Op.leads_drainPasses others Op.shutdownPasses 0 { session with isShutDown := true }
  have advances := Op.Progresses.drainPasses Op.shutdownPasses 0 { session with isShutDown := true }
  rw [Op.Ends] at justifies leads advances
  rcases passes : (Op.drainPasses Op.shutdownPasses 0).on { session with isShutDown := true } with
    ⟨outcome, drained⟩
  simp only [passes] at justifies leads advances
  rcases justifies with ⟨⟨count, rfl⟩, justifies⟩
  have kept := Keeps.of_leads leads.1
  have books := kept.exact (opened.exact (exact_opened config hasTable))
  have counted := kept.counted (opened.counted (counted_opened config hasTable))
  have returned := Op.shutDown_of_drained inUse passes
  have ended := tornDown_releaseAll leads.1.isShutDown books (leads.1.held held) counted
  have settled (ref : RecordRef) (owns : (session.record ref).state.owns = true) :=
    settled_releaseAll justifies advances books owns
  generalize drained.releaseAll = result at returned ended settled
  refine ⟨⟨count, result.1⟩, drained, result.2.dismantled, rfl, returned, ended,
    fun ref owns => ?_, fun later turns => ?_⟩
  · exact settled ref ((owns_iff _).mp owns)
  · exact (ended.inert.turns turns).disarmed

/--
A runtime with a warning filter and four records.  The first waits with a hook
that will defer the second, the third was deferred while nothing is queued, and
the fourth is live.
-/
def crowded : Session :=
  [Request.act (.onError ⟨"watching", []⟩), .interpret (.addFilter ⟨38, 0⟩ .ignore),
    .interpret .newNone, .act (.register Interpreter.initial.noneObject),
    .interpret .newNone, .act (.register Interpreter.initial.noneObject),
    .interpret .newNone, .act (.register Interpreter.initial.noneObject),
    .interpret .newNone, .act (.register Interpreter.initial.noneObject),
    .act .newHook, .act (.deferRelease 0 (some (.defer 0 1 (.done 0)))),
    .act (.setDeferral false), .act (.deferRelease 2 none)].foldl
      (fun session request => (request.perform session).2) (opened .standard true)

theorem Tenure.crowded : Tenure False .standard true crowded 1 [] := by
  have registers {session : Session} (before : Tenure False .standard true session 1 []) :=
    (before.follow (.interpret .newNone) 0 rfl rfl nofun trivial rfl).register
      Interpreter.initial.noneObject
  have listens : Tenure False .standard true _ 1 [] :=
    Tenure.opened.follow (.act (.onError ⟨"watching", []⟩)) 0 rfl rfl nofun trivial rfl
  have filters : Tenure False .standard true _ 1 [] :=
    listens.follow (.interpret (.addFilter ⟨38, 0⟩ .ignore)) 0 rfl rfl nofun trivial rfl
  have hooked : Tenure False .standard true _ 2 [] :=
    (registers (registers (registers (registers filters)))).follow (.act .newHook) 0 rfl rfl nofun
      trivial rfl
  have first : Tenure False .standard true _ 1 [] :=
    hooked.follow (.act (.deferRelease 0 (some (.defer 0 1 (.done 0))))) 0 rfl rfl nofun trivial rfl
  have stopped : Tenure False .standard true _ 1 [] :=
    first.follow (.act (.setDeferral false)) 0 rfl rfl nofun trivial rfl
  exact stopped.follow (.act (.deferRelease 2 none)) 0 rfl rfl nofun trivial rfl

/-- One record is drained; the shutdown itself releases the three that are in no queue. -/
theorem shutDown_tears_down_crowded :
    ∃ session',
      Op.shutDown.on crowded = (.ok ⟨1, 3⟩, session') ∧
        session'.TornDown ∧
          (∀ ref < 4, session'.registry.drops ref = 1) ∧
            ∀ later, session'.Turns later → later.Disarmed := by
  have observed :
      (crowded.isShutDown = false ∧
          crowded.finalizer.collectHandlers = [] ∧
            crowded.finalizer.errorHandlers = [(1, ⟨"watching", []⟩)] ∧
              crowded.finalizer.resolvers.length = 0) ∧
        (Op.shutDown.on crowded).1 = .ok ⟨1, 3⟩ ∧
          ∀ ref < 4, (Op.shutDown.on crowded).2.registry.drops ref = 1 := by
    decide +kernel
  rcases observed with ⟨⟨inUse, collects, errors, resolves⟩, observed⟩
  have never : crowded.finalizer.NeverPanics := by
    refine ⟨?_, ?_, ?_⟩
    · rw [collects]
      nofun
    · rw [errors]
      intro entry member text
      rw [List.mem_singleton.mp member]
      exact List.not_mem_nil
    · rw [List.eq_nil_of_length_eq_zero resolves]
      nofun
  rcases shutDown_tears_down Tenure.crowded inUse never with
    ⟨report, drained, session', -, returned, ended, -, disarmed⟩
  rw [returned] at observed
  exact ⟨session', returned.trans (congrArg (·, session') observed.1), ended, observed.2, disarmed⟩

end Session

end Custody
