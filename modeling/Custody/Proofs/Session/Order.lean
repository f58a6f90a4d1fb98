import Custody.Proofs.Session.Tenure

/-!
# Drains keep the order of deferral

A runtime is used in any way, with callbacks and hooks that may panic, but its
queue is filled by deferring alone.  Drains take records up in exactly the order
in which they were deferred, and each at most once, however many drains stop
early.  A hook runs when its record is taken up and at no other time, unless the
caller disposes of the wrapper.
-/

namespace Custody.Session

open Registry (Scene TellsAlike)

variable {session session' : Session} {hand hand' : Nat} {disposed : List RecordRef}

/-! ## What a session keeps between two requests -/

/-- Nothing is stranded, nobody overtakes, and hooks run no more often than they should. -/
structure Orderly (session : Session) (hand : Nat) (disposed : List RecordRef) : Prop where
  books : session.registry.Exact session.tracker
  unstranded : session.Unstranded hand
  ordered : (⟨session.registry, hand, []⟩ : Scene).Ordered session.tracker
  hooks :
    ∀ ref,
      session.registry.hookRuns.count ref ≤
        session.registry.takeUps.count ref + disposed.count ref

theorem orderly_opened
    (config : Config)
    (hasTable : Bool) :
    (opened config hasTable).Orderly 0 [] := by
  have registry := (registry_opened config hasTable).2
  refine ⟨exact_opened config hasTable, unstranded_opened config hasTable, ?_, fun ref => ?_⟩
  · rw [(registry_opened config hasTable).1, registry]
    exact ⟨List.nodup_nil, [], rfl, .inl rfl⟩
  · rw [registry]
    exact le_rfl

namespace Orderly

theorem of_leads
    (before : session.Orderly hand disposed)
    (leads : session.Leads hand [] session' hand' []) :
    session'.Orderly hand' disposed where
  books := (Keeps.of_leads leads).exact before.books
  unstranded := leads.unstranded before.unstranded
  ordered := by
    rw [leads.tracker]
    exact leads.moves.ordered before.unstranded before.ordered
  hooks := by
    intro ref
    have kept := leads.moves.count_hookRuns before.unstranded.toHeld ref
    have held := before.hooks ref
    simp only at kept
    omega

/-- A hook that the caller runs by disposing of a wrapper counts as disposed. -/
theorem of_ranHook
    {asked : List RecordRef}
    {ref : RecordRef}
    {hook : Hook}
    (before : session.Orderly (hook.holds + hand) disposed)
    (isAsked : ref ∈ asked) :
    (session.ranHook ref hook).Orderly hand (disposed ++ asked) := by
  let entered : Registry := session.registry.enter (.hookRan ref)
  have unstranded : (⟨entered, hook.holds + hand, []⟩ : Scene).Unstranded session.tracker :=
    before.unstranded.of_enter (by simp)
  have deferrals : entered.deferrals = session.registry.deferrals :=
    List.filterMap_append.trans (List.append_nil _)
  have takeUps : entered.takeUps = session.registry.takeUps :=
    List.filterMap_append.trans (List.append_nil _)
  have hookRuns : entered.hookRuns = session.registry.hookRuns ++ [ref] := List.filterMap_append
  have ordered : (⟨entered, hook.holds + hand, []⟩ : Scene).Ordered session.tracker := by
    refine ⟨deferrals ▸ before.ordered.nodup, ?_⟩
    rw [deferrals, takeUps]
    exact before.ordered.order
  rcases unstranded.runWith ref with ⟨added, queues⟩
  refine ⟨(Keeps.of_spares (Spares.ranHook ref hook session)).exact before.books,
    unstranded.of_queues queues, ordered.of_proceeds unstranded (.of_queues queues),
    fun other => ?_⟩
  have told := before.hooks other
  have hookRuns' := queues.hookRuns.trans hookRuns
  have takeUps' := queues.takeUps.trans takeUps
  rw [ranHook, updateRegistry]
  simp only
  rw [Hook.run, hookRuns', takeUps', List.count_append, List.count_append]
  have once : [ref].count other ≤ asked.count other :=
    (List.singleton_sublist.mpr isAsked).count_le other
  omega

/-- The records that a shutdown releases are neither queued nor taken up. -/
theorem alike_releaseOwners
    (refs : List RecordRef)
    (session : Session) :
    session.registry.TellsAlike (session.releaseOwners refs).2.registry := by
  have one (ref : RecordRef) (session : Session) :
      session.registry.TellsAlike (session.releaseOwner ref).2.registry := by
    simp only [releaseOwner]
    split
    · have settled : session.registry.TellsAlike (session.registry.setState ref .released) :=
        .of_journal rfl
      split
      · have plain : (Event.dropped ref).IsPlain := trivial
        exact settled.trans (.of_tells (.enter _ plain))
      · exact settled
    · exact .refl _
  induction refs generalizing session with
  | nil => exact .refl _
  | cons ref rest step => exact (one ref session).trans (step _)

theorem alike_settled (session : Session) :
    session.registry.TellsAlike session.settled.registry := by
  have emptied : session.registry.TellsAlike session.emptied.registry := .of_journal rfl
  exact emptied.trans (alike_releaseOwners session.ownTracker.owners.all session.emptied)

/-- Once every record is released, what waits is lost, and the tracker is closed. -/
theorem releaseAll (before : session.Orderly hand disposed) :
    session.releaseAll.2.Orderly hand disposed := by
  have there := before.books.there
  have own := tracker_settled there
  have told := alike_settled session
  rcases (held_settled before.unstranded.toHeld).discardBatch with ⟨added, queues⟩
  have isClosed : (session.settled.registry.tracker session.tracker).isOpen = false := by
    rw [own]
  have nothing : added = [] := queues.closed isClosed
  subst nothing
  have ended := releaseAll_eq there
  refine ⟨(Keeps.releaseAll session).exact before.books,
    unstranded_releaseAll before.books before.unstranded, ?_, fun ref => ?_⟩
  · rcases before.ordered.order with ⟨lost, order, cause⟩
    have deferrals := (queues.deferrals.trans (List.append_nil _)).trans told.deferrals
    have takeUps := queues.takeUps.trans told.takeUps
    have empty : (⟨session.releaseAll.2.registry, hand, []⟩ : Scene).waiting
        session.releaseAll.2.tracker = [] := by
      rw [tracker_releaseAll, ended]
      refine queues.items.trans ?_
      rw [own]
      rfl
    refine ⟨?_, (⟨session.registry, hand, []⟩ : Scene).waitingRecords session.tracker ++ lost,
      ?_, .inr ⟨?_, empty⟩⟩
    · rw [ended]
      exact deferrals ▸ before.ordered.nodup
    · rw [Scene.waitingRecords, empty, ended]
      refine deferrals.trans (order.trans ?_)
      rw [← takeUps, List.map_nil, List.append_nil, List.append_assoc]
      rfl
    · rw [tracker_releaseAll, ended]
      exact (congrArg (fun books => books.2.2.1) (queues.defers.books session.tracker)).trans
        isClosed
  · have hooks := before.hooks ref
    rw [← told.hookRuns, ← told.takeUps, ← queues.hookRuns, ← queues.takeUps] at hooks
    rw [ended]
    exact hooks

theorem shutDown (before : session.Orderly hand disposed) :
    (Op.shutDown.on session).2.Orderly hand disposed := by
  have kept := @Op.shutDown_keeps session hand fun session => session.Orderly hand disposed
  exact kept (fun _ before => ⟨before.books, before.unstranded, before.ordered, before.hooks⟩)
    (fun _ _ before leads => before.of_leads leads) (fun _ before => before.releaseAll)
    (fun _ _ _ before => ⟨before.books, before.unstranded, before.ordered, before.hooks⟩) before

/-- The caller may have asked for more hooks than ran. -/
theorem mono
    (before : session.Orderly hand disposed)
    (asked : List RecordRef) :
    session.Orderly hand (disposed ++ asked) where
  books := before.books
  unstranded := before.unstranded
  ordered := before.ordered
  hooks := fun ref => by
    have hooks := before.hooks ref
    rw [List.count_append]
    omega

theorem of_serves
    {asked : List RecordRef}
    (before : session.Orderly hand disposed)
    (serves : session.Serves asked hand session' hand') :
    session'.Orderly hand' (disposed ++ asked) := by
  cases serves with
  | leads leads => exact (before.of_leads leads).mono asked
  | hooked ref hook rest isAsked total leads =>
      subst total
      exact (before.of_ranHook isAsked).of_leads leads

theorem request
    {request : Request}
    (isDeferring : ¬ request.IsManual)
    (isOwn : request.IsOwn session)
    (before : session.Orderly (request.spent + hand) disposed) :
    (request.perform session).2.Orderly ((request.answer session).holds + hand)
      (disposed ++ request.disposed) := by
  by_cases stops : request = .act .shutDown
  · subst stops
    rw [show (Request.act .shutDown).spent + hand = hand from Nat.zero_add hand] at before
    have nothing := Op.heldBy_shutDown session
    change (Op.shutDown.on session).2.Orderly
      (Op.heldBy Op.nothing (Op.shutDown.on session).1 + hand) (disposed ++ [])
    rw [nothing, Nat.zero_add, List.append_nil]
    exact before.shutDown
  · exact before.of_serves (serves_perform isDeferring isOwn stops hand)

theorem abandoned (before : session.Orderly (hand + 1) disposed) :
    session.abandoned.Orderly hand disposed :=
  before.of_leads (leads_abandoned session hand)

end Orderly

/-! ## First deferred, first taken up -/

theorem Orderly.underway
    {within : Session}
    (before : session.Orderly hand disposed)
    (underway : session.Underway within) :
    ∃ hand', within.Orderly hand' disposed := by
  have rule := @Underway.rule session hand within fun hand session =>
    session.Orderly hand disposed
  exact rule underway
    (fun _ _ orderly => ⟨orderly.books, orderly.unstranded, orderly.ordered, orderly.hooks⟩)
    (fun _ _ _ _ orderly leads => orderly.of_leads leads) before

/-- What is queued while a drain runs is none of what it takes up. -/
theorem Orderly.apart
    {taken rest added : List PendingRelease}
    (before : session.Orderly hand disposed)
    (after : session'.Orderly hand' disposed)
    (drained : Drained taken rest added session session') :
    ∀ item ∈ added, item.record ∉ taken.map PendingRelease.record := by
  intro item among member
  have once := after.ordered.nodup
  rw [drained.deferrals, List.nodup_append] at once
  refine once.2.2 item.record ?_ item.record (List.mem_map_of_mem among) rfl
  rcases before.ordered.order with ⟨lost, order, -⟩
  have waiting : (⟨session.registry, hand, []⟩ : Scene).waitingRecords session.tracker =
      (taken ++ rest).map PendingRelease.record :=
    congrArg _ drained.split
  rw [order, waiting, List.map_append]
  simp only [List.mem_append]
  exact .inl (.inr (.inl member))

theorem Tenure.orderly
    {config : Config}
    {hasTable : Bool}
    (tenure : Tenure False config hasTable session hand disposed) :
    ∃ others, hand = others + 1 ∧ session.Orderly others disposed := by
  induction tenure with
  | opened => exact ⟨0, rfl, orderly_opened config hasTable⟩
  | @request session hand disposed request _ held allowed isOwn step =>
      rcases step with ⟨others, size, before⟩
      obtain ⟨hand, rfl⟩ := Nat.exists_eq_succ_of_ne_zero held.ne'
      rw [request.consumed_of_not_isManual allowed] at size
      have same : others = request.spent + hand := by omega
      subst same
      exact ⟨_, rfl, before.request allowed isOwn⟩
  | useInterp change _ step =>
      rcases step with ⟨others, size, before⟩
      exact ⟨others, size, before.of_leads (.of_same rfl)⟩
  | @abandon session hand disposed _ held step =>
      rcases step with ⟨others, size, before⟩
      obtain ⟨hand, rfl⟩ := Nat.exists_eq_succ_of_ne_zero held.ne'
      have same : others = hand + 1 := by omega
      subst same
      exact ⟨hand, rfl, before.abandoned⟩

/-- A live record that is deferred comes last in the queue, with its hook. -/
theorem queue_deferRelease
    {ref : RecordRef}
    (there : session.tracker < session.registry.trackers.size)
    (live : (session.record ref).state = .live)
    (isOpen : session.ownTracker.isOpen = true)
    (defers : session.ownTracker.defers = true)
    (hook : Option Hook) :
    (session.deferRelease ref hook).queue.items = session.queue.items ++ [⟨ref, hook⟩] ∧
      (session.deferRelease ref hook).registry.deferrals = session.registry.deferrals ++ [ref] := by
  simp only [deferRelease, updateRegistry, Registry.deferRelease,
    offerRelease_of_live live isOpen defers hook]
  exact ⟨congrArg (fun tracker => tracker.queue.items)
    (Registry.tracker_updateTracker_self there _), List.filterMap_append⟩

/-- So does one whose wrapper is dropped, unless the wrapper is the last to hold the tracker. -/
theorem queue_dropWrapper
    {ref : RecordRef}
    {hook : Option Hook}
    (held : session.Held (1 + Hook.holdsOf hook + hand) [])
    (live : (session.record ref).state = .live)
    (isOpen : session.ownTracker.isOpen = true)
    (defers : session.ownTracker.defers = true) :
    (session.dropWrapper ⟨session.tracker, ref, hook⟩).queue.items =
        session.queue.items ++ [⟨ref, hook⟩] ∧
      (session.dropWrapper ⟨session.tracker, ref, hook⟩).registry.deferrals =
        session.registry.deferrals ++ [ref] := by
  have total : 1 + Hook.holdsOf hook + hand = Hook.holdsOf hook + (hand + 1) := by omega
  have held' : session.Held (Hook.holdsOf hook + (hand + 1)) [] := total ▸ held
  have queued := held'.push live isOpen
  have dropped := queued.trans (queued.held.queues_letGo session.tracker)
  have live' : (session.registry.record ref).state = .live := live
  rw [dropWrapper, updateRegistry, Registry.dropWrapper, Registry.dropWith, if_pos live',
    offerRelease_of_live live isOpen defers hook]
  exact ⟨dropped.items, dropped.deferrals⟩

/--
Whatever is done with a tracker that somebody holds, as long as its queue is
filled by deferring alone: each record is queued at most once; drains took up
what was queued first, in that order and each record once, and then comes what
waits, unless the tracker was closed.  What waits was not taken up.  The hook of
a record ran no more often than the record was taken up, apart from disposals.

A live record that is deferred, by request or by dropping its wrapper, comes last
in the queue.  Wherever a drain starts, however it ends: it takes up the first
items of the queue and runs their hooks, leaves the rest in front with their
hooks, and takes up nothing that is queued while it runs.
-/
theorem takeUps_in_order_of_deferral
    {config : Config}
    {hasTable : Bool}
    (tenure : Tenure False config hasTable session hand disposed) :
    session.registry.deferrals.Nodup ∧
      (session.registry.takeUps ++ session.queue.items.map PendingRelease.record <+:
        session.registry.deferrals) ∧
      (session.ownTracker.isOpen = true →
        session.registry.takeUps ++ session.queue.items.map PendingRelease.record =
          session.registry.deferrals) ∧
      (∀ item ∈ session.queue.items, item.record ∉ session.registry.takeUps) ∧
      (∀ ref,
        session.registry.hookRuns.count ref ≤
          session.registry.takeUps.count ref + disposed.count ref) ∧
      (∀ ref, (session.record ref).state = .live →
        session.ownTracker.isOpen = true → session.ownTracker.defers = true →
          ∀ hook session',
            session' = session.deferRelease ref hook ∨
                session' = session.dropWrapper ⟨session.tracker, ref, hook⟩ ∧
                  1 + Hook.holdsOf hook < hand →
              session'.queue.items = session.queue.items ++ [⟨ref, hook⟩] ∧
                session'.registry.deferrals = session.registry.deferrals ++ [ref]) ∧
      ∀ within, session.Underway within →
        ∃ taken rest added,
          Drained taken rest added within within.collect.2 ∧
            ∀ item ∈ added, item.record ∉ taken.map PendingRelease.record := by
  rcases tenure.orderly with ⟨others, rfl, orderly⟩
  rcases orderly.ordered.order with ⟨lost, order, cause⟩
  have once := orderly.ordered.nodup
  change session.registry.deferrals =
    session.registry.takeUps ++ session.queue.items.map PendingRelease.record ++ lost at order
  change session.registry.deferrals.Nodup at once
  refine ⟨once, ⟨lost, order.symm⟩, fun isOpen => ?_, fun item among taken => ?_, orderly.hooks,
    fun ref live isOpen defers hook session' => ?_, fun within underway => ?_⟩
  · rcases cause with rfl | ⟨isClosed, -⟩
    · rw [order, List.append_nil]
    · cases isOpen.symm.trans isClosed
  · rw [order, List.append_assoc, List.nodup_append] at once
    exact once.2.2 item.record taken item.record
      (List.mem_append_left _ (List.mem_map_of_mem among)) rfl
  · rintro (rfl | ⟨rfl, spare⟩)
    · exact queue_deferRelease orderly.books.there live isOpen defers hook
    · obtain ⟨hand, rfl⟩ := Nat.exists_eq_add_of_le (Nat.le_of_lt_succ spare)
      exact queue_dropWrapper orderly.unstranded.toHeld live isOpen defers
  · rcases orderly.underway underway with ⟨hand', before⟩
    rcases drained_collect before.unstranded.toHeld with ⟨taken, rest, added, drained⟩
    exact ⟨taken, rest, added, drained,
      before.apart (before.of_leads (leads_collect hand' within)) drained⟩

/--
In the runtime whose drain was stopped the first of three records was taken up
and its hook ran; the next drain starts with the second.
-/
theorem takeUps_in_order_of_deferral_stopped :
    stopped.registry.takeUps = [0] ∧
      stopped.registry.takeUps ++ stopped.queue.items.map PendingRelease.record =
        stopped.registry.deferrals ∧
      stopped.registry.deferrals = [0, 1, 2] ∧
      stopped.registry.hookRuns.count 0 ≤ 1 ∧
      ∃ taken rest added,
        Drained taken rest added stopped stopped.collect.2 ∧
          ∀ item ∈ added, item.record ∉ taken.map PendingRelease.record := by
  rcases takeUps_in_order_of_deferral Tenure.stopped with ⟨-, -, inOrder, -, hooks, -, drains⟩
  have observed :
      stopped.registry.takeUps = [0] ∧ stopped.registry.deferrals = [0, 1, 2] ∧
        stopped.ownTracker.isOpen = true := by
    decide +kernel
  have once := hooks 0
  rw [observed.1] at once
  exact ⟨observed.1, inOrder observed.2.2, observed.2.1, once, drains stopped .here⟩

end Custody.Session
