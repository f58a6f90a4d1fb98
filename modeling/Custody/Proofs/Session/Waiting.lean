import Custody.Proofs.Session.Bookkeeping
import Custody.Proofs.Tracking.Waiting

/-!
# What waits in a runtime

A runtime is used in any way, with callbacks and hooks that may panic, but its
queue is filled by deferring alone and emptied by drains alone.  Between two
requests a record whose deferral was queued is in the queue once if it is still
deferred, and not at all once it was settled.  This holds for as long as the
runtime or one of its wrappers holds the tracker.
-/

namespace Custody.Session

variable {session session' : Session} {hand hand' : Nat}

/-- Nothing is stranded; `hand` holders are in the caller's hands, beside one more. -/
abbrev Unstranded (session : Session) (hand : Nat) : Prop :=
  (⟨session.registry, hand, []⟩ : Registry.Scene).Unstranded session.tracker

theorem Leads.unstranded
    (leads : session.Leads hand [] session' hand' [])
    (before : session.Unstranded hand) :
    session'.Unstranded hand' := by
  have after := leads.moves.unstranded before
  rwa [← leads.tracker] at after

/-- A hook that runs outside a drain strands nothing either. -/
theorem Serves.unstranded
    {asked : List RecordRef}
    (serves : session.Serves asked hand session' hand')
    (before : session.Unstranded hand) :
    session'.Unstranded hand' := by
  cases serves with
  | leads leads => exact leads.unstranded before
  | hooked ref hook rest _ total leads =>
      subst total
      have entered : (⟨session.registry.enter (.hookRan ref), hook.holds + rest, []⟩ :
          Registry.Scene).Unstranded session.tracker :=
        before.of_enter (by simp)
      exact leads.unstranded (entered.of_runWith ref)

/-! ## Shutting down -/

/-- Once every record is settled, nothing has to wait any more. -/
theorem unstranded_releaseAll
    (books : session.registry.Exact session.tracker)
    (before : session.Unstranded hand) :
    session.releaseAll.2.Unstranded hand := by
  have releases := releases_settled session
  have own := tracker_settled books.there
  rw [Unstranded, tracker_releaseAll, releaseAll_eq books.there]
  refine Registry.Scene.Unstranded.of_discardBatch ?_
  refine before.of_spent (size_settled session) ?_ ?_ releases.told releases.size.ge
    (spent_settled books)
  · have held := before.held
    simp only [own, Registry.Scene.waiting, List.nil_append] at held ⊢
    rw [Nat.add_comm]
    exact held
  · rw [Registry.Scene.waiting, own]
    rfl

theorem unstranded_shutDown
    (books : session.registry.Exact session.tracker)
    (before : session.Unstranded hand) :
    (Op.shutDown.on session).2.Unstranded hand := by
  have kept := @Op.shutDown_keeps session hand
    (fun session => session.registry.Exact session.tracker ∧ session.Unstranded hand)
  refine (kept (fun _ => id) ?_ ?_ (fun _ _ _ => id) ⟨books, before⟩).2
  · rintro session session' ⟨books, before⟩ leads
    exact ⟨(Keeps.of_leads leads).exact books, leads.unstranded before⟩
  · rintro session ⟨books, before⟩
    exact ⟨(Keeps.releaseAll session).exact books, unstranded_releaseAll books before⟩

/-! ## The life of a tracker -/

theorem unstranded_request
    {request : Request}
    (books : session.registry.Exact session.tracker)
    (isDeferring : ¬ request.IsManual)
    (isOwn : request.IsOwn session)
    (before : session.Unstranded (request.spent + hand)) :
    (request.perform session).2.Unstranded ((request.answer session).holds + hand) := by
  by_cases stops : request = .act .shutDown
  · subst stops
    rw [show (Request.act .shutDown).spent + hand = hand from zero_add hand] at before
    have nothing := Op.heldBy_shutDown session
    change (Op.shutDown.on session).2.Unstranded
      (Op.heldBy Op.nothing (Op.shutDown.on session).1 + hand)
    rw [nothing, zero_add]
    exact unstranded_shutDown books before
  · exact (serves_perform isDeferring isOwn stops hand).unstranded before

theorem unstranded_abandoned
    (before : session.Unstranded (hand + 1)) :
    session.abandoned.Unstranded hand :=
  (leads_abandoned session hand).unstranded before

/--
The life of the tracker of a runtime that was just started, with the number of
its holders that are in the caller's hands: the runtime, wrappers, and hooks.  A
request takes some of them and its answer brings others; the caller keeps one.
-/
inductive Life (config : Config) (hasTable : Bool) : Session → Nat → Prop where
  | opened : Life config hasTable (opened config hasTable) 1
  | request {session : Session} {hand : Nat} (request : Request)
      (before : Life config hasTable session (request.spent + hand))
      (held : 0 < hand)
      (isDeferring : ¬ request.IsManual)
      (isOwn : request.IsOwn session) :
      Life config hasTable (request.perform session).2 ((request.answer session).holds + hand)
  | useInterp {session : Session} {hand : Nat} (change : Interpreter → Interpreter)
      (before : Life config hasTable session hand) :
      Life config hasTable (session.updateInterp change) hand
  | abandon {session : Session} {hand : Nat}
      (before : Life config hasTable session (hand + 1))
      (held : 0 < hand) :
      Life config hasTable session.abandoned hand

theorem unstranded_opened
    (config : Config)
    (hasTable : Bool) :
    (opened config hasTable).Unstranded 0 := by
  rw [Unstranded, (registry_opened config hasTable).1, (registry_opened config hasTable).2]
  exact
    { there := Nat.zero_lt_one
      sole := fun _ distinct => Nat.one_le_iff_ne_zero.mpr distinct
      held := Nat.zero_lt_one
      nodup := List.nodup_nil
      told := nofun
      waits := nofun
      past := nofun }

/-- Along its life nothing is stranded, and the books are exact. -/
theorem Life.unstranded
    {config : Config}
    {hasTable : Bool}
    (life : Life config hasTable session hand) :
    session.registry.Exact session.tracker ∧
      ∃ others, hand = others + 1 ∧ session.Unstranded others := by
  induction life with
  | opened => exact ⟨exact_opened config hasTable, 0, rfl, unstranded_opened config hasTable⟩
  | @request session hand request _ held isDeferring isOwn step =>
      rcases step with ⟨books, others, size, unstranded⟩
      obtain ⟨hand, rfl⟩ := Nat.exists_eq_succ_of_ne_zero held.ne'
      have same : others = request.spent + hand := by omega
      subst same
      refine ⟨(Keeps.request isOwn).exact books, _, rfl, ?_⟩
      exact unstranded_request books isDeferring isOwn unstranded
  | useInterp change _ step => exact step
  | @abandon session hand _ held step =>
      rcases step with ⟨books, others, size, unstranded⟩
      obtain ⟨hand, rfl⟩ := Nat.exists_eq_succ_of_ne_zero held.ne'
      have same : others = hand + 1 := by omega
      subst same
      refine ⟨(Keeps.abandoned session).exact books, hand, rfl, ?_⟩
      exact unstranded_abandoned unstranded

/-- A request after which the caller holds the tracker a known number of times. -/
theorem Life.follow
    {config : Config}
    {hasTable : Bool}
    (before : Life config hasTable session hand)
    (request : Request)
    (rest : Nat)
    (taken : hand = request.spent + (rest + 1))
    (received : hand' = (request.answer session).holds + (rest + 1))
    (isDeferring : ¬ request.IsManual)
    (isOwn : request.IsOwn session) :
    Life config hasTable (request.perform session).2 hand' := by
  subst taken received
  exact before.request request rest.succ_pos isDeferring isOwn

/-! ## Nothing is stranded, and nothing waits twice -/

/-- A live record is queued if its tracker is open and defers. -/
theorem offerRelease_of_live
    {registry : Registry}
    {tracker : TrackerRef}
    {ref : RecordRef}
    (live : (registry.record ref).state = .live)
    (isOpen : (registry.tracker tracker).isOpen = true)
    (defers : (registry.tracker tracker).defers = true)
    (hook : Option Hook) :
    registry.offerRelease tracker ref hook =
      (none,
        ((registry.setState ref .deferred).updateQueue tracker fun queue =>
          queue.push ⟨ref, hook⟩).enter (.deferred ref)) := by
  have isOpen' : ((registry.setState ref .deferred).tracker tracker).isOpen = true := isOpen
  have defers' : ((registry.setState ref .deferred).tracker tracker).defers = true := defers
  simp [Registry.offerRelease, live, isOpen', defers']

theorem told_offerRelease
    {registry : Registry}
    {tracker : TrackerRef}
    {ref : RecordRef}
    (live : (registry.record ref).state = .live)
    (isOpen : (registry.tracker tracker).isOpen = true)
    (defers : (registry.tracker tracker).defers = true)
    (hook : Option Hook) :
    .deferred ref ∈ (registry.offerRelease tracker ref hook).2.journal := by
  rw [offerRelease_of_live live isOpen defers hook]
  exact List.mem_append_right _ (List.mem_singleton_self _)

theorem told_dropWrapper
    {wrapper : Wrapper}
    (live : (session.record wrapper.record).state = .live)
    (isOpen : (session.registry.tracker wrapper.tracker).isOpen = true)
    (defers : (session.registry.tracker wrapper.tracker).defers = true) :
    .deferred wrapper.record ∈ (session.dropWrapper wrapper).registry.journal := by
  have told := told_offerRelease live isOpen defers wrapper.hook
  have live' : (session.registry.record wrapper.record).state = .live := live
  rw [dropWrapper, updateRegistry, Registry.dropWrapper, Registry.dropWith, if_pos live']
  generalize session.registry.offerRelease wrapper.tracker wrapper.record wrapper.hook = result
    at told ⊢
  rcases result with ⟨left, registry⟩
  cases left with
  | none => exact (Registry.Defers.letGo _ _).told told
  | some hook =>
      exact (Registry.Defers.letGo _ _).told ((Registry.Defers.discardHook _ _).told told)

/--
Whatever is done with a tracker that somebody holds: a record that was queued
when its release was deferred is in the queue once if it is still deferred, and
not at all if it is not.  Nothing else is in the queue.  Whenever a live record
is deferred while the tracker is open and defers, by request or by dropping its
wrapper, the journal tells that it was queued, then and ever after.
-/
theorem count_queue_eq
    {config : Config}
    {hasTable : Bool}
    (life : Life config hasTable session hand) :
    (∀ ref, .deferred ref ∈ session.registry.journal →
      (session.queue.items.map PendingRelease.record).count ref =
        if (session.record ref).state = .deferred then 1 else 0) ∧
      (∀ item ∈ session.queue.items, .deferred item.record ∈ session.registry.journal) ∧
      (∀ ref, (session.record ref).state = .live →
        session.ownTracker.isOpen = true → session.ownTracker.defers = true →
          ∀ hook session',
            (session.deferRelease ref hook).Turns session' ∨
                (session.dropWrapper ⟨session.tracker, ref, hook⟩).Turns session' →
              .deferred ref ∈ session'.registry.journal) := by
  rcases life.unstranded with ⟨-, others, -, unstranded⟩
  refine ⟨fun ref told => ?_, fun item among => ?_, fun ref live isOpen defers hook session' => ?_⟩
  · have once := unstranded.nodup
    have waits := unstranded.waits ref told
    change (session.queue.items.map PendingRelease.record).Nodup at once
    rw [once.count]
    exact if_congr waits.symm rfl rfl
  · exact unstranded.told item.record (List.mem_map_of_mem among)
  · rintro (later | later)
    · refine (Keeps.turns later).told ref ?_
      exact (Registry.Defers.discardHook _ _).told (told_offerRelease live isOpen defers hook)
    · exact (Keeps.turns later).told ref (told_dropWrapper live isOpen defers)

/--
A runtime in which of three records the first was deferred with a hook that
defers the third and then panics, and the second without.  A drain ran the hook,
whereupon the callback for errors panicked as well.
-/
def stopped : Session :=
  [Request.act (.onError ⟨"stopping", [.panic "no"]⟩),
    .act (.register Interpreter.initial.noneObject),
    .act (.register Interpreter.initial.noneObject),
    .act (.register Interpreter.initial.noneObject), .act .newHook,
    .act (.deferRelease 0 (some (.defer 0 2 (.panic none (.done 0))))),
    .act (.deferRelease 1 none), .act .collect].foldl
      (fun session request => (request.perform session).2) (opened .standard false)

theorem life_stopped : Life .standard false stopped 1 := by
  have registers {session : Session} (before : Life .standard false session 1) :
      Life .standard false
        ((Request.act (.register Interpreter.initial.noneObject)).perform session).2 1 :=
    before.follow _ 0 rfl (congrArg (· + 1) (heldBy_register session _)).symm id trivial
  have collects {session : Session} (before : Life .standard false session 1) :
      Life .standard false ((Request.act .collect).perform session).2 1 :=
    before.follow _ 0 rfl (congrArg (· + 1) (heldBy_collect session)).symm id trivial
  have listens : Life .standard false _ 1 :=
    Life.opened.follow (.act (.onError ⟨"stopping", [.panic "no"]⟩)) 0 rfl rfl id trivial
  have hooked : Life .standard false _ 2 :=
    (registers (registers (registers listens))).follow (.act .newHook) 0 rfl rfl id trivial
  have first : Life .standard false _ 1 :=
    hooked.follow (.act (.deferRelease 0 (some (.defer 0 2 (.panic none (.done 0)))))) 0 rfl rfl id
      trivial
  exact collects (first.follow (.act (.deferRelease 1 none)) 0 rfl rfl id trivial)

/-- The first record was settled, and the others wait once each. -/
theorem count_queue_eq_stopped :
    (stopped.queue.items.map PendingRelease.record).count 0 = 0 ∧
      (stopped.queue.items.map PendingRelease.record).count 1 = 1 ∧
      (stopped.queue.items.map PendingRelease.record).count 2 = 1 := by
  have told :
      .deferred 0 ∈ stopped.registry.journal ∧ .deferred 1 ∈ stopped.registry.journal ∧
        .deferred 2 ∈ stopped.registry.journal := by
    decide +kernel
  have states :
      (stopped.record 0).state = .detached ∧ (stopped.record 1).state = .deferred ∧
        (stopped.record 2).state = .deferred := by
    decide +kernel
  rcases count_queue_eq life_stopped with ⟨counted, -, -⟩
  refine ⟨(counted 0 told.1).trans ?_, (counted 1 told.2.1).trans ?_, (counted 2 told.2.2).trans ?_⟩
  · rw [states.1]
    rfl
  · rw [states.2.1]
    rfl
  · rw [states.2.2]
    rfl

end Custody.Session
