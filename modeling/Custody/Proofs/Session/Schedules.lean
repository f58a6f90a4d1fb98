import Custody.Proofs.Finalizer.Settlement
import Custody.Proofs.Session.Runs
import Custody.Proofs.Session.Waiting

/-!
# Giving wrappers up in any order

A wrapper can be disposed of, which gives its reference back at once, or dropped,
which leaves it to a later drain.  A schedule gives each of some wrappers up in
one of the two ways, in any order and with drains in between, and drains once
more in the end.

What it leaves does not depend on the schedule.  Which records are released is
settled at the start: those of the wrappers and those that wait.  What is held
from outside the heap is then the same too; and since freeing is confluent, so
is the heap.
-/

namespace Custody

namespace Session

variable {session session' session'' : Session} {owned : Multiset Handle}
variable {left left' left'' : List Wrapper} {ref : RecordRef}

/-! ## Runs with callbacks that may panic -/

/--
A run of tolerated requests, with the references that the caller owns in the end.
Callbacks may panic, and a shutdown may have been cut short by that.
-/
inductive Employed
    (config : Config)
    (hasTable : Bool) :
    Session → Multiset Handle → Prop where
  | opened : Employed config hasTable (opened config hasTable) 0
  | request
      {session : Session}
      {owned : Multiset Handle}
      (request : Request)
      (before : Employed config hasTable session (request.taken + owned))
      (tolerated : request.Tolerated session) :
      Employed config hasTable (request.perform session).2
        ((request.perform session).1 + owned)

theorem Request.Tolerated.isOwn
    {request : Request}
    (tolerated : request.Tolerated session) :
    request.IsOwn session := by
  cases request with
  | act action =>
      cases action with
      | intoHandle wrapper => exact tolerated
      | _ => trivial
  | restore exception => exact Wrapper.AreIntact.own tolerated
  | _ => trivial

namespace Employed

variable {config : Config} {hasTable : Bool}

theorem of_reached
    {acyclic : Prop}
    (reached : Reached acyclic config hasTable session owned) :
    Employed config hasTable session owned := by
  induction reached with
  | opened => exact .opened
  | request request _ permitted _ before => exact .request request before permitted.tolerated

/-- A request that takes nothing over and returns nothing. -/
theorem follow
    (request : Request)
    (before : Employed config hasTable session owned)
    (taken : request.taken = 0)
    (received : (request.perform session).1 = [])
    (tolerated : request.Tolerated session) :
    Employed config hasTable (request.perform session).2 owned := by
  have before' : Employed config hasTable session (request.taken + owned) := by
    rwa [taken, zero_add]
  have after := before'.request request tolerated
  rwa [received, Multiset.coe_nil, zero_add] at after

theorem sound (employed : Employed config hasTable session owned) :
    session.Sound False False owned := by
  induction employed with
  | opened => exact sound_opened False False config hasTable
  | request request _ tolerated before => exact before.perform tolerated False.elim False.elim

theorem turns (employed : Employed config hasTable session owned) :
    (Session.opened config hasTable).Turns session := by
  induction employed with
  | opened => exact .refl
  | request request _ tolerated before => exact .tail before (.request request tolerated.isOwn)

end Employed

/-! ## Schedules -/

/-- A step of a schedule: a wrapper is disposed of or dropped, or what waits is released. -/
inductive Release where
  | dispose (wrapper : Wrapper)
  | drop (wrapper : Wrapper)
  | collect

namespace Release

/-- The operation of a step. -/
def action : Release → Action
  | dispose wrapper => .dispose wrapper
  | drop wrapper => .dropWrapper wrapper
  | collect => .collect

/-- The wrapper that a step gives up. -/
def wrapper? : Release → Option Wrapper
  | dispose wrapper => some wrapper
  | drop wrapper => some wrapper
  | collect => none

/-- The wrappers that a schedule gives up, in their order. -/
def wrappers (steps : List Release) : List Wrapper :=
  steps.filterMap wrapper?

end Release

/-- Take the steps of a schedule. -/
def carryOut (steps : List Release) (session : Session) : Session :=
  steps.foldl (fun session step => step.action.perform session) session

/-- Carry out a schedule, and release what waits after it. -/
def settle (steps : List Release) (session : Session) : Session :=
  (session.carryOut steps).collect.2

/-! ## What is going to be released -/

/-- The record was released, or the next drain will release it, or one of the wrappers will. -/
def Destined (left : List Wrapper) (session : Session) (ref : RecordRef) : Prop :=
  (session.record ref).state = .released ∨ ref ∈ left.map Wrapper.record ∨
    (session.record ref).state = .deferred ∧ ref ∈ session.queue.items.map PendingRelease.record

theorem destined_congr
    (state : (session'.record ref).state = (session.record ref).state)
    (among : ref ∈ left'.map Wrapper.record ↔ ref ∈ left.map Wrapper.record)
    (waits :
      ref ∈ session'.queue.items.map PendingRelease.record ↔
        ref ∈ session.queue.items.map PendingRelease.record) :
    session'.Destined left' ref ↔ session.Destined left ref := by
  rw [Destined, Destined, state, among, waits]

/--
On the way from wrappers to those that are left of them, references were given
back, but what is going to be released is the same, and the other records are in
the states in which they were.
-/
structure Forwards
    (owned : Multiset Handle)
    (left : List Wrapper)
    (session : Session)
    (left' : List Wrapper)
    (session' : Session) :
    Prop
    extends Yields owned session session' where
  destined : ∀ ref, session'.Destined left' ref ↔ session.Destined left ref
  kept :
    ∀ ref, ¬ session.Destined left ref → (session'.record ref).state = (session.record ref).state

namespace Forwards

theorem refl
    (left : List Wrapper)
    (session : Session) :
    Forwards owned left session left session where
  toYields := .of_spares (.refl session)
  destined := fun _ => .rfl
  kept := fun _ _ => rfl

theorem trans
    (first : Forwards owned left session left' session')
    (second : Forwards owned left' session' left'' session'') :
    Forwards owned left session left'' session'' where
  toYields := first.toYields.trans second.toYields
  destined := fun ref => (second.destined ref).trans (first.destined ref)
  kept := by
    intro ref stays
    have stays' : ¬ session'.Destined left' ref := fun due => stays ((first.destined ref).mp due)
    exact (second.kept ref stays').trans (first.kept ref stays)

end Forwards

/--
A runtime whose tracker is open and defers, between two operations, with nothing
but items without hooks in its queue, and the wrappers that are left.
-/
structure Poised (owned : Multiset Handle) (left : List Wrapper) (session : Session) : Prop where
  sound : session.Sound False False owned
  ledger : session.Ledger False owned
  room : session.interp.heap.HasRoom
  books : session.registry.Exact session.tracker
  idle : session.finalizer.draining = false
  isOpen : session.ownTracker.isOpen = true
  defers : session.ownTracker.defers = true
  unhooked : ∀ item ∈ session.queue.items, item.hook = none
  intact : Wrapper.AreIntact left session

/-! ## Surrendering a wrapper -/

/-- The session in which the release of a record waits without a hook. -/
def queued (session : Session) (ref : RecordRef) : Session :=
  session.updateRegistry fun registry =>
    ((registry.setState ref .deferred).updateQueue session.tracker fun queue =>
      queue.push ⟨ref, none⟩).enter (.deferred ref)

theorem ownTracker_queued
    (there : session.tracker < session.registry.trackers.size)
    (ref : RecordRef) :
    (session.queued ref).ownTracker =
      { session.ownTracker with queue := session.queue.push ⟨ref, none⟩ } :=
  @Registry.tracker_updateTracker_self (session.registry.setState ref .deferred) session.tracker
    there _

theorem spares_queued
    (live : (session.record ref).state = .live)
    (isOpen : session.ownTracker.isOpen = true)
    (defers : session.ownTracker.defers = true) :
    session.Spares (session.queued ref) := by
  have offered := Registry.Defers.offerRelease session.registry session.tracker ref none
  rw [offerRelease_of_live live isOpen defers none] at offered
  exact .of_registry offered.mild

theorem state_queued
    (live : (session.record ref).state = .live)
    (other : RecordRef) :
    ((session.queued ref).record other).state =
      if other = ref then .deferred else (session.record other).state := by
  have bound : ref < session.registry.records.size :=
    Registry.lt_size_of_owns (congrArg RecordState.owns live)
  show ((session.registry.setState ref .deferred).record other).state = _
  rw [Registry.record_setState]
  by_cases same : other = ref
  · rw [if_pos ⟨same, bound⟩, if_pos same]
  · rw [if_neg fun found => same found.1, if_neg same]
    rfl

/--
The reference of a wrapper was given back, or its release waits without a hook;
the wrapper still holds the tracker.
-/
structure Surrenders
    (owned : Multiset Handle)
    (wrapper : Wrapper)
    (session session' : Session) :
    Prop
    extends Yields owned session session' where
  tracker : session'.tracker = session.tracker
  isOpen : session'.ownTracker.isOpen = session.ownTracker.isOpen
  defers : session'.ownTracker.defers = session.ownTracker.defers
  holders : session'.ownTracker.holders = session.ownTracker.holders
  due : ∀ left, session'.Destined left wrapper.record
  kept :
    ∀ ref ≠ wrapper.record,
      (session'.record ref).state = (session.record ref).state ∧
        (ref ∈ session'.queue.items.map PendingRelease.record ↔
          ref ∈ session.queue.items.map PendingRelease.record)
  unhooked : ∀ item ∈ session'.queue.items, item.hook = none

/-- What panics may have cost is held from outside like what the caller owns. -/
theorem Employed.poised
    {config : Config}
    {hasTable : Bool}
    (employed : Employed config hasTable session owned)
    (room : session.interp.heap.HasRoom)
    (isOpen : session.ownTracker.isOpen = true)
    (defers : session.ownTracker.defers = true)
    (unhooked : ∀ item ∈ session.queue.items, item.hook = none)
    (intact : Wrapper.AreIntact left session) :
    ∃ lost, session.Poised (owned + lost) left := by
  have sound := employed.sound
  have kept := Keeps.turns employed.turns
  rcases sound.accounts with ⟨lost, -, ledger⟩
  refine ⟨lost, ?_⟩
  exact
    { sound := ⟨sound.toInOrder, ⟨0, fun _ => rfl, by rwa [add_zero]⟩, sound.untroubled⟩
      ledger := ledger
      room := room
      books := kept.exact (exact_opened config hasTable)
      idle := kept.draining.trans (idle_opened config hasTable)
      isOpen := isOpen
      defers := defers
      unhooked := unhooked
      intact := intact }

namespace Poised

variable {wrapper : Wrapper}

/-- What a step needs to keep so that the next one can be taken. -/
theorem next
    (poised : session.Poised owned left)
    (turn : session.Turn session')
    (sound : session'.Sound False False owned)
    (yields : session.Yields owned session')
    (isOpen : session'.ownTracker.isOpen = session.ownTracker.isOpen)
    (defers : session'.ownTracker.defers = session.ownTracker.defers)
    (unhooked : ∀ item ∈ session'.queue.items, item.hook = none)
    (intact : Wrapper.AreIntact left' session') :
    session'.Poised owned left' where
  sound := sound
  ledger := yields.ledger poised.ledger
  room := yields.room poised.room
  books := (Keeps.turn turn).exact poised.books
  idle := (Keeps.turn turn).draining.trans poised.idle
  isOpen := isOpen.trans poised.isOpen
  defers := defers.trans poised.defers
  unhooked := unhooked
  intact := intact

/-- A wrapper that was surrendered lets its tracker go, and nothing else happens. -/
theorem letGo
    {within : Session}
    (poised : session.Poised owned (wrapper :: left))
    (turn : session.Turn session')
    (sound : session'.Sound False False owned)
    (surrenders : Surrenders owned wrapper session within)
    (ended : session' = within.updateRegistry fun registry => registry.letGo wrapper.tracker) :
    session'.Poised owned left ∧ Forwards owned (wrapper :: left) session left session' := by
  have own : wrapper.tracker = within.tracker :=
    (poised.intact.own wrapper List.mem_cons_self).trans surrenders.tracker.symm
  have several : left.length + 1 < session.ownTracker.holders := poised.intact.holders
  have held : 1 < (within.registry.tracker within.tracker).holders := by
    have same : (within.registry.tracker within.tracker).holders = session.ownTracker.holders :=
      surrenders.holders
    omega
  rw [own, updateRegistry, Registry.letGo_of_held held] at ended
  have leaves :
      within.Spares { within with registry := within.registry.leave within.tracker } :=
    .of_registry (.leave within.registry within.tracker)
  have reads {α : Type} (read : Tracker → α)
      (kept : ∀ tracker : Tracker,
        read { tracker with holders := tracker.holders - 1 } = read tracker) :
      read session'.ownTracker = read within.ownTracker := by
    rw [ended]
    exact Registry.read_updateTracker read within.registry within.tracker within.tracker kept
  have waits : session'.queue = within.queue := reads Tracker.queue fun _ => rfl
  have record (ref : RecordRef) : session'.record ref = within.record ref := by
    rw [ended]
    rfl
  have holders : session'.ownTracker.holders + 1 = session.ownTracker.holders := by
    rw [ended]
    exact (Registry.holders_leave held).trans surrenders.holders
  have yields : session.Yields owned session' := by
    rw [ended]
    exact surrenders.toYields.trans (.of_spares leaves)
  have intact : Wrapper.AreIntact left session' := by
    refine poised.intact.tail ?_ (fun ref distinct => ?_) holders
    · rw [ended]
      exact surrenders.tracker
    · rw [record]
      exact (surrenders.kept ref distinct).1
  constructor
  · refine poised.next turn sound yields
      ((reads Tracker.isOpen fun _ => rfl).trans surrenders.isOpen)
      ((reads Tracker.defers fun _ => rfl).trans surrenders.defers) ?_ intact
    rw [waits]
    exact surrenders.unhooked
  · have destined (ref : RecordRef) :
        session'.Destined left ref ↔ session.Destined (wrapper :: left) ref := by
      by_cases same : ref = wrapper.record
      · subst same
        refine iff_of_true ?_ (.inr (.inl (by simp)))
        rw [Destined, record, waits]
        exact surrenders.due left
      · rcases surrenders.kept ref same with ⟨state, among⟩
        refine destined_congr ?_ (by simp [same]) ?_
        · rw [record, state]
        · rw [waits, among]
    refine { toYields := yields, destined, kept := fun ref stays => ?_ }
    have distinct : ref ≠ wrapper.record := by
      rintro rfl
      exact stays (.inr (.inl (by simp)))
    rw [record]
    exact (surrenders.kept ref distinct).1

theorem dispose
    (poised : session.Poised owned (wrapper :: left)) :
    ((Action.dispose wrapper).perform session).Poised owned left ∧
      Forwards owned (wrapper :: left) session left ((Action.dispose wrapper).perform session) := by
  have own : wrapper.tracker = session.tracker := poised.intact.own wrapper List.mem_cons_self
  have bare : wrapper.hook = none := poised.intact.bare wrapper List.mem_cons_self
  have live : (session.record wrapper.record).state = .live :=
    poised.intact.live wrapper List.mem_cons_self
  have frees := frees_releaseNow poised.sound poised.ledger poised.room live
  have standing := frees.standing
  simp only [Tracker.standing, Prod.mk.injEq] at standing
  rcases standing with ⟨queue, isOpen, defers, holders⟩
  have waits : (session.releaseNow wrapper.record).2.queue = session.queue := queue
  refine poised.letGo (.request (.act (.dispose wrapper)) trivial)
    (Wrapper.sound_dispose wrapper poised.sound)
    { toYields := frees.toYields
      tracker := frees.tracker
      isOpen
      defers
      holders
      due := fun _ => .inl (frees.released _ rfl)
      kept := fun ref distinct => ⟨frees.kept ref distinct, by rw [waits]⟩
      unhooked := by
        rw [waits]
        exact poised.unhooked } ?_
  show (wrapper.dispose.on session).2 = _
  rw [Wrapper.dispose_of_own own, Wrapper.hooked, bare]

theorem drop
    (poised : session.Poised owned (wrapper :: left)) :
    ((Action.dropWrapper wrapper).perform session).Poised owned left ∧
      Forwards owned (wrapper :: left) session left
        ((Action.dropWrapper wrapper).perform session) := by
  have own : wrapper.tracker = session.tracker := poised.intact.own wrapper List.mem_cons_self
  have bare : wrapper.hook = none := poised.intact.bare wrapper List.mem_cons_self
  have live : (session.record wrapper.record).state = .live :=
    poised.intact.live wrapper List.mem_cons_self
  have standing := ownTracker_queued poised.books.there wrapper.record
  have state := state_queued live
  have queue : (session.queued wrapper.record).queue = session.queue.push ⟨wrapper.record, none⟩ :=
    congrArg Tracker.queue standing
  have surrenders : Surrenders owned wrapper session (session.queued wrapper.record) :=
    { toYields := .of_spares (spares_queued live poised.isOpen poised.defers)
      tracker := rfl
      isOpen := by rw [standing]
      defers := by rw [standing]
      holders := by rw [standing]
      due := fun _ => .inr (.inr ⟨(state _).trans (if_pos rfl), by simp [queue]⟩)
      kept := fun ref distinct => ⟨(state ref).trans (if_neg distinct), by simp [queue, distinct]⟩
      unhooked := by
        intro item among
        rw [queue, PendingQueue.items_push, List.mem_append, List.mem_singleton] at among
        rcases among with before | rfl
        · exact poised.unhooked item before
        · rfl }
  refine poised.letGo (.request (.act (.dropWrapper wrapper)) trivial)
    (poised.sound.of_spares (.dropWrapper session wrapper)) surrenders ?_
  have live' : (session.registry.record wrapper.record).state = .live := live
  show session.dropWrapper wrapper = _
  rw [dropWrapper, updateRegistry, Registry.dropWrapper, Registry.dropWith, if_pos live', bare, own,
    offerRelease_of_live live poised.isOpen poised.defers none]
  rfl

/-- A drain releases what is going to be released and waits. -/
theorem collect
    (poised : session.Poised owned left) :
    session.collect.2.Poised owned left ∧ Forwards owned left session left session.collect.2 ∧
      session.collect.2.queue.items = [] := by
  have frees := collect_unhooked poised.sound poised.ledger poised.room poised.idle poised.unhooked
  have taken := Spares.takeSnapshot session
  have yields : session.Yields owned session.collect.2 :=
    (Yields.of_spares taken).trans frees.toYields
  have standing := frees.standing
  rw [ownTracker_takeSnapshot poised.books.there] at standing
  simp only [Tracker.standing, Prod.mk.injEq] at standing
  rcases standing with ⟨queue, isOpen, defers, holders⟩
  have empty : session.collect.2.queue.items = [] := congrArg PendingQueue.items queue
  have kept (ref : RecordRef) :
      ¬ ((session.record ref).state = .deferred ∧
        ref ∈ session.queue.items.map PendingRelease.record) →
          (session.collect.2.record ref).state = (session.record ref).state :=
    frees.kept ref
  refine ⟨?_, ?_, empty⟩
  · refine poised.next (.request (.act .collect) trivial) poised.sound.collect.sound yields isOpen
      defers (by simp [empty]) ⟨?_, poised.intact.bare, ?_, poised.intact.distinct, ?_⟩
    · exact fun wrapper among => (poised.intact.own wrapper among).trans frees.tracker.symm
    · intro wrapper among
      have live := poised.intact.live wrapper among
      refine (kept _ fun due => ?_).trans live
      rw [live] at due
      cases due.1
    · rw [holders]
      exact poised.intact.holders
  · refine { toYields := yields, destined := fun ref => ?_, kept := fun ref stays => ?_ }
    · by_cases due : (session.record ref).state = .deferred ∧
          ref ∈ session.queue.items.map PendingRelease.record
      · exact iff_of_true (.inl (frees.released ref due)) (.inr (.inr due))
      · rw [Destined, Destined, kept ref due, empty]
        simp only [List.map_nil, List.not_mem_nil, and_false, due]
    · exact kept ref fun due => stays (.inr (.inr due))

/-- A schedule gives up the wrappers that are left, and forwards at each step. -/
theorem carryOut
    {steps : List Release}
    (poised : session.Poised owned (Release.wrappers steps)) :
    (session.carryOut steps).Poised owned [] ∧
      Forwards owned (Release.wrappers steps) session [] (session.carryOut steps) := by
  induction steps generalizing session with
  | nil => exact ⟨poised, .refl [] session⟩
  | cons step rest later =>
      cases step with
      | dispose wrapper =>
          rcases poised.dispose with ⟨poised', forwards⟩
          exact ⟨(later poised').1, forwards.trans (later poised').2⟩
      | drop wrapper =>
          rcases poised.drop with ⟨poised', forwards⟩
          exact ⟨(later poised').1, forwards.trans (later poised').2⟩
      | collect =>
          rcases poised.collect with ⟨poised', forwards, -⟩
          exact ⟨(later poised').1, forwards.trans (later poised').2⟩

/-- What is left after the last drain. -/
theorem settle
    {steps : List Release}
    (poised : session.Poised owned (Release.wrappers steps)) :
    (session.settle steps).Poised owned [] ∧
      Forwards owned (Release.wrappers steps) session [] (session.settle steps) ∧
        (session.settle steps).queue.items = [] := by
  rcases poised.carryOut with ⟨poised', forwards⟩
  rcases poised'.collect with ⟨poised'', forwards', empty⟩
  exact ⟨poised'', forwards.trans forwards', empty⟩

end Poised

/-! ## Two schedules -/

/-- When no wrapper is left and nothing waits, what was going to be released is. -/
theorem Forwards.released_iff
    (forwards : Forwards owned left session [] session')
    (empty : session'.queue.items = [])
    (ref : RecordRef) :
    (session'.record ref).state = .released ↔ session.Destined left ref := by
  rw [← forwards.destined ref, Destined, empty]
  simp

/-- Which records were released depends on the wrappers, and the other records are as before. -/
theorem Forwards.states_eq
    {session₁ session₂ : Session}
    (forwards₁ : Forwards owned left session [] session₁)
    (forwards₂ : Forwards owned left' session [] session₂)
    (empty₁ : session₁.queue.items = [])
    (empty₂ : session₂.queue.items = [])
    (same : left.Perm left')
    (ref : RecordRef) :
    (session₁.record ref).state = (session₂.record ref).state := by
  have destined : session.Destined left' ref ↔ session.Destined left ref :=
    destined_congr rfl (same.symm.map Wrapper.record).mem_iff .rfl
  by_cases due : session.Destined left ref
  · rw [(forwards₁.released_iff empty₁ ref).mpr due,
      (forwards₂.released_iff empty₂ ref).mpr (destined.mpr due)]
  · rw [forwards₁.kept ref due, forwards₂.kept ref (destined.not.mpr due)]

/-- What is held from outside depends on the states of the records. -/
theorem Yields.credit_eq
    {session₁ session₂ : Session}
    (yields₁ : session.Yields owned session₁)
    (yields₂ : session.Yields owned session₂)
    (states : ∀ ref, (session₁.record ref).state = (session₂.record ref).state) :
    session₁.credit owned = session₂.credit owned := by
  have held : session₁.registry.held = session₂.registry.held := by
    refine Registry.held_congr (yields₁.size.trans yields₂.size.symm) fun ref => ?_
    have handle : (session₁.record ref).handle = (session₂.record ref).handle :=
      (yields₁.handle ref).trans (yields₂.handle ref).symm
    have state := states ref
    rw [Session.record] at handle state
    rw [Record.references, Record.references, state, handle]
    rfl
  rw [credit, credit, reserve, reserve, yields₁.table, yields₂.table, yields₁.held, yields₂.held,
    held]

/--
As long as there were fewer allocations than there are handles, the tracker is
open and defers, and nothing that waits carries a hook: of whatever live wrappers
without hooks that somebody has, two schedules that give them up leave the same
objects with the same counts, the same released records and the same number of
registered records.
-/
theorem settle_alike
    {config : Config}
    {hasTable : Bool}
    {wrappers : List Wrapper}
    {steps steps' : List Release}
    (employed : Employed config hasTable session owned)
    (room : session.interp.heap.HasRoom)
    (isOpen : session.ownTracker.isOpen = true)
    (defers : session.ownTracker.defers = true)
    (unhooked : ∀ item ∈ session.queue.items, item.hook = none)
    (intact : Wrapper.AreIntact wrappers session)
    (gives : (Release.wrappers steps).Perm wrappers)
    (gives' : (Release.wrappers steps').Perm wrappers) :
    (∀ handle,
        (session.settle steps).interp.heap.isLive handle =
          (session.settle steps').interp.heap.isLive handle) ∧
      (∀ handle,
        (session.settle steps).interp.heap.refcount? handle =
          (session.settle steps').interp.heap.refcount? handle) ∧
      (∀ ref,
        ((session.settle steps).record ref).state = .released ↔
          ((session.settle steps').record ref).state = .released) ∧
      (session.settle steps).ownTracker.registered =
        (session.settle steps').ownTracker.registered := by
  rcases employed.poised room isOpen defers unhooked intact with ⟨lost, poised⟩
  rcases Poised.settle { poised with intact := intact.perm gives.symm } with
    ⟨poised₁, forwards₁, empty₁⟩
  rcases Poised.settle { poised with intact := intact.perm gives'.symm } with
    ⟨poised₂, forwards₂, empty₂⟩
  have states := forwards₁.states_eq forwards₂ empty₁ empty₂ (gives.trans gives'.symm)
  have credit := forwards₁.credit_eq forwards₂.toYields states
  have balanced₁ := (poised₁.ledger.heap poised₁.room).1
  have balanced₂ := (poised₂.ledger.heap poised₂.room).1
  have found (handle : Handle) :
      (session.settle steps).interp.heap.find? handle =
        (session.settle steps').interp.heap.find? handle :=
    Heap.find?_eq_of_sheds room forwards₁.sheds (credit ▸ forwards₂.sheds) balanced₁
      (credit ▸ balanced₂) handle
  refine ⟨fun handle => ?_, fun handle => ?_, fun ref => ?_, ?_⟩
  · rw [Heap.isLive, Heap.isLive, found]
  · rw [Heap.refcount?, Heap.refcount?, found]
  · rw [states]
  · exact poised₂.books.registered_congr poised₁.books (forwards₁.size.trans forwards₂.size.symm)
      states

/--
The runtime with wrappers of a number, of a list that holds the number twice, and
of the list once more, in which another record waits.
-/
def sharing : Session :=
  [Request.wrapPayload (.int 7), .wrapList [⟨0, 0, none⟩, ⟨0, 0, none⟩], .clone ⟨0, 1, none⟩,
    .wrapNone, .act (.dropWrapper ⟨0, 3, none⟩)].foldl
      (fun session request => (request.perform session).2) (opened .standard false)

theorem reached_sharing (acyclic : Prop) : Reached acyclic .standard false sharing 0 := by
  have started : Reached acyclic .standard false (opened .standard false) 0 := .opened
  have number := started.follow (.wrapPayload (.int 7)) rfl rfl trivial fun _ => trivial
  have usable : (Request.wrapList [⟨0, 0, none⟩, ⟨0, 0, none⟩]).Permitted
      ((Request.wrapPayload (.int 7)).perform (opened .standard false)).2 := by
    rw [Request.Permitted, Wrapper.AreUsable]
    decide +kernel
  have list := number.follow (.wrapList [⟨0, 0, none⟩, ⟨0, 0, none⟩]) rfl rfl usable
    fun _ => trivial
  have copy := list.follow (.clone ⟨0, 1, none⟩) rfl rfl trivial fun _ => trivial
  have other := copy.follow .wrapNone rfl rfl trivial fun _ => trivial
  exact other.follow (.act (.dropWrapper ⟨0, 3, none⟩)) rfl rfl trivial fun _ => trivial

/-- The number and one wrapper of the list are given up; the list keeps the number alive. -/
theorem settle_alike_sharing :
    (sharing.settle [.dispose ⟨0, 2, none⟩, .collect, .drop ⟨0, 0, none⟩]).interp.heap.refcount?
        ⟨53, 0⟩ = some 2 ∧
      (sharing.settle [.dispose ⟨0, 2, none⟩, .collect, .drop ⟨0, 0, none⟩]).ownTracker.registered =
        1 := by
  have before :
      sharing.interp.heap.HasRoom ∧ sharing.ownTracker.isOpen = true ∧
        sharing.ownTracker.defers = true ∧ (∀ item ∈ sharing.queue.items, item.hook = none) ∧
          (∀ wrapper ∈ ([⟨0, 0, none⟩, ⟨0, 2, none⟩] : List Wrapper),
            wrapper.tracker = sharing.tracker ∧ (sharing.record wrapper.record).state = .live) ∧
            2 < sharing.ownTracker.holders := by
    rw [Heap.HasRoom]
    decide +kernel
  rcases before with ⟨room, isOpen, defers, unhooked, own, holders⟩
  have intact : Wrapper.AreIntact [⟨0, 0, none⟩, ⟨0, 2, none⟩] sharing :=
    ⟨fun wrapper among => (own wrapper among).1, by decide,
      fun wrapper among => (own wrapper among).2, by decide, holders⟩
  have alike := settle_alike (.of_reached (reached_sharing False)) room isOpen defers unhooked
    intact
    (show (Release.wrappers [.dispose ⟨0, 2, none⟩, .collect, .drop ⟨0, 0, none⟩]).Perm _ by decide)
    (show (Release.wrappers [.drop ⟨0, 0, none⟩, .dispose ⟨0, 2, none⟩]).Perm _ by decide)
  have after :
      (sharing.settle [.drop ⟨0, 0, none⟩, .dispose ⟨0, 2, none⟩]).interp.heap.refcount? ⟨53, 0⟩ =
          some 2 ∧
        (sharing.settle [.drop ⟨0, 0, none⟩, .dispose ⟨0, 2, none⟩]).ownTracker.registered = 1 := by
    decide +kernel
  exact ⟨(alike.2.1 _).trans after.1, alike.2.2.2.trans after.2⟩

end Session

end Custody
