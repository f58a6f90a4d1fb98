import Custody.Proofs.Finalizer.Ledger
import Custody.Proofs.Finalizer.Moves
import Custody.Proofs.Finalizer.Nesting
import Custody.Proofs.Heap.Confluence

/-!
# Giving references back

A record gives its reference back at once, or a drain does so on its behalf.
Either way what is held from outside the heap becomes less, and of the heap
everything is left that upholds itself without that reference.

A drain of items without hooks gives back the reference of every record that is
deferred, whatever else its cascades free.  A count is never too low, so that no
resolver is asked, and a callback that panics does so when everything is done.
-/

namespace Custody

/-- A tracker but for its books. -/
def Tracker.standing (tracker : Tracker) : PendingQueue PendingRelease × Bool × Bool × Nat :=
  (tracker.queue, tracker.isOpen, tracker.defers, tracker.holders)

namespace Session

variable {session session' session'' : Session} {owned : Multiset Handle} {ref : RecordRef}

/-- What is held from outside the heap, by the caller and by others. -/
def credit (session : Session) (owned : Multiset Handle) : Multiset Handle :=
  owned + session.reserve + session.interp.held

/-! ## Less is held, and less is left -/

/--
Records gave references back to the heap, and nobody took any: the heap is left
with all that upholds itself by what is held from outside at the end.
-/
structure Yields (owned : Multiset Handle) (session session' : Session) : Prop where
  table : session'.table = session.table
  held : session'.interp.held = session.interp.held
  size : session'.registry.records.size = session.registry.records.size
  handle : ∀ ref, (session'.record ref).handle = (session.record ref).handle
  fewer : session'.credit owned ≤ session.credit owned
  sheds : session.interp.heap.Sheds (session'.credit owned) session'.interp.heap
  ledger : session.Ledger False owned → session'.Ledger False owned

namespace Yields

theorem trans
    (first : session.Yields owned session')
    (second : session'.Yields owned session'') :
    session.Yields owned session'' where
  table := second.table.trans first.table
  held := second.held.trans first.held
  size := second.size.trans first.size
  handle := fun ref => (second.handle ref).trans (first.handle ref)
  fewer := second.fewer.trans first.fewer
  sheds := (first.sheds.mono fun _ => Multiset.mem_of_le second.fewer).trans second.sheds
  ledger := fun before => second.ledger (first.ledger before)

/-- What leaves the interpreter alone and lets records go on owning what they own. -/
theorem of_spares (spares : session.Spares session') : session.Yields owned session' := by
  have same : session'.credit owned = session.credit owned := by
    rw [credit, credit, reserve, reserve, spares.table, spares.registry.held, spares.interp]
  exact
    { table := spares.table
      held := by rw [spares.interp]
      size := spares.registry.size
      handle := spares.registry.handle
      fewer := same.le
      sheds := by
        rw [spares.interp]
        exact .refl _ _
      ledger := fun before => before.of_spares spares }

theorem room
    (yields : session.Yields owned session')
    (room : session.interp.heap.HasRoom) :
    session'.interp.heap.HasRoom :=
  yields.sheds.hasRoom_iff.mpr room

/-- A record that owned its reference gives it back to the heap, and is settled. -/
theorem release
    {change : Record → Record}
    {registry : Registry}
    {interp : Interpreter}
    {remaining : Int}
    (ledger : session.Ledger False owned)
    (room : session.interp.heap.HasRoom)
    (owns : (session.record ref).state.owns = true)
    (settles : (session.record ref).Settles change)
    (records : registry.records = (session.registry.alter ref change).records)
    (released : session.interp.decref (session.record ref).handle = .ok (remaining, interp)) :
    session.Yields owned { session with interp, registry } := by
  have record (other : RecordRef) :
      registry.record other = (session.registry.alter ref change).record other := by
    rw [Registry.record, records, Registry.record]
  have held : (session.record ref).handle ::ₘ registry.held = session.registry.held := by
    rw [← session.registry.held_alter_of_owns change owns settles.settled]
    congr 1
    exact Registry.held_congr (congrArg Array.size records) fun other => by rw [record]
  rcases Interpreter.decref_eq_ok_iff.mp released with ⟨heap, counted, rfl⟩
  have struck := ledger.strike registry held
  have total :
      (session.record ref).handle ::ₘ
          ({ session with
              interp := { session.interp with heap }
              registry } : Session).credit owned =
        session.credit owned := by
    simp only [credit, reserve, ← held, Multiset.add_cons, Multiset.cons_add]
    rfl
  have balanced := (ledger.heap room).1
  rw [show owned + session.reserve + session.interp.held = session.credit owned from rfl,
    ← total] at balanced
  exact
    { table := rfl
      held := rfl
      size := (congrArg Array.size records).trans (session.registry.size_alter ref change)
      handle := by
        intro other
        rw [Session.record, record, Registry.record_alter]
        split
        · next same =>
            rw [same.1]
            exact settles.handle _
        · rfl
      fewer := by
        rw [← total]
        exact Multiset.le_cons_self _ _
      sheds := .decref balanced room counted
      ledger := fun _ => by
        rw [Session.Ledger, Multiset.cons_add] at struck
        exact struck.decref released }

end Yields

/-! ## Records that give their references back -/

/--
The records that are gone were released, and the others are in the states in
which they were; so is the tracker but for its books.
-/
structure Frees
    (gone : RecordRef → Prop)
    (owned : Multiset Handle)
    (session session' : Session) :
    Prop
    extends Yields owned session session', Abides session session' where
  standing : session'.ownTracker.standing = session.ownTracker.standing
  released : ∀ ref, gone ref → (session'.record ref).state = .released
  kept : ∀ ref, ¬ gone ref → (session'.record ref).state = (session.record ref).state

namespace Frees

variable {gone gone' : RecordRef → Prop}

theorem refl (session : Session) : session.Frees (fun _ => False) owned session where
  toYields := .of_spares (.refl session)
  tracker := rfl
  isShutDown := rfl
  draining := rfl
  standing := rfl
  released := fun _ => False.elim
  kept := fun _ _ => rfl

theorem trans
    (first : session.Frees gone owned session')
    (second : session'.Frees gone' owned session'') :
    session.Frees (fun ref => gone ref ∨ gone' ref) owned session'' where
  toYields := first.toYields.trans second.toYields
  tracker := second.tracker.trans first.tracker
  isShutDown := second.isShutDown.trans first.isShutDown
  draining := second.draining.trans first.draining
  standing := second.standing.trans first.standing
  released := by
    intro ref isGone
    by_cases later : gone' ref
    · exact second.released ref later
    · exact (second.kept ref later).trans (first.released ref (isGone.resolve_right later))
  kept := by
    intro ref stays
    rw [not_or] at stays
    exact (second.kept ref stays.2).trans (first.kept ref stays.1)

theorem congr
    (frees : session.Frees gone owned session')
    (same : ∀ ref, gone' ref ↔ gone ref) :
    session.Frees gone' owned session' :=
  { frees with
    released := fun ref isGone => frees.released ref ((same ref).mp isGone)
    kept := fun ref stays => frees.kept ref fun isGone => stays ((same ref).mpr isGone) }

/-- What the journal tells and what callbacks do frees nothing. -/
theorem of_tells
    {kind : Event → Prop}
    (spares : session.Spares session')
    (draining : session'.finalizer.draining = session.finalizer.draining)
    (tells : session.registry.Tells kind session'.registry) :
    session.Frees (fun _ => False) owned session' where
  toYields := .of_spares spares
  tracker := spares.tracker
  isShutDown := spares.isShutDown
  draining := draining
  standing := by
    rcases tells with ⟨events, told, -⟩
    rw [ownTracker, spares.tracker, told]
    rfl
  released := fun _ => False.elim
  kept := fun ref _ => congrArg Record.state (tells.record ref)

theorem finish
    (frees : session.Frees gone owned session')
    (log : List CollectedObject) :
    session.Frees gone owned (session'.finish log) :=
  { frees with draining := frees.draining }

theorem setDraining
    (frees : session.Frees gone owned session')
    (draining : Bool) :
    (session.setDraining draining).Frees gone owned (session'.setDraining draining) :=
  { frees with draining := rfl }

/-- A record is released, and struck from the books. -/
theorem release
    {change : Record → Record}
    {interp : Interpreter}
    {remaining : Int}
    (ledger : session.Ledger False owned)
    (room : session.interp.heap.HasRoom)
    (owns : (session.record ref).state.owns = true)
    (settles : (session.record ref).Settles change)
    (state : (change (session.record ref)).state = .released)
    (released : session.interp.decref (session.record ref).handle = .ok (remaining, interp))
    (journal : List Event) :
    session.Frees (fun other => other = ref) owned
      { session with
        interp
        registry :=
          { (session.registry.alter ref change).unregister session.tracker ref with
            journal } } where
  toYields := .release ledger room owns settles rfl released
  tracker := rfl
  isShutDown := rfl
  draining := rfl
  standing :=
    Registry.read_updateTracker Tracker.standing (session.registry.alter ref change) session.tracker
      session.tracker fun _ => rfl
  released := by
    rintro other rfl
    show ((session.registry.alter other change).record other).state = _
    rw [Registry.record_alter, if_pos ⟨rfl, Registry.lt_size_of_owns owns⟩]
    exact state
  kept := by
    intro other distinct
    show ((session.registry.alter ref change).record other).state = _
    rw [Registry.record_alter, if_neg fun same => distinct same.1]
    rfl

end Frees

/-- A live record gives its reference back at once. -/
theorem frees_releaseNow
    {quiet : Prop}
    (sound : session.Sound quiet False owned)
    (ledger : session.Ledger False owned)
    (room : session.interp.heap.HasRoom)
    (live : (session.record ref).state = .live) :
    session.Frees (fun other => other = ref) owned (session.releaseNow ref).2 := by
  have owns : (session.record ref).state.owns = true := congrArg _ live
  rcases Interpreter.exists_decref (sound.isLive_of_owns room owns) with
    ⟨⟨remaining, interp⟩, released⟩
  have frees := Frees.release ledger room owns ((session.record ref).settles_setState rfl) rfl
    released (session.registry.journal ++ [.dropped ref])
  rw [releaseNow, if_pos live]
  simp only [updateRegistry, released]
  exact frees

/-! ## Drains of items without hooks -/

variable {nested : Session → Except Abort Nat × Session}

/-- The drain of a deferred record frees it. -/
theorem drainItem_deferred
    {quiet : Prop}
    {item : PendingRelease}
    (sound : session.Sound quiet False owned)
    (ledger : session.Ledger False owned)
    (room : session.interp.heap.HasRoom)
    (validates : Bool)
    (generation : Nat)
    (bare : item.hook = none)
    (deferred : (session.record item.record).state = .deferred) :
    ∃ entry session',
      drainItem nested validates generation item session = (.released entry, session') ∧
        session.Frees (fun ref => ref = item.record) owned session' := by
  have owns : (session.record item.record).state.owns = true := congrArg _ deferred
  have sound' := sound.of_spares (Spares.enter session (.takenUp item.record) (by simp))
  have checked :
      (if validates then validate nested item.record (session.enter (.takenUp item.record))
        else (.ok none, session.enter (.takenUp item.record))) =
        (.ok none, session.enter (.takenUp item.record)) := by
    split
    · rw [validate, sound'.mismatch?_eq_none room owns]
    · rfl
  rcases Interpreter.exists_decref (sound.isLive_of_owns room owns) with
    ⟨⟨remaining, interp⟩, released⟩
  have enough := sound'.checkRemaining_ite room owns released validates
  have settles : (session.record item.record).Settles fun entry =>
      { entry with
        state := if entry.state = .deferred then .released else entry.state
        collected := true } :=
    ⟨fun _ => rfl, fun _ => rfl, by simp [deferred, RecordState.owns]⟩
  have frees := Frees.release ledger room owns settles (if_pos deferred) released
    (session.registry.journal ++ [.takenUp item.record] ++ [.dropped item.record])
  have pending : ¬ ((session.enter (.takenUp item.record)).record item.record).state ≠ .deferred :=
    fun other => other deferred
  have drained :
      drainItem nested validates generation item session =
        (.released
            (({ session.enter (.takenUp item.record) with interp }.enter
              (.dropped item.record)).complete generation item.record).1,
          (({ session.enter (.takenUp item.record) with interp }.enter
            (.dropped item.record)).complete generation item.record).2) := by
    simp only [drainItem, bare, runHook]
    rw [if_neg pending, checked]
    have released' : (session.enter (.takenUp item.record)).interp.decref
        ((session.enter (.takenUp item.record)).record item.record).handle =
          .ok (remaining, interp) :=
      released
    simp only [drainReference, released', enough]
  exact ⟨_, _, drained, frees⟩

/-- The drain of any other record does nothing. -/
theorem drainItem_settled
    {item : PendingRelease}
    (validates : Bool)
    (generation : Nat)
    (bare : item.hook = none)
    (settled : (session.record item.record).state ≠ .deferred) :
    drainItem nested validates generation item session =
      (.skipped, session.enter (.takenUp item.record)) := by
  simp only [drainItem, bare, runHook]
  exact if_pos settled

/-- A batch of items without hooks is drained to its end, and frees what is deferred. -/
theorem drainBatch_unhooked
    {quiet : Prop}
    {batch : List PendingRelease}
    (idles : Idles nested)
    (sound : session.Sound quiet False owned)
    (ledger : session.Ledger False owned)
    (room : session.interp.heap.HasRoom)
    (draining : session.finalizer.draining = true)
    (validates : Bool)
    (generation : Nat)
    (bare : ∀ item ∈ batch, item.hook = none)
    (log : List CollectedObject) :
    ∃ log' session',
      drainBatch nested validates generation batch log session = (.completed log', session') ∧
        session.Frees
          (fun ref =>
            (session.record ref).state = .deferred ∧ ref ∈ batch.map PendingRelease.record)
          owned session' := by
  induction batch generalizing session log with
  | nil => exact ⟨log, session, rfl, (Frees.refl session).congr (by simp)⟩
  | cons item rest step =>
      have later : ∀ other ∈ rest, other.hook = none := fun other among =>
        bare other (List.mem_cons_of_mem _ among)
      have sound' := (sound.drainItem idles validates generation item draining).1
      by_cases deferred : (session.record item.record).state = .deferred
      · rcases drainItem_deferred sound ledger room validates generation
          (bare item List.mem_cons_self) deferred with ⟨entry, session', drained, frees⟩
        rw [drained] at sound'
        rcases step sound' (frees.ledger ledger) (frees.room room) (frees.draining.trans draining)
          later (log ++ [entry]) with ⟨log', session'', ended, frees'⟩
        refine ⟨log', session'', ?_, (frees.trans frees').congr fun ref => ?_⟩
        · rw [drainBatch, drained]
          exact ended
        · by_cases same : ref = item.record
          · subst same
            simp [deferred]
          · simp [same, frees.kept ref same]
      · have drained := @drainItem_settled session nested item validates generation
          (bare item List.mem_cons_self) deferred
        have spares := Spares.enter session (.takenUp item.record) (by simp)
        rcases step (sound.of_spares spares) ledger room draining later log with
          ⟨log', session', ended, frees⟩
        have told : session.registry.Tells Event.IsSafe
            (session.enter (.takenUp item.record)).registry :=
          .enter session.registry (by simp)
        have frees' := (Frees.of_tells spares rfl told).trans frees
        refine ⟨log', session', ?_, frees'.congr fun ref => ?_⟩
        · rw [drainBatch, drained]
          exact ended
        · rw [List.map_cons, List.mem_cons, false_or]
          constructor
          · rintro ⟨pending, first | among⟩
            · rw [first] at pending
              exact absurd pending deferred
            · exact ⟨pending, among⟩
          · exact And.imp_right .inr

/--
A drain of a queue without hooks frees every record that waits in it and is
deferred; the queue is empty afterwards.
-/
theorem collect_unhooked
    {quiet : Prop}
    (sound : session.Sound quiet False owned)
    (ledger : session.Ledger False owned)
    (room : session.interp.heap.HasRoom)
    (idle : session.finalizer.draining = false)
    (bare : ∀ item ∈ session.queue.items, item.hook = none) :
    session.takeSnapshot.2.2.Frees
      (fun ref =>
        (session.record ref).state = .deferred ∧
          ref ∈ session.queue.items.map PendingRelease.record)
      owned session.collect.2 := by
  have taken := Spares.takeSnapshot (session.setDraining true)
  have started := (sound.setDraining true).of_spares taken
  have ledger' : (session.setDraining true).takeSnapshot.2.2.Ledger False owned :=
    Ledger.of_spares (show (session.setDraining true).Ledger False owned from ledger) taken
  have bare' : ∀ item ∈ (session.setDraining true).takeSnapshot.2.1, item.hook = none := bare
  rcases drainBatch_unhooked idles_idling started ledger' room rfl
    (session.setDraining true).takeSnapshot.2.2.finalizer.validates
    (session.setDraining true).takeSnapshot.1 bare' [] with ⟨log, session', drained, frees⟩
  have spares := Spares.reportCollected_ite log.isEmpty log.length
    (session.setDraining true).takeSnapshot.1 (session'.finish log)
  have told := @tells_reportCollected_ite Event.IsSafe (by simp) log.isEmpty log.length
    (session.setDraining true).takeSnapshot.1 (session'.finish log)
  have delivered := (frees.finish log).trans (.of_tells spares spares.finalizer.draining told)
  have ended := delivered.setDraining false
  have idle' : (session.setDraining false).takeSnapshot.2.2 = session.takeSnapshot.2.2 := by
    rw [setDraining, Session.updateFinalizer, ← idle]
  rw [collect_eq_drain idles_idling idle, ← idle']
  simp only [drain, drained]
  generalize (if log.isEmpty then (.ok (), session'.finish log)
      else reportCollected log.length _ (session'.finish log)) = result at ended ⊢
  rcases result with ⟨_ | _, session''⟩
  · exact ended.congr fun ref => (or_iff_left id).symm
  · exact ended.congr fun ref => (or_iff_left id).symm

end Session

end Custody
