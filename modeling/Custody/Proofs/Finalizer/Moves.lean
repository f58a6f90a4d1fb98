import Custody.Proofs.Finalizer.Progress
import Custody.Proofs.Tracking.Moves

/-!
# What a drain does

A drain is a sequence of moves: it takes everything from the queue, deals with
one item after another, and puts the rest back if it stops early.  Callbacks and
checks only tell something on the way.
-/

namespace Custody

namespace Registry

/-- What is plain is told by moves. -/
theorem Tells.moves
    {registry registry' : Registry}
    {home : TrackerRef}
    (tells : registry.Tells Event.IsPlain registry')
    (hand : Nat)
    (batch : List PendingRelease) :
    Moves home ⟨registry, hand, batch⟩ ⟨registry', hand, batch⟩ := by
  rcases tells with ⟨events, rfl, plain⟩
  induction events generalizing registry with
  | nil => simp [Relation.ReflTransGen.refl]
  | cons event rest step =>
      have entered : Move home _ _ :=
        .enter registry hand batch event (plain event List.mem_cons_self)
      have later := @step (registry.enter event) fun other among =>
        plain other (List.mem_cons_of_mem _ among)
      rw [Registry.enter, List.append_assoc] at later
      exact .head entered later

end Registry

namespace Session

open Registry (Deal Tells Moves Move Scene)

variable {session session' : Session} {ref : RecordRef}

variable {kind : Event → Prop} {home : TrackerRef} {hand : Nat}

/-! ## Callbacks -/

@[simp]
theorem registry_takeSteps
    (steps : List HandlerStep)
    (session : Session) :
    (takeSteps steps session).2.registry = session.registry := by
  induction steps generalizing session with
  | nil => rfl
  | cons step rest later =>
      cases step with
      | unsubscribe id => exact later _
      | panic text => rfl

/-- The registry was told something of a kind, and no drain began or ended. -/
structure Relays (kind : Event → Prop) (session session' : Session) : Prop where
  tells : session.registry.Tells kind session'.registry
  draining : session'.finalizer.draining = session.finalizer.draining

instance : Resolving (Relays kind) kind where
  refl := fun _ => ⟨.refl _, rfl⟩
  trans := fun first second => ⟨first.tells.trans second.tells, second.draining.trans first.draining⟩
  unsubscribe := fun _ id => ⟨.refl _, (Finalizer.Trims.unsubscribe _ id).draining⟩
  announce := fun isKind _ => ⟨.enter _ isKind, rfl⟩
  fault := fun isKind _ => ⟨.enter _ isKind, rfl⟩
  updateInterp := fun _ _ => ⟨.refl _, rfl⟩
  draining := fun relays => relays.draining

theorem tells_report
    (isKind : ∀ handler record error, kind (.notice (.reported handler record error)))
    (record : Option RecordRef)
    (error : BridgeError)
    (session : Session) :
    session.registry.Tells kind (report record error session).2.registry :=
  have counted : Relays kind session (session.updateFinalizer Finalizer.countError) := ⟨.refl _, rfl⟩
  (Incidental.trans counted
    (Incidental.deliver (fun handler _ => isKind handler.label record error) _ _)).tells

theorem tells_reportCollected_ite
    (isKind : ∀ handler count generation state,
      kind (.notice (.collected handler count generation state)))
    (isEmpty : Bool)
    (count generation : Nat)
    (session : Session) :
    session.registry.Tells kind
      (if isEmpty then (.ok (), session)
        else reportCollected count generation session).2.registry :=
  have told : Relays kind session _ :=
    Incidental.reportCollected_ite isKind isEmpty count generation session
  told.tells

/-! ## Resolvers -/

variable {nested : Session → Except Abort Nat × Session}

@[simp]
theorem registry_prepare
    (idles : Idles nested)
    (mismatch : Mismatch)
    (steps : List ResolverStep)
    (drained : Option Nat)
    (session : Session)
    (draining : session.finalizer.draining = true) :
    (prepare nested mismatch steps drained session).2.registry = session.registry := by
  induction steps generalizing drained session with
  | nil => rfl
  | cons step rest later =>
      cases step with
      | adjust change => exact later _ (session.updateInterp (change mismatch)) draining
      | collect =>
          rw [prepare, idles session draining]
          exact later _ _ draining

/-! ## One item -/

/-- The runtime is the same, with what it holds itself, and so is its draining flag. -/
structure Abides (session session' : Session) : Prop where
  tracker : session'.tracker = session.tracker
  table : session'.table = session.table
  isShutDown : session'.isShutDown = session.isShutDown
  draining : session'.finalizer.draining = session.finalizer.draining

namespace Abides

variable {session'' : Session}

theorem refl (session : Session) : session.Abides session :=
  ⟨rfl, rfl, rfl, rfl⟩

theorem trans
    (first : session.Abides session')
    (second : session'.Abides session'') :
    session.Abides session'' :=
  ⟨second.tracker.trans first.tracker, second.table.trans first.table,
    second.isShutDown.trans first.isShutDown, second.draining.trans first.draining⟩

theorem of_notifies (notifies : session.Notifies session') : session.Abides session' :=
  ⟨notifies.tracker, notifies.table, notifies.isShutDown, notifies.finalizer.draining⟩

theorem of_retains (retains : session.Retains session') : session.Abides session' :=
  ⟨retains.tracker, retains.table, retains.isShutDown, retains.finalizer.draining⟩

theorem drainItem
    {nested : Session → Except Abort Nat × Session}
    (idles : Idles nested)
    (validates : Bool)
    (generation : Nat)
    (item : PendingRelease)
    (session : Session)
    (draining : session.finalizer.draining = true) :
    session.Abides (concluded item.record (drainItem nested validates generation item session)) :=
  of_retains ((retains_drainItem idles validates generation item session draining).concluded _)

end Abides

/-! ### The move of an item -/

variable {validates : Bool} {generation : Nat} {item : PendingRelease} {registry : Registry}
variable {hooked between last : Session}

/-- Whether its hook fails or not, an item is taken up. -/
theorem tells_of_hook
    {outcome : Except Panic Unit}
    (ran :
      runHook item.record item.hook (session.enter (.takenUp item.record)) = (outcome, hooked)) :
    (session.registry.takeUp item).Tells Event.IsPlain hooked.registry := by
  have told : (session.registry.takeUp item).Tells Event.IsPlain
      (runHook item.record item.hook (session.enter (.takenUp item.record))).2.registry := by
    rw [Registry.takeUp]
    cases item.hook with
    | none => exact .refl _
    | some hook =>
        simp only [runHook]
        split
        · exact .refl _
        · exact (Tells.enter _ (trivial : (Event.fault (.hookFailed item.record)).IsPlain)).trans
            (tells_report (fun _ _ _ => trivial) _ _ _)
  rwa [ran] at told

theorem tells_of_check
    {outcome : Except Panic (Option Mismatch)}
    (checked :
      (if validates then validate nested ref session else (.ok none, session)) =
        (outcome, between))
    (idles : Idles nested)
    (running : session.finalizer.draining = true) :
    session.registry.Tells Event.IsPlain between.registry :=
  have relays : Relays Event.IsPlain session between :=
    Resolving.of_check checked (fun _ _ _ => trivial) idles running
  relays.tells

theorem tells_of_recheck
    {remaining : Int}
    {outcome : Except Panic Unit}
    (checked :
      (if validates then checkRemaining ref remaining session else (.ok (), session)) =
        (outcome, last)) :
    session.registry.Tells Event.IsPlain last.registry :=
  have relays : Relays Event.IsPlain session last :=
    Incidental.of_recheck checked trivial fun _ _ _ => trivial
  relays.tells

theorem tells_of_report
    {fault : Fault}
    {record : Option RecordRef}
    {error : BridgeError}
    {outcome : Except Panic Unit}
    (reported : report record error (session.enter (.fault fault)) = (outcome, last))
    (plain : (Event.fault fault).IsPlain) :
    session.registry.Tells Event.IsPlain last.registry :=
  have relays : Relays Event.IsPlain session last :=
    Incidental.of_report reported plain fun _ _ _ => trivial
  relays.tells

/-- A deferred record in hand is detached. -/
theorem deal_quarantine
    {item : PendingRelease}
    {registry registry' : Registry}
    (tells : (registry.takeUp item).Tells Event.IsPlain session.registry)
    (deferred : (session.record item.record).state = .deferred)
    (tells' : (session.quarantine item.record).registry.Tells Event.IsPlain registry') :
    Deal session.tracker item registry registry' := by
  have deferred' : (session.registry.record item.record).state = .deferred := deferred
  have settled : RecordState.detached.owns = false := rfl
  refine .settle tells deferred' _ (Record.settles_setState _ settled) ?_
  simp only [quarantine, updateRegistry, Registry.quarantine, if_pos deferred'] at tells'
  exact tells'

/-- The record in hand is detached if it still is deferred, and passed over otherwise. -/
theorem deal_abandon
    {item : PendingRelease}
    {registry : Registry}
    (tells : (registry.takeUp item).Tells Event.IsPlain session.registry) :
    Deal session.tracker item registry (session.abandon item.record).registry := by
  rw [abandon]
  split
  · next deferred => exact deal_quarantine tells deferred (.refl _)
  · next settled => exact .pass tells settled

/-- A deferred record in hand is released. -/
theorem deal_complete
    {item : PendingRelease}
    {registry : Registry}
    (generation : Nat)
    (tells : (registry.takeUp item).Tells Event.IsPlain session.registry)
    (deferred : (session.record item.record).state = .deferred) :
    Deal session.tracker item registry (session.complete generation item.record).2.registry := by
  have deferred' : (session.registry.record item.record).state = .deferred := deferred
  refine .settle tells deferred'
    (fun entry =>
      { entry with
        state := if entry.state = .deferred then .released else entry.state
        collected := true }) ⟨fun _ => rfl, fun _ => rfl, ?_⟩ (.refl _)
  simp only [deferred', if_true]
  rfl

/-- A deferred record that is quarantined is detached, and no other record is touched. -/
theorem record_quarantine
    (deferred : (session.record ref).state = .deferred)
    (other : RecordRef) :
    (session.quarantine ref).record other =
      if other = ref then
        { session.record ref with state := .detached }
      else
        session.record other := by
  have deferred' : (session.registry.record ref).state = .deferred := deferred
  have bound : ref < session.registry.records.size :=
    Registry.lt_size_of_state (by simp [deferred'])
  simp only [quarantine, updateRegistry, Registry.quarantine, if_pos deferred']
  show (session.registry.setState ref .detached).record other = _
  rw [Registry.record_setState]
  by_cases same : other = ref
  · rw [if_pos ⟨same, bound⟩, if_pos same, same]
    rfl
  · rw [if_neg fun found => same found.1, if_neg same]
    rfl

/-- A record that was quarantined is no longer deferred. -/
theorem state_quarantine
    (deferred : (session.record ref).state = .deferred) :
    ((session.quarantine ref).record ref).state = .detached := by
  rw [record_quarantine deferred, if_pos rfl]

/-- What is told after a record was quarantined does not make it deferred again. -/
theorem abandon_of_quarantined
    (deferred : (session.record ref).state = .deferred)
    (told : (session.quarantine ref).registry.Tells Event.IsPlain last.registry) :
    last.abandon ref = last := by
  have settled : (last.record ref).state = .detached :=
    (congrArg Record.state (told.record ref)).trans (state_quarantine deferred)
  rw [abandon, if_neg]
  rw [settled]
  decide

theorem deal_referenceRun
    {result : ItemEnd × Session}
    (run : ReferenceRun validates generation item.record session result)
    (tells : (registry.takeUp item).Tells Event.IsPlain session.registry)
    (deferred : (session.record item.record).state = .deferred) :
    Deal session.tracker item registry (concluded item.record result).registry := by
  have plain : (Event.dropped item.record).IsPlain := trivial
  have dropped := tells.trans (.enter session.registry plain)
  cases run with
  | bereft gone reported => exact deal_quarantine tells deferred (tells_of_report reported trivial)
  | unheard gone reported =>
      have told := tells_of_report reported trivial
      rw [concluded, abandon_of_quarantined deferred told]
      exact deal_quarantine tells deferred told
  | exposed gaveBack checked =>
      have notifies := Notifies.of_recheck checked
      have dealt := deal_abandon (dropped.trans (tells_of_recheck checked))
      rwa [notifies.tracker] at dealt
  | released gaveBack checked =>
      have notifies := Notifies.of_recheck checked
      have dealt := deal_complete generation (dropped.trans (tells_of_recheck checked))
        (notifies.deferred deferred)
      rwa [notifies.tracker] at dealt

/-- Draining one item, and abandoning it if a callback panics, deals with it. -/
theorem deal_drainItem
    {nested : Session → Except Abort Nat × Session}
    (idles : Idles nested)
    (validates : Bool)
    (generation : Nat)
    (item : PendingRelease)
    (session : Session)
    (draining : session.finalizer.draining = true) :
    Deal session.tracker item session.registry
      (concluded item.record (drainItem nested validates generation item session)).registry := by
  have run := itemRun_drainItem nested validates generation item session
  generalize drainItem nested validates generation item session = result at run ⊢
  cases run with
  | interrupted ran => exact (Spares.of_hook ran).tracker ▸ deal_abandon (tells_of_hook ran)
  | passed ran settled => exact .pass (tells_of_hook ran) settled
  | unresolved ran deferred checked =>
      have hooks := (Spares.of_hook ran).toNotifies
      have asked := Notifies.of_check checked idles (hooks.draining draining)
      have told := (tells_of_hook ran).trans
        (tells_of_check checked idles (hooks.draining draining))
      exact (asked.tracker.trans hooks.tracker) ▸ deal_abandon told
  | stopped ran deferred checked =>
      have hooks := (Spares.of_hook ran).toNotifies
      have asked := Notifies.of_check checked idles (hooks.draining draining)
      have told := (tells_of_hook ran).trans
        (tells_of_check checked idles (hooks.draining draining))
      have plain : (Event.fault (.mismatched item.record)).IsPlain := trivial
      exact (asked.tracker.trans hooks.tracker) ▸
        deal_quarantine told (asked.deferred deferred) (.enter _ plain)
  | cleared ran deferred checked run =>
      have hooks := (Spares.of_hook ran).toNotifies
      have asked := Notifies.of_check checked idles (hooks.draining draining)
      have told := (tells_of_hook ran).trans
        (tells_of_check checked idles (hooks.draining draining))
      exact (asked.tracker.trans hooks.tracker) ▸
        deal_referenceRun run told (asked.deferred deferred)

/-! ## Sequences of moves -/

/--
One session leads to another by moves, from the given holders in the caller's
hands and the given items under way to others.
-/
structure Leads
    (session : Session)
    (hand : Nat)
    (batch : List PendingRelease)
    (session' : Session)
    (hand' : Nat)
    (batch' : List PendingRelease) :
    Prop
    extends Abides session session' where
  moves :
    Moves session.tracker ⟨session.registry, hand, batch⟩ ⟨session'.registry, hand', batch'⟩

namespace Leads

variable {session'' : Session} {hand' hand'' : Nat} {batch batch' batch'' : List PendingRelease}

theorem refl
    (session : Session)
    (hand : Nat)
    (batch : List PendingRelease) :
    session.Leads hand batch session hand batch :=
  ⟨.refl _, .refl⟩

theorem trans
    (first : session.Leads hand batch session' hand' batch')
    (second : session'.Leads hand' batch' session'' hand'' batch'') :
    session.Leads hand batch session'' hand'' batch'' := by
  refine ⟨first.toAbides.trans second.toAbides, ?_⟩
  have moves := second.moves
  rw [first.tracker] at moves
  exact first.moves.trans moves

/-- A single move of the registry. -/
theorem move
    {registry : Registry}
    (moved :
      Move session.tracker ⟨session.registry, hand, batch⟩ ⟨registry, hand', batch'⟩) :
    session.Leads hand batch { session with registry } hand' batch' :=
  ⟨⟨rfl, rfl, rfl, rfl⟩, .single moved⟩

/-- What a finalizer counts and remembers may change. -/
theorem tally
    {change : Finalizer → Finalizer}
    (leads : session.Leads hand batch session' hand' batch')
    (draining : (change session'.finalizer).draining = session'.finalizer.draining) :
    session.Leads hand batch (session'.updateFinalizer change) hand' batch' :=
  ⟨⟨leads.tracker, leads.table, leads.isShutDown, draining.trans leads.draining⟩, leads.moves⟩

/-- Callbacks and checks only tell something. -/
theorem of_tells
    (notifies : session.Notifies session')
    (tells : session.registry.Tells Event.IsPlain session'.registry)
    (hand : Nat)
    (batch : List PendingRelease) :
    session.Leads hand batch session' hand batch :=
  ⟨.of_notifies notifies, tells.moves hand batch⟩

end Leads

/-- Draining one item, and abandoning it if a callback panics, takes one move. -/
theorem leads_drainItem
    {nested : Session → Except Abort Nat × Session}
    (idles : Idles nested)
    (validates : Bool)
    (generation : Nat)
    (hand : Nat)
    (item : PendingRelease)
    (rest : List PendingRelease)
    (session : Session)
    (draining : session.finalizer.draining = true) :
    session.Leads hand (item :: rest)
      (concluded item.record (drainItem nested validates generation item session)) hand
      rest :=
  ⟨.drainItem idles validates generation item session draining,
    .single (.deal _ _ _ _ _ (deal_drainItem idles validates generation item session draining))⟩

/-! ## Whole drains -/

theorem leads_report
    (record : Option RecordRef)
    (error : BridgeError)
    (hand : Nat)
    (session : Session) :
    session.Leads hand [] (report record error session).2 hand [] :=
  .of_tells (Spares.report record error session).toNotifies
    (tells_report (fun _ _ _ => trivial) record error session) hand []

/-- Every item takes a move, and so does putting back the others. -/
theorem sustained_moves
    {nested : Session → Except Abort Nat × Session}
    (idles : Idles nested)
    (validates : Bool)
    (hand : Nat)
    (batch : List PendingRelease)
    (start : Session) :
    SustainedByItems nested validates
      fun rest session => start.Leads hand batch session hand rest where
  item := fun generation running before =>
    before.trans (leads_drainItem idles validates generation hand _ _ _ running)
  requeueFront := fun before => before.trans (.move (.requeueFront _ _ _))

theorem leads_drainBatch
    {nested : Session → Except Abort Nat × Session}
    (idles : Idles nested)
    (validates : Bool)
    (generation : Nat)
    (hand : Nat)
    (batch : List PendingRelease)
    (log : List CollectedObject)
    (session : Session)
    (draining : session.finalizer.draining = true) :
    session.Leads hand batch (drainBatch nested validates generation batch log session).2 hand
      [] :=
  ((sustained_moves idles validates hand batch session).drainBatch idles batch log generation
    draining (.refl _ _ _)).1

/-- A drain takes moves, and the flag is as it was when it has ended. -/
theorem sustained_leads
    {nested : Session → Except Abort Nat × Session}
    (idles : Idles nested)
    (hand : Nat)
    (start : Session) :
    Sustained nested
      (fun _ rest session =>
        start.finalizer.draining = false ∧
          (start.setDraining true).Leads hand [] session hand rest)
      fun session => start.Leads hand [] session hand [] where
  items := fun validates =>
    have moves := sustained_moves idles validates hand [] (start.setDraining true)
    { item := fun generation running before =>
        ⟨before.1, moves.item generation running before.2⟩
      requeueFront := fun before => ⟨before.1, moves.requeueFront before.2⟩ }
  start := by
    intro session idle before
    have flagged : (start.setDraining true).Leads hand [] (session.setDraining true) hand [] :=
      ⟨⟨before.tracker, before.table, before.isShutDown, rfl⟩, before.moves⟩
    exact ⟨before.draining.symm.trans idle, flagged.trans (.move (.takeSnapshot _ _))⟩
  finish := fun _ before => ⟨before.1, before.2.tally rfl⟩
  countError := fun before => ⟨before.1, before.2.tally rfl⟩
  reportCollected := by
    intro _ session log generation _ _ before
    have told : session.registry.Tells Event.IsPlain _ :=
      tells_reportCollected_ite (fun _ _ _ _ => trivial) false log.length generation session
    exact ⟨before.1, before.2.trans
      (.of_tells (Spares.reportCollected _ _ _).toNotifies told _ _)⟩
  stop := fun before =>
    ⟨⟨before.2.tracker, before.2.table, before.2.isShutDown, before.1.symm⟩, before.2.moves⟩
  report := fun error before => before.trans (leads_report none error hand _)

theorem leads_collect
    (hand : Nat)
    (session : Session) :
    session.Leads hand [] session.collect.2 hand [] :=
  (sustained_leads (idles_collectWithin 1) hand session).collect (.refl _ _ _)

theorem leads_collectReporting
    (hand : Nat)
    (session : Session) :
    session.Leads hand [] session.collectReporting.2 hand [] :=
  (sustained_leads (idles_collectWithin 1) hand session).collectReporting (.refl _ _ _)

theorem leads_collectThrottled
    (hand : Nat)
    (session : Session) :
    session.Leads hand [] session.collectThrottled.2 hand [] :=
  (sustained_leads (idles_collectWithin 1) hand session).collectThrottled (.refl _ _ _)

end Session

end Custody
