import Custody.Proofs.Session.Detachment
import Custody.Proofs.Session.Lifecycle
import Custody.Proofs.Session.Stoppages
import Custody.Proofs.Session.Teardown

/-!
# What the report of a shutdown counts

The drains of a shutdown each release some records, and the shutdown then releases
the others itself.  The report adds up the numbers that the drains return.  A drain
that a mismatch stops returns no number but the mismatch, which is told; what it
released until then is in the totals and missing from the report.
-/

namespace Custody

/-! ## Records that are paid for -/

/-- One reference was given back for each record of a list, as often as it is listed. -/
def Registry.Pays (given : List RecordRef) (registry registry' : Registry) : Prop :=
  ∀ ref, registry'.drops ref = registry.drops ref + given.count ref

namespace Registry.Pays

variable {registry registry' registry'' : Registry} {given given' : List RecordRef}

theorem refl (registry : Registry) : registry.Pays [] registry :=
  fun _ => rfl

theorem trans
    (first : Pays given registry registry')
    (second : Pays given' registry' registry'') :
    Pays (given ++ given') registry registry'' := by
  intro ref
  rw [second ref, first ref, List.count_append, Nat.add_assoc]

end Registry.Pays

/-! ## The drains of a shutdown -/

/-- One drain of a shutdown: the records that it released, and whether a mismatch stopped it. -/
structure Sweep where
  freed : List RecordRef
  isStopped : Bool
deriving DecidableEq, Repr

namespace Sweep

/-- How many of its records a drain adds to the report of the shutdown. -/
def reported (sweep : Sweep) : Nat :=
  if sweep.isStopped then 0 else sweep.freed.length

/-- What the drains released. -/
def freedBy (sweeps : List Sweep) : List RecordRef :=
  sweeps.flatMap freed

/-- No drain had released anything when a mismatch stopped it. -/
def AddUp (sweeps : List Sweep) : Prop :=
  ∀ sweep ∈ sweeps, sweep.isStopped = true → sweep.freed = []

theorem freedBy_cons (sweep : Sweep) (rest : List Sweep) :
    freedBy (sweep :: rest) = sweep.freed ++ freedBy rest :=
  List.flatMap_cons

theorem reported_le (sweep : Sweep) : sweep.reported ≤ sweep.freed.length := by
  rw [reported]
  split
  · exact Nat.zero_le _
  · exact le_rfl

theorem reported_eq_iff (sweep : Sweep) :
    sweep.reported = sweep.freed.length ↔ (sweep.isStopped = true → sweep.freed = []) := by
  rw [reported]
  cases sweep.isStopped with
  | true => simp [eq_comm]
  | false => simp

/-- The report says at most what was released, and says it all only if the drains add up. -/
theorem sum_reported (sweeps : List Sweep) :
    (sweeps.map reported).sum ≤ (freedBy sweeps).length ∧
      ((sweeps.map reported).sum = (freedBy sweeps).length ↔ AddUp sweeps) := by
  induction sweeps with
  | nil => exact ⟨le_rfl, fun _ => List.forall_mem_nil _, fun _ => rfl⟩
  | cons sweep rest step =>
      rcases step with ⟨bound, all⟩
      have first := sweep.reported_le
      have total : (freedBy (sweep :: rest)).length =
          sweep.freed.length + (freedBy rest).length := by
        rw [freedBy_cons, List.length_append]
      have adds : AddUp (sweep :: rest) ↔
          sweep.reported = sweep.freed.length ∧
            (rest.map reported).sum = (freedBy rest).length := by
        rw [AddUp, List.forall_mem_cons, sweep.reported_eq_iff, all, AddUp]
      rw [List.map_cons, List.sum_cons, total, adds]
      omega

end Sweep

namespace Session

variable {session session' drained : Session} {hand passes : Nat} {disposed : List RecordRef}
variable {sweeps : List Sweep} {ref : RecordRef}

/--
The drains of a shutdown, of which at most a given number are attempted, in the
order in which they run.  Each either returns how many records it released or is
stopped by a mismatch, which is told to the handlers of errors.
-/
inductive Sweeps : Nat → Session → List Sweep → Session → Prop where
  | exhausted {session : Session} : Sweeps 0 session [] session
  | nothing {passes : Nat} {session : Session} (empty : session.queue.hasPending = false) :
      Sweeps (passes + 1) session [] session
  | completed {passes : Nat} {session session' session'' : Session} {sweeps : List Sweep}
      {course : List (PendingRelease × Route)}
      (waiting : session.queue.hasPending = true)
      (returned : session.collect = (.ok (freed course).length, session'))
      (accounted : Accounted course session session')
      (rest : Sweeps passes session' sweeps session'') :
      Sweeps (passes + 1) session (⟨freed course, false⟩ :: sweeps) session''
  | stopped {passes : Nat} {session between session' session'' : Session} {sweeps : List Sweep}
      {course : List (PendingRelease × Route)} {mismatch : Mismatch}
      (waiting : session.queue.hasPending = true)
      (returned : session.collect = (.error (.error (.incorrectRefCount mismatch)), between))
      (accounted : Accounted course session between)
      (told : report none (.incorrectRefCount mismatch) between = (.ok (), session'))
      (rest : Sweeps passes session' sweeps session'') :
      Sweeps (passes + 1) session (⟨freed course, true⟩ :: sweeps) session''

/-- A drain gives one reference back for each record that it releases. -/
theorem Accounted.pays
    {course : List (PendingRelease × Route)}
    (accounted : Accounted course session session') :
    session.registry.Pays (freed course) session'.registry := by
  intro ref
  rw [accounted.dropped, accounted.nodup.count]

/-- To tell of an error gives nothing back and releases nothing. -/
theorem pays_report
    (record : Option RecordRef)
    (error : BridgeError)
    (session : Session) :
    session.registry.Pays [] (report record error session).2.registry ∧
      (report record error session).2.finalizer.released = session.finalizer.released := by
  have notes := Notes.deliver_counted record error session
  exact ⟨notes.drops, notes.released⟩

/--
The drains gave one reference back for each record that they released, and the
total of released records grew by their number.
-/
theorem Sweeps.pays
    (drains : Sweeps passes session sweeps session') :
    session.registry.Pays (Sweep.freedBy sweeps) session'.registry ∧
      session'.finalizer.released =
        session.finalizer.released + (Sweep.freedBy sweeps).length := by
  induction drains with
  | exhausted => exact ⟨.refl _, rfl⟩
  | nothing => exact ⟨.refl _, rfl⟩
  | completed _ _ accounted _ step =>
      rcases step with ⟨later, released⟩
      rw [Sweep.freedBy_cons, List.length_append, released, accounted.total, Nat.add_assoc]
      exact ⟨accounted.pays.trans later, rfl⟩
  | @stopped _ session between session' _ _ course mismatch _ _ accounted told _ step =>
      rcases step with ⟨later, released⟩
      have reported := pays_report none (.incorrectRefCount mismatch) between
      rw [told] at reported
      have early : session.registry.Pays (freed course) session'.registry := by
        simpa using accounted.pays.trans reported.1
      rw [Sweep.freedBy_cons, List.length_append, released, reported.2, accounted.total,
        Nat.add_assoc]
      exact ⟨early.trans later, rfl⟩

/-- A drain returns no other error than a mismatch. -/
theorem exists_mismatch
    {error : BridgeError}
    (idle : session.finalizer.draining = false)
    (returned : session.collect = (.error (.error error), session')) :
    ∃ mismatch, error = .incorrectRefCount mismatch := by
  have run := drainRun_collect idle
  rw [returned] at run
  generalize same : (Except.error (Abort.error error), session') = result at run
  cases run with
  | completed ran reported plain =>
      cases same
      cases plain
  | @stopped done rest item log mismatch before last split ran ended =>
      cases same
      exact ⟨mismatch, rfl⟩
  | panicked => cases same

/-- If no callback panics, a drain of a shutdown is one of the two kinds. -/
theorem Ready.sweep
    (ready : session.Ready hand)
    (isSealed : session.registry.Sealed)
    (never : session.finalizer.NeverPanics)
    (waiting : session.queue.hasPending = true) :
    ∃ sweep : Sweep,
      session.collectReporting.1 = .ok sweep.reported ∧
        ∀ {passes sweeps session'},
          Sweeps passes session.collectReporting.2 sweeps session' →
            Sweeps (passes + 1) session (sweep :: sweeps) session' := by
  have completed := @Ready.completed session
  have stopped := @Ready.stopped session
  rcases justifies_collect never with ⟨-, never', quiet⟩
  rw [collectReporting]
  generalize returned : session.collect = result at never' quiet ⊢
  rcases result with ⟨(error | panic) | count, between⟩
  · rcases exists_mismatch ready.idle returned with ⟨mismatch, rfl⟩
    rcases stopped ready isSealed returned with
      ⟨-, course, item, rest, added, before, checked, later, found⟩
    have heard := report_ok none (.incorrectRefCount mismatch) between never'.errorHandlers
    simp only
    generalize told : report none (.incorrectRefCount mismatch) between = result at heard ⊢
    rcases result with ⟨_ | _, session'⟩
    · cases heard
    · exact ⟨⟨freed course, true⟩, rfl, .stopped waiting returned found.toAccounted told⟩
  · exact absurd rfl (quiet panic)
  · rcases completed ready isSealed returned with ⟨course, added, last, found⟩
    rw [found.counted] at returned ⊢
    exact ⟨⟨freed course, false⟩, rfl, .completed waiting returned found.toAccounted⟩

end Session

namespace Op

variable {session : Session} {hand : Nat}

/-- If no callback panics, the drains of a shutdown end, and their numbers are added up. -/
theorem sweeps_drainPasses
    (passes drained : Nat)
    (ready : session.Ready hand)
    (isSealed : session.registry.Sealed)
    (never : session.finalizer.NeverPanics) :
    (drainPasses passes drained).Ends session fun outcome session' =>
      ∃ sweeps,
        session.Sweeps passes sweeps session' ∧
          outcome = .ok (drained + (sweeps.map Sweep.reported).sum) := by
  induction passes generalizing drained session with
  | zero => exact ⟨[], .exhausted, rfl⟩
  | succ passes step =>
      simp only [drainPasses, ends_bind, ends_session, andThen_ok]
      split
      · next waiting =>
          rcases ready.sweep isSealed never waiting with ⟨sweep, returned, extends'⟩
          have stroke : session.Stroke session.collectReporting.2 := .collectReporting
          rcases Session.Reckons.of_stroke stroke with ⟨_, reckons, -⟩
          rw [ends_bind]
          apply ends_ofPanicking
          · intro count counted
            obtain rfl := Except.ok.inj (counted.symm.trans returned)
            rw [andThen_ok]
            refine (step _ (ready.of_leads (Session.leads_collectReporting hand session))
              (reckons.marked isSealed).1 (Session.justifies_collectReporting never).2.1).mono ?_
            rintro outcome session' ⟨sweeps, rest, added⟩
            refine ⟨sweep :: sweeps, extends' rest, added.trans ?_⟩
            rw [List.map_cons, List.sum_cons, Nat.add_assoc]
          · intro panic panicked
            cases panicked.symm.trans returned
      · next empty => exact ⟨[], .nothing (Bool.eq_false_iff.mpr empty), rfl⟩

end Op

namespace Session

variable {session session' drained : Session} {hand : Nat} {disposed : List RecordRef}

/-! ## Records that the shutdown releases itself -/

/-- A record that gives its reference back at the end of its runtime is counted once. -/
theorem pays_releaseOwner
    (ref : RecordRef)
    (session : Session) :
    ∃ given,
      (session.releaseOwner ref).1 = given.length ∧
        session.registry.Pays given (session.releaseOwner ref).2.registry := by
  simp only [releaseOwner]
  split
  · split
    · next remaining interp released =>
        refine ⟨[ref], rfl, fun other => (Registry.drops_enter _ _ _).trans ?_⟩
        rw [List.count_singleton]
        simp only [Event.dropped.injEq, beq_iff_eq]
        rfl
    · exact ⟨[], rfl, .refl _⟩
  · exact ⟨[], rfl, .refl _⟩

theorem pays_releaseOwners
    (refs : List RecordRef)
    (session : Session) :
    ∃ given,
      (session.releaseOwners refs).1 = given.length ∧
        session.registry.Pays given (session.releaseOwners refs).2.registry := by
  induction refs generalizing session with
  | nil => exact ⟨[], rfl, .refl _⟩
  | cons ref rest step =>
      rcases pays_releaseOwner ref session with ⟨first, counted, pays⟩
      rcases step (session.releaseOwner ref).2 with ⟨others, counted', pays'⟩
      refine ⟨first ++ others, ?_, pays.trans pays'⟩
      rw [List.length_append, ← counted, ← counted']
      rfl

/-- The shutdown counts the references that it gives back itself. -/
theorem pays_releaseAll (session : Session) :
    ∃ given,
      session.releaseAll.1 = given.length ∧
        session.registry.Pays given session.releaseAll.2.registry := by
  rw [releaseAll_eq_emptied]
  rcases pays_releaseOwners session.closed.takeSnapshot.2.2.ownTracker.owners.all
    session.emptied with ⟨given, counted, pays⟩
  refine ⟨given, counted, fun ref => ?_⟩
  have discarded := Registry.drops_of_safe
    ((Registry.Defers.discardBatch
      (session.emptied.releaseOwners
        session.closed.takeSnapshot.2.2.ownTracker.owners.all).2.registry
      session.closed.takeSnapshot.2.1).mild.mono fun _ mild => mild.1) ref
  exact discarded.trans (pays ref)

/-! ## The report -/

/-- Nothing is given back twice for a record. -/
theorem Turns.drops_le
    {config : Config}
    {hasTable : Bool}
    (run : (opened config hasTable).Turns session)
    (ref : RecordRef) :
    session.registry.drops ref ≤ 1 := by
  have budget := run.advances.bounded ref
  rw [budget_opened, Registry.budget] at budget
  omega

/--
Whatever was done with a runtime that is in use, whatever waits and whatever hooks
do, as long as no callback panics: a shutdown returns a report.  The records for
which a reference was given back meanwhile, each of them once, are those that the
drains released, which the total of released records grew by, and those that the
shutdown released itself, which the report counts in full.

Of what a drain released the report counts everything if the drain got through its
batch, and nothing if a mismatch stopped it.  So it adds up exactly if no drain had
released anything when it was stopped.
-/
theorem shutDown_adds_up_iff
    {byHand : Prop}
    {config : Config}
    {hasTable : Bool}
    (tenure : Tenure byHand config hasTable session hand disposed)
    (inUse : session.isShutDown = false)
    (never : session.finalizer.NeverPanics) :
    ∃ report sweeps drained own session',
      { session with isShutDown := true }.Sweeps Op.shutdownPasses sweeps drained ∧
        Op.shutDown.on session = (.ok report, session') ∧
        (Sweep.freedBy sweeps ++ own).Nodup ∧
        session.registry.Pays (Sweep.freedBy sweeps ++ own) session'.registry ∧
        session'.finalizer.released =
          session.finalizer.released + (Sweep.freedBy sweeps).length ∧
        report.drained = (sweeps.map Sweep.reported).sum ∧
        report.released = own.length ∧
        (session'.finalizer.released = session.finalizer.released + report.drained ↔
          Sweep.AddUp sweeps) ∧
        ((Sweep.freedBy sweeps ++ own).length = report.drained + report.released ↔
          Sweep.AddUp sweeps) := by
  have flagged : session.Underway { session with isShutDown := true } := .flagged .here
  rcases tenure.ready flagged with ⟨others, ready⟩
  have ends := Op.sweeps_drainPasses Op.shutdownPasses 0 ready (tenure.isSealed flagged) never
  rw [Op.Ends] at ends
  rcases ran : (Op.drainPasses Op.shutdownPasses 0).on { session with isShutDown := true } with
    ⟨outcome, drained⟩
  rw [ran] at ends
  rcases ends with ⟨sweeps, drains, rfl⟩
  rw [Nat.zero_add] at ran
  have returned := Op.shutDown_of_drained inUse ran
  have turns : (opened config hasTable).Turns (Op.shutDown.on session).2 :=
    tenure.turns.tail (.request (.act .shutDown) trivial)
  rw [returned] at turns
  have finalizer := finalizer_releaseAll drained
  rcases pays_releaseAll drained with ⟨own, counted, pays⟩
  generalize drained.releaseAll = result at returned turns finalizer counted pays
  rcases result with ⟨released, ended⟩
  rcases drains.pays with ⟨early, added⟩
  have paid : session.registry.Pays (Sweep.freedBy sweeps ++ own) ended.dismantled.registry :=
    early.trans pays
  have nodup : (Sweep.freedBy sweeps ++ own).Nodup := by
    refine List.nodup_iff_count_le_one.mpr fun ref => ?_
    have once := turns.drops_le ref
    rw [paid ref] at once
    omega
  have total : ended.dismantled.finalizer.released =
      session.finalizer.released + (Sweep.freedBy sweeps).length :=
    (congrArg Finalizer.released finalizer).trans added
  have all := (Sweep.sum_reported sweeps).2
  refine ⟨⟨(sweeps.map Sweep.reported).sum, released⟩, sweeps, drained, own, ended.dismantled,
    drains, returned, nodup, paid, total, rfl, counted, ?_, ?_⟩
  · rw [total, Nat.add_left_cancel_iff, eq_comm]
    exact all
  · rw [List.length_append, ← counted, Nat.add_right_cancel_iff, eq_comm]
    exact all

/--
A runtime without callbacks in which nothing and an integer were wrapped, and the
integer was registered once more than it is referenced.  Both wrappers wait.
-/
def understated : Session :=
  [Request.wrapNone, .wrapPayload (.int 7), .act (.register ⟨53, 0⟩),
    .act (.deferRelease 0 none), .act (.deferRelease 1 none)].foldl
      (fun session request => (request.perform session).2) (opened .standard true)

theorem Tenure.understated : Tenure False .standard true understated 3 [] := by
  have first : Tenure False .standard true _ 2 [] :=
    Tenure.opened.follow .wrapNone 0 rfl (by decide +kernel) nofun trivial rfl
  have second : Tenure False .standard true _ 3 [] :=
    first.follow (.wrapPayload (.int 7)) 1 rfl (by decide +kernel) nofun trivial rfl
  have waiting : Tenure False .standard true _ 3 [] :=
    (second.register ⟨53, 0⟩).follow (.act (.deferRelease 0 none)) 2 rfl rfl nofun trivial rfl
  exact waiting.follow (.act (.deferRelease 1 none)) 2 rfl rfl nofun trivial rfl

/--
The report speaks of one record, which the shutdown released itself.  The drain
released another one before it was stopped: the total says so, and two references
were given back.
-/
theorem shutDown_understates :
    understated.isShutDown = false ∧
      (understated.finalizer.collectHandlers.length = 0 ∧
        understated.finalizer.errorHandlers.length = 0 ∧
          understated.finalizer.resolvers.length = 0) ∧
      understated.finalizer.released = 0 ∧
      (∀ ref < 3, understated.registry.drops ref = 0) ∧
      (Op.shutDown.on understated).1 = .ok ⟨0, 1⟩ ∧
      (Op.shutDown.on understated).2.finalizer.released = 1 ∧
      (Op.shutDown.on understated).2.registry.drops 0 = 1 ∧
      (Op.shutDown.on understated).2.registry.drops 2 = 1 := by
  decide +kernel

/-- One drain released a record and was stopped. -/
theorem shutDown_adds_up_iff_understated :
    ∃ sweeps drained own session',
      { understated with isShutDown := true }.Sweeps Op.shutdownPasses sweeps drained ∧
        Op.shutDown.on understated = (.ok ⟨0, 1⟩, session') ∧
        (Sweep.freedBy sweeps).length = 1 ∧
        own.length = 1 ∧
        understated.registry.Pays (Sweep.freedBy sweeps ++ own) session'.registry ∧
        ¬ Sweep.AddUp sweeps := by
  have observed :
      (understated.isShutDown = false ∧
          understated.finalizer.collectHandlers.length = 0 ∧
            understated.finalizer.errorHandlers.length = 0 ∧
              understated.finalizer.resolvers.length = 0) ∧
        understated.finalizer.released = 0 ∧
          (Op.shutDown.on understated).1 = .ok ⟨0, 1⟩ ∧
            (Op.shutDown.on understated).2.finalizer.released = 1 := by
    decide +kernel
  rcases observed with ⟨⟨inUse, collects, errors, resolves⟩, before, reported, after⟩
  have never : understated.finalizer.NeverPanics := by
    refine ⟨?_, ?_, ?_⟩
    · rw [List.eq_nil_of_length_eq_zero collects]
      exact List.forall_mem_nil _
    · rw [List.eq_nil_of_length_eq_zero errors]
      exact List.forall_mem_nil _
    · rw [List.eq_nil_of_length_eq_zero resolves]
      exact List.forall_mem_nil _
  rcases shutDown_adds_up_iff Tenure.understated inUse never with
    ⟨report, sweeps, drained, own, session', drains, returned, -, pays, released, -, counted,
      addsUp, -⟩
  rw [returned] at reported after
  obtain rfl : report = ⟨0, 1⟩ := Except.ok.inj reported
  have after : session'.finalizer.released = 1 := after
  rw [before, Nat.zero_add] at released
  refine ⟨sweeps, drained, own, session', drains, returned, released.symm.trans after,
    counted.symm, pays, fun adds => ?_⟩
  have equal := addsUp.mpr adds
  rw [after, before] at equal
  cases equal

end Session

end Custody
