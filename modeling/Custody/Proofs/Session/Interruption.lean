import Custody.Proofs.Session.Teardown

/-!
# Shutdowns that are cut short

A shutdown flags its runtime before it drains what waits.  If a callback panics
out of one of these drains the flag stays, and whatever the drains did not get to
stays too: no later shutdown makes up for it.  Otherwise a runtime that counts as
shut down is torn down.
-/

namespace Custody

namespace Op

variable {session : Session}

/-- Only a panic ends the drains of a shutdown early. -/
theorem panics_drainPasses
    (passes drained : Nat)
    (session : Session) :
    (drainPasses passes drained).Ends session fun outcome _ =>
      ∀ abort, outcome = .error abort → ∃ panic, abort = .panic panic := by
  induction passes generalizing drained session with
  | zero => nofun
  | succ passes step =>
      simp only [drainPasses, ends_bind, ends_session, andThen_ok]
      split
      · rw [ends_bind]
        apply ends_ofPanicking
        · exact fun count _ => step (drained + count) session.collectReporting.2
        · intro panic _ abort same
          cases same
          exact ⟨panic, rfl⟩
      · nofun

/-- The drains of a shutdown are cut short by a panic, or the shutdown gets to its end. -/
theorem shutDown_cases
    (inUse : session.isShutDown = false)
    (hand : Nat) :
    ∃ drained,
      { session with isShutDown := true }.Leads hand [] drained hand [] ∧
        ((∃ panic, shutDown.on session = (.error (.panic panic), drained)) ∨
          ∃ report, shutDown.on session = (.ok report, drained.releaseAll.2.dismantled)) := by
  have leads := leads_drainPasses hand shutdownPasses 0 { session with isShutDown := true }
  have panics := panics_drainPasses shutdownPasses 0 { session with isShutDown := true }
  rw [Ends] at leads panics
  rcases passes : (drainPasses shutdownPasses 0).on { session with isShutDown := true } with
    ⟨abort | count, drained⟩
  · simp only [passes] at leads panics
    rcases panics abort rfl with ⟨panic, rfl⟩
    have ends : shutDown.Ends session fun outcome session' =>
        (outcome, session') = (.error (.panic panic), drained) := by
      simp only [shutDown, ends_bind, ends_session, andThen_ok, inUse, Bool.false_eq_true, if_false,
        ends_change]
      rw [Ends, passes]
      rfl
    exact ⟨drained, leads.1, .inl ⟨panic, ends⟩⟩
  · simp only [passes] at leads
    exact ⟨drained, leads.1, .inr ⟨_, shutDown_of_drained inUse passes⟩⟩

end Op

namespace Session

variable {session session' : Session}

/-! ## The flag -/

/-- Only a shutdown changes the flag. -/
theorem isShutDown_request
    {request : Request}
    (isOwn : request.IsOwn session)
    (stays : request ≠ .act .shutDown) :
    (request.perform session).2.isShutDown = session.isShutDown := by
  by_cases isManual : request.IsManual
  · cases request with
    | act action => exact (spares_manual isManual session).isShutDown
    | _ => exact isManual.elim
  · cases serves_perform isManual isOwn stays 0 with
    | leads leads => exact leads.isShutDown
    | hooked ref hook _ _ _ leads => exact leads.isShutDown

/-- The flag is never taken back. -/
theorem Turn.isShutDown
    (turn : session.Turn session')
    (isShutDown : session.isShutDown = true) :
    session'.isShutDown = true := by
  cases turn with
  | request request isOwn =>
      by_cases stops : request = .act .shutDown
      · subst stops
        show (Op.shutDown.on session).2.isShutDown = true
        rw [shutDown_refused isShutDown]
        exact isShutDown
      · exact (isShutDown_request isOwn stops).trans isShutDown
  | useInterp change => exact isShutDown
  | abandon => exact isShutDown

theorem Turns.isShutDown
    (turns : session.Turns session')
    (isShutDown : session.isShutDown = true) :
    session'.isShutDown = true := by
  induction turns with
  | refl => exact isShutDown
  | tail _ turn before => exact turn.isShutDown before

theorem isShutDown_opened
    (config : Config)
    (hasTable : Bool) :
    (opened config hasTable).isShutDown = false := by
  rcases opened_eq_bare config hasTable with ⟨table, interp, started⟩
  rw [started]
  rfl

/-! ## Torn down or cut short -/

/-- At some time a callback panicked out of a shutdown, and this is what became of the runtime. -/
def CutShort (config : Config) (hasTable : Bool) (session : Session) : Prop :=
  ∃ panic before after,
    (opened config hasTable).Turns before ∧
      before.isShutDown = false ∧
        Op.shutDown.on before = (.error (.panic panic), after) ∧
          after.table = before.table ∧
            (∀ later, after.Turns later →
              Op.shutDown.on later =
                (.error (.error (.misuse (.alreadyShutDown later.number))), later)) ∧
              after.Turns session

variable {config : Config} {hasTable : Bool}

theorem CutShort.turn
    (cut : CutShort config hasTable session)
    (turn : session.Turn session') :
    CutShort config hasTable session' := by
  rcases cut with ⟨panic, before, after, run, inUse, panicked, table, refused, turns⟩
  exact ⟨panic, before, after, run, inUse, panicked, table, refused, .tail turns turn⟩

/-- A shutdown that is asked for is cut short, or leaves an inert runtime behind. -/
theorem inert_or_cutShort_shutDown
    (run : (opened config hasTable).Turns session)
    (inUse : session.isShutDown = false) :
    (Op.shutDown.on session).2.Inert ∨ CutShort config hasTable (Op.shutDown.on session).2 := by
  rcases Op.shutDown_cases inUse 0 with ⟨drained, leads, ⟨panic, panicked⟩ | ⟨report, returned⟩⟩
  · rw [panicked]
    refine .inr ⟨panic, session, drained, run, inUse, panicked, leads.table, fun later turns => ?_,
      .refl⟩
    exact shutDown_refused (turns.isShutDown leads.isShutDown)
  · have books := (Keeps.of_leads leads).exact ((Keeps.turns run).exact (exact_opened _ _))
    rw [returned]
    exact .inl (inert_releaseAll leads.isShutDown books)

theorem inert_or_cutShort
    (run : (opened config hasTable).Turns session)
    (isShutDown : session.isShutDown = true) :
    session.Inert ∨ CutShort config hasTable session := by
  induction run with
  | refl =>
      rw [isShutDown_opened] at isShutDown
      cases isShutDown
  | @tail session session' run turn step =>
      cases inUse : session.isShutDown with
      | true =>
          exact (step inUse).imp (fun inert => inert.turns (.single turn)) fun cut => cut.turn turn
      | false =>
          cases turn with
          | request request isOwn =>
              by_cases stops : request = .act .shutDown
              · subst stops
                exact inert_or_cutShort_shutDown run inUse
              · rw [isShutDown_request isOwn stops, inUse] at isShutDown
                cases isShutDown
          | useInterp change => cases inUse.symm.trans isShutDown
          | abandon => cases inUse.symm.trans isShutDown

/-- With exact books nothing is registered once no record owns a reference. -/
theorem Inert.registered
    (inert : session.Inert)
    (books : session.registry.Exact session.tracker) :
    session.ownTracker.registered = 0 := by
  refine books.all_perm.length_eq.trans (List.length_eq_zero_iff.mpr ?_)
  refine List.filter_eq_nil_iff.mpr fun ref _ owns => ?_
  exact Bool.false_ne_true ((inert.registry.spent ref).symm.trans owns)

/--
Whatever was done with a runtime that counts as shut down: its tracker is closed,
nothing is registered and the table of exceptions is empty, unless a callback
panicked out of its shutdown.  In that case the table was left alone, and every
further shutdown is refused, whatever is done in between.
-/
theorem torn_down_unless_cut_short
    (run : (opened config hasTable).Turns session)
    (isShutDown : session.isShutDown = true) :
    (session.ownTracker.isOpen = false ∧
        session.ownTracker.registered = 0 ∧
          ∀ entry ∈ session.table.entries, entry.2 = none) ∨
      CutShort config hasTable session := by
  refine (inert_or_cutShort run isShutDown).imp_left fun inert => ?_
  have books := (Keeps.turns run).exact (exact_opened config hasTable)
  exact ⟨inert.registry.isClosed, inert.registered books, inert.table⟩

/--
A shutdown whose first drain ends in a panic: the runtime counts as shut down,
two records are registered still with the open tracker, and a second shutdown is
refused.
-/
theorem registered_after_shutDown_threatened :
    (Op.shutDown.on threatened).1 = .error (.panic ⟨"no"⟩) ∧
      (Op.shutDown.on threatened).2.isShutDown = true ∧
        (Op.shutDown.on threatened).2.ownTracker.isOpen = true ∧
          (Op.shutDown.on threatened).2.ownTracker.registered = 2 ∧
            (Op.shutDown.on (Op.shutDown.on threatened).2).1 =
              .error (.error (.misuse (.alreadyShutDown 0))) := by
  decide +kernel

/-- Since records are registered still, a panic is the only explanation. -/
theorem torn_down_unless_cut_short_threatened :
    (Op.shutDown.on threatened).2.isShutDown = true ∧
      CutShort .standard false (Op.shutDown.on threatened).2 := by
  have observed :
      (Op.shutDown.on threatened).2.isShutDown = true ∧
        (Op.shutDown.on threatened).2.ownTracker.isOpen = true := by
    decide +kernel
  have run : (opened .standard false).Turns (Op.shutDown.on threatened).2 :=
    .tail (@Tenure.threatened False).turns (.request (.act .shutDown) trivial)
  refine ⟨observed.1, (torn_down_unless_cut_short run observed.1).resolve_left fun torn => ?_⟩
  exact Bool.false_ne_true (torn.1.symm.trans observed.2)

end Session

end Custody
