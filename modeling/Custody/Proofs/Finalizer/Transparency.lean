import Custody.Proofs.Finalizer.Moves

/-!
# Drains without checks

Whether a drain checks counts against records shows only where a count is found
to be too low, and then the journal tells of it.  As long as the journal tells
of no such count, a runtime that makes no checks does the same as one that does.
-/

namespace Custody

/-- A configuration without checks. -/
def Config.unchecked (config : Config) : Config :=
  { config with validates := false }

/-- A finalizer that makes no checks. -/
def Finalizer.unchecked (finalizer : Finalizer) : Finalizer :=
  { finalizer with validates := false }

theorem Finalizer.unsubscribe_unchecked
    (finalizer : Finalizer)
    (id : SubscriptionId) :
    finalizer.unchecked.unsubscribe id =
      ((finalizer.unsubscribe id).1, (finalizer.unsubscribe id).2.unchecked) := by
  cases collects : finalizer.collectHandlers.has id with
  | true => simp [unsubscribe, unchecked, collects]
  | false =>
      cases reports : finalizer.errorHandlers.has id with
      | true => simp [unsubscribe, unchecked, collects, reports]
      | false =>
          cases settles : finalizer.resolvers.has id with
          | true => simp [unsubscribe, unchecked, collects, reports, settles]
          | false => simp [unsubscribe, unchecked, collects, reports, settles]

/-- An alarm that was told is not forgotten. -/
theorem Registry.Untroubled.of_told
    {registry registry' : Registry}
    (untroubled : registry'.Untroubled)
    (told : ∀ event ∈ registry.journal, event ∈ registry'.journal) :
    registry.Untroubled :=
  fun event member => untroubled event (told event member)

namespace Session

theorem Leads.untroubled
    {session session' : Session}
    {hand hand' : Nat}
    {batch batch' : List PendingRelease}
    (leads : session.Leads hand batch session' hand' batch')
    (untroubled : session'.registry.Untroubled) :
    session.registry.Untroubled :=
  untroubled.of_told fun _ => leads.moves.told

/-- The same runtime without checks. -/
def unchecked (session : Session) : Session :=
  { session with
    config := session.config.unchecked
    finalizer := session.finalizer.unchecked }

variable {session session' : Session} {ref : RecordRef}

/-! ## Callbacks -/

theorem unsubscribe_unchecked
    (session : Session)
    (id : SubscriptionId) :
    session.unchecked.unsubscribe id =
      ((session.unsubscribe id).1, (session.unsubscribe id).2.unchecked) := by
  simp only [Session.unsubscribe, unchecked, Finalizer.unsubscribe_unchecked]

theorem takeSteps_unchecked
    (steps : List HandlerStep)
    (session : Session) :
    takeSteps steps session.unchecked =
      ((takeSteps steps session).1, (takeSteps steps session).2.unchecked) := by
  induction steps generalizing session with
  | nil => rfl
  | cons step rest later =>
      cases step with
      | unsubscribe id =>
          simp only [takeSteps, unsubscribe_unchecked]
          exact later _
      | panic text => rfl

theorem deliver_unchecked
    {notice : Handler → Session → Notice}
    (same : ∀ handler session, notice handler session.unchecked = notice handler session)
    (handlers : List Handler)
    (session : Session) :
    deliver notice handlers session.unchecked =
      ((deliver notice handlers session).1, (deliver notice handlers session).2.unchecked) := by
  induction handlers generalizing session with
  | nil => rfl
  | cons handler rest later =>
      have taken := takeSteps_unchecked handler.steps
        (session.announce (notice handler session))
      simp only [deliver, same]
      rw [show session.unchecked.announce (notice handler session) =
        (session.announce (notice handler session)).unchecked from rfl, taken]
      generalize takeSteps handler.steps (session.announce (notice handler session)) = result
      rcases result with ⟨_ | _, session'⟩
      · rfl
      · exact later session'

theorem report_unchecked
    (record : Option RecordRef)
    (error : BridgeError)
    (session : Session) :
    report record error session.unchecked =
      ((report record error session).1, (report record error session).2.unchecked) :=
  deliver_unchecked (fun _ _ => rfl) _ (session.updateFinalizer Finalizer.countError)

theorem reportCollected_ite_unchecked
    (isEmpty : Bool)
    (count generation : Nat)
    (session : Session) :
    (if isEmpty then (.ok (), session.unchecked)
        else reportCollected count generation session.unchecked) =
      ((if isEmpty then (.ok (), session)
          else reportCollected count generation session).1,
        (if isEmpty then (.ok (), session)
          else reportCollected count generation session).2.unchecked) := by
  split
  · rfl
  · exact deliver_unchecked (fun _ _ => rfl) _ session

theorem runHook_unchecked
    (ref : RecordRef)
    (hook : Option Hook)
    (session : Session) :
    runHook ref hook session.unchecked =
      ((runHook ref hook session).1, (runHook ref hook session).2.unchecked) := by
  cases hook with
  | none => rfl
  | some hook =>
      simp only [runHook]
      rw [show (session.unchecked.enter (.hookRan ref)).registry =
        (session.enter (.hookRan ref)).registry from rfl]
      split
      · rfl
      · next text _ =>
          exact report_unchecked (some ref) (.disposeHook text)
            (Session.enter
              { session.enter (.hookRan ref) with
                registry := (hook.run ref (session.enter (.hookRan ref)).registry).2 }
              (.fault (.hookFailed ref)))

/-! ## One item -/

variable {nested nested' : Session → Except Abort Nat × Session}

/-- A resolver that is asked tells of it. -/
theorem troubled_offer
    (idles : Idles nested)
    (mismatch : Mismatch)
    (resolver : Resolver)
    (rest : List Resolver)
    (session : Session)
    (draining : session.finalizer.draining = true) :
    ¬ (offer nested mismatch (resolver :: rest) session).2.registry.Untroubled := by
  have prepared := Notifies.prepare idles mismatch resolver.before none session draining
  intro untroubled
  rw [offer] at untroubled
  generalize prepare nested mismatch resolver.before none session = result at prepared untroubled
  rcases result with ⟨drained, asked⟩
  have offered : Event.notice (.offered resolver.label mismatch drained) ∈
      (asked.announce (.offered resolver.label mismatch drained)).registry.journal :=
    List.mem_append_right _ (List.mem_singleton_self _)
  have taken := Spares.takeSteps resolver.steps
    (asked.announce (.offered resolver.label mismatch drained))
  have told := taken.registry.told offered
  have still := taken.toNotifies.draining
    ((Notifies.announce asked (.offered resolver.label mismatch drained)).draining
      (prepared.draining draining))
  simp only at untroubled
  generalize takeSteps resolver.steps
    (asked.announce (.offered resolver.label mismatch drained)) = result at told still untroubled
  rcases result with ⟨panic | _, session'⟩
  · exact untroubled _ told trivial
  · simp only at untroubled
    split at untroubled
    · exact untroubled _ told trivial
    · have asked' : session'.Notifies _ :=
        Resolving.offer (by simp) idles mismatch rest session' still
      exact untroubled _ (asked'.registry.told told) trivial

/-- A check that finds something does not pass in silence. -/
theorem validate_ite_cases
    (idles : Idles nested)
    (validates : Bool)
    (ref : RecordRef)
    (session : Session)
    (draining : session.finalizer.draining = true) :
    (if validates then validate nested ref session else (.ok none, session)) =
        (.ok none, session) ∨
      (∃ mismatch,
        (if validates then validate nested ref session else (.ok none, session)).1 =
          .ok (some mismatch)) ∨
      ¬ (if validates then validate nested ref session
          else (.ok none, session)).2.registry.Untroubled := by
  split
  · rw [validate]
    cases session.mismatch? ref with
    | none => exact .inl rfl
    | some mismatch =>
        right
        cases resolvers : session.finalizer.resolvers.callbacks with
        | nil => exact .inl ⟨mismatch, rfl⟩
        | cons resolver rest =>
            have troubled := troubled_offer idles mismatch resolver rest session draining
            simp only
            generalize offer nested mismatch (resolver :: rest) session = result at troubled ⊢
            right
            rcases result with ⟨_ | _ | _, session'⟩
            · exact troubled
            · exact troubled
            · exact troubled
  · exact .inl rfl

theorem untroubled_of_checkRemaining_ite
    {validates : Bool}
    {remaining : Int}
    (untroubled :
      (if validates then checkRemaining ref remaining session
        else (.ok (), session)).2.registry.Untroubled) :
    (if validates then checkRemaining ref remaining session else (.ok (), session)) =
      (.ok (), session) := by
  revert untroubled
  split
  · rw [checkRemaining]
    split
    · exact fun _ => rfl
    · next mismatch _ =>
        intro untroubled
        have told := (Spares.report (some ref) (.incorrectRefCount mismatch)
          (session.enter (.fault (.shortfall ref)))).registry.told
            (List.mem_append_right _ (List.mem_singleton_self _))
        exact absurd trivial (untroubled (.fault (.shortfall ref)) told)
  · exact fun _ => rfl

@[simp]
theorem journal_abandon
    (session : Session)
    (ref : RecordRef) :
    (session.abandon ref).registry.journal = session.registry.journal := by
  rw [abandon]
  split
  · exact Registry.journal_quarantine _ _ _
  · rfl

/-- What was told before a reference was given back is not forgotten. -/
theorem told_of_referenceRun
    {validates : Bool}
    {generation : Nat}
    {event : Event}
    {result : ItemEnd × Session}
    (run : ReferenceRun validates generation ref session result)
    (before : event ∈ session.registry.journal) :
    event ∈ result.2.registry.journal := by
  have quarantined :
      event ∈ ((session.quarantine ref).enter (.fault (.dropFailed ref))).registry.journal := by
    refine List.mem_append_left _ ?_
    rwa [quarantine, updateRegistry, Registry.journal_quarantine]
  have dropped (interp : Interpreter) :
      event ∈ ({ session with interp }.enter (.dropped ref)).registry.journal :=
    List.mem_append_left _ before
  cases run with
  | bereft gone reported => exact (Spares.of_report reported).registry.told quarantined
  | unheard gone reported => exact (Spares.of_report reported).registry.told quarantined
  | exposed gaveBack checked => exact (Notifies.of_recheck checked).registry.told (dropped _)
  | released gaveBack checked => exact (Notifies.of_recheck checked).registry.told (dropped _)

theorem drainReference_unchecked
    {validates : Bool}
    {generation : Nat}
    (untroubled :
      (session.drainReference validates generation ref).2.registry.Untroubled) :
    session.unchecked.drainReference false generation ref =
      ((session.drainReference validates generation ref).1,
        (session.drainReference validates generation ref).2.unchecked) := by
  revert untroubled
  simp only [drainReference]
  rw [show session.unchecked.interp.decref (session.unchecked.record ref).handle =
    session.interp.decref (session.record ref).handle from rfl]
  split
  · next reason _ =>
      intro _
      have reported := report_unchecked (some ref) (.heap reason)
        ((session.quarantine ref).enter (.fault (.dropFailed ref)))
      rw [show (session.unchecked.quarantine ref).enter (.fault (.dropFailed ref)) =
        ((session.quarantine ref).enter (.fault (.dropFailed ref))).unchecked from rfl, reported]
      generalize report (some ref) (.heap reason)
        ((session.quarantine ref).enter (.fault (.dropFailed ref))) = result
      rcases result with ⟨_ | _, session'⟩
      · rfl
      · rfl
  · next remaining interp _ =>
      intro untroubled
      have silent :
          (if validates then
              checkRemaining ref remaining ({ session with interp }.enter (.dropped ref))
            else
              (.ok (), { session with interp }.enter (.dropped ref))).2.registry.Untroubled := by
        generalize (if validates then
              checkRemaining ref remaining ({ session with interp }.enter (.dropped ref))
            else
              (.ok (), { session with interp }.enter (.dropped ref))) = result at untroubled ⊢
        rcases result with ⟨_ | _, session'⟩
        · exact untroubled
        · exact untroubled
      rw [untroubled_of_checkRemaining_ite silent]
      rfl

/-- An item is drained in the same way with and without checks, unless an alarm is raised. -/
theorem drainItem_unchecked
    {validates : Bool}
    {generation : Nat}
    {item : PendingRelease}
    (idles : Idles nested)
    (draining : session.finalizer.draining = true)
    (untroubled :
      (drainItem nested validates generation item session).2.registry.Untroubled) :
    drainItem nested' false generation item session.unchecked =
      ((drainItem nested validates generation item session).1,
        (drainItem nested validates generation item session).2.unchecked) := by
  have ran := Spares.runHook item.record item.hook (session.enter (.takenUp item.record))
  have same := runHook_unchecked item.record item.hook (session.enter (.takenUp item.record))
  revert untroubled
  simp only [drainItem]
  rw [show session.unchecked.enter (.takenUp item.record) =
    (session.enter (.takenUp item.record)).unchecked from rfl, same]
  generalize runHook item.record item.hook (session.enter (.takenUp item.record)) = result
    at ran ⊢
  rcases result with ⟨_ | _, hooked⟩
  · exact fun _ => rfl
  · simp only
    rw [show hooked.unchecked.record item.record = hooked.record item.record from rfl]
    split
    · exact fun _ => rfl
    · have draining' := ran.toNotifies.draining draining
      have checked := validate_ite_cases idles validates item.record hooked draining'
      generalize (if validates then validate nested item.record hooked
        else (.ok none, hooked)) = result at checked ⊢
      intro untroubled
      rcases checked with rfl | ⟨mismatch, found⟩ | troubled
      · exact drainReference_unchecked untroubled
      · rcases result with ⟨outcome, session'⟩
        cases found
        exact absurd trivial
          (untroubled _ (List.mem_append_right _ (List.mem_singleton_self _)))
      · refine absurd (untroubled.of_told fun event before => ?_) troubled
        rcases result with ⟨_ | _ | mismatch, session'⟩
        · exact before
        · exact told_of_referenceRun
            (referenceRun_drainReference validates generation item.record session') before
        · refine List.mem_append_left _ ?_
          rwa [quarantine, updateRegistry, Registry.journal_quarantine]

/-! ## Whole drains -/

theorem drainBatch_unchecked
    {validates : Bool}
    {generation : Nat}
    {batch : List PendingRelease}
    {log : List CollectedObject}
    (idles : Idles nested)
    (draining : session.finalizer.draining = true)
    (untroubled :
      (drainBatch nested validates generation batch log session).2.registry.Untroubled) :
    drainBatch nested' false generation batch log session.unchecked =
      ((drainBatch nested validates generation batch log session).1,
        (drainBatch nested validates generation batch log session).2.unchecked) := by
  induction batch generalizing log session with
  | nil => rfl
  | cons item rest step =>
      have trims := (retains_drainItem idles validates generation item session draining).finalizer
      have still := trims.draining.trans draining
      have later {session' : Session} (draining' : session'.finalizer.draining = true)
          {log' : List CollectedObject}
          (untroubled :
            (drainBatch nested validates generation rest log' session').2.registry.Untroubled) :
          session'.registry.Untroubled :=
        (leads_drainBatch idles validates generation 0 rest log' session' draining').untroubled
          untroubled
      have drained := @drainItem_unchecked session nested nested' validates generation item idles
        draining
      simp only [drainBatch] at untroubled ⊢
      generalize drainItem nested validates generation item session = result
        at drained still untroubled ⊢
      rcases result with ⟨_ | entry | mismatch | panic, session'⟩
      · rw [drained (later still untroubled)]
        exact step still untroubled
      · rw [drained (later still untroubled)]
        exact step still untroubled
      · rw [drained untroubled]
        rfl
      · have abandoned : session'.registry.Untroubled := by
          refine untroubled.of_told fun event before => ?_
          show event ∈ (session'.abandon item.record).registry.journal
          rwa [journal_abandon]
        rw [drained abandoned]
        simp only [abandon]
        rw [show session'.unchecked.record item.record = session'.record item.record from rfl]
        split
        · rfl
        · rfl

/-- A drain without alarms does the same without checks, whatever answers nested drains. -/
theorem drain_unchecked
    (idles : Idles nested)
    (untroubled : (session.drain nested).2.registry.Untroubled) :
    session.unchecked.drain nested' =
      ((session.drain nested).1, (session.drain nested).2.unchecked) := by
  have taken := Spares.takeSnapshot (session.setDraining true)
  have draining : (session.setDraining true).takeSnapshot.2.2.finalizer.draining = true :=
    taken.finalizer.draining
  have drained := @drainBatch_unchecked _ nested nested'
    (session.setDraining true).takeSnapshot.2.2.finalizer.validates
    (session.setDraining true).takeSnapshot.1 (session.setDraining true).takeSnapshot.2.1 [] idles
    draining
  revert untroubled
  simp only [drain]
  rw [show (session.unchecked.setDraining true).takeSnapshot =
    ((session.setDraining true).takeSnapshot.1, (session.setDraining true).takeSnapshot.2.1,
      (session.setDraining true).takeSnapshot.2.2.unchecked) from rfl]
  simp only
  rw [show (session.setDraining true).takeSnapshot.2.2.unchecked.finalizer.validates = false
    from rfl]
  generalize drainBatch nested _ _ _ _ _ = result at drained ⊢
  rcases result with ⟨log | ⟨log, mismatch⟩ | panic, session'⟩
  · have delivered := Leads.of_tells
      (Spares.reportCollected_ite log.isEmpty log.length (session.setDraining true).takeSnapshot.1
        (session'.finish log)).toNotifies
      (tells_reportCollected_ite (fun _ _ _ _ => trivial) log.isEmpty log.length
        (session.setDraining true).takeSnapshot.1 (session'.finish log)) 0 []
    have same := reportCollected_ite_unchecked log.isEmpty log.length
      (session.setDraining true).takeSnapshot.1 (session'.finish log)
    simp only
    generalize (if log.isEmpty then (.ok (), session'.finish log)
      else reportCollected log.length _ (session'.finish log)) = result at delivered same ⊢
    intro untroubled
    have quiet : session'.registry.Untroubled := by
      apply delivered.untroubled
      rcases result with ⟨_ | _, session''⟩
      · exact untroubled
      · exact untroubled
    rw [drained quiet]
    simp only
    rw [show session'.unchecked.finish log = (session'.finish log).unchecked from rfl, same]
    rcases result with ⟨_ | _, session''⟩
    · rfl
    · rfl
  · intro untroubled
    rw [drained untroubled]
    rfl
  · intro untroubled
    rw [drained untroubled]
    rfl

theorem collect_unchecked
    (untroubled : session.collect.2.registry.Untroubled) :
    session.unchecked.collect = (session.collect.1, session.collect.2.unchecked) := by
  revert untroubled
  unfold collect collectWithin
  rw [show session.unchecked.finalizer.draining = session.finalizer.draining from rfl]
  split
  · exact fun _ => rfl
  · exact drain_unchecked (idles_collectWithin 1)

theorem collectReporting_unchecked
    (untroubled : session.collectReporting.2.registry.Untroubled) :
    session.unchecked.collectReporting =
      (session.collectReporting.1, session.collectReporting.2.unchecked) := by
  have collected := @collect_unchecked session
  revert untroubled
  simp only [collectReporting]
  generalize session.collect = result at collected ⊢
  rcases result with ⟨(error | panic) | count, session'⟩
  · have reported := report_unchecked none error session'
    have leads := leads_report none error 0 session'
    simp only
    generalize report none error session' = result at reported leads ⊢
    rcases result with ⟨_ | _, session''⟩
    · intro untroubled
      simp only [collected (leads.untroubled untroubled), reported]
    · intro untroubled
      simp only [collected (leads.untroubled untroubled), reported]
  · intro untroubled
    rw [collected untroubled]
  · intro untroubled
    rw [collected untroubled]

theorem collectThrottled_unchecked
    (untroubled : session.collectThrottled.2.registry.Untroubled) :
    session.unchecked.collectThrottled =
      (session.collectThrottled.1, session.collectThrottled.2.unchecked) := by
  revert untroubled
  rw [collectThrottled, collectThrottled,
    show session.unchecked.shouldCollect = session.shouldCollect from rfl]
  split
  · exact collectReporting_unchecked
  · exact fun _ => rfl

/-! ## Errors -/

variable {validates : Bool} {generation : Nat} {mismatch : Mismatch}

/-- An item at which a drain stops is told of. -/
theorem troubled_of_item_stopped
    {item : PendingRelease}
    (stopped :
      (drainItem nested validates generation item session).1 = .stopped mismatch) :
    ¬ (drainItem nested validates generation item session).2.registry.Untroubled := by
  have run := itemRun_drainItem nested validates generation item session
  generalize drainItem nested validates generation item session = result at run stopped ⊢
  cases run with
  | interrupted ran => cases stopped
  | passed ran settled => cases stopped
  | unresolved ran deferred checked => cases stopped
  | stopped ran deferred checked =>
      exact fun untroubled =>
        untroubled _ (List.mem_append_right _ (List.mem_singleton_self _)) trivial
  | cleared ran deferred checked run =>
      cases run with
      | bereft gone reported => cases stopped
      | unheard gone reported => cases stopped
      | exposed gaveBack checked => cases stopped
      | released gaveBack checked => cases stopped

theorem troubled_of_batch_stopped
    {batch : List PendingRelease}
    {log log' : List CollectedObject}
    (stopped :
      (drainBatch nested validates generation batch log session).1 = .stopped log' mismatch) :
    ¬ (drainBatch nested validates generation batch log session).2.registry.Untroubled := by
  induction batch generalizing log session with
  | nil => cases stopped
  | cons item rest step =>
      have told := fun found => @troubled_of_item_stopped session nested validates generation found
        item
      revert stopped
      simp only [drainBatch]
      generalize drainItem nested validates generation item session = result at told ⊢
      rcases result with ⟨_ | entry | found | panic, session'⟩
      · exact step
      · exact step
      · exact fun _ => told found rfl
      · exact fun stopped => by cases stopped

/-- A drain that ends with an error was stopped, which the journal tells. -/
theorem troubled_of_error
    {error : BridgeError}
    (failed : session.collect.1 = .error (.error error)) :
    ¬ session.collect.2.registry.Untroubled := by
  revert failed
  unfold collect collectWithin
  split
  · exact fun failed => by cases failed
  · have told := fun log mismatch => @troubled_of_batch_stopped
      (session.setDraining true).takeSnapshot.2.2 (collectWithin 1)
      (session.setDraining true).takeSnapshot.2.2.finalizer.validates
      (session.setDraining true).takeSnapshot.1 mismatch
      (session.setDraining true).takeSnapshot.2.1 [] log
    simp only [drain]
    generalize drainBatch (collectWithin 1) _ _ _ _ _ = result at told ⊢
    rcases result with ⟨log | ⟨log, mismatch⟩ | panic, session'⟩
    · simp only
      split
      · exact fun failed => by cases failed
      · exact fun failed => by cases failed
    · exact fun _ => told log mismatch rfl
    · exact fun failed => by cases failed

end Session

end Custody
