import Custody.Proofs.Finalizer.Calm
import Custody.Proofs.Finalizer.Progress
import Custody.Proofs.Tracking.Reasons

/-!
# Drains without panics

If none of the subscribed callbacks panics no drain does, whatever hooks and
resolvers do.  Every record that such a drain settles is quarantined or given
back.
-/

namespace Custody

/-- None of the subscribed callbacks panics. -/
structure Finalizer.NeverPanics (finalizer : Finalizer) : Prop where
  collectHandlers : ∀ entry ∈ finalizer.collectHandlers, entry.2.IsQuiet
  errorHandlers : ∀ entry ∈ finalizer.errorHandlers, entry.2.IsQuiet
  resolvers : ∀ entry ∈ finalizer.resolvers, ∀ text, .panic text ∉ entry.2.steps

theorem Finalizer.NeverPanics.of_trims
    {finalizer finalizer' : Finalizer}
    (never : finalizer.NeverPanics)
    (trims : finalizer.Trims finalizer') :
    finalizer'.NeverPanics where
  collectHandlers := fun entry member =>
    never.collectHandlers entry (trims.collectHandlers.subset member)
  errorHandlers := fun entry member =>
    never.errorHandlers entry (trims.errorHandlers.subset member)
  resolvers := fun entry member =>
    never.resolvers entry (trims.resolvers.subset member)

namespace Session

variable {session session' : Session} {ref : RecordRef}
variable {nested : Session → Except Abort Nat × Session}

/-! ## Checks -/

theorem offer_ok
    {resolvers : List Resolver}
    (quiet : ∀ resolver ∈ resolvers, ∀ text, .panic text ∉ resolver.steps)
    (mismatch : Mismatch)
    (session : Session) :
    ∃ settled, (offer nested mismatch resolvers session).1 = .ok settled := by
  induction resolvers generalizing session with
  | nil => exact ⟨false, rfl⟩
  | cons resolver rest later =>
      rw [offer]
      generalize prepare nested mismatch resolver.before none session = result
      rcases result with ⟨drained, asked⟩
      have taken := takeSteps_ok (quiet resolver List.mem_cons_self)
        (asked.announce (.offered resolver.label mismatch drained))
      simp only
      generalize takeSteps resolver.steps _ = result at taken ⊢
      rcases result with ⟨_ | _, session'⟩
      · cases taken
      · simp only
        split
        · exact ⟨true, rfl⟩
        · exact later (fun other member => quiet other (List.mem_cons_of_mem _ member)) session'

theorem validate_ite_ok
    (never : session.finalizer.NeverPanics)
    (validates : Bool)
    (ref : RecordRef) :
    ∃ found,
      (if validates then validate nested ref session else (.ok none, session)).1 = .ok found := by
  split
  · rw [validate]
    split
    · exact ⟨none, rfl⟩
    · next mismatch _ =>
        have quiet : ∀ resolver ∈ session.finalizer.resolvers.callbacks,
            ∀ text, .panic text ∉ resolver.steps := by
          intro resolver member
          rcases List.mem_map.mp member with ⟨entry, listed, rfl⟩
          exact never.resolvers entry listed
        rcases @offer_ok nested _ quiet mismatch session with ⟨settled, offered⟩
        generalize offer nested mismatch session.finalizer.resolvers.callbacks session = result
          at offered ⊢
        rcases result with ⟨_ | settled', session'⟩
        · cases offered
        · cases settled' with
          | true => exact ⟨none, rfl⟩
          | false => exact ⟨some mismatch, rfl⟩
  · exact ⟨none, rfl⟩

theorem checkRemaining_ite_ok
    (never : session.finalizer.NeverPanics)
    (validates : Bool)
    (ref : RecordRef)
    (remaining : Int) :
    (if validates then checkRemaining ref remaining session else (.ok (), session)).1 = .ok () := by
  split
  · rw [checkRemaining]
    split
    · rfl
    · exact report_ok _ _ _ never.errorHandlers
  · rfl

/-! ## Reasons -/

theorem Notifies.justifies
    (notifies : session.Notifies session') :
    session.registry.Justifies session'.registry :=
  .of_safe notifies.registry

/-- A deferred record is quarantined, and the journal tells why. -/
theorem justifies_quarantine
    {fault : Fault}
    (deferred : (session.record ref).state = .deferred)
    (cause : fault = .mismatched ref ∨ fault = .dropFailed ref) :
    session.registry.Justifies ((session.quarantine ref).enter (.fault fault)).registry := by
  have deferred' : (session.registry.record ref).state = .deferred := deferred
  have bound : ref < session.registry.records.size :=
    Registry.lt_size_of_state (by simp [deferred'])
  have same := Registry.journal_quarantine session.registry session.tracker ref
  have kept : session.registry.journal <+: (session.quarantine ref).registry.journal :=
    ⟨[], (List.append_nil _).trans same.symm⟩
  have told :=
    (Registry.tellsAnew_enter (session.quarantine ref).registry (.fault fault)).after kept
  have records :
      ((session.quarantine ref).enter (.fault fault)).registry.records =
        (session.registry.setState ref .detached).records := by
    simp only [quarantine, updateRegistry, Registry.quarantine, if_pos deferred']
    rfl
  refine .settle (.refl _) deferred' (kept.trans (List.prefix_append _ _)) records
    (.inl ⟨?_, ?_⟩)
  · rw [Registry.record_eq, records, ← Registry.record_eq, Registry.record_setState,
      if_pos ⟨rfl, bound⟩]
  · rcases cause with rfl | rfl
    · exact .inl told
    · exact .inr told

/-- A deferred record whose reference was given back is released. -/
theorem justifies_complete
    {kind : Event → Prop}
    (generation : Nat)
    (dropped : (session.registry.enter (.dropped ref)).Defers kind session'.registry)
    (deferred : (session'.record ref).state = .deferred) :
    session.registry.Justifies (session'.complete generation ref).2.registry := by
  have deferred' : (session'.registry.record ref).state = .deferred := deferred
  have bound : ref < session'.registry.records.size :=
    Registry.lt_size_of_state (by simp [deferred'])
  have entered : session.registry.Defers (fun _ => True) (session.registry.enter (.dropped ref)) :=
    .enter session.registry trivial
  have later := Registry.Justifies.of_safe dropped
  let change : Record → Record := fun entry =>
    { entry with
      state := if entry.state = .deferred then .released else entry.state
      collected := true }
  have records :
      (session'.complete generation ref).2.registry.records =
        (session'.registry.alter ref change).records :=
    rfl
  refine .settle ((Registry.Justifies.of_safe entered).trans later) deferred' (List.prefix_refl _)
    records (.inr ⟨?_, ?_⟩)
  · rw [Registry.record_eq, records, ← Registry.record_eq, Registry.record_alter,
      if_pos ⟨rfl, bound⟩]
    exact if_pos deferred'
  · exact (Registry.tellsAnew_enter session.registry (.dropped ref)).before later.journal

/-- Giving a reference back either quarantines the record or releases it. -/
theorem justifies_referenceRun
    {validates : Bool}
    {generation : Nat}
    {result : ItemEnd × Session}
    (run : ReferenceRun validates generation ref session result)
    (never : session.finalizer.NeverPanics)
    (deferred : (session.record ref).state = .deferred) :
    session.registry.Justifies result.2.registry ∧ ∀ panic, result.1 ≠ .panicked panic := by
  cases run with
  | bereft gone reported =>
      have told := (Spares.of_report reported).toNotifies.justifies
      exact ⟨(justifies_quarantine deferred (.inr rfl)).trans told, nofun⟩
  | @unheard reason _ _ gone reported =>
      have heard := report_ok (some ref) (.heap reason)
        ((session.quarantine ref).enter (.fault (.dropFailed ref))) never.errorHandlers
      rw [reported] at heard
      cases heard
  | @exposed remaining interp _ _ gaveBack checked =>
      have entered : ({ session with interp }.enter (.dropped ref)).finalizer.NeverPanics := never
      have heard := checkRemaining_ite_ok entered validates ref remaining
      rw [checked] at heard
      cases heard
  | released gaveBack checked =>
      have notifies := Notifies.of_recheck checked
      exact ⟨justifies_complete generation notifies.registry (notifies.deferred deferred), nofun⟩

/-- Draining one item settles records for a reason only, and ends without a panic. -/
theorem justifies_drainItem
    (idles : Idles nested)
    (never : session.finalizer.NeverPanics)
    (validates : Bool)
    (generation : Nat)
    (item : PendingRelease)
    (draining : session.finalizer.draining = true) :
    session.registry.Justifies (drainItem nested validates generation item session).2.registry ∧
      ∀ panic, (drainItem nested validates generation item session).1 ≠ .panicked panic := by
  have run := itemRun_drainItem nested validates generation item session
  generalize drainItem nested validates generation item session = result at run ⊢
  cases run with
  | interrupted ran =>
      have taken := Spares.enter session (.takenUp item.record) (by simp)
      have heard := runHook_ok (never.of_trims taken.finalizer).errorHandlers item.record item.hook
      rw [ran] at heard
      cases heard
  | passed ran settled => exact ⟨(Spares.of_hook ran).toNotifies.justifies, nofun⟩
  | @unresolved hooked _ _ ran deferred checked =>
      have hooks := Spares.of_hook ran
      rcases @validate_ite_ok hooked nested (never.of_trims hooks.finalizer) validates item.record
        with ⟨found, answered⟩
      rw [checked] at answered
      cases answered
  | stopped ran deferred checked =>
      have hooks := (Spares.of_hook ran).toNotifies
      have asked := Notifies.of_check checked idles (hooks.draining draining)
      exact ⟨(hooks.trans asked).justifies.trans
        (justifies_quarantine (asked.deferred deferred) (.inl rfl)), nofun⟩
  | cleared ran deferred checked run =>
      have hooks := (Spares.of_hook ran).toNotifies
      have asked := Notifies.of_check checked idles (hooks.draining draining)
      have released := justifies_referenceRun run
        (never.of_trims (hooks.trans asked).finalizer) (asked.deferred deferred)
      exact ⟨(hooks.trans asked).justifies.trans released.1, released.2⟩

theorem justifies_drainBatch
    (idles : Idles nested)
    (validates : Bool)
    (generation : Nat)
    (batch : List PendingRelease)
    (log : List CollectedObject)
    (session : Session)
    (never : session.finalizer.NeverPanics)
    (draining : session.finalizer.draining = true) :
    session.registry.Justifies
        (drainBatch nested validates generation batch log session).2.registry ∧
      session.finalizer.Trims
        (drainBatch nested validates generation batch log session).2.finalizer ∧
      ∀ panic, (drainBatch nested validates generation batch log session).1 ≠ .panicked panic := by
  induction batch generalizing log session with
  | nil => exact ⟨.refl _, .refl _, fun _ same => by cases same⟩
  | cons item rest step =>
      have drained := justifies_drainItem idles never validates generation item draining
      have trims := (retains_drainItem idles validates generation item session draining).finalizer
      have continues (session' : Session)
          (justified : session.registry.Justifies session'.registry)
          (trims : session.finalizer.Trims session'.finalizer)
          (log : List CollectedObject) :=
        step log session' (never.of_trims trims) (trims.draining.trans draining)
      simp only [drainBatch]
      generalize drainItem nested validates generation item session = result at drained trims ⊢
      rcases result with ⟨_ | entry | mismatch | panic, session'⟩
      · rcases continues session' drained.1 trims log with ⟨justified, trims', calm⟩
        exact ⟨drained.1.trans justified, trims.trans trims', calm⟩
      · rcases continues session' drained.1 trims (log ++ [entry]) with ⟨justified, trims', calm⟩
        exact ⟨drained.1.trans justified, trims.trans trims', calm⟩
      · have requeued := Spares.requeueFront session' rest
        exact ⟨drained.1.trans requeued.toNotifies.justifies, trims.trans requeued.finalizer,
          fun _ same => by cases same⟩
      · exact absurd rfl (drained.2 panic)

/-! ## Whole drains -/

/--
A drain without a panic settles records for a reason only, and leaves callbacks
behind that do not panic either.
-/
theorem justifies_collect
    (never : session.finalizer.NeverPanics) :
    session.registry.Justifies session.collect.2.registry ∧
      session.collect.2.finalizer.NeverPanics ∧
        ∀ panic, session.collect.1 ≠ .error (.panic panic) := by
  unfold collect collectWithin
  split
  · exact ⟨.refl _, never, fun _ same => by cases same⟩
  · have started : (session.setDraining true).finalizer.NeverPanics :=
      ⟨never.collectHandlers, never.errorHandlers, never.resolvers⟩
    have taken := Spares.takeSnapshot (session.setDraining true)
    have drained := justifies_drainBatch (idles_collectWithin 1)
      (session.setDraining true).takeSnapshot.2.2.finalizer.validates
      (session.setDraining true).takeSnapshot.1 (session.setDraining true).takeSnapshot.2.1 [] _
      (started.of_trims taken.finalizer) taken.finalizer.draining
    have silent {finalizer : Finalizer} (still : finalizer.NeverPanics)
        (draining : Bool) : { finalizer with draining }.NeverPanics :=
      ⟨still.collectHandlers, still.errorHandlers, still.resolvers⟩
    simp only [drain]
    generalize drainBatch (collectWithin 1) _ _ _ _ _ = result at drained ⊢
    rcases result with ⟨log | ⟨log, mismatch⟩ | panic, session'⟩
    · have after := (started.of_trims taken.finalizer).of_trims drained.2.1
      have finished : (session'.finish log).finalizer.NeverPanics :=
        ⟨after.collectHandlers, after.errorHandlers, after.resolvers⟩
      have delivered := Spares.reportCollected_ite log.isEmpty log.length
        (session.setDraining true).takeSnapshot.1 (session'.finish log)
      have heard := reportCollected_ite_ok log.isEmpty log.length
        (session.setDraining true).takeSnapshot.1 _ finished.collectHandlers
      have justified := (taken.toNotifies.justifies.trans drained.1).trans
        (delivered.toNotifies.justifies : session'.registry.Justifies _)
      have never' := finished.of_trims delivered.finalizer
      simp only
      generalize (if log.isEmpty then (.ok (), session'.finish log)
        else reportCollected log.length _ (session'.finish log)) = result
        at heard justified never' ⊢
      rcases result with ⟨_ | _, session''⟩
      · cases heard
      · exact ⟨justified, silent never' false, fun _ same => by cases same⟩
    · have after := (started.of_trims taken.finalizer).of_trims drained.2.1
      exact ⟨taken.toNotifies.justifies.trans drained.1,
        ⟨after.collectHandlers, after.errorHandlers, after.resolvers⟩, fun _ same => by cases same⟩
    · exact absurd rfl (drained.2.2 panic)

theorem justifies_collectReporting
    (never : session.finalizer.NeverPanics) :
    session.registry.Justifies session.collectReporting.2.registry ∧
      session.collectReporting.2.finalizer.NeverPanics ∧
        ∃ count, session.collectReporting.1 = .ok count := by
  have collected := justifies_collect never
  rw [collectReporting]
  generalize session.collect = result at collected ⊢
  rcases result with ⟨(error | panic) | count, session'⟩
  · have reported := Spares.report none error session'
    have heard := report_ok none error session' collected.2.1.errorHandlers
    simp only
    generalize report none error session' = result at reported heard ⊢
    rcases result with ⟨_ | _, session''⟩
    · cases heard
    · exact ⟨collected.1.trans reported.toNotifies.justifies,
        collected.2.1.of_trims reported.finalizer, 0, rfl⟩
  · exact absurd rfl (collected.2.2 panic)
  · exact ⟨collected.1, collected.2.1, count, rfl⟩

end Session

end Custody
