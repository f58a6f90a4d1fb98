import Custody.Proofs.Finalizer.Totals

/-!
# Detached records

A record is detached if its reference was handed to the caller, or if a drain
quarantines it because something went wrong with it.  Neither gives the reference
back on behalf of the record.

A drain can fail to keep to this in one way only.  It gives the reference of an
item back before it checks what remains, and marks the record after that.  If too
little remains and a callback to which this is reported panics, then the record is
quarantined like one whose reference was not given back.
-/

namespace Custody

namespace Registry

variable {registry registry' : Registry} {ref : RecordRef}

/-- The reference of a record was never given back, unless the record is released. -/
def Withholds (registry : Registry) (ref : RecordRef) : Prop :=
  (registry.record ref).state = .released ∨ registry.drops ref = 0

namespace Withholds

/-- Nothing was given back meanwhile. -/
theorem of_drops
    (withholds : registry.Withholds ref)
    (advances : registry.Advances registry')
    (drops : registry'.drops ref = registry.drops ref) :
    registry'.Withholds ref := by
  refine withholds.imp (fun released => ?_) drops.trans
  have inside : ref < registry.records.size := lt_size_of_state (by rw [released]; simp)
  have final : (registry.record ref).state.owns = false := congrArg RecordState.owns released
  exact (RecordState.eq_of_follows (advances.moves ref inside) final).trans released

/-- A record is released together with a drop. -/
theorem dropped
    {other : RecordRef}
    (withholds : registry.Withholds other)
    (owns : (registry.record ref).state.owns = true) :
    ((registry.setState ref .released).enter (.dropped ref)).Withholds other := by
  have after : ((registry.setState ref .released).enter (.dropped ref)).record other =
      if other = ref then
        { registry.record other with state := .released }
      else
        registry.record other := by
    refine (record_alter registry ref other _).trans ?_
    by_cases same : other = ref
    · subst same
      simp [lt_size_of_owns owns]
    · simp [same]
  by_cases same : other = ref
  · left
    rw [after, if_pos same]
  · have drops : (registry.setState ref .released).drops other = registry.drops other := rfl
    rw [Withholds, after, if_neg same, drops_enter, drops, if_neg fun told => ?_]
    · exact withholds
    · exact same (Event.dropped.inj told).symm

end Withholds

end Registry

namespace Session

variable {session session' session'' : Session} {ref : RecordRef} {generation : Nat}

/-! ## Items -/

/-- Whatever was given back meanwhile belonged to a record that is released. -/
def Guards (session session' : Session) : Prop :=
  ∀ ref, session.registry.Withholds ref → session'.registry.Withholds ref

namespace Guards

theorem refl (session : Session) : session.Guards session :=
  fun _ => id

theorem trans
    (first : session.Guards session')
    (second : session'.Guards session'') :
    session.Guards session'' :=
  fun ref withholds => second ref (first ref withholds)

/-- Neither records nor the journal were touched. -/
theorem of_eq
    (records : session'.registry.records = session.registry.records)
    (journal : session'.registry.journal = session.registry.journal) :
    session.Guards session' :=
  fun _ withholds =>
    withholds.of_drops (.of_eq records journal) (by rw [Registry.drops, journal, Registry.drops])

end Guards

theorem Notes.advances (notes : session.Notes session') :
    session.registry.Advances session'.registry := by
  have moves :
      ∀ ref < session.registry.records.size,
        (session.registry.record ref).state.Follows (session'.registry.record ref).state := by
    intro ref _
    rcases notes.record ref with same | ⟨live, deferred⟩
    · have state : (session'.registry.record ref).state = (session.registry.record ref).state :=
        congrArg Record.state same
      rw [state]
      exact .refl
    · have state : (session.registry.record ref).state = .live := live
      have state' : (session'.registry.record ref).state = .deferred :=
        congrArg Record.state deferred
      rw [state, state']
      exact .single .defer
  refine ⟨notes.size.ge, moves, fun ref => ?_⟩
  have owed := Registry.owed_le notes.size.ge (moves ref)
  rw [Registry.budget, notes.drops, Registry.budget]
  omega

theorem Guards.of_notes (notes : session.Notes session') : session.Guards session' :=
  fun ref withholds => withholds.of_drops notes.advances (notes.drops ref)

theorem Guards.quarantine
    (session : Session)
    (ref : RecordRef) :
    session.Guards (session.quarantine ref) := by
  intro other withholds
  refine withholds.of_drops (advances_quarantine session ref) ?_
  simp [Session.quarantine, updateRegistry, Registry.drops]

theorem Guards.abandon
    (session : Session)
    (ref : RecordRef) :
    session.Guards (session.abandon ref) := by
  rw [Session.abandon]
  split
  · exact quarantine session ref
  · exact refl session

/-- The reference of a record was given back and too few remained, but it still is deferred. -/
structure Overdrawn (session : Session) (ref : RecordRef) : Prop where
  deferred : (session.record ref).state = .deferred
  dropped : .dropped ref ∈ session.registry.journal
  short : .fault (.shortfall ref) ∈ session.registry.journal

/-- Giving back the reference of one record says nothing about the others. -/
theorem withholds_of_dropped
    {interp : Interpreter}
    {other : RecordRef}
    (apart : other ≠ ref)
    (told : ({ session with interp }.enter (.dropped ref)).Notes session')
    (withholds : session.registry.Withholds other) :
    session'.registry.Withholds other := by
  have drops :
      ({ session with interp }.enter (.dropped ref)).registry.drops other =
        session.registry.drops other := by
    refine (Registry.drops_enter _ _ _).trans ?_
    rw [if_neg fun told => apart (Event.dropped.inj told).symm]
    rfl
  exact Guards.of_notes told other (withholds.imp id drops.trans)

/--
When an item was handled, what was given back belongs to a record that is
released, unless it is the item itself whose reference was given back although
too few remained, and a callback panicked.
-/
theorem Handles.guards_or_overdrawn
    {outcome : ItemEnd}
    {last : Session}
    (handles : Handles generation ref session (outcome, last)) :
    session.Guards last ∨
      (∃ panic, outcome = .panicked panic) ∧
        last.Overdrawn ref ∧
          ∀ other ≠ ref, session.registry.Withholds other → last.registry.Withholds other := by
  cases handles with
  | interrupted notes => exact .inl (.of_notes notes)
  | passed notes settled => exact .inl (.of_notes notes)
  | stopped notes deferred =>
      refine .inl (((Guards.of_notes notes).trans (.quarantine _ ref)).trans ?_)
      intro other withholds
      exact withholds.of_drops (.enter _ (by simp)) ((Registry.drops_enter _ _ _).trans rfl)
  | bereft notes deferred told ended =>
      exact .inl (((Guards.of_notes notes).trans (.quarantine _ ref)).trans (.of_notes told))
  | @exposed panic interp between last notes deferred told short =>
      have entered : Event.dropped ref ∈
          ({ between with interp }.enter (.dropped ref)).registry.journal :=
        List.mem_append_right _ List.mem_cons_self
      refine .inr ⟨⟨panic, rfl⟩, ⟨told.deferred deferred, told.told entered, short⟩, ?_⟩
      exact fun other apart withholds =>
        withholds_of_dropped apart told (Guards.of_notes notes other withholds)
  | @released interp between last notes deferred told =>
      left
      intro other withholds
      have deferred' : (last.registry.record ref).state = .deferred := told.deferred deferred
      have inside : ref < last.registry.records.size :=
        Registry.lt_size_of_state (by rw [deferred']; simp)
      by_cases same : other = ref
      · subst same
        left
        refine (congrArg Record.state (Registry.record_alter _ _ _ _)).trans ?_
        rw [if_pos ⟨rfl, inside⟩]
        exact if_pos deferred'
      · have withholds' := withholds_of_dropped same told (Guards.of_notes notes other withholds)
        exact withholds'.of_drops (.completeRelease _ _ _) rfl

/-- The items that did not end a batch. -/
theorem guards_drainBatch
    {validates : Bool}
    {batch : List PendingRelease}
    {log log' : List CollectedObject}
    (draining : session.finalizer.draining = true)
    (ran : drainBatch idling validates generation batch log session = (.completed log', session')) :
    session.Guards session' := by
  induction batch generalizing log session with
  | nil =>
      cases ran
      exact .refl _
  | cons item rest step =>
      have handles := handles_drainItem idles_idling validates generation item session draining
      rw [drainBatch] at ran
      generalize drainItem idling validates generation item session = result at handles ran
      rcases result with ⟨_ | entry | _ | _, between⟩
      · rcases handles.guards_or_overdrawn with guards | ⟨⟨_, same⟩, -, -⟩
        · exact guards.trans (step ((handles.handled (by simp)).draining.trans draining) ran)
        · cases same
      · rcases handles.guards_or_overdrawn with guards | ⟨⟨_, same⟩, -, -⟩
        · exact guards.trans (step ((handles.handled (by simp)).draining.trans draining) ran)
        · cases same
      · cases ran
      · cases ran

/-! ## Drains -/

/--
A drain of the session gave the reference of a record back and found that too few
remained, and a callback to which this was reported panicked.
-/
def Exposes (session : Session) (ref : RecordRef) : Prop :=
  ∃ done item rest panic last,
    session.EndsAt idling done item rest (.panicked panic) last ∧
      item.record = ref ∧
        last.Overdrawn ref

theorem withholds_collect
    (session : Session)
    (ref : RecordRef)
    (withholds : session.registry.Withholds ref) :
    session.collect.2.registry.Withholds ref ∨ session.Exposes ref := by
  cases running : session.finalizer.draining with
  | true =>
      rw [collect_of_draining session running]
      exact .inl withholds
  | false =>
      have run := drainRun_collect running
      have draining := draining_started session
      have taken : session.started.registry.Withholds ref := Guards.of_eq rfl rfl ref withholds
      generalize session.collect = result at run ⊢
      cases run with
      | completed ran reported plain =>
          have reached := guards_drainBatch draining ran ref taken
          exact .inl (Guards.of_notes reported ref (Guards.of_eq rfl rfl ref reached))
      | @stopped done rest item log mismatch before last split ran ended =>
          have reached := guards_drainBatch draining ran ref taken
          have handles := handles_drainItem idles_idling session.finalizer.validates
            session.queue.generation item before (draining_drainBatch draining ran)
          rw [ended] at handles
          rcases handles.guards_or_overdrawn with guards | ⟨⟨_, same⟩, -, -⟩
          · exact .inl (Guards.of_eq rfl rfl ref (guards ref reached))
          · cases same
      | @panicked done rest item log panic before last split ran ended =>
          have reached := guards_drainBatch draining ran ref taken
          have handles := handles_drainItem idles_idling session.finalizer.validates
            session.queue.generation item before (draining_drainBatch draining ran)
          rw [ended] at handles
          have put (last : Session) (withholds : last.registry.Withholds ref) :
              (((last.abandon item.record).requeueFront rest).setDraining
                false).registry.Withholds ref :=
            Guards.of_eq rfl rfl ref (Guards.abandon last item.record ref withholds)
          rcases handles.guards_or_overdrawn with guards | ⟨-, overdrawn, others⟩
          · exact .inl (put last (guards ref reached))
          · by_cases same : ref = item.record
            · refine .inr ⟨done, item, rest, panic, last, ⟨split, ?_⟩, same.symm, same ▸ overdrawn⟩
              exact ⟨log, before, ran, ended⟩
            · exact .inl (put last (others ref same reached))

/-- The record is quarantined although its reference was given back. -/
theorem Exposes.detached
    (exposes : session.Exposes ref)
    (idle : session.finalizer.draining = false) :
    ref < session.collect.2.registry.records.size ∧
      (session.collect.2.record ref).state = .detached ∧
        .dropped ref ∈ session.collect.2.registry.journal := by
  rcases exposes with ⟨done, item, rest, panic, last, ⟨split, log, before, ran, ended⟩, rfl,
    overdrawn⟩
  have deferred : (last.registry.record item.record).state = .deferred := overdrawn.deferred
  have inside : item.record < last.registry.records.size :=
    Registry.lt_size_of_state (by rw [deferred]; simp)
  rw [collect_of_panicked idle split ran ended, abandon, if_pos overdrawn.deferred]
  simp only [quarantine, updateRegistry, Registry.quarantine, if_pos deferred]
  refine ⟨inside.trans_eq (Registry.size_alter _ _ _).symm, ?_, overdrawn.dropped⟩
  refine (congrArg Record.state (Registry.record_alter _ _ _ _)).trans ?_
  rw [if_pos ⟨rfl, inside⟩]

end Session

end Custody
