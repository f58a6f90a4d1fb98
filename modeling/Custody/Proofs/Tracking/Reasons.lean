import Custody.Proofs.Tracking.Progress

/-!
# Why records give up their references

A record that a drain settles was either quarantined, which the journal tells as
a fault of that record, or released, and then the journal tells that one
reference more was given back on its behalf.
-/

namespace Custody.Registry

variable {registry registry' registry'' : Registry} {ref : RecordRef} {event : Event}

/-! ## What is told -/

/-- The journal tells of an event more often than it did. -/
def TellsAnew (registry registry' : Registry) (event : Event) : Prop :=
  registry.journal.count event < registry'.journal.count event

theorem tellsAnew_enter (registry : Registry) (event : Event) :
    registry.TellsAnew (registry.enter event) event := by
  simp [TellsAnew, enter]

theorem TellsAnew.after
    (grown : registry.journal <+: registry'.journal)
    (told : registry'.TellsAnew registry'' event) :
    registry.TellsAnew registry'' event :=
  (grown.sublist.count_le event).trans_lt told

theorem TellsAnew.before
    (told : registry.TellsAnew registry' event)
    (grown : registry'.journal <+: registry''.journal) :
    registry.TellsAnew registry'' event :=
  told.trans_le (grown.sublist.count_le event)

/-! ## Reasons -/

/-- A drain detached a record, and the journal tells why. -/
def Quarantines (registry registry' : Registry) (ref : RecordRef) : Prop :=
  (registry'.record ref).state = .detached ∧
    (registry.TellsAnew registry' (.fault (.mismatched ref)) ∨
      registry.TellsAnew registry' (.fault (.dropFailed ref)))

/-- A record was released, and a reference was given back for it. -/
def GivesBack (registry registry' : Registry) (ref : RecordRef) : Prop :=
  (registry'.record ref).state = .released ∧ registry.TellsAnew registry' (.dropped ref)

/-- A record was settled, and the journal tells why. -/
def Concludes (registry registry' : Registry) (ref : RecordRef) : Prop :=
  registry.Quarantines registry' ref ∨ registry.GivesBack registry' ref

namespace Concludes

theorem owns
    (concludes : registry.Concludes registry' ref) :
    (registry'.record ref).state.owns = false := by
  rcases concludes with ⟨detached, -⟩ | ⟨released, -⟩
  · exact congrArg RecordState.owns detached
  · exact congrArg RecordState.owns released

theorem after
    (grown : registry.journal <+: registry'.journal)
    (concludes : registry'.Concludes registry'' ref) :
    registry.Concludes registry'' ref :=
  concludes.imp
    (fun quarantined => ⟨quarantined.1, quarantined.2.imp (.after grown) (.after grown)⟩)
    fun released => ⟨released.1, .after grown released.2⟩

theorem before
    (concludes : registry.Concludes registry' ref)
    (grown : registry'.journal <+: registry''.journal)
    (same : (registry''.record ref).state = (registry'.record ref).state) :
    registry.Concludes registry'' ref :=
  concludes.imp
    (fun quarantined => ⟨same.trans quarantined.1,
      quarantined.2.imp (fun told => told.before grown) fun told => told.before grown⟩)
    fun released => ⟨same.trans released.1, released.2.before grown⟩

end Concludes

/--
Records that owned nothing stayed as they were; of the others some own their
reference still, and the rest were settled for a reason.
-/
structure Justifies (registry registry' : Registry) : Prop where
  journal : registry.journal <+: registry'.journal
  kept :
    ∀ ref, (registry.record ref).state.owns = false →
      (registry'.record ref).state = (registry.record ref).state
  settled :
    ∀ ref, (registry.record ref).state.owns = true →
      (registry'.record ref).state.owns = true ∨ registry.Concludes registry' ref

namespace Justifies

theorem of_safe
    {kind : Event → Prop}
    (defers : registry.Defers kind registry') :
    registry.Justifies registry' := by
  have same (ref : RecordRef) :
      (registry'.record ref).state.owns = (registry.record ref).state.owns := by
    rcases defers.record ref with same | ⟨live, deferred⟩
    · rw [same]
    · rw [deferred, live]
      rfl
  rcases defers.journal with ⟨events, grown, -⟩
  refine ⟨⟨events, grown.symm⟩, fun ref spent => ?_, fun ref owns => .inl ((same ref).trans owns)⟩
  rcases defers.record ref with same | ⟨live, -⟩
  · rw [same]
  · rw [live] at spent
    cases spent

theorem refl (registry : Registry) : registry.Justifies registry :=
  of_safe (@Defers.refl Event.IsSafe registry)

theorem trans
    (first : registry.Justifies registry')
    (second : registry'.Justifies registry'') :
    registry.Justifies registry'' := by
  refine ⟨first.journal.trans second.journal, fun ref spent => ?_, fun ref owns => ?_⟩
  · have same := first.kept ref spent
    exact (second.kept ref (same ▸ spent)).trans same
  · rcases first.settled ref owns with owns' | concluded
    · exact (second.settled ref owns').imp_right (.after first.journal)
    · exact .inr (concluded.before second.journal (second.kept ref concluded.owns))

/-- Then a deferred record is settled, and the others are left alone. -/
theorem settle
    {change : Record → Record}
    (before : registry.Justifies registry')
    (deferred : (registry'.record ref).state = .deferred)
    (journal : registry'.journal <+: registry''.journal)
    (records : registry''.records = (registry'.alter ref change).records)
    (settled : registry.Concludes registry'' ref) :
    registry.Justifies registry'' := by
  have others {other : RecordRef} (distinct : other ≠ ref) :
      registry''.record other = registry'.record other := by
    rw [record_eq, records, ← record_eq, record_alter, if_neg fun same => distinct same.1]
  refine ⟨before.journal.trans journal, fun other spent => ?_, fun other owns => ?_⟩
  · have same := before.kept other spent
    have distinct : other ≠ ref := by
      rintro rfl
      rw [← same, deferred] at spent
      cases spent
    rw [others distinct]
    exact same
  · by_cases same : other = ref
    · exact .inr (same ▸ settled)
    · rcases before.settled other owns with owns' | concluded
      · exact .inl ((congrArg (RecordState.owns ∘ Record.state) (others same)).trans owns')
      · exact .inr (concluded.before journal (congrArg Record.state (others same)))

/-- A record that owned its reference gave back none if it owns it still, and else at most one. -/
theorem drops
    (justifies : registry.Justifies registry')
    (advances : registry.Advances registry')
    (owns : (registry.record ref).state.owns = true) :
    (registry'.record ref).state.owns = true ∧ registry'.drops ref = registry.drops ref ∨
      registry.Quarantines registry' ref ∨
        (registry'.record ref).state = .released ∧
          registry'.drops ref = registry.drops ref + 1 := by
  have bounded := advances.bounded ref
  have owed : registry.owed ref = 1 := by simp [owed, owns]
  rw [budget, budget, owed] at bounded
  rcases justifies.settled ref owns with owns' | quarantined | ⟨released, told⟩
  · have grown : registry.drops ref ≤ registry'.drops ref :=
      justifies.journal.sublist.count_le (Event.dropped ref)
    have owed' : registry'.owed ref = 1 := by simp [Registry.owed, owns']
    exact .inl ⟨owns', by omega⟩
  · exact .inr (.inl quarantined)
  · have more : registry.drops ref < registry'.drops ref := told
    exact .inr (.inr ⟨released, by omega⟩)

end Justifies

end Custody.Registry
