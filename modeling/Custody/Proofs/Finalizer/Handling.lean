import Custody.Proofs.Finalizer.Progress

/-!
# How an item is handled

A drain runs the hook of an item, checks the count of its object, gives one
reference back, checks what remained and marks the record.  Whatever stands
between these steps only takes notes: errors are told in the journal and counted
at the same time, and records are deferred.

An item is handled in one of few ways, which differ in whether the reference was
given back, in what became of the record, and in whether a callback panicked.
-/

namespace Custody

/-! ## What the journal tells of errors -/

/-- An entry that tells of an error. -/
def Event.isFault : Event → Bool
  | .fault _ => true
  | _ => false

/-- An entry that tells of a mismatch that stopped a drain. -/
def Event.isMismatch : Event → Bool
  | .fault (.mismatched _) => true
  | _ => false

/-- An entry that neither tells of a reference given back nor of a drain that was stopped. -/
@[simp]
def Event.IsNote : Event → Prop
  | .dropped _ => False
  | .fault (.mismatched _) => False
  | _ => True

theorem Event.IsNote.ne_dropped
    {event : Event}
    (isNote : event.IsNote)
    (ref : RecordRef) :
    event ≠ .dropped ref := by
  rintro rfl
  exact isNote

theorem Event.IsNote.isMismatch
    {event : Event}
    (isNote : event.IsNote) :
    event.isMismatch = false := by
  cases event with
  | fault fault =>
      cases fault with
      | mismatched ref => exact isNote.elim
      | _ => rfl
  | _ => rfl

theorem Event.IsOfHook.isNote
    {event : Event}
    (isOfHook : event.IsOfHook) :
    event.IsNote := by
  cases event with
  | deferred ref => trivial
  | notice notice => trivial
  | _ => exact isOfHook.elim

theorem Event.IsOfHook.isFault
    {event : Event}
    (isOfHook : event.IsOfHook) :
    event.isFault = false := by
  cases event with
  | deferred ref => rfl
  | notice notice => rfl
  | _ => exact isOfHook.elim

namespace Registry

/-- How many errors the journal tells of. -/
def faults (registry : Registry) : Nat :=
  registry.journal.countP Event.isFault

/-- How many mismatches the journal tells of that stopped a drain. -/
def mismatches (registry : Registry) : Nat :=
  registry.journal.countP Event.isMismatch

@[simp]
theorem faults_enter
    (registry : Registry)
    (event : Event) :
    (registry.enter event).faults = registry.faults + if event.isFault then 1 else 0 := by
  simp [faults, enter, List.countP_append, List.countP_singleton]

@[simp]
theorem mismatches_enter
    (registry : Registry)
    (event : Event) :
    (registry.enter event).mismatches =
      registry.mismatches + if event.isMismatch then 1 else 0 := by
  simp [mismatches, enter, List.countP_append, List.countP_singleton]

end Registry

namespace Session

variable {session session' session'' : Session} {ref : RecordRef}

/-! ## Taking notes -/

/--
Errors were told and counted, records were deferred, and the interpreter may have
been used.  Nothing was given back, no drain was stopped, and the number of
released records is the same.
-/
structure Notes (session session' : Session) : Prop where
  tracker : session'.tracker = session.tracker
  draining : session'.finalizer.draining = session.finalizer.draining
  released : session'.finalizer.released = session.finalizer.released
  counted :
    session'.finalizer.errors + session.registry.faults =
      session.finalizer.errors + session'.registry.faults
  size : session'.registry.records.size = session.registry.records.size
  record :
    ∀ ref,
      session'.record ref = session.record ref ∨
        (session.record ref).state = .live ∧
          session'.record ref = { session.record ref with state := .deferred }
  journal :
    ∃ events,
      session'.registry.journal = session.registry.journal ++ events ∧
        ∀ event ∈ events, event.IsNote

namespace Notes

theorem refl (session : Session) : session.Notes session where
  tracker := rfl
  draining := rfl
  released := rfl
  counted := rfl
  size := rfl
  record := fun _ => .inl rfl
  journal := ⟨[], by simp⟩

theorem trans
    (first : session.Notes session')
    (second : session'.Notes session'') :
    session.Notes session'' where
  tracker := second.tracker.trans first.tracker
  draining := second.draining.trans first.draining
  released := second.released.trans first.released
  counted := by
    have before := first.counted
    have after := second.counted
    omega
  size := second.size.trans first.size
  record := by
    intro ref
    rcases first.record ref with same | ⟨live, deferred⟩
    · rw [← same]
      exact second.record ref
    · rcases second.record ref with same | ⟨live', -⟩
      · exact .inr ⟨live, same.trans deferred⟩
      · rw [deferred] at live'
        cases live'
  journal := by
    rcases first.journal with ⟨early, grown, notes⟩
    rcases second.journal with ⟨late, grown', notes'⟩
    refine ⟨early ++ late, by rw [grown', grown, List.append_assoc], ?_⟩
    intro event member
    rcases List.mem_append.mp member with among | among
    · exact notes event among
    · exact notes' event among

/-- What was told remains told. -/
theorem told
    {event : Event}
    (notes : session.Notes session')
    (before : event ∈ session.registry.journal) :
    event ∈ session'.registry.journal := by
  rcases notes.journal with ⟨events, grown, -⟩
  rw [grown]
  exact List.mem_append_left events before

theorem drops
    (notes : session.Notes session')
    (ref : RecordRef) :
    session'.registry.drops ref = session.registry.drops ref := by
  rcases notes.journal with ⟨events, grown, isNote⟩
  have none : events.count (.dropped ref) = 0 :=
    List.count_eq_zero.mpr fun member => (isNote _ member).ne_dropped ref rfl
  rw [Registry.drops, grown, List.count_append, none, Nat.add_zero, Registry.drops]

theorem mismatches (notes : session.Notes session') :
    session'.registry.mismatches = session.registry.mismatches := by
  rcases notes.journal with ⟨events, grown, isNote⟩
  have none : events.countP Event.isMismatch = 0 :=
    List.countP_eq_zero.mpr fun event member => by simp [(isNote event member).isMismatch]
  rw [Registry.mismatches, grown, List.countP_append, none, Nat.add_zero, Registry.mismatches]

theorem deferred
    (notes : session.Notes session')
    (deferred : (session.record ref).state = .deferred) :
    (session'.record ref).state = .deferred := by
  rcases notes.record ref with same | ⟨live, -⟩
  · exact (congrArg Record.state same).trans deferred
  · exact absurd (live.symm.trans deferred) (by simp)

/-- Neither records nor the journal were touched, nor what the finalizer counts. -/
theorem of_eq
    (tracker : session'.tracker = session.tracker)
    (draining : session'.finalizer.draining = session.finalizer.draining)
    (released : session'.finalizer.released = session.finalizer.released)
    (errors : session'.finalizer.errors = session.finalizer.errors)
    (records : session'.registry.records = session.registry.records)
    (journal : session'.registry.journal = session.registry.journal) :
    session.Notes session' where
  tracker := tracker
  draining := draining
  released := released
  counted := by rw [errors, Registry.faults, Registry.faults, journal]
  size := by rw [records]
  record := by
    intro ref
    left
    rw [Session.record, Registry.record, records]
    rfl
  journal := ⟨[], by simp [journal], nofun⟩

theorem of_defers
    {registry : Registry}
    (defers : session.registry.Defers Event.IsOfHook registry) :
    session.Notes { session with registry } where
  tracker := rfl
  draining := rfl
  released := rfl
  counted := by
    rcases defers.journal with ⟨events, grown, isOfHook⟩
    have none : events.countP Event.isFault = 0 :=
      List.countP_eq_zero.mpr fun event member => by simp [(isOfHook event member).isFault]
    rw [Registry.faults, Registry.faults, grown, List.countP_append, none, Nat.add_zero]
  size := defers.size
  record := defers.record
  journal := by
    rcases defers.journal with ⟨events, grown, isOfHook⟩
    exact ⟨events, grown, fun event member => (isOfHook event member).isNote⟩

theorem updateRegistry
    {change : Registry → Registry}
    (defers : session.registry.Defers Event.IsOfHook (change session.registry)) :
    session.Notes (session.updateRegistry change) :=
  of_defers defers

theorem updateInterp
    (session : Session)
    (change : Interpreter → Interpreter) :
    session.Notes (session.updateInterp change) :=
  of_eq rfl rfl rfl rfl rfl rfl

theorem enter
    {event : Event}
    (session : Session)
    (isNote : event.IsNote)
    (isSound : event.isFault = false) :
    session.Notes (session.enter event) where
  tracker := rfl
  draining := rfl
  released := rfl
  counted := by simp [Session.enter, Session.updateRegistry, isSound]
  size := rfl
  record := fun _ => .inl rfl
  journal := ⟨[event], rfl, by simpa using isNote⟩

theorem announce
    (session : Session)
    (notice : Notice) :
    session.Notes (session.announce notice) :=
  enter session trivial rfl

/-! ### Callbacks -/

theorem unsubscribe
    (session : Session)
    (id : SubscriptionId) :
    session.Notes (session.unsubscribe id).2 := by
  have kept :
      (session.finalizer.unsubscribe id).2.released = session.finalizer.released ∧
        (session.finalizer.unsubscribe id).2.errors = session.finalizer.errors := by
    rw [Finalizer.unsubscribe]
    split
    · exact ⟨rfl, rfl⟩
    · split
      · exact ⟨rfl, rfl⟩
      · split
        · exact ⟨rfl, rfl⟩
        · exact ⟨rfl, rfl⟩
  exact of_eq rfl (Finalizer.Trims.unsubscribe session.finalizer id).draining kept.1 kept.2 rfl rfl

/-- An error is told and counted. -/
theorem fault
    {fault : Fault}
    (isNote : (Event.fault fault).IsNote)
    (session : Session) :
    session.Notes ((session.enter (.fault fault)).updateFinalizer Finalizer.countError) where
  tracker := rfl
  draining := rfl
  released := rfl
  counted := by
    simp only [Session.enter, Session.updateRegistry, Session.updateFinalizer,
      Finalizer.countError, Registry.faults_enter, Event.isFault, if_true]
    omega
  size := rfl
  record := fun _ => .inl rfl
  journal := ⟨[.fault fault], rfl, by simpa using isNote⟩

instance : Resolving Notes Event.IsNote where
  refl := refl
  trans := trans
  unsubscribe := unsubscribe
  announce := fun _ session => announce session _
  fault := fault
  updateInterp := updateInterp
  draining := draining

/-- Once an error is counted, callbacks are told of it. -/
theorem deliver_counted
    (record : Option RecordRef)
    (error : BridgeError)
    (session : Session) :
    (session.updateFinalizer Finalizer.countError).Notes (report record error session).2 :=
  Incidental.deliver (fun _ _ => trivial) _ _

theorem reportCollected_ite
    (isEmpty : Bool)
    (count generation : Nat)
    (session : Session) :
    session.Notes
      (if isEmpty then (.ok (), session)
        else Session.reportCollected count generation session).2 :=
  Incidental.reportCollected_ite (fun _ _ _ _ => trivial) isEmpty count generation session

/-! ### Phases -/

variable {nested : Session → Except Abort Nat × Session}
variable {validates : Bool} {item : PendingRelease} {hooked between last : Session}

theorem of_hook
    {outcome : Except Panic Unit}
    (ran :
      runHook item.record item.hook (session.enter (.takenUp item.record)) = (outcome, hooked)) :
    session.Notes hooked := by
  have entered (session : Session) : session.Notes (session.enter (.hookRan item.record)) :=
    enter session trivial rfl
  have taken : session.Notes (session.enter (.takenUp item.record)) := enter session trivial rfl
  have told := taken.trans (Incidental.runHook
    (fun hook => (entered _).trans (of_defers (.run hook item.record _))) trivial
    (fun _ _ _ => trivial) item.hook)
  rwa [ran] at told

/-- An error is told, counted and delivered. -/
theorem of_report
    {fault : Fault}
    {record : Option RecordRef}
    {error : BridgeError}
    {outcome : Except Panic Unit}
    (reported : report record error (session.enter (.fault fault)) = (outcome, last))
    (isNote : (Event.fault fault).IsNote) :
    session.Notes last :=
  Incidental.of_report reported isNote fun _ _ _ => trivial

theorem of_check
    {outcome : Except Panic (Option Mismatch)}
    (checked :
      (if validates then validate nested ref session else (.ok none, session)) =
        (outcome, between))
    (idles : Idles nested)
    (running : session.finalizer.draining = true) :
    session.Notes between :=
  Resolving.of_check checked (fun _ _ _ => trivial) idles running

theorem of_recheck
    {remaining : Int}
    {outcome : Except Panic Unit}
    (checked :
      (if validates then checkRemaining ref remaining session else (.ok (), session)) =
        (outcome, last)) :
    session.Notes last :=
  Incidental.of_recheck checked trivial fun _ _ _ => trivial

/-- A callback panics in the check of what remained only if too little did. -/
theorem shortfall_of_panic
    {remaining : Int}
    {panic : Panic}
    (checked :
      (if validates then checkRemaining ref remaining session else (.ok (), session)) =
        (.error panic, session')) :
    .fault (.shortfall ref) ∈ session'.registry.journal := by
  split at checked
  · rw [checkRemaining] at checked
    split at checked
    · cases checked
    · next mismatch _ =>
        have told := deliver_counted (some ref) (.incorrectRefCount mismatch)
          (session.enter (.fault (.shortfall ref)))
        rw [checked] at told
        exact told.told (List.mem_append_right _ List.mem_cons_self)
  · cases checked

end Notes

/-! ## Handling -/

/-- How an item is handled: how that ends, and in which session. -/
inductive Handles
    (generation : Nat)
    (ref : RecordRef)
    (session : Session) :
    ItemEnd × Session → Prop where
  /-- A callback panicked before the reference was given back. -/
  | interrupted {panic : Panic} {last : Session} (notes : session.Notes last) :
      Handles generation ref session (.panicked panic, last)
  /-- The record was no longer deferred. -/
  | passed {last : Session} (notes : session.Notes last)
      (settled : (last.record ref).state ≠ .deferred) :
      Handles generation ref session (.skipped, last)
  /-- The count was too low, and no resolver settled it. -/
  | stopped {mismatch : Mismatch} {between : Session} (notes : session.Notes between)
      (deferred : (between.record ref).state = .deferred) :
      Handles generation ref session
        (.stopped mismatch, (between.quarantine ref).enter (.fault (.mismatched ref)))
  /-- The object was gone, which was reported. -/
  | bereft {outcome : ItemEnd} {between last : Session} (notes : session.Notes between)
      (deferred : (between.record ref).state = .deferred)
      (told : (between.quarantine ref).Notes last)
      (ended : outcome = .skipped ∨ ∃ panic, outcome = .panicked panic) :
      Handles generation ref session (outcome, last)
  /-- The reference was given back, too few remained, and a callback for that panicked. -/
  | exposed {panic : Panic} {interp : Interpreter} {between last : Session}
      (notes : session.Notes between)
      (deferred : (between.record ref).state = .deferred)
      (told : ({ between with interp }.enter (.dropped ref)).Notes last)
      (short : .fault (.shortfall ref) ∈ last.registry.journal) :
      Handles generation ref session (.panicked panic, last)
  /-- The reference was given back and the record is released. -/
  | released {interp : Interpreter} {between last : Session} (notes : session.Notes between)
      (deferred : (between.record ref).state = .deferred)
      (told : ({ between with interp }.enter (.dropped ref)).Notes last) :
      Handles generation ref session
        (.released (last.complete generation ref).1, (last.complete generation ref).2)

variable {generation : Nat}

theorem handles_referenceRun
    {validates : Bool}
    {between : Session}
    {result : ItemEnd × Session}
    (run : ReferenceRun validates generation ref between result)
    (notes : session.Notes between)
    (deferred : (between.record ref).state = .deferred) :
    Handles generation ref session result := by
  cases run with
  | bereft gone reported =>
      exact .bereft notes deferred (.of_report reported trivial) (.inl rfl)
  | unheard gone reported =>
      exact .bereft notes deferred (.of_report reported trivial) (.inr ⟨_, rfl⟩)
  | exposed gaveBack checked =>
      exact .exposed notes deferred (.of_recheck checked) (Notes.shortfall_of_panic checked)
  | released gaveBack checked => exact .released notes deferred (.of_recheck checked)

theorem handles_drainItem
    {nested : Session → Except Abort Nat × Session}
    (idles : Idles nested)
    (validates : Bool)
    (generation : Nat)
    (item : PendingRelease)
    (session : Session)
    (draining : session.finalizer.draining = true) :
    Handles generation item.record session
      (drainItem nested validates generation item session) := by
  have run := itemRun_drainItem nested validates generation item session
  generalize drainItem nested validates generation item session = result at run ⊢
  cases run with
  | interrupted ran => exact .interrupted (.of_hook ran)
  | passed ran settled => exact .passed (.of_hook ran) settled
  | unresolved ran deferred checked =>
      have notes := Notes.of_hook ran
      exact .interrupted (notes.trans (.of_check checked idles (notes.draining.trans draining)))
  | stopped ran deferred checked =>
      have notes := Notes.of_hook ran
      have asked := Notes.of_check checked idles (notes.draining.trans draining)
      exact .stopped (notes.trans asked) (asked.deferred deferred)
  | cleared ran deferred checked run =>
      have notes := Notes.of_hook ran
      have asked := Notes.of_check checked idles (notes.draining.trans draining)
      exact handles_referenceRun run (notes.trans asked) (asked.deferred deferred)

end Session

end Custody
