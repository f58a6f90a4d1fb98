import Custody.Proofs.Finalizer.Calm
import Custody.Proofs.Finalizer.Progress
import Custody.Proofs.Interpreter.Services
import Custody.Proofs.Tracking.Accounts

/-!
# Drains keep the ledger

The host has references on three accounts: those that the caller owns, those of
the table of exceptions, and one for each record that is live or deferred.  A
session is sound if the interpreter keeps its ledger for all of them, the
tracker is accurate, and no count was found to be too low.  If handlers may panic
or the tracker may be closed, some references more may be lost.

A drain gives references back on behalf of its records.  In a sound session the
count of an object is never less than the number of its owners, so that no
mismatch is found and no resolver asked; a reference can always be given back.
Only when the handles are used up may all of this fail, and then there is
nothing to keep.
-/

namespace Custody

namespace Registry

variable {registry registry' : Registry} {ref : RecordRef}

theorem Defers.handle
    {kind : Event → Prop}
    (defers : registry.Defers kind registry')
    (ref : RecordRef) :
    (registry'.record ref).handle = (registry.record ref).handle := by
  rcases defers.record ref with same | ⟨-, deferred⟩
  · rw [same]
  · rw [deferred]

/-- A deferred record that is completed no longer owns its reference. -/
theorem held_completeRelease
    (tracker : TrackerRef)
    (deferred : (registry.record ref).state = .deferred) :
    (registry.record ref).handle ::ₘ (registry.completeRelease tracker ref).held =
      registry.held := by
  have owned : (registry.record ref).state.owns = true := by
    rw [deferred]
    rfl
  exact registry.held_alter_of_owns
    (fun entry =>
      { entry with
        state := if entry.state = .deferred then .released else entry.state
        collected := true })
    owned (by simp only [deferred, if_true]; rfl)

end Registry

/-- A mismatch is amiss, and so is anything else that ends an operation of a quiet runtime. -/
def Abort.IsAmiss (quiet : Prop) : Abort → Prop
  | .error (.incorrectRefCount _) => True
  | _ => quiet

theorem Abort.isAmiss_of_quiet
    {quiet : Prop}
    (abort : Abort)
    (isQuiet : quiet) :
    abort.IsAmiss quiet := by
  unfold IsAmiss
  split
  · trivial
  · exact isQuiet

namespace Session

/-- An item ends the drain of its batch; a panic is left out unless handlers are quiet. -/
def ItemEnd.IsEarly (quiet : Prop) : ItemEnd → Prop
  | .skipped => False
  | .released _ => False
  | .stopped _ => True
  | .panicked _ => quiet

/-- A batch was not drained to its end; a panic is left out unless handlers are quiet. -/
def BatchEnd.IsEarly (quiet : Prop) : BatchEnd → Prop
  | .completed _ => False
  | .stopped _ _ => True
  | .panicked _ => quiet

/-- The references of the table of exceptions and those of records. -/
def reserve (session : Session) : Multiset Handle :=
  session.table.references + session.registry.held

/--
The interpreter keeps its ledger for the references that the caller owns, those
of the table of exceptions and those of records.
-/
def Ledger
    (acyclic : Prop)
    (session : Session)
    (owned : Multiset Handle) :
    Prop :=
  session.interp.Ledger acyclic (owned + session.reserve)

/-- References move between the caller and records. -/
theorem Ledger.moveRegistry
    {acyclic : Prop}
    {session : Session}
    {owned owned' : Multiset Handle}
    (registry : Registry)
    (ledger : session.Ledger acyclic owned)
    (total : owned' + registry.held = owned + session.registry.held) :
    ({ session with registry } : Session).Ledger acyclic owned' := by
  refine Interpreter.Ledger.congr _ ledger ?_
  rw [reserve, reserve, add_left_comm, total, add_left_comm]

theorem Ledger.of_spares
    {acyclic : Prop}
    {session session' : Session}
    {owned : Multiset Handle}
    (ledger : session.Ledger acyclic owned)
    (spares : session.Spares session') :
    session'.Ledger acyclic owned := by
  have same : session'.reserve = session.reserve := by
    rw [reserve, reserve, spares.table, spares.registry.held]
  rw [Session.Ledger, spares.interp, same]
  exact ledger

/-- The reference of a record that leaves becomes the caller's. -/
theorem Ledger.strike
    {acyclic : Prop}
    {session : Session}
    {owned : Multiset Handle}
    {ref : RecordRef}
    (registry : Registry)
    (ledger : session.Ledger acyclic owned)
    (held : (session.registry.record ref).handle ::ₘ registry.held = session.registry.held) :
    ({ session with registry } : Session).Ledger acyclic
      ((session.registry.record ref).handle ::ₘ owned) := by
  apply ledger.moveRegistry
  rw [Multiset.cons_add, ← Multiset.add_cons, held]

theorem register_eq_ok
    {session session' : Session}
    {ref : RecordRef}
    {handle : Handle}
    (registered : session.register handle = .ok (ref, session')) :
    ∃ typeName,
      session' =
          { session with
            registry := (session.registry.addRecord session.tracker handle typeName).2 } ∧
        ref = session.registry.records.size := by
  rw [register] at registered
  split at registered
  · cases registered
  · split at registered
    · cases registered
    · split at registered
      · cases registered
      · next typeName _ =>
          cases registered
          exact ⟨typeName, rfl, rfl⟩

theorem register_ne_mismatch
    (session : Session)
    (handle : Handle)
    (mismatch : Mismatch) :
    session.register handle ≠ .error (.incorrectRefCount mismatch) := by
  rw [register]
  split
  · simp
  · split
    · simp
    · split
      · simp
      · simp

/-- The tracker of a runtime is accurate, if quiet also open, and its callbacks are calm. -/
structure InOrder (quiet : Prop) (session : Session) : Prop where
  accurate : session.registry.Accurate session.tracker
  calm : session.finalizer.Calm quiet
  isOpen : quiet → session.ownTracker.isOpen = true

namespace InOrder

variable {quiet : Prop} {session session' : Session}

theorem of_notifies
    (order : session.InOrder quiet)
    (notifies : session.Notifies session') :
    session'.InOrder quiet where
  accurate := by
    rw [notifies.tracker]
    exact order.accurate.of_defers notifies.registry
  calm := order.calm.of_trims notifies.finalizer
  isOpen := by
    intro isQuiet
    have books := notifies.registry.books session.tracker
    rw [ownTracker, notifies.tracker]
    exact (congrArg (·.2.2.1) books).trans (order.isOpen isQuiet)

theorem dropped
    (order : session.InOrder quiet)
    (interp : Interpreter)
    (ref : RecordRef) :
    ({ session with interp }.enter (.dropped ref)).InOrder quiet where
  accurate := order.accurate.congr rfl fun _ => rfl
  calm := order.calm
  isOpen := order.isOpen

theorem complete
    (order : session.InOrder quiet)
    (generation : Nat)
    (ref : RecordRef) :
    (session.complete generation ref).2.InOrder quiet where
  accurate := order.accurate.completeRelease ref
  calm := order.calm
  isOpen := fun isQuiet => (Registry.isOpen_completeRelease _ _ _ _).trans (order.isOpen isQuiet)

theorem quarantine
    (order : session.InOrder quiet)
    (ref : RecordRef) :
    (session.quarantine ref).InOrder quiet where
  accurate := order.accurate.quarantine ref
  calm := order.calm
  isOpen := fun isQuiet => (Registry.isOpen_quarantine _ _ _ _).trans (order.isOpen isQuiet)

end InOrder

/--
Everything is in order, the ledger is kept, and no count was found to be too
low.  A runtime is quiet if it is in use and no handler panics.  If it is not,
panics and refused registrations may have cost some references, which nobody is
going to give back.
-/
structure Sound
    (quiet acyclic : Prop)
    (session : Session)
    (owned : Multiset Handle) :
    Prop extends InOrder quiet session where
  accounts : ∃ lost, (quiet → lost = 0) ∧ session.Ledger acyclic (owned + lost)
  untroubled : session.interp.heap.HasRoom → session.registry.Untroubled

/--
A runtime is sound, and what was amiss when an operation ended early was that
the handles are used up.
-/
structure Smooth
    {α : Type}
    (quiet acyclic : Prop)
    (session : Session)
    (owned : Multiset Handle)
    (outcome : Except Abort α) :
    Prop where
  sound : session.Sound quiet acyclic owned
  full :
    ∀ abort, outcome = .error abort → abort.IsAmiss quiet → ¬ session.interp.heap.HasRoom

theorem Smooth.ok
    {α : Type}
    {quiet acyclic : Prop}
    {session : Session}
    {owned : Multiset Handle}
    {value : α}
    (sound : session.Sound quiet acyclic owned) :
    session.Smooth quiet acyclic owned (.ok value) :=
  ⟨sound, nofun⟩

theorem Smooth.error
    {α : Type}
    {quiet acyclic : Prop}
    {session : Session}
    {owned : Multiset Handle}
    {abort : Abort}
    (sound : session.Sound quiet acyclic owned)
    (full : abort.IsAmiss quiet → ¬ session.interp.heap.HasRoom) :
    session.Smooth quiet acyclic owned (.error abort : Except Abort α) :=
  ⟨sound, fun _ same => by cases same; exact full⟩

@[simp]
theorem interp_abandon (session : Session) (ref : RecordRef) :
    (session.abandon ref).interp = session.interp := by
  rw [abandon]
  split
  · rfl
  · rfl

namespace Sound

variable {quiet acyclic : Prop} {session session' : Session} {owned owned' : Multiset Handle}
variable {ref : RecordRef}

/-! ## Parts -/

theorem congr
    (owned' : Multiset Handle)
    (sound : session.Sound quiet acyclic owned)
    (total : owned' = owned) :
    session.Sound quiet acyclic owned' :=
  total ▸ sound

/-- Nothing is lost as long as handlers are quiet. -/
theorem ledger
    (sound : session.Sound quiet acyclic owned)
    (isQuiet : quiet) :
    session.Ledger acyclic owned := by
  rcases sound.accounts with ⟨lost, nothing, ledger⟩
  rwa [nothing isQuiet, add_zero] at ledger

/-- The interpreter keeps its ledger for what the caller owns and for what others do. -/
theorem exists_ledger (sound : session.Sound quiet acyclic owned) :
    ∃ rest, session.interp.Ledger acyclic (owned + rest) ∧ session.registry.held ≤ rest := by
  rcases sound.accounts with ⟨lost, -, ledger⟩
  refine ⟨lost + session.reserve, Interpreter.Ledger.congr _ ledger (add_assoc _ _ _).symm, ?_⟩
  exact (Multiset.le_add_left _ _).trans (Multiset.le_add_left _ _)

/-- The interpreter is used, whatever others own, and the rest left alone. -/
theorem useInterp
    {interp : Interpreter}
    (sound : session.Sound quiet acyclic owned)
    (keeps :
      ∀ rest,
        session.interp.Ledger acyclic (owned + rest) → interp.Ledger acyclic (owned' + rest)) :
    { session with interp }.Sound quiet acyclic owned' := by
  rcases sound.accounts with ⟨lost, nothing, ledger⟩
  have before := Interpreter.Ledger.congr _ ledger (add_assoc _ _ _).symm
  refine ⟨⟨sound.accurate, sound.calm, sound.isOpen⟩, ⟨lost, nothing, ?_⟩, fun room => ?_⟩
  · exact (keeps _ before).congr _ (add_assoc _ _ _)
  · exact sound.untroubled (before.hasRoom_of_keeps keeps room)

/-- The caller takes one more reference to an object. -/
theorem incref
    {handle : Handle}
    {interp : Interpreter}
    (sound : session.Sound quiet acyclic owned)
    (taken : session.interp.incref handle = .ok interp) :
    { session with interp }.Sound quiet acyclic (handle ::ₘ owned) :=
  sound.useInterp fun _ ledger => (ledger.incref taken).congr _ (Multiset.cons_add _ _ _)

theorem updateFinalizer
    {change : Finalizer → Finalizer}
    (sound : session.Sound quiet acyclic owned)
    (calm : (change session.finalizer).Calm quiet) :
    (session.updateFinalizer change).Sound quiet acyclic owned :=
  { sound with calm }

theorem of_spares
    (sound : session.Sound quiet acyclic owned)
    (spares : session.Spares session') :
    session'.Sound quiet acyclic owned := by
  rcases sound.accounts with ⟨lost, nothing, ledger⟩
  refine ⟨sound.toInOrder.of_notifies spares.toNotifies, ⟨lost, nothing, ?_⟩, fun room => ?_⟩
  · exact ledger.of_spares spares
  · rw [spares.interp] at room
    exact spares.untroubled (sound.untroubled room)

/-- Once the handles are used up there is nothing to keep but the order. -/
theorem of_exhausted
    {named : Multiset Handle}
    (order : session.InOrder quiet)
    (ledger : session.interp.Ledger acyclic named)
    (full : ¬ session.interp.heap.HasRoom) :
    session.Sound quiet acyclic owned :=
  ⟨order, ⟨0, fun _ => rfl, Interpreter.Ledger.of_full ledger full⟩, fun room => absurd room full⟩

/-- Without room there is nothing to keep. -/
theorem of_full
    (sound : session.Sound quiet acyclic owned)
    (full : ¬ session.interp.heap.HasRoom) :
    session.Sound quiet acyclic owned' := by
  rcases sound.exists_ledger with ⟨rest, ledger, -⟩
  exact of_exhausted sound.toInOrder ledger full

/-- The caller loses references, which does not happen to a quiet runtime. -/
theorem lose
    (sound : session.Sound quiet acyclic owned)
    (loud : ¬ quiet)
    (fewer : owned' ≤ owned) :
    session.Sound quiet acyclic owned' := by
  rcases sound.accounts with ⟨lost, -, ledger⟩
  rcases Multiset.le_iff_exists_add.mp fewer with ⟨dropped, rfl⟩
  refine ⟨sound.toInOrder, ⟨dropped + lost, fun isQuiet => absurd isQuiet loud, ?_⟩,
    sound.untroubled⟩
  rwa [← add_assoc]

theorem isLive_of_mem
    {handle : Handle}
    (sound : session.Sound quiet acyclic owned)
    (room : session.interp.heap.HasRoom)
    (member : handle ∈ owned) :
    session.interp.heap.isLive handle = true := by
  rcases sound.exists_ledger with ⟨rest, ledger, -⟩
  exact ledger.isLive_of_mem room (Multiset.mem_add.mpr (.inl member))

/-- The object of a record that owns a reference is there. -/
theorem isLive_of_owns
    (sound : session.Sound quiet acyclic owned)
    (room : session.interp.heap.HasRoom)
    (owns : (session.record ref).state.owns = true) :
    session.interp.heap.isLive (session.record ref).handle = true := by
  rcases sound.exists_ledger with ⟨rest, ledger, among⟩
  exact ledger.isLive_of_mem room
    (Multiset.mem_add.mpr (.inr (Multiset.mem_of_le among (Registry.mem_held_of_owns owns))))

end Sound

/-- What ended early may leave the caller with less. -/
theorem Smooth.lose
    {α : Type}
    {quiet acyclic : Prop}
    {session : Session}
    {owned owned' : Multiset Handle}
    {outcome : Except Abort α}
    (smooth : session.Smooth quiet acyclic owned outcome)
    (abort : Abort)
    (ended : outcome = .error abort)
    (fewer : owned' ≤ owned) :
    session.Sound quiet acyclic owned' := by
  by_cases isAmiss : abort.IsAmiss quiet
  · exact smooth.sound.of_full (smooth.full abort ended isAmiss)
  · exact smooth.sound.lose (fun isQuiet => isAmiss (abort.isAmiss_of_quiet isQuiet)) fewer

namespace Sound

variable {quiet acyclic : Prop} {session session' : Session} {owned owned' : Multiset Handle}
variable {ref : RecordRef}

/-! ## Checking counts -/

/-- An object has at least as many references as records own one. -/
theorem mismatch?_eq_none
    (sound : session.Sound quiet acyclic owned)
    (room : session.interp.heap.HasRoom)
    (owns : (session.record ref).state.owns = true) :
    session.mismatch? ref = none := by
  rcases sound.exists_ledger with ⟨rest, ledger, among⟩
  rcases (Heap.isLive_iff _ _).mp (sound.isLive_of_owns room owns) with ⟨entry, found⟩
  have counted := (ledger.heap room).1.counted found
  have fewer : session.otherOwners ref < session.registry.held.count (session.record ref).handle :=
    sound.accurate.others_lt_count_held owns
  have covered := Multiset.count_le_of_le (session.record ref).handle among
  have enough : ((session.otherOwners ref + 1 : Nat) : Int) ≤ entry.refcount := by
    rw [counted]
    simp only [Multiset.count_add]
    omega
  have observed :
      session.interp.heap.refcount? (session.record ref).handle = some entry.refcount := by
    simp [Heap.refcount?, found]
  rw [mismatch?]
  simp only [observed, Option.getD_some]
  rw [if_pos (by exact_mod_cast enough)]

/-- A check finds no mismatch, unless the handles are used up. -/
theorem validate
    {nested : Session → Except Abort Nat × Session}
    (sound : session.Sound quiet acyclic owned)
    (idles : Idles nested)
    (draining : session.finalizer.draining = true)
    (owns : (session.record ref).state.owns = true) :
    (validate nested ref session).2.Sound quiet acyclic owned ∧
      ((validate nested ref session).1 = .ok none ∨
        ¬ (validate nested ref session).2.interp.heap.HasRoom) := by
  by_cases room : session.interp.heap.HasRoom
  · have passed : Session.validate nested ref session = (.ok none, session) := by
      simp only [Session.validate, sound.mismatch?_eq_none room owns]
    rw [passed]
    exact ⟨sound, .inl rfl⟩
  · have ages := ages_validate idles sound.calm ref draining
    have full := ages.full room
    have order := sound.toInOrder.of_notifies
      (Resolving.validate (by simp) idles ref session draining)
    rcases sound.exists_ledger with ⟨rest, ledger, -⟩
    have forgotten : (Session.validate nested ref session).2.interp.Ledger acyclic 0 := by
      refine ⟨.of_full full, fun name listed => ?_⟩
      simpa [Interpreter.lookup, ages.builtins] using ledger.named name listed
    exact ⟨of_exhausted order forgotten full, .inr full⟩

theorem validate_ite
    {nested : Session → Except Abort Nat × Session}
    (sound : session.Sound quiet acyclic owned)
    (idles : Idles nested)
    (validates : Bool)
    (draining : session.finalizer.draining = true)
    (owns : (session.record ref).state.owns = true) :
    (if validates then Session.validate nested ref session
        else (.ok none, session)).2.Sound quiet acyclic owned ∧
      ((if validates then Session.validate nested ref session else (.ok none, session)).1 =
          .ok none ∨
        ¬ (if validates then Session.validate nested ref session
            else (.ok none, session)).2.interp.heap.HasRoom) := by
  cases validates with
  | true => exact sound.validate idles draining owns
  | false => exact ⟨sound, .inl (by simp only [Bool.false_eq_true, if_false])⟩

/-- What remains of an object is enough for the other records that own a reference to it. -/
theorem shortfall?_eq_none
    {interp : Interpreter}
    {remaining : Int}
    (sound : session.Sound quiet acyclic owned)
    (room : session.interp.heap.HasRoom)
    (owns : (session.record ref).state.owns = true)
    (released : session.interp.decref (session.record ref).handle = .ok (remaining, interp)) :
    session.shortfall? ref remaining = none := by
  rcases sound.exists_ledger with ⟨rest, ledger, among⟩
  rcases Multiset.exists_cons_of_mem (Registry.mem_held_of_owns owns) with ⟨others, held⟩
  have fewer : session.otherOwners ref < session.registry.held.count (session.record ref).handle :=
    sound.accurate.others_lt_count_held owns
  rw [show session.registry.held = (session.record ref).handle ::ₘ others from held] at among fewer
  rcases Multiset.le_iff_exists_add.mp among with ⟨more, rfl⟩
  rw [Multiset.count_cons_self] at fewer
  have balanced := (ledger.heap room).1
  rw [Multiset.cons_add, Multiset.add_cons, Multiset.cons_add] at balanced
  rcases balanced.decref with ⟨heap, counted, -⟩
  rcases Interpreter.decref_eq_ok_iff.mp released with ⟨heap', counted', -⟩
  rw [counted] at counted'
  cases counted'
  rw [shortfall?]
  refine if_pos ?_
  simp only [Multiset.count_add]
  omega

/-! ## Giving references back -/

/-- A record that is quarantined loses its reference. -/
theorem quarantine
    (sound : session.Sound quiet acyclic owned)
    (excused : quiet → ¬ session.interp.heap.HasRoom)
    (ref : RecordRef) :
    (session.quarantine ref).Sound quiet acyclic owned := by
  have order := sound.toInOrder.quarantine ref
  rcases sound.exists_ledger with ⟨rest, kept, -⟩
  by_cases isQuiet : quiet
  · exact of_exhausted order kept (excused isQuiet)
  · rcases sound.accounts with ⟨lost, -, ledger⟩
    refine ⟨order, ?_, fun room => ?_⟩
    · by_cases deferred : (session.registry.record ref).state = .deferred
      · have owns : (session.registry.record ref).state.owns = true := congrArg _ deferred
        have held := session.registry.held_alter_of_owns
          (fun record => { record with state := .detached }) owns rfl
        have struck := ledger.strike
          ((session.registry.setState ref .detached).unregister session.tracker ref) held
        refine ⟨(session.registry.record ref).handle ::ₘ lost, fun other => absurd other isQuiet, ?_⟩
        simp only [Session.quarantine, updateRegistry, Registry.quarantine, if_pos deferred]
        rwa [Multiset.add_cons]
      · refine ⟨lost, fun other => absurd other isQuiet, ?_⟩
        simp only [Session.quarantine, updateRegistry, Registry.quarantine, if_neg deferred]
        exact ledger.moveRegistry _ rfl
    · have untroubled := sound.untroubled room
      rwa [Registry.Untroubled, Session.quarantine, updateRegistry, Registry.journal_quarantine]

theorem abandon
    (sound : session.Sound quiet acyclic owned)
    (excused : quiet → ¬ session.interp.heap.HasRoom)
    (ref : RecordRef) :
    (session.abandon ref).Sound quiet acyclic owned := by
  rw [Session.abandon]
  split
  · exact sound.quarantine excused ref
  · exact sound

/--
After its reference was given back, and before it is completed, a deferred
record is still on the books; `rest` is what the other records hold.
-/
theorem complete
    {rest : Multiset Handle}
    (order : session.InOrder quiet)
    (deferred : (session.record ref).state = .deferred)
    (held : session.registry.held = (session.record ref).handle ::ₘ rest)
    (accounts :
      ∃ lost,
        (quiet → lost = 0) ∧
          session.interp.Ledger acyclic (owned + lost + (session.table.references + rest)))
    (untroubled : session.interp.heap.HasRoom → session.registry.Untroubled)
    (generation : Nat) :
    (session.complete generation ref).2.Sound quiet acyclic owned := by
  rcases accounts with ⟨lost, nothing, ledger⟩
  refine ⟨order.complete generation ref, ⟨lost, nothing, ?_⟩, untroubled⟩
  have settled := Registry.held_completeRelease session.tracker deferred
  rw [held] at settled
  have remaining : (session.complete generation ref).2.registry.held = rest :=
    (Multiset.cons_inj_right _).mp settled
  show session.interp.Ledger acyclic (owned + lost + (session.table.references + _))
  rw [remaining]
  exact ledger

/-- A check of what remained changes nothing, unless the handles are used up. -/
theorem checkRemaining_ite
    {interp : Interpreter}
    {remaining : Int}
    (sound : session.Sound quiet acyclic owned)
    (room : session.interp.heap.HasRoom)
    (owns : (session.record ref).state.owns = true)
    (released : session.interp.decref (session.record ref).handle = .ok (remaining, interp))
    (validates : Bool) :
    (if validates then checkRemaining ref remaining ({ session with interp }.enter (.dropped ref))
        else (.ok (), { session with interp }.enter (.dropped ref))) =
      (.ok (), { session with interp }.enter (.dropped ref)) := by
  have enough :
      ({ session with interp }.enter (.dropped ref)).shortfall? ref remaining = none :=
    sound.shortfall?_eq_none room owns released
  split
  · rw [checkRemaining, enough]
  · rfl

/-- A reference can be given back, unless the handles are used up. -/
theorem full_of_gone
    {reason : HeapError}
    (sound : session.Sound quiet acyclic owned)
    (owns : (session.record ref).state.owns = true)
    (gone : session.interp.decref (session.record ref).handle = .error reason) :
    ¬ session.interp.heap.HasRoom := by
  intro room
  rcases Interpreter.exists_decref (sound.isLive_of_owns room owns) with ⟨_, released⟩
  rw [gone] at released
  cases released

/-- That a record could not give its reference back is reported. -/
theorem bereft
    {reason : HeapError}
    {outcome : Except Panic Unit}
    {last : Session}
    (sound : session.Sound quiet acyclic owned)
    (owns : (session.record ref).state.owns = true)
    (gone : session.interp.decref (session.record ref).handle = .error reason)
    (reported :
      report (some ref) (.heap reason)
          ((session.quarantine ref).enter (.fault (.dropFailed ref))) =
        (outcome, last)) :
    last.Sound quiet acyclic owned ∧ ¬ last.interp.heap.HasRoom := by
  have full := sound.full_of_gone owns gone
  have spares := (Spares.enter (session.quarantine ref) (.fault (.dropFailed ref)) (by simp)).trans
    (.of_report reported)
  have same : last.interp = session.interp := spares.interp
  exact ⟨(sound.quarantine (fun _ => full) ref).of_spares spares, by rwa [same]⟩

/-- Once the handles are used up, a reference that is given back leaves nothing to account for. -/
theorem exhausted_of_recheck
    {validates : Bool}
    {remaining : Int}
    {interp : Interpreter}
    {outcome : Except Panic Unit}
    {last : Session}
    (sound : session.Sound quiet acyclic owned)
    (exhausted : ¬ session.interp.heap.HasRoom)
    (released : session.interp.decref (session.record ref).handle = .ok (remaining, interp))
    (checked :
      (if validates then checkRemaining ref remaining ({ session with interp }.enter (.dropped ref))
        else (.ok (), { session with interp }.enter (.dropped ref))) =
        (outcome, last)) :
    last.InOrder quiet ∧ last.interp.Ledger acyclic 0 ∧ ¬ last.interp.heap.HasRoom := by
  rcases Interpreter.decref_eq_ok_iff.mp released with ⟨heap, counted, same⟩
  rcases sound.exists_ledger with ⟨rest, ledger, -⟩
  have full : ¬ interp.heap.HasRoom := by
    rw [← same]
    exact fun room => exhausted ((Heap.Shrinks.decref counted).hasRoom_iff.mp room)
  have before : session.interp.Ledger acyclic ((session.record ref).handle ::ₘ 0) :=
    Interpreter.Ledger.of_full ledger exhausted
  have used : last.interp = interp := interp_of_recheck checked
  rw [used]
  exact ⟨(sound.toInOrder.dropped interp ref).of_notifies (.of_recheck checked),
    before.decref released, full⟩

/-- A deferred record gives its reference back and leaves the books. -/
theorem of_referenceRun
    {validates : Bool}
    {generation : Nat}
    {result : ItemEnd × Session}
    (run : ReferenceRun validates generation ref session result)
    (sound : session.Sound quiet acyclic owned)
    (deferred : (session.record ref).state = .deferred) :
    result.2.Sound quiet acyclic owned ∧
      (result.1.IsEarly quiet → ¬ result.2.interp.heap.HasRoom) := by
  have owns : (session.registry.record ref).state.owns = true := congrArg _ deferred
  cases run with
  | bereft gone reported => exact ⟨(sound.bereft owns gone reported).1, False.elim⟩
  | unheard gone reported =>
      exact (sound.bereft owns gone reported).imp_right fun full _ => full
  | exposed released checked =>
      by_cases room : session.interp.heap.HasRoom
      · rw [sound.checkRemaining_ite room owns released validates] at checked
        cases checked
      · rcases sound.exhausted_of_recheck room released checked with ⟨order, ledger, full⟩
        exact ⟨of_exhausted order ledger full, fun _ => full⟩
  | @released remaining interp last released checked =>
      by_cases room : session.interp.heap.HasRoom
      · rw [sound.checkRemaining_ite room owns released validates] at checked
        cases checked
        rcases sound.accounts with ⟨lost, nothing, ledger⟩
        rcases Multiset.exists_cons_of_mem (Registry.mem_held_of_owns owns) with ⟨rest, held⟩
        rw [Session.Ledger, reserve, held, Multiset.add_cons, Multiset.add_cons] at ledger
        have order : ({ session with interp }.enter (.dropped ref)).InOrder quiet :=
          sound.toInOrder.dropped interp ref
        refine ⟨complete order deferred held ⟨lost, nothing, ledger.decref released⟩ ?_ generation,
          False.elim⟩
        exact fun _ => (sound.untroubled room).enter (by simp)
      · rcases sound.exhausted_of_recheck room released checked with ⟨order, ledger, full⟩
        exact ⟨of_exhausted (order.complete generation ref) ledger full, False.elim⟩

/-- Draining an item keeps the ledger and goes on, unless the handles are used up. -/
theorem drainItem
    {nested : Session → Except Abort Nat × Session}
    (sound : session.Sound quiet acyclic owned)
    (idles : Idles nested)
    (validates : Bool)
    (generation : Nat)
    (item : PendingRelease)
    (draining : session.finalizer.draining = true) :
    (drainItem nested validates generation item session).2.Sound quiet acyclic owned ∧
      ((drainItem nested validates generation item session).1.IsEarly quiet →
        ¬ (drainItem nested validates generation item session).2.interp.heap.HasRoom) := by
  have run := itemRun_drainItem nested validates generation item session
  generalize Session.drainItem nested validates generation item session = result at run ⊢
  cases run with
  | interrupted ran =>
      have taken := Spares.enter session (.takenUp item.record) (by simp)
      have passes (isQuiet : quiet) :=
        runHook_ok ((sound.of_spares taken).calm.errorHandlers isQuiet) item.record item.hook
      exact ⟨sound.of_spares (.of_hook ran), fun isQuiet => by
        rw [ran] at passes
        cases passes isQuiet⟩
  | passed ran settled => exact ⟨sound.of_spares (.of_hook ran), False.elim⟩
  | unresolved ran deferred checked =>
      have running := (Spares.of_hook ran).toNotifies.draining draining
      have asked := (sound.of_spares (.of_hook ran)).validate_ite idles validates running
        (congrArg RecordState.owns deferred)
      rw [checked] at asked
      exact ⟨asked.1, fun _ => asked.2.resolve_left (by simp)⟩
  | stopped ran deferred checked =>
      have running := (Spares.of_hook ran).toNotifies.draining draining
      have asked := (sound.of_spares (.of_hook ran)).validate_ite idles validates running
        (congrArg RecordState.owns deferred)
      rw [checked] at asked
      have full := asked.2.resolve_left (by simp)
      have order := (asked.1.toInOrder.quarantine item.record).of_notifies
        (.enter _ (.fault (.mismatched item.record)) (by simp))
      rcases asked.1.exists_ledger with ⟨rest, ledger, -⟩
      exact ⟨of_exhausted order ledger full, fun _ => full⟩
  | cleared ran deferred checked run =>
      have running := (Spares.of_hook ran).toNotifies.draining draining
      have notifies := Notifies.of_check checked idles running
      have asked := (sound.of_spares (.of_hook ran)).validate_ite idles validates running
        (congrArg RecordState.owns deferred)
      rw [checked] at asked
      exact of_referenceRun run asked.1 (notifies.deferred deferred)

theorem drainBatch
    {nested : Session → Except Abort Nat × Session}
    (sound : session.Sound quiet acyclic owned)
    (idles : Idles nested)
    (validates : Bool)
    (generation : Nat)
    (batch : List PendingRelease)
    (log : List CollectedObject)
    (draining : session.finalizer.draining = true) :
    (drainBatch nested validates generation batch log session).2.Sound quiet acyclic owned ∧
      ((drainBatch nested validates generation batch log session).1.IsEarly quiet →
        ¬ (drainBatch nested validates generation batch log session).2.interp.heap.HasRoom) := by
  induction batch generalizing log session with
  | nil => exact ⟨sound, False.elim⟩
  | cons item rest step =>
      have drained := sound.drainItem idles validates generation item draining
      have retains := retains_drainItem idles validates generation item session draining
      have still := retains.finalizer.draining.trans draining
      simp only [Session.drainBatch]
      generalize Session.drainItem nested validates generation item session = result
        at drained still ⊢
      rcases result with ⟨_ | entry | mismatch | panic, session'⟩
      · exact step drained.1 _ still
      · exact step drained.1 _ still
      · exact ⟨drained.1.of_spares (Spares.requeueFront _ _), fun _ => drained.2 trivial⟩
      · have abandoned := drained.1.abandon drained.2 item.record
        refine ⟨abandoned.of_spares (Spares.requeueFront _ _), fun isQuiet => ?_⟩
        rw [(Spares.requeueFront _ _).interp, interp_abandon]
        exact drained.2 isQuiet

/-! ## Whole drains -/

theorem setDraining
    (sound : session.Sound quiet acyclic owned)
    (draining : Bool) :
    (session.setDraining draining).Sound quiet acyclic owned :=
  sound.updateFinalizer
    ⟨sound.calm.collectHandlers, sound.calm.errorHandlers, sound.calm.resolvers⟩

theorem finish
    (sound : session.Sound quiet acyclic owned)
    (log : List CollectedObject) :
    (session.finish log).Sound quiet acyclic owned :=
  sound.updateFinalizer
    ⟨sound.calm.collectHandlers, sound.calm.errorHandlers, sound.calm.resolvers⟩

theorem drain
    {nested : Session → Except Abort Nat × Session}
    (sound : session.Sound quiet acyclic owned)
    (idles : Idles nested) :
    (session.drain nested).2.Smooth quiet acyclic owned (session.drain nested).1 := by
  have started := sound.setDraining true
  have taken := Spares.takeSnapshot (session.setDraining true)
  have draining : (session.setDraining true).takeSnapshot.2.2.finalizer.draining = true :=
    taken.finalizer.draining
  have drained := (started.of_spares taken).drainBatch idles
    (session.setDraining true).takeSnapshot.2.2.finalizer.validates
    (session.setDraining true).takeSnapshot.1 (session.setDraining true).takeSnapshot.2.1 []
    draining
  simp only [Session.drain]
  generalize Session.drainBatch nested _ _ _ _ _ = result at drained ⊢
  rcases result with ⟨log | ⟨log, mismatch⟩ | panic, session'⟩
  · have finished := drained.1.finish log
    have delivered := finished.of_spares
      (Spares.reportCollected_ite log.isEmpty log.length (session.setDraining true).takeSnapshot.1
        (session'.finish log))
    have heard (isQuiet : quiet) := reportCollected_ite_ok log.isEmpty log.length
      (session.setDraining true).takeSnapshot.1 _ (finished.calm.collectHandlers isQuiet)
    simp only
    generalize (if log.isEmpty then (.ok (), session'.finish log)
      else reportCollected log.length _ (session'.finish log)) = result at delivered heard ⊢
    rcases result with ⟨_ | _, session''⟩
    · exact .error (delivered.setDraining false) fun isQuiet => by cases heard isQuiet
    · exact .ok (delivered.setDraining false)
  · have counted : ((session'.finish log).updateFinalizer Finalizer.countError).Sound
        quiet acyclic owned :=
      (drained.1.finish log).updateFinalizer
        ((drained.1.finish log).calm.of_trims (.countError _))
    exact .error (counted.setDraining false) fun _ => drained.2 trivial
  · exact .error (drained.1.setDraining false) drained.2

theorem collect
    (sound : session.Sound quiet acyclic owned) :
    session.collect.2.Smooth quiet acyclic owned session.collect.1 := by
  unfold Session.collect collectWithin
  split
  · exact .ok sound
  · exact sound.drain (idles_collectWithin 1)

theorem collectReporting
    (sound : session.Sound quiet acyclic owned) :
    session.collectReporting.2.Smooth quiet acyclic owned
      (session.collectReporting.1.mapError Abort.panic) := by
  have collected := sound.collect
  rw [Session.collectReporting]
  generalize session.collect = result at collected ⊢
  rcases result with ⟨(error | panic) | count, session'⟩
  · have spares := Spares.report none error session'
    have reported := collected.sound.of_spares spares
    have full (isQuiet : quiet) := collected.full _ rfl (Abort.isAmiss_of_quiet _ isQuiet)
    rw [← spares.interp] at full
    simp only
    generalize report none error session' = result at reported full ⊢
    rcases result with ⟨_ | _, session''⟩
    · exact .error reported full
    · exact .ok reported
  · exact .error collected.sound (collected.full _ rfl)
  · exact .ok collected.sound

theorem collectThrottled
    (sound : session.Sound quiet acyclic owned) :
    session.collectThrottled.2.Smooth quiet acyclic owned
      (session.collectThrottled.1.mapError Abort.panic) := by
  rw [Session.collectThrottled]
  split
  · exact sound.collectReporting
  · exact .ok sound


/-! ## Registering and releasing -/

/-- A reference goes to a new record. -/
theorem register
    {handle : Handle}
    (sound : session.Sound quiet acyclic (handle ::ₘ owned))
    (registered : session.register handle = .ok (ref, session')) :
    session'.Sound quiet acyclic owned := by
  rcases register_eq_ok registered with ⟨typeName, rfl, -⟩
  rcases sound.accounts with ⟨lost, nothing, ledger⟩
  refine ⟨⟨sound.accurate.addRecord handle typeName, sound.calm, ?_⟩, ⟨lost, nothing, ?_⟩,
    sound.untroubled⟩
  · exact fun isQuiet => (Registry.isOpen_addRecord _ _ _ _ _).trans (sound.isOpen isQuiet)
  · apply ledger.moveRegistry
    rw [Registry.held_addRecord, Multiset.add_cons, Multiset.cons_add, Multiset.cons_add]

/-- A reference that the caller owns can be registered. -/
theorem exists_register
    {handle : Handle}
    (sound : session.Sound quiet acyclic (handle ::ₘ owned))
    (isOpen : session.ownTracker.isOpen = true)
    (room : session.interp.heap.HasRoom) :
    ∃ result, session.register handle = .ok result := by
  have live := sound.isLive_of_mem room (Multiset.mem_cons_self _ _)
  have notNull := Heap.isNull_of_isLive live
  rcases Interpreter.exists_typeName live with ⟨typeName, named⟩
  rw [Session.register]
  simp [notNull, isOpen, named]

/-- A record that is live gives its reference back at once. -/
theorem releaseNow
    (sound : session.Sound quiet acyclic owned)
    (ref : RecordRef) :
    (session.releaseNow ref).2.Sound quiet acyclic owned := by
  simp only [Session.releaseNow]
  split
  · next live =>
      have owns : (session.registry.record ref).state.owns = true := congrArg _ live
      have order : ({ session with
          registry := (session.registry.setState ref .released).unregister session.tracker ref } :
            Session).InOrder quiet :=
        ⟨sound.accurate.strike fun _ => rfl, sound.calm,
          fun isQuiet => (Registry.isOpen_unregister _ _ _ _).trans (sound.isOpen isQuiet)⟩
      have held := session.registry.held_alter_of_owns
        (fun record => { record with state := .released }) owns rfl
      rcases sound.accounts with ⟨lost, nothing, ledger⟩
      have struck := ledger.strike
        ((session.registry.setState ref .released).unregister session.tracker ref) held
      rw [Session.Ledger, Multiset.cons_add] at struck
      split
      · next remaining interp released =>
          refine ⟨order.dropped interp ref, ⟨lost, nothing, struck.decref released⟩, fun room => ?_⟩
          rcases Interpreter.decref_eq_ok_iff.mp released with ⟨heap, counted, rfl⟩
          have before := sound.untroubled ((Heap.Shrinks.decref counted).hasRoom_iff.mp room)
          exact before.enter (by simp)
      · next reason failed =>
          refine of_exhausted order struck fun room => ?_
          rcases Interpreter.exists_decref (sound.isLive_of_owns room owns) with ⟨_, released⟩
          exact absurd (failed.symm.trans released) (by simp)
  · exact sound

/-- The reference of a record that is live becomes the caller's. -/
theorem detach
    (sound : session.Sound quiet acyclic owned)
    (ref : RecordRef) :
    (session.detach ref).2.Sound quiet acyclic
      ((session.detach ref).1.toOption.toList + owned) := by
  simp only [Session.detach, Registry.detach]
  split
  · next live =>
      have owns : (session.registry.record ref).state.owns = true := congrArg _ live
      have held := session.registry.held_alter_of_owns
        (fun record => { record with state := .detached }) owns rfl
      rcases sound.accounts with ⟨lost, nothing, ledger⟩
      refine ⟨⟨sound.accurate.strike fun _ => rfl, sound.calm,
        fun isQuiet => (Registry.isOpen_unregister _ _ _ _).trans (sound.isOpen isQuiet)⟩,
        ⟨lost, nothing, ?_⟩, sound.untroubled⟩
      exact (ledger.strike
        ((session.registry.setState ref .detached).unregister session.tracker ref) held).congr _
          (by simp [Except.mapError, Except.toOption, Multiset.cons_add])
  · exact sound.congr _ (by simp [Except.mapError, Except.toOption])

end Sound

end Session

end Custody
