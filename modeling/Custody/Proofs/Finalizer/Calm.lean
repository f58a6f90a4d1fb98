import Custody.Proofs.Finalizer.Delivery
import Custody.Proofs.Heap.Links

/-!
# Calm callbacks

If no handler panics, every event is delivered, and hooks do not stop a drain.  A
resolver may do anything to the interpreter that can be done to one: no
allocation is undone, and no built-in name forgotten.
-/

namespace Custody

/-! ## Callbacks -/

/-- A resolver that keeps what is true of an interpreter. -/
def Resolver.Keeps (kept : Interpreter → Prop) (resolver : Resolver) : Prop :=
  ∀ change, .adjust change ∈ resolver.before →
    ∀ (mismatch : Mismatch) (interp : Interpreter), kept interp → kept (change mismatch interp)

/-- A callback that never panics. -/
def Handler.IsQuiet (handler : Handler) : Prop :=
  ∀ text, .panic text ∉ handler.steps

/-- What is true of everything that is done with an interpreter. -/
structure Interpreter.Ages (interp interp' : Interpreter) : Prop where
  allocations : interp.heap.stats.allocations ≤ interp'.heap.stats.allocations
  builtins : interp'.builtins = interp.builtins

namespace Interpreter.Ages

variable {interp interp' interp'' : Interpreter}

theorem refl (interp : Interpreter) : interp.Ages interp where
  allocations := le_rfl
  builtins := rfl

theorem trans
    (first : interp.Ages interp')
    (second : interp'.Ages interp'') :
    interp.Ages interp'' where
  allocations := first.allocations.trans second.allocations
  builtins := second.builtins.trans first.builtins

/-- The handles stay used up. -/
theorem full
    (ages : interp.Ages interp')
    (full : ¬ interp.heap.HasRoom) :
    ¬ interp'.heap.HasRoom :=
  fun room => full (ages.allocations.trans_lt room)

end Interpreter.Ages

/-- A resolver that does to an interpreter only what can be done to one. -/
def Resolver.IsHonest (resolver : Resolver) : Prop :=
  ∀ change, .adjust change ∈ resolver.before →
    ∀ (mismatch : Mismatch) (interp : Interpreter), interp.Ages (change mismatch interp)

theorem Resolver.IsHonest.keeps
    {resolver : Resolver}
    (honest : resolver.IsHonest)
    (interp : Interpreter) :
    resolver.Keeps interp.Ages :=
  fun change listed mismatch between before =>
    before.trans (honest change listed mismatch between)

/-- Resolvers are honest, and if `quiet` holds no handler panics. -/
structure Finalizer.Calm (quiet : Prop) (finalizer : Finalizer) : Prop where
  collectHandlers : quiet → ∀ entry ∈ finalizer.collectHandlers, entry.2.IsQuiet
  errorHandlers : quiet → ∀ entry ∈ finalizer.errorHandlers, entry.2.IsQuiet
  resolvers : ∀ entry ∈ finalizer.resolvers, entry.2.IsHonest

theorem Finalizer.Calm.of_trims
    {quiet : Prop}
    {finalizer finalizer' : Finalizer}
    (calm : finalizer.Calm quiet)
    (trims : finalizer.Trims finalizer') :
    finalizer'.Calm quiet where
  collectHandlers := fun isQuiet entry member =>
    calm.collectHandlers isQuiet entry (trims.collectHandlers.subset member)
  errorHandlers := fun isQuiet entry member =>
    calm.errorHandlers isQuiet entry (trims.errorHandlers.subset member)
  resolvers := fun entry member =>
    calm.resolvers entry (trims.resolvers.subset member)

namespace Session

variable {quiet : Prop} {session session' : Session} {ref : RecordRef}

theorem takeSteps_ok
    {steps : List HandlerStep}
    (quiet : ∀ text, .panic text ∉ steps)
    (session : Session) :
    (takeSteps steps session).1 = .ok () := by
  induction steps generalizing session with
  | nil => rfl
  | cons step rest later =>
      cases step with
      | unsubscribe id =>
          exact later (fun text member => quiet text (List.mem_cons_of_mem _ member)) _
      | panic text => exact absurd List.mem_cons_self (quiet text)

theorem deliver_ok
    {handlers : List Handler}
    (quiet : ∀ handler ∈ handlers, handler.IsQuiet)
    (notice : Handler → Session → Notice)
    (session : Session) :
    (deliver notice handlers session).1 = .ok () := by
  induction handlers generalizing session with
  | nil => rfl
  | cons handler rest later =>
      have taken := takeSteps_ok (quiet handler (by simp))
        (session.announce (notice handler session))
      rw [deliver]
      split
      · exact later (fun other member => quiet other (List.mem_cons_of_mem _ member)) _
      · next panicked =>
          rw [panicked] at taken
          cases taken

theorem report_ok
    (record : Option RecordRef)
    (error : BridgeError)
    (session : Session)
    (quiet : ∀ entry ∈ session.finalizer.errorHandlers, entry.2.IsQuiet) :
    (report record error session).1 = .ok () := by
  apply deliver_ok
  intro handler member
  rcases List.mem_map.mp member with ⟨entry, listed, rfl⟩
  exact quiet entry listed

theorem runHook_ok
    (quiet : ∀ entry ∈ session.finalizer.errorHandlers, entry.2.IsQuiet)
    (ref : RecordRef)
    (hook : Option Hook) :
    (runHook ref hook session).1 = .ok () := by
  cases hook with
  | none => rfl
  | some hook =>
      simp only [runHook]
      split
      · rfl
      · exact report_ok _ _ _ quiet

theorem reportCollected_ite_ok
    (isEmpty : Bool)
    (count generation : Nat)
    (session : Session)
    (quiet : ∀ entry ∈ session.finalizer.collectHandlers, entry.2.IsQuiet) :
    (if isEmpty then (.ok (), session)
      else reportCollected count generation session).1 = .ok () := by
  split
  · rfl
  · apply deliver_ok
    intro handler member
    rcases List.mem_map.mp member with ⟨entry, listed, rfl⟩
    exact quiet entry listed

/-! ## Resolvers -/

variable {nested : Session → Except Abort Nat × Session}

theorem keeps_prepare
    {kept : Interpreter → Prop}
    {steps : List ResolverStep}
    (idles : Idles nested)
    (keeps :
      ∀ change, .adjust change ∈ steps →
        ∀ (mismatch : Mismatch) (interp : Interpreter), kept interp → kept (change mismatch interp))
    (mismatch : Mismatch)
    (drained : Option Nat)
    (draining : session.finalizer.draining = true)
    (before : kept session.interp) :
    kept (prepare nested mismatch steps drained session).2.interp := by
  induction steps generalizing drained session with
  | nil => exact before
  | cons step rest later =>
      have keeps' :
          ∀ change, .adjust change ∈ rest →
            ∀ (mismatch : Mismatch) (interp : Interpreter),
              kept interp → kept (change mismatch interp) :=
        fun change member => keeps change (List.mem_cons_of_mem _ member)
      cases step with
      | adjust change =>
          rw [prepare]
          apply later keeps' drained
          · exact draining
          · exact keeps change List.mem_cons_self mismatch _ before
      | collect =>
          simp only [prepare, idles session draining]
          exact later keeps' _ draining before

/-- What is true of the interpreter and every resolver keeps is true after an offer. -/
theorem keeps_offer
    {kept : Interpreter → Prop}
    {resolvers : List Resolver}
    (idles : Idles nested)
    (keeps : ∀ resolver ∈ resolvers, resolver.Keeps kept)
    (mismatch : Mismatch)
    (draining : session.finalizer.draining = true)
    (before : kept session.interp) :
    kept (offer nested mismatch resolvers session).2.interp := by
  induction resolvers generalizing session with
  | nil => exact before
  | cons resolver rest later =>
      have prepared := Notifies.prepare idles mismatch resolver.before none session draining
      have adjusted := keeps_prepare idles (keeps resolver List.mem_cons_self) mismatch none
        draining before
      rw [offer]
      generalize prepare nested mismatch resolver.before none session = result
        at prepared adjusted ⊢
      rcases result with ⟨drained, asked⟩
      have taken := Spares.takeSteps resolver.steps
        (asked.announce (.offered resolver.label mismatch drained))
      have after := (prepared.trans (.announce asked _)).trans taken.toNotifies
      have spared : (takeSteps resolver.steps
          (asked.announce (.offered resolver.label mismatch drained))).2.interp = asked.interp :=
        taken.interp
      rw [← spared] at adjusted
      simp only
      split
      · next taken' =>
          rw [taken'] at adjusted
          exact adjusted
      · next taken' =>
          rw [taken'] at adjusted after
          split
          · exact adjusted
          · exact later (fun other member => keeps other (List.mem_cons_of_mem _ member))
              (after.draining draining) adjusted

theorem keeps_validate
    {kept : Interpreter → Prop}
    (idles : Idles nested)
    (keeps : ∀ entry ∈ session.finalizer.resolvers, entry.2.Keeps kept)
    (ref : RecordRef)
    (draining : session.finalizer.draining = true)
    (before : kept session.interp) :
    kept (validate nested ref session).2.interp := by
  rw [validate]
  split
  · exact before
  · next mismatch _ =>
      have subscribed :
          ∀ resolver ∈ session.finalizer.resolvers.callbacks, resolver.Keeps kept := by
        intro resolver member
        rcases List.mem_map.mp member with ⟨entry, listed, rfl⟩
        exact keeps entry listed
      have offered := keeps_offer idles subscribed mismatch draining before
      split
      all_goals
        next offered' =>
          rw [offered'] at offered
          exact offered

theorem ages_validate
    (idles : Idles nested)
    (calm : session.finalizer.Calm quiet)
    (ref : RecordRef)
    (draining : session.finalizer.draining = true) :
    session.interp.Ages (validate nested ref session).2.interp :=
  keeps_validate idles (fun entry listed => (calm.resolvers entry listed).keeps session.interp)
    ref draining (.refl _)

end Session

end Custody
