import Custody.Proofs.Finalizer.Moves
import Custody.Proofs.Session.Operations
import Custody.Session.Collector
import Custody.Session.HostError
import Custody.Session.Indicator
import Custody.Session.Shutdown

/-!
# What operations do

However an operation ends, it got there by moves; only disposing of a wrapper
runs its hook first.  An operation uses up wrappers and hooks that the caller
hands over, and what it returns, be it a result or an error, may come with new
ones.
-/

namespace Custody

/-- How often a captured exception holds trackers. -/
def CapturedException.holds (exception : CapturedException) : Nat :=
  Wrapper.holdsOf exception.wrappers

/-- How often a captured exception that may be absent holds trackers. -/
def CapturedException.holdsOf : Option CapturedException → Nat
  | none => 0
  | some exception => exception.holds

/-- How often an error holds trackers. -/
def BridgeError.holds : BridgeError → Nat
  | .foreign exception => exception.holds
  | _ => 0

/-- How often what ended an operation early holds trackers. -/
def Abort.holds : Abort → Nat
  | .error cause => cause.holds
  | .panic _ => 0

namespace Session.Leads

open Registry (Move)

variable {session session' : Session} {hand : Nat}

/-- The registry is left alone. -/
theorem of_eq
    (abides : session.Abides session')
    (registry : session'.registry = session.registry) :
    session.Leads hand [] session' hand [] := by
  refine ⟨abides, ?_⟩
  rw [registry]

/-- The interpreter and what the finalizer counts and calls may change, and nothing else. -/
theorem of_same
    {interp : Interpreter}
    {finalizer : Finalizer}
    (draining : finalizer.draining = session.finalizer.draining) :
    session.Leads hand [] { session with interp, finalizer } hand [] :=
  of_eq ⟨rfl, rfl, rfl, draining⟩ rfl

theorem dropWrappers
    (session : Session)
    (hand : Nat)
    (wrappers : List Wrapper) :
    session.Leads (Wrapper.holdsOf wrappers + hand) []
      (session.updateRegistry fun registry => registry.dropWrappers wrappers) hand [] := by
  induction wrappers generalizing session with
  | nil =>
      rw [Wrapper.holdsOf_nil, Nat.zero_add]
      exact .of_same rfl
  | cons wrapper rest step =>
      have dropped : session.Leads (wrapper.holds + (Wrapper.holdsOf rest + hand)) []
          (session.dropWrapper wrapper) (Wrapper.holdsOf rest + hand) [] :=
        .move (.dropWrapper _ _ _ _)
      rw [Wrapper.holdsOf_cons, Nat.add_assoc]
      exact dropped.trans (step (session.dropWrapper wrapper))

/-- A live record gives its reference back. -/
theorem releaseNow
    (session : Session)
    (hand : Nat)
    (ref : RecordRef) :
    session.Leads hand [] (session.releaseNow ref).2 hand [] := by
  rw [Session.releaseNow]
  simp only
  split
  · next live =>
      have settles :
          (session.record ref).Settles fun record => { record with state := .released } :=
        Record.settles_setState _ rfl
      have struck : Move session.tracker _ _ :=
        .settleLive session.registry hand [] ref _ live settles
      split
      · exact ⟨⟨rfl, rfl, rfl, rfl⟩, .tail (.single struck) (.enter _ _ _ (.dropped ref) trivial)⟩
      · exact .move struck
  · exact .refl _ _ _

/-- A live record is given up. -/
theorem detach
    (session : Session)
    (hand : Nat)
    (ref : RecordRef) :
    session.Leads hand []
      { session with registry := (session.registry.detach session.tracker ref).2 } hand [] := by
  simp only [Registry.detach]
  split
  · next live =>
      exact .move (.settleLive _ _ _ _ _ live (Record.settles_setState _ rfl))
  · exact .refl _ _ _

theorem register
    {handle : Handle}
    {ref : RecordRef}
    (registered : session.register handle = .ok (ref, session')) :
    session.Leads hand [] session' hand [] := by
  rw [Session.register] at registered
  split at registered
  · cases registered
  · split at registered
    · cases registered
    · next isOpen =>
        split at registered
        · cases registered
        · cases registered
          exact .move (.register _ _ _ _ _ (by simpa [ownTracker] using isOpen))

theorem letGo
    (session : Session)
    (hand : Nat)
    (tracker : TrackerRef) :
    session.Leads (hand + 1) [] (session.updateRegistry fun registry => registry.letGo tracker)
      hand [] :=
  .move (.letGo _ _ _ _)

theorem hold
    (session : Session)
    (hand : Nat) :
    session.Leads hand [] (session.updateRegistry fun registry => registry.hold session.tracker)
      (hand + 1) [] :=
  .move (.hold _ _ _)

end Session.Leads

namespace Session

/-- A hook ran for a record, which the journal tells. -/
def ranHook
    (ref : RecordRef)
    (hook : Hook)
    (session : Session) :
    Session :=
  session.updateRegistry fun registry => (hook.run ref (registry.enter (.hookRan ref))).2

/--
What a request comes to: moves, perhaps after the hook of a record ran that the
caller asked for by disposing of its wrapper.
-/
inductive Serves
    (asked : List RecordRef)
    (session : Session)
    (hand : Nat)
    (session' : Session)
    (hand' : Nat) :
    Prop where
  | leads (leads : session.Leads hand [] session' hand' [])
  | hooked (ref : RecordRef) (hook : Hook) (rest : Nat) (isAsked : ref ∈ asked)
      (total : hand = hook.holds + rest)
      (leads : (session.ranHook ref hook).Leads rest [] session' hand' [])

end Session

namespace Op

variable {α β : Type} {weight : α → Nat} {weight' : β → Nat} {spent : Nat}
variable {op : Op α} {session : Session}

/-! ## Putting operations together -/

/-- How often what an operation ended with holds trackers. -/
def heldBy (weight : α → Nat) : Except Abort α → Nat
  | .ok value => weight value
  | .error abort => abort.holds

/-- What holds no tracker. -/
def nothing : α → Nat :=
  fun _ => 0

/--
However the operation ends, it got there by moves, which use up so many holders;
those in the outcome are counted by `weight`.
-/
def Leads
    (op : Op α)
    (weight : α → Nat)
    (spent : Nat)
    (session : Session) :
    Prop :=
  ∀ hand, op.Ends session fun outcome session' =>
    session.Leads (spent + hand) [] session' (heldBy weight outcome + hand) []

namespace Leads

theorem congr
    {spent' : Nat}
    (leads : op.Leads weight spent session)
    (total : spent' = spent) :
    op.Leads weight spent' session :=
  total ▸ leads

theorem pure (value : α) : (Pure.pure value : Op α).Leads weight (weight value) session :=
  fun _ => .refl _ _ _

theorem fail (error : BridgeError) : (Op.fail error : Op α).Leads weight error.holds session :=
  fun _ => .refl _ _ _

/-- What follows uses up what the result brought. -/
theorem bind
    {next : α → Op β}
    (first : op.Leads weight spent session)
    (later :
      ∀ value session', session'.tracker = session.tracker →
        (next value).Leads weight' (weight value) session') :
    (op >>= next).Leads weight' spent session := by
  intro hand
  apply (first hand).bind
  · intro value session' leads
    apply (later value session' leads.tracker hand).mono
    exact fun _ _ after => leads.trans after
  · exact fun _ _ leads => leads

theorem bind_session
    {next : Session → Op β}
    (later : (next session).Leads weight' spent session) :
    (Op.session >>= next).Leads weight' spent session := by
  intro hand
  rw [ends_bind, ends_session, andThen_ok]
  exact later hand

theorem map
    {change : α → β}
    (first : op.Leads weight spent session)
    (same : ∀ value, weight' (change value) = weight value) :
    (change <$> op).Leads weight' spent session := by
  refine first.bind fun value session' _ => ?_
  rw [← same]
  exact pure (change value)

theorem of
    {step : Session → Except Abort α × Session}
    (leads :
      ∀ hand,
        session.Leads (spent + hand) [] (step session).2
          (heldBy weight (step session).1 + hand) []) :
    (Op.of step).Leads weight spent session :=
  leads

theorem change
    {step : Session → Session}
    {gained : Nat}
    (leads : ∀ hand, session.Leads (spent + hand) [] (step session) (gained + hand) []) :
    (Op.change step).Leads (fun _ => gained) spent session :=
  leads

theorem ofPanicking
    {step : Session → Except Panic α × Session}
    (leads : ∀ hand, session.Leads hand [] (step session).2 hand []) :
    (Op.ofPanicking step).Leads nothing 0 session := by
  intro hand
  rw [Nat.zero_add]
  apply ends_ofPanicking
  · intro value _
    rw [heldBy, nothing, Nat.zero_add]
    exact leads hand
  · intro panic _
    rw [heldBy, Abort.holds, Nat.zero_add]
    exact leads hand

/-- On ending early the operation drops wrappers; otherwise they stay with the caller. -/
theorem orDrop
    (leads : op.Leads weight spent session)
    (wrappers : List Wrapper) :
    (op.orDrop wrappers).Leads (fun value => weight value + Wrapper.holdsOf wrappers)
      (spent + Wrapper.holdsOf wrappers) session := by
  intro hand
  rw [ends_orDrop]
  apply (leads (Wrapper.holdsOf wrappers + hand)).mono
  intro outcome session' after
  rw [← Nat.add_assoc] at after
  cases outcome with
  | ok value =>
      rw [heldBy, ← Nat.add_assoc] at after
      exact after
  | error abort =>
      rw [Nat.add_left_comm] at after
      exact after.trans (.dropWrappers _ _ wrappers)

theorem onError
    (leads : op.Leads weight spent session)
    (repair : Interpreter → Interpreter) :
    (op.onError repair).Leads weight spent session := by
  intro hand
  rw [ends_onError]
  apply (leads hand).mono
  intro outcome session' after
  rcases outcome with (error | panic) | value
  · exact after.trans (.of_same rfl)
  · exact after
  · exact after

/-! ### The interpreter -/

theorem changeInterp (step : Interpreter → Interpreter) :
    (Op.changeInterp step).Leads nothing 0 session :=
  change fun _ => .of_same rfl

theorem withInterp (step : Interpreter → α × Interpreter) :
    (Op.withInterp step).Leads nothing 0 session :=
  of fun _ => .of_same rfl

theorem tryInterp (step : Interpreter → Except HeapError Interpreter) :
    (Op.tryInterp step).Leads nothing 0 session := by
  intro hand
  apply ends_tryInterp
  · exact fun _ _ => .of_same rfl
  · exact fun _ _ => .refl _ _ _

theorem ofHeap (result : Except HeapError α) :
    (Op.ofHeap result).Leads nothing 0 session := by
  intro hand
  apply ends_ofHeap
  · exact fun _ _ => .refl _ _ _
  · exact fun _ _ => .refl _ _ _

/-! ### Registering and draining -/

theorem requireOwn
    (wrapper : Wrapper)
    (operation : String) :
    (wrapper.requireOwn operation).Leads nothing 0 session := by
  intro hand
  apply Wrapper.ends_requireOwn
  · exact fun _ => .refl _ _ _
  · exact fun _ => .refl _ _ _

theorem register (handle : Handle) : (Op.register handle).Leads nothing 0 session := by
  apply bind_session
  split
  · next error failed =>
      have plain : error.holds = 0 := by
        rw [Session.register] at failed
        split at failed
        · cases failed
          rfl
        · split at failed
          · cases failed
            rfl
          · split at failed
            · cases failed
              rfl
            · cases failed
      rw [← plain]
      exact fail error
  · next record session' registered =>
      have entered : (Op.change fun _ => session').Leads nothing 0 session := by
        refine change fun hand => ?_
        rw [Nat.zero_add]
        exact .register registered
      refine entered.bind fun _ session'' _ => ?_
      refine (ofPanicking fun hand => Session.leads_collectThrottled hand session'').bind
        fun _ _ _ => ?_
      exact pure record

end Leads

end Op

/-! ## Wrappers -/

namespace Wrapper

open Op.Leads (bind_session)

variable {session : Session}

theorem leads_ofOwned (handle : Handle) : (ofOwned handle).Leads Wrapper.holds 0 session := by
  refine (Op.Leads.register handle).bind fun record session' _ => ?_
  apply bind_session
  refine Op.Leads.bind (.change fun hand => ?_ : Op.Leads _ (fun _ => 1) _ _) fun _ _ _ => ?_
  · rw [Nat.add_comm, Nat.add_comm 1]
    exact .hold session' hand
  · exact .pure _

theorem leads_ofBorrowed (handle : Handle) :
    (ofBorrowed handle).Leads Wrapper.holds 0 session := by
  rw [ofBorrowed]
  split
  · exact .fail _
  · exact (Op.Leads.tryInterp _).bind fun _ _ _ => (leads_ofOwned handle).onError _

theorem leads_ofNone : ofNone.Leads Wrapper.holds 0 session :=
  (Op.Leads.withInterp _).bind fun _ _ _ => leads_ofOwned _

theorem leads_ofPayload (payload : Payload) :
    (ofPayload payload).Leads Wrapper.holds 0 session :=
  (Op.Leads.withInterp _).bind fun _ _ _ => leads_ofOwned _

theorem leads_retainAll (wrappers : List Wrapper) :
    (retainAll wrappers).Leads Op.nothing 0 session := by
  induction wrappers generalizing session with
  | nil => exact .pure _
  | cons wrapper rest step =>
      refine (Op.Leads.requireOwn wrapper "list").bind fun _ _ _ => bind_session ?_
      refine (Op.Leads.tryInterp _).bind fun _ _ _ => ?_
      exact step.bind fun _ _ _ => .pure _

theorem leads_ofList (items : List Wrapper) :
    (ofList items).Leads Wrapper.holds 0 session :=
  (leads_retainAll items).bind fun _ _ _ => leads_ofPayload _

theorem leads_clone (wrapper : Wrapper) : wrapper.clone.Leads Wrapper.holds 0 session :=
  (Op.Leads.requireOwn wrapper "clone_ref").bind fun _ _ _ => bind_session (leads_ofBorrowed _)

/-- Neither result of a release holds a tracker. -/
theorem heldBy_releaseNow
    (session : Session)
    (ref : RecordRef) :
    Op.heldBy Op.nothing (session.releaseNow ref).1 = 0 := by
  rw [Session.releaseNow]
  simp only
  split
  · split
    · rfl
    · rfl
  · rfl

/-- Neither result of giving a record up holds a tracker. -/
theorem heldBy_detach
    (registry : Registry)
    (tracker : TrackerRef)
    (ref : RecordRef) :
    Op.heldBy Op.nothing ((registry.detach tracker ref).1.mapError Abort.error) = 0 := by
  simp only [Registry.detach]
  split
  · rfl
  · rfl

/-- A wrapper of another runtime is dropped and not disposed of. -/
theorem dispose_of_foreign
    {wrapper : Wrapper}
    (foreign : wrapper.tracker ≠ session.tracker) :
    (wrapper.dispose.on session).2 =
      session.updateRegistry fun registry => registry.dropWrappers [wrapper] := by
  have ends : wrapper.dispose.Ends session fun _ session' =>
      session' = session.updateRegistry fun registry => registry.dropWrappers [wrapper] := by
    rw [dispose, Op.ends_bind, Op.ends_orDrop]
    exact ends_requireOwn (fun own => absurd own foreign) fun _ => rfl
  exact ends

/-- The record whose hook runs because its wrapper is disposed of. -/
def disposed (wrapper : Wrapper) : List RecordRef :=
  match wrapper.hook with
  | none => []
  | some _ => [wrapper.record]

/-- The hook of a wrapper runs, if it has one, before the wrapper is disposed of. -/
def hooked (wrapper : Wrapper) (session : Session) : Session :=
  match wrapper.hook with
  | none => session
  | some hook => session.ranHook wrapper.record hook

/--
The end of a disposal: the reference is given back, the tracker is let go, and
what the hook failed with is returned.
-/
def disposal (wrapper : Wrapper) (failure : Option String) : Op Unit := do
  Op.of fun session =>
    let (released, session) := session.releaseNow wrapper.record
    (released, session.updateRegistry fun registry => registry.letGo wrapper.tracker)
  match failure with
  | none => return
  | some text => Op.fail (.disposeHook text)

theorem ends_disposal
    (wrapper : Wrapper)
    (failure : Option String)
    (session : Session) :
    (wrapper.disposal failure).Ends session fun outcome session' =>
      session' = (session.releaseNow wrapper.record).2.updateRegistry
          (fun registry => registry.letGo wrapper.tracker) ∧
        Op.heldBy Op.nothing outcome = 0 := by
  unfold disposal
  rw [Op.ends_bind, Op.ends_of]
  have nothing := heldBy_releaseNow session wrapper.record
  generalize session.releaseNow wrapper.record = result at nothing ⊢
  rcases result with ⟨_ | _, session'⟩
  · exact ⟨rfl, nothing⟩
  · cases failure with
    | none => exact ⟨rfl, rfl⟩
    | some text => exact ⟨rfl, rfl⟩

/-- The hook runs, the reference is given back, and the tracker is let go. -/
theorem ends_dispose
    {wrapper : Wrapper}
    (own : wrapper.tracker = session.tracker) :
    wrapper.dispose.Ends session fun outcome session' =>
      session' = ((wrapper.hooked session).releaseNow wrapper.record).2.updateRegistry
          (fun registry => registry.letGo wrapper.tracker) ∧
        Op.heldBy Op.nothing outcome = 0 := by
  rw [dispose, Op.ends_bind, Op.ends_orDrop]
  refine ends_requireOwn (fun _ => ?_) fun foreign => absurd own foreign
  rw [Op.orDropped, Op.andThen_ok, Op.ends_bind, Op.ends_of, hooked]
  cases wrapper.hook with
  | none => exact wrapper.ends_disposal none session
  | some hook => exact wrapper.ends_disposal _ (session.ranHook wrapper.record hook)

theorem dispose_of_own
    {wrapper : Wrapper}
    (own : wrapper.tracker = session.tracker) :
    (wrapper.dispose.on session).2 =
      ((wrapper.hooked session).releaseNow wrapper.record).2.updateRegistry
        fun registry => registry.letGo wrapper.tracker :=
  (ends_dispose own).1

/-- Disposing of a wrapper uses it up together with its hook. -/
theorem serves_dispose
    (wrapper : Wrapper)
    (session : Session)
    (hand : Nat) :
    session.Serves wrapper.disposed (wrapper.holds + hand) (wrapper.dispose.on session).2 hand := by
  by_cases own : wrapper.tracker = session.tracker
  · rw [dispose_of_own own]
    have released (session : Session) :
        session.Leads (1 + hand) []
          ((session.releaseNow wrapper.record).2.updateRegistry
            fun registry => registry.letGo wrapper.tracker) hand [] := by
      rw [Nat.add_comm]
      exact (Session.Leads.releaseNow session (hand + 1) wrapper.record).trans
        (.letGo _ hand wrapper.tracker)
    rw [hooked, holds, disposed]
    cases wrapper.hook with
    | none => exact .leads (released session)
    | some hook =>
        refine .hooked wrapper.record hook (1 + hand) List.mem_cons_self ?_ (released _)
        rw [Hook.holdsOf_some]
        omega
  · rw [dispose_of_foreign own]
    have dropped := Session.Leads.dropWrappers session hand [wrapper]
    simp only [holdsOf_cons, holdsOf_nil, Nat.add_zero] at dropped
    exact .leads dropped

/-- Giving a wrapper up uses it up together with its hook. -/
theorem leads_intoHandle
    (wrapper : Wrapper)
    (own : wrapper.tracker = session.tracker) :
    wrapper.intoHandle.Leads Op.nothing wrapper.holds session := by
  refine .of fun hand => ?_
  let discarded : Session :=
    { session with registry := session.registry.discardHook wrapper.hook }
  have dropped : session.Leads (wrapper.holds + hand) [] discarded (hand + 1) [] := by
    rw [Wrapper.holds, Nat.add_comm 1, Nat.add_assoc, Nat.add_comm 1]
    exact .move (.discardHook _ _ _ _)
  have given := (dropped.trans (.detach discarded (hand + 1) wrapper.record)).trans
    (.letGo _ hand wrapper.tracker)
  simp only [Registry.giveUp, heldBy_detach, Nat.zero_add]
  simp only [discarded, ← own] at given
  exact given

end Wrapper

/-! ## Captured exceptions -/

namespace CapturedException

open Op.Leads (bind_session)

variable {session : Session}

/-- The wrappers made before one that fails are dropped; together they make up the exception. -/
theorem leads_ofNormalized (triple : Triple) :
    (ofNormalized triple).Leads CapturedException.holds 0 session := by
  rw [ofNormalized]
  cases triple.value with
  | none => exact (Op.Leads.changeInterp _).bind fun _ _ _ => .fail _
  | some value =>
      refine (Op.Leads.withInterp _).bind fun traceback _ _ => bind_session ?_
      refine (Wrapper.leads_ofOwned _).bind fun typeWrapper _ _ => ?_
      have valued {session : Session} :=
        (@Wrapper.leads_ofOwned session value).orDrop [typeWrapper]
      simp only [Nat.zero_add, Wrapper.holdsOf_cons, Wrapper.holdsOf_nil, Nat.add_zero] at valued
      refine valued.bind fun valueWrapper _ _ => ?_
      cases traceback with
      | none =>
          refine Op.Leads.congr (.pure _) ?_
          simp [holds, wrappers, Nat.add_comm]
      | some entry =>
          have traced {session : Session} :=
            (@Wrapper.leads_ofOwned session entry).orDrop [valueWrapper, typeWrapper]
          simp only [Nat.zero_add, Wrapper.holdsOf_cons, Wrapper.holdsOf_nil,
            Nat.add_zero] at traced
          refine traced.bind fun tracebackWrapper _ _ => ?_
          refine Op.Leads.congr (.pure _) ?_
          simp only [holds, wrappers, Wrapper.holdsOf_cons, Option.toList_some,
            Wrapper.holdsOf_nil]
          omega

theorem leads_ofTriple
    (attempts : Nat)
    (triple : Triple) :
    (ofTriple attempts triple).Leads CapturedException.holds 0 session := by
  induction attempts generalizing triple session with
  | zero => exact (Op.Leads.changeInterp _).bind fun _ _ _ => .fail _
  | succ attempts step =>
      refine (Op.Leads.withInterp _).bind fun outcome _ _ => ?_
      cases outcome with
      | ok triple => exact leads_ofNormalized triple
      | error raised =>
          refine (Op.Leads.changeInterp _).bind fun _ _ _ => bind_session ?_
          split
          · exact .fail _
          · exact (Op.Leads.changeInterp _).bind fun _ _ _ => step _

theorem leads_fetch : fetch.Leads CapturedException.holdsOf 0 session := by
  apply bind_session
  split
  · exact .pure _
  · refine (Op.Leads.changeInterp _).bind fun _ _ _ => ?_
    exact (leads_ofTriple _ _).bind fun exception _ _ => Op.Leads.pure (some exception)

theorem leads_raised
    {α : Type}
    (weight : α → Nat) :
    (raised : Op α).Leads weight 0 session := by
  refine leads_fetch.bind fun exception _ _ => ?_
  cases exception with
  | none => exact .fail _
  | some exception => exact .fail (.foreign exception)

theorem leads_checkPending : checkPending.Leads Op.nothing 0 session := by
  refine leads_fetch.bind fun exception _ _ => ?_
  cases exception with
  | none => exact .pure _
  | some exception => exact .fail (.foreign exception)

/-- What follows once there is a reference to each component of a triple. -/
theorem leads_retaining
    {α : Type}
    {weight : α → Nat}
    {next : Op α}
    {type value : Handle}
    {traceback : Option Handle}
    (later : ∀ session, next.Leads weight 0 session) :
    (do
      Op.tryInterp fun interp => interp.incref type
      Op.tryInterp fun interp => interp.incref value
      match traceback with
      | none => next
      | some entry =>
          Op.tryInterp fun interp => interp.incref entry
          next : Op α).Leads weight 0 session := by
  refine (Op.Leads.tryInterp _).bind fun _ _ _ => (Op.Leads.tryInterp _).bind fun _ _ _ => ?_
  cases traceback with
  | none => exact later _
  | some entry => exact (Op.Leads.tryInterp _).bind fun _ _ _ => later _

theorem leads_cause (exception : CapturedException) :
    exception.cause.Leads CapturedException.holdsOf 0 session := by
  refine (Op.Leads.requireOwn _ _).bind fun _ _ _ => bind_session ?_
  split
  · exact .pure _
  · refine (Op.Leads.ofHeap _).bind fun _ _ _ => ?_
    refine leads_retaining fun session => ?_
    exact (leads_ofNormalized _).bind fun exception _ _ => Op.Leads.pure (some exception)

theorem leads_restoreClone (exception : CapturedException) :
    exception.restoreClone.Leads Op.nothing 0 session := by
  refine (Op.Leads.requireOwn _ _).bind fun _ _ _ => bind_session ?_
  exact leads_retaining fun session => Op.Leads.changeInterp _

/-- Putting a captured exception back uses its wrappers up. -/
theorem leads_restore
    (exception : CapturedException)
    (own : ∀ wrapper ∈ exception.wrappers, wrapper.tracker = session.tracker) :
    exception.restore.Leads Op.nothing exception.holds session := by
  have checked := (@Op.Leads.requireOwn session exception.value "restore").orDrop
    exception.wrappers
  simp only [Op.nothing, Nat.zero_add] at checked
  refine checked.bind fun _ session₁ same₁ => ?_
  have typed := (Wrapper.leads_intoHandle exception.type
    ((own _ (by simp [wrappers])).trans same₁.symm)).orDrop
      (exception.value :: exception.traceback.toList)
  simp only [Op.nothing, Nat.zero_add, Wrapper.holdsOf_cons] at typed
  refine typed.congr (by simp [wrappers]) |>.bind fun type session₂ same₂ => ?_
  have valued := (Wrapper.leads_intoHandle exception.value
    ((own _ (by simp [wrappers])).trans (same₂.trans same₁).symm)).orDrop
      exception.traceback.toList
  simp only [Op.nothing, Nat.zero_add] at valued
  refine valued.bind fun value session₃ same₃ => ?_
  cases traced : exception.traceback with
  | none =>
      refine Op.Leads.bind (.pure none : Op.Leads _ Op.nothing _ _) fun _ _ _ => ?_
      exact Op.Leads.changeInterp _
  | some wrapper =>
      have member : wrapper ∈ exception.wrappers := by simp [wrappers, traced]
      have given := Wrapper.leads_intoHandle wrapper
        ((own _ member).trans (same₃.trans (same₂.trans same₁)).symm)
      simp only [Option.toList_some, Wrapper.holdsOf_cons, Wrapper.holdsOf_nil, Nat.add_zero]
      have taken : (some <$> wrapper.intoHandle).Leads Op.nothing wrapper.holds session₃ :=
        given.map fun _ => rfl
      refine taken.bind fun _ _ _ => ?_
      exact Op.Leads.changeInterp _

end CapturedException

theorem Wrapper.leads_getItem
    {session : Session}
    (wrapper : Wrapper)
    (index : Int) :
    (wrapper.getItem index).Leads Wrapper.holds 0 session := by
  refine (Op.Leads.requireOwn _ _).bind fun _ _ _ => Op.Leads.bind_session ?_
  refine (Op.Leads.withInterp _).bind fun outcome _ _ => ?_
  cases outcome with
  | ok item => exact leads_ofOwned item
  | error raised => exact CapturedException.leads_raised _

/-! ## The error indicator -/

namespace Indicator

open Op.Leads (bind_session)

variable {session : Session}

theorem leads_setError
    (type : Handle)
    (message : String) :
    (setError type message).Leads Op.nothing 0 session :=
  .tryInterp _

theorem leads_setErrorObject
    (type : Handle)
    (value : Wrapper) :
    (setErrorObject type value).Leads Op.nothing 0 session :=
  (Op.Leads.requireOwn _ _).bind fun _ _ _ => bind_session (.tryInterp _)

theorem leads_setCause (cause : CapturedException) :
    (setCause cause).Leads Op.nothing 0 session := by
  refine (Op.Leads.requireOwn _ _).bind fun _ _ _ => bind_session ?_
  split
  · exact .fail _
  · refine (Op.Leads.tryInterp _).bind fun _ _ _ => bind_session ?_
    split
    · exact .fail _
    · refine (Op.Leads.changeInterp _).bind fun _ _ _ => (Op.Leads.withInterp _).bind
        fun outcome _ _ => ?_
      cases outcome with
      | error raised =>
          exact (Op.Leads.changeInterp _).bind fun _ _ _ => CapturedException.leads_raised _
      | ok current =>
          simp only
          split
          · exact Op.Leads.changeInterp _
          · exact (Op.Leads.tryInterp _).bind fun _ _ _ => .changeInterp _

theorem leads_normalize (triple : Triple) :
    (normalize triple).Leads Op.nothing 0 session := by
  apply bind_session
  split
  · exact .fail _
  · refine (Op.Leads.withInterp _).bind fun outcome _ _ => ?_
    cases outcome with
    | ok triple => exact .pure _
    | error raised => exact CapturedException.leads_raised _

theorem leads_wellKnown (operation name : String) :
    (wellKnown operation name).Leads Op.nothing 0 session := by
  apply bind_session
  split
  · exact .pure _
  · exact .fail _

theorem leads_raiseTypeError (message : String) :
    (raiseTypeError message).Leads Op.nothing 0 session := by
  refine (leads_wellKnown _ _).bind fun type _ _ => bind_session ?_
  refine (Op.Leads.ofHeap _).bind fun made _ _ => ?_
  refine (Op.Leads.changeInterp _).bind fun _ _ _ => ?_
  exact ((Op.Leads.tryInterp _).onError _).bind fun _ _ _ => .changeInterp _

theorem leads_warn
    (category : Handle)
    (message : String)
    (level : Nat) :
    (warn category message level).Leads Op.nothing 0 session := by
  apply bind_session
  split
  · refine (Op.Leads.withInterp _).bind fun outcome _ _ => ?_
    cases outcome with
    | ok done => exact .pure _
    | error raised => exact CapturedException.leads_raised _
  · exact (leads_raiseTypeError _).bind fun _ _ _ => CapturedException.leads_raised _

theorem leads_deprecation
    (message : String)
    (level : Nat) :
    (deprecation message level).Leads Op.nothing 0 session :=
  (leads_wellKnown _ _).bind fun _ _ _ => leads_warn _ _ _

end Indicator

theorem HostError.leads_raise
    {session : Session}
    (error : HostError) :
    error.raise.Leads Op.nothing 0 session := by
  rw [raise]
  cases error.exception? with
  | some exception => exact CapturedException.leads_restoreClone exception
  | none =>
      refine (Op.Leads.withInterp _).bind fun _ _ _ => Op.Leads.bind_session ?_
      refine (Op.Leads.ofHeap _).bind fun _ _ _ => (Op.Leads.changeInterp _).bind fun _ _ _ => ?_
      exact ((Op.Leads.tryInterp _).onError _).bind fun _ _ _ => .changeInterp _

/-! ## The collector -/

namespace Session

theorem leads_collectorPasses
    (bound : Nat)
    (totals : CollectorTotals)
    (hand : Nat)
    (session : Session) :
    session.Leads hand [] (collectorPasses bound totals session).2 hand [] :=
  collectorPasses_keeps (session.Leads hand [] · hand [])
    (fun between before => before.trans (leads_collectReporting hand between))
    bound totals (.refl session hand [])

theorem leads_collectInBackground
    (interval : Option Nat)
    (isHeld : Bool)
    (hand : Nat)
    (session : Session) :
    session.Leads hand [] (session.collectInBackground interval isHeld).2 hand [] :=
  collectInBackground_keeps (session.Leads hand [] · hand [])
    (fun between before => before.trans (leads_collectReporting hand between))
    (fun _ before => before.trans (.move (.enter _ _ _ _ trivial)))
    interval isHeld (.refl session hand [])

end Session

/-! ## Shutting down -/

namespace Op

variable {session : Session} {hand : Nat}

/-- Only a panic ends the drains of a shutdown early. -/
theorem leads_drainPasses
    (hand passes drained : Nat)
    (session : Session) :
    (drainPasses passes drained).Ends session fun outcome session' =>
      session.Leads hand [] session' hand [] ∧ heldBy nothing outcome = 0 := by
  induction passes generalizing drained session with
  | zero => exact ⟨.refl _ _ _, rfl⟩
  | succ passes step =>
      have collected := Session.leads_collectReporting hand session
      simp only [drainPasses, ends_bind, ends_session, andThen_ok]
      split
      · rw [ends_bind]
        apply ends_ofPanicking
        · intro count _
          rw [andThen_ok]
          apply (step (drained + count) session.collectReporting.2).mono
          exact fun _ _ later => ⟨collected.trans later.1, later.2⟩
        · exact fun _ _ => ⟨collected, rfl⟩
      · exact ⟨.refl _ _ _, rfl⟩

/-- What a shutdown returns, be it a refusal or a panic, holds no tracker. -/
theorem heldBy_shutDown (session : Session) : heldBy nothing (shutDown.on session).1 = 0 := by
  have ends : shutDown.Ends session fun outcome _ => heldBy nothing outcome = 0 := by
    simp only [shutDown, ends_bind, ends_session, andThen_ok]
    split
    · rfl
    · simp only [ends_bind, ends_change, andThen_ok]
      apply (leads_drainPasses 0 shutdownPasses 0 { session with isShutDown := true }).mono
      intro outcome session' drained
      cases outcome with
      | error abort => exact drained.2
      | ok count => rfl
  exact ends

/--
A shutdown keeps what moves keep, if releasing all records keeps it too and it
depends neither on the flag nor on what the runtime itself refers to.
-/
theorem shutDown_keeps
    {property : Session → Prop}
    (flagged : ∀ session, property session → property { session with isShutDown := true })
    (led :
      ∀ session session', property session → session.Leads hand [] session' hand [] →
        property session')
    (released : ∀ session, property session → property session.releaseAll.2)
    (cleared :
      ∀ session table interp, property session → property { session with table, interp })
    (before : property session) :
    property (shutDown.on session).2 := by
  have kept : shutDown.Ends session fun _ session' => property session' := by
    simp only [shutDown, ends_bind, ends_session, andThen_ok]
    split
    · exact before
    · simp only [ends_bind, ends_change, andThen_ok]
      apply (leads_drainPasses hand shutdownPasses 0 { session with isShutDown := true }).mono
      intro outcome session' passed
      have drained := led _ session' (flagged session before) passed.1
      cases outcome with
      | error abort => exact drained
      | ok count =>
          simp only [andThen_ok, ends_bind, ends_of, ends_change, ends_pure]
          exact cleared _ _ _ (released session' drained)
  exact kept

end Op

end Custody
