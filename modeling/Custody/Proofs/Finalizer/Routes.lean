import Custody.Proofs.Finalizer.Totals

/-!
# The routes of items

A drain takes an item up and runs its hook.  Then the item takes one of few
routes.  It is passed over if its record is not deferred by then; its object may
be gone; or its reference is given back.  Only a mismatch that no resolver
settles, or a panic, keeps the drain from the next item.

The routes that the items of a batch have taken say what became of each record,
whose reference was given back, and what the log of the drain is.
-/

namespace Custody

/-! ## What is published -/

/-- Whether an entry tells that a drain has come to its end. -/
def Event.tellsEnd : Event → Bool
  | .notice (.collected _ _ _ _) => true
  | _ => false

theorem Event.IsOfHook.tellsEnd
    {event : Event}
    (isOfHook : event.IsOfHook) :
    event.tellsEnd = false := by
  cases event with
  | notice notice =>
      cases notice with
      | hook _ _ => rfl
      | _ => exact isOfHook.elim
  | _ => rfl

/-- What a finalizer shows of finished drains: how many, what they released, and the last log. -/
def Finalizer.published (finalizer : Finalizer) : Nat × Nat × List CollectedObject :=
  (finalizer.drains, finalizer.released, finalizer.collected)

theorem Finalizer.published_unsubscribe
    (finalizer : Finalizer)
    (id : SubscriptionId) :
    (finalizer.unsubscribe id).2.published = finalizer.published := by
  rw [unsubscribe]
  split
  · rfl
  · split
    · rfl
    · split
      · rfl
      · rfl

namespace Session

variable {session session' session'' hooked between last : Session} {ref : RecordRef}
variable {validates : Bool} {generation : Nat} {item : PendingRelease}

/-- No drain began or ended, nothing was published, and nobody was told of the end of a drain. -/
structure Quiet (session session' : Session) : Prop where
  draining : session'.finalizer.draining = session.finalizer.draining
  published : session'.finalizer.published = session.finalizer.published
  journal :
    ∃ events,
      session'.registry.journal = session.registry.journal ++ events ∧
        ∀ event ∈ events, event.tellsEnd = false

namespace Quiet

theorem refl (session : Session) : session.Quiet session :=
  ⟨rfl, rfl, [], (List.append_nil _).symm, List.forall_mem_nil _⟩

theorem trans
    (first : session.Quiet session')
    (second : session'.Quiet session'') :
    session.Quiet session'' := by
  refine ⟨second.draining.trans first.draining, second.published.trans first.published, ?_⟩
  rcases first.journal with ⟨early, grown, quiet⟩
  rcases second.journal with ⟨late, grown', quiet'⟩
  refine ⟨early ++ late, by rw [grown', grown, List.append_assoc], fun event among => ?_⟩
  rcases List.mem_append.mp among with before | after
  · exact quiet event before
  · exact quiet' event after

theorem grows (quiet : session.Quiet session') :
    session.registry.journal <+: session'.registry.journal := by
  rcases quiet.journal with ⟨events, grown, -⟩
  exact ⟨events, grown.symm⟩

/-- The journal is the same. -/
theorem of_eq
    (draining : session'.finalizer.draining = session.finalizer.draining)
    (published : session'.finalizer.published = session.finalizer.published)
    (journal : session'.registry.journal = session.registry.journal) :
    session.Quiet session' :=
  ⟨draining, published, [], by rw [journal, List.append_nil], List.forall_mem_nil _⟩

theorem enter
    {event : Event}
    (session : Session)
    (quiet : event.tellsEnd = false) :
    session.Quiet (session.enter event) :=
  ⟨rfl, rfl, [event], rfl, by simpa using quiet⟩

theorem announce
    {notice : Notice}
    (session : Session)
    (quiet : (Event.notice notice).tellsEnd = false) :
    session.Quiet (session.announce notice) :=
  enter session quiet

instance : Resolving Quiet fun event => event.tellsEnd = false where
  refl := refl
  trans := trans
  unsubscribe := fun session id =>
    of_eq (Finalizer.Trims.unsubscribe session.finalizer id).draining
      (session.finalizer.published_unsubscribe id) rfl
  announce := fun quiet session => announce session quiet
  fault := fun quiet session => (enter session quiet).trans (of_eq rfl rfl rfl)
  updateInterp := fun _ _ => of_eq rfl rfl rfl
  draining := draining

theorem report
    (record : Option RecordRef)
    (error : BridgeError)
    (session : Session) :
    session.Quiet (report record error session).2 := by
  have counted : session.Quiet (session.updateFinalizer Finalizer.countError) := of_eq rfl rfl rfl
  have told : (session.updateFinalizer Finalizer.countError).Quiet
      (Session.report record error session).2 :=
    Incidental.deliver (by intros; rfl) _ _
  exact counted.trans told

theorem of_hook
    {outcome : Except Panic Unit}
    (ran :
      runHook item.record item.hook (session.enter (.takenUp item.record)) = (outcome, hooked)) :
    session.Quiet hooked := by
  have hookRan (hook : Hook) (session : Session) :
      session.Quiet
        { session.enter (.hookRan item.record) with
          registry :=
            (hook.run item.record (session.enter (.hookRan item.record)).registry).2 } := by
    rcases (Registry.Defers.run hook item.record
      (session.enter (.hookRan item.record)).registry).journal with ⟨events, grown, isOfHook⟩
    have entered : session.Quiet (session.enter (.hookRan item.record)) := enter session rfl
    exact entered.trans ⟨rfl, rfl, events, grown, fun event among => (isOfHook event among).tellsEnd⟩
  have taken : session.Quiet (session.enter (.takenUp item.record)) := enter session rfl
  have told := taken.trans
    (Incidental.runHook (fun hook => hookRan hook _) (by rfl) (by intros; rfl) item.hook)
  rwa [ran] at told

theorem of_check
    {nested : Session → Except Abort Nat × Session}
    {outcome : Except Panic (Option Mismatch)}
    (checked :
      (if validates then validate nested ref session else (.ok none, session)) =
        (outcome, between))
    (idles : Idles nested)
    (running : session.finalizer.draining = true) :
    session.Quiet between :=
  Resolving.of_check checked (by intros; rfl) idles running

theorem of_recheck
    {remaining : Int}
    {outcome : Except Panic Unit}
    (checked :
      (if validates then checkRemaining ref remaining session else (.ok (), session)) =
        (outcome, last)) :
    session.Quiet last :=
  Incidental.of_recheck checked (by rfl) (by intros; rfl)

end Quiet

/-! ## Deliveries in full -/

/-- A delivery that no panic cuts short reaches every callback, in order. -/
theorem journal_deliver
    {notice : Handler → Session → Notice}
    {handlers : List Handler}
    (told : Handler → Notice)
    (same :
      ∀ handler later,
        later.finalizer.draining = session.finalizer.draining →
          notice handler later = told handler)
    (delivered : deliver notice handlers session = (.ok (), session')) :
    session'.registry.journal =
      session.registry.journal ++ handlers.map fun handler => .notice (told handler) := by
  induction handlers generalizing session with
  | nil =>
      cases delivered
      exact (List.append_nil _).symm
  | cons handler rest later =>
      have stepped := Incidental.takeSteps (R := Quiet) handler.steps
        (session.announce (notice handler session))
      have registry := registry_takeSteps handler.steps (session.announce (notice handler session))
      rw [deliver] at delivered
      generalize takeSteps handler.steps (session.announce (notice handler session)) = result
        at delivered stepped registry
      rcases result with ⟨_ | _, after⟩
      · cases delivered
      · have told' := later (fun other within draining =>
          same other within (draining.trans stepped.draining)) delivered
        have first : after.registry.journal =
            session.registry.journal ++ [.notice (notice handler session)] :=
          congrArg Registry.journal registry
        rw [told', first, same handler session rfl, List.append_assoc]
        rfl

/-- Callbacks publish nothing themselves. -/
instance : Incidental
    (fun session session' => session'.finalizer.published = session.finalizer.published)
    fun _ => True where
  refl := fun _ => rfl
  trans := fun first second => second.trans first
  unsubscribe := fun session id => session.finalizer.published_unsubscribe id
  announce := fun _ _ => rfl
  fault := fun _ _ => rfl

theorem published_deliver
    (notice : Handler → Session → Notice)
    (handlers : List Handler)
    (session : Session) :
    (deliver notice handlers session).2.finalizer.published = session.finalizer.published :=
  Incidental.deliver
    (R := fun session session' => session'.finalizer.published = session.finalizer.published)
    (fun _ _ => trivial) handlers session

/-- An error was reported, and every handler that was subscribed by then was told of it. -/
structure Reports
    (record : Option RecordRef)
    (error : BridgeError)
    (session session' : Session) :
    Prop where
  returned : report record error session = (.ok (), session')
  journal :
    session'.registry.journal =
      session.registry.journal ++
        session.finalizer.errorHandlers.callbacks.map fun handler =>
          .notice (.reported handler.label record error)

theorem reports_of_report
    {record : Option RecordRef}
    {error : BridgeError}
    (returned : report record error session = (.ok (), session')) :
    Reports record error session session' := by
  have delivered :
      deliver (fun handler _ => .reported handler.label record error)
          session.finalizer.errorHandlers.callbacks
          (session.updateFinalizer Finalizer.countError) =
        (.ok (), session') :=
    returned
  have told := journal_deliver (fun handler => .reported handler.label record error)
    (fun _ _ _ => rfl) delivered
  exact ⟨returned, told⟩

/--
A mismatch was offered to resolvers, one after the other, and none of them
settled it.
-/
structure Declines
    (mismatch : Mismatch)
    (resolvers : List Resolver)
    (session session' : Session) :
    Prop where
  returned : offer idling mismatch resolvers session = (.ok false, session')
  answers : ∀ resolver ∈ resolvers, resolver.settles = false
  journal :
    ∃ offers,
      session'.registry.journal = session.registry.journal ++ offers ∧
        List.Forall₂
          (fun resolver event =>
            ∃ asked, event = .notice (.offered resolver.label mismatch asked))
          resolvers offers

theorem declines_of_offer
    {mismatch : Mismatch}
    {resolvers : List Resolver}
    (draining : session.finalizer.draining = true)
    (returned : offer idling mismatch resolvers session = (.ok false, session')) :
    Declines mismatch resolvers session session' := by
  induction resolvers generalizing session with
  | nil =>
      refine ⟨returned, List.forall_mem_nil _, [], ?_, .nil⟩
      cases returned
      exact (List.append_nil _).symm
  | cons resolver rest later =>
      have returned' := returned
      have prepared : session.Quiet _ :=
        Resolving.prepare idles_idling mismatch resolver.before none session draining
      have asked := registry_prepare idles_idling mismatch resolver.before none session draining
      rw [offer] at returned'
      generalize prepare idling mismatch resolver.before none session = result
        at prepared asked returned'
      rcases result with ⟨drained, ready⟩
      have stepped := Incidental.takeSteps (R := Quiet) resolver.steps
        (ready.announce (.offered resolver.label mismatch drained))
      have told := registry_takeSteps resolver.steps
        (ready.announce (.offered resolver.label mismatch drained))
      simp only at returned'
      generalize takeSteps resolver.steps _ = result at stepped told returned'
      rcases result with ⟨_ | _, after⟩
      · cases returned'
      · cases settles : resolver.settles with
        | true => simp [settles] at returned'
        | false =>
            simp only [settles, Bool.false_eq_true, if_false] at returned'
            have still := (stepped.draining.trans prepared.draining).trans draining
            rcases later still returned' with ⟨-, answers, offers, grown, each⟩
            have first : after.registry.journal =
                session.registry.journal ++
                  [.notice (.offered resolver.label mismatch drained)] := by
              rw [← asked]
              exact congrArg Registry.journal told
            refine ⟨returned, List.forall_mem_cons.mpr ⟨settles, answers⟩, _ :: offers, ?_,
              .cons ⟨drained, rfl⟩ each⟩
            rw [grown, first, List.append_assoc]
            rfl

/-! ## The route of an item -/

/-- What becomes of an item that does not bring the drain to its end. -/
inductive Route where
  /-- Its record was not deferred when its turn came. -/
  | passed
  /-- Its reference could not be given back. -/
  | bereft (reason : HeapError)
  /-- Its reference was given back. -/
  | released
deriving DecidableEq, Repr

/-- What the log of a drain tells of a record. -/
def logged (session : Session) (generation : Nat) (ref : RecordRef) : CollectedObject :=
  ⟨(session.record ref).id, (session.record ref).handle, (session.record ref).typeName,
    generation⟩

/-- How the drain of an item on a route ends. -/
def Route.outcome (entry : CollectedObject) : Route → ItemEnd
  | .released => .released entry
  | _ => .skipped

/-- An item was taken up, and its hook, if it has one, was run. -/
def Hooks (item : PendingRelease) (session hooked : Session) : Prop :=
  runHook item.record item.hook (session.enter (.takenUp item.record)) = (.ok (), hooked)

/-- The count of a record's object is in order, or a resolver settled it, or nobody checks. -/
def Clears (validates : Bool) (ref : RecordRef) (session session' : Session) : Prop :=
  (if validates then validate idling ref session else (.ok none, session)) =
    (.ok none, session')

/-- An item is dealt with on a route. -/
inductive Deals
    (validates : Bool)
    (generation : Nat)
    (item : PendingRelease)
    (session : Session) :
    Route → Session → Prop where
  /-- Its hook was run, and nothing else was done. -/
  | passed {hooked : Session}
      (hooks : Hooks item session hooked)
      (settled : (hooked.record item.record).state ≠ .deferred)
      (spared : hooked.interp = session.interp) :
      Deals validates generation item session .passed hooked
  /-- Its record was quarantined, and the reason was reported. -/
  | bereft {hooked between last : Session} {reason : HeapError}
      (hooks : Hooks item session hooked)
      (deferred : (hooked.record item.record).state = .deferred)
      (clears : Clears validates item.record hooked between)
      (gone : between.interp.decref (between.record item.record).handle = .error reason)
      (reports :
        Reports (some item.record) (.heap reason)
          ((between.quarantine item.record).enter (.fault (.dropFailed item.record))) last) :
      Deals validates generation item session (.bereft reason) last
  /-- One reference was given back, what remained was checked, and the record was marked. -/
  | released {hooked between last : Session} {remaining : Int} {interp : Interpreter}
      (hooks : Hooks item session hooked)
      (deferred : (hooked.record item.record).state = .deferred)
      (clears : Clears validates item.record hooked between)
      (gaveBack :
        between.interp.decref (between.record item.record).handle = .ok (remaining, interp))
      (checked :
        (if validates then
            checkRemaining item.record remaining
              ({ between with interp }.enter (.dropped item.record))
          else
            (.ok (), { between with interp }.enter (.dropped item.record))) =
          (.ok (), last)) :
      Deals validates generation item session .released (last.complete generation item.record).2

/-- A mismatch is found when an item is taken up, and no resolver settles it. -/
structure Stops
    (item : PendingRelease)
    (mismatch : Mismatch)
    (session hooked between : Session) :
    Prop where
  hooks : Hooks item session hooked
  deferred : (hooked.record item.record).state = .deferred
  found : hooked.mismatch? item.record = some mismatch
  declines : Declines mismatch hooked.finalizer.resolvers.callbacks hooked between

/-- How the drain of an item ends: on a route, with a mismatch, or with a panic. -/
inductive Passage
    (validates : Bool)
    (generation : Nat)
    (item : PendingRelease)
    (session : Session) :
    ItemEnd × Session → Prop where
  | deals {route : Route} {last : Session}
      (deals : Deals validates generation item session route last) :
      Passage validates generation item session
        (route.outcome (session.logged generation item.record), last)
  | stops {mismatch : Mismatch} {hooked between : Session}
      (checks : validates = true)
      (stops : Stops item mismatch session hooked between) :
      Passage validates generation item session
        (.stopped mismatch,
          (between.quarantine item.record).enter (.fault (.mismatched item.record)))
  | panics {panic : Panic} {last : Session} :
      Passage validates generation item session (.panicked panic, last)

/-- What the log tells of a record is settled when the record is made. -/
theorem Notes.logged
    (notes : session.Notes session')
    (generation : Nat)
    (ref : RecordRef) :
    session'.logged generation ref = session.logged generation ref := by
  rcases notes.record ref with same | ⟨-, deferred⟩
  · rw [Session.logged, same, Session.logged]
  · rw [Session.logged, deferred, Session.logged]

theorem Hooks.notes (hooks : Hooks item session hooked) : session.Notes hooked :=
  .of_hook hooks

theorem Hooks.spares (hooks : Hooks item session hooked) : session.Spares hooked :=
  .of_hook hooks

theorem Clears.notes
    (clears : Clears validates ref session session')
    (draining : session.finalizer.draining = true) :
    session.Notes session' :=
  .of_check clears idles_idling draining

theorem passage_referenceRun
    {result : ItemEnd × Session}
    (run : ReferenceRun validates generation item.record between result)
    (draining : session.finalizer.draining = true)
    (hooks : Hooks item session hooked)
    (deferred : (hooked.record item.record).state = .deferred)
    (clears : Clears validates item.record hooked between) :
    Passage validates generation item session result := by
  have notes := hooks.notes.trans (clears.notes (hooks.notes.draining.trans draining))
  cases run with
  | bereft gone reported =>
      exact .deals (.bereft hooks deferred clears gone (reports_of_report reported))
  | unheard gone reported => exact .panics
  | exposed gaveBack checked => exact .panics
  | @released remaining interp last gaveBack checked =>
      have gave : (last.complete generation item.record).1 =
          between.logged generation item.record :=
        (Notes.of_recheck checked).logged generation item.record
      rw [gave, notes.logged]
      exact .deals (.released hooks deferred clears gaveBack checked)

/-- A mismatch that is found was found by a check, and no resolver settled it. -/
theorem declines_of_check
    {mismatch : Mismatch}
    (checked :
      (if validates then validate idling ref session else (.ok none, session)) =
        (.ok (some mismatch), between))
    (draining : session.finalizer.draining = true) :
    validates = true ∧ session.mismatch? ref = some mismatch ∧
      Declines mismatch session.finalizer.resolvers.callbacks session between := by
  split at checked
  · next checks =>
      rw [validate] at checked
      split at checked
      · cases checked
      · next found =>
          split at checked
          · cases checked
          · cases checked
          · next declined =>
              cases checked
              exact ⟨checks, found, declines_of_offer draining declined⟩
  · cases checked

theorem passage_drainItem
    (validates : Bool)
    (generation : Nat)
    (item : PendingRelease)
    (session : Session)
    (draining : session.finalizer.draining = true) :
    Passage validates generation item session
      (drainItem idling validates generation item session) := by
  have run := itemRun_drainItem idling validates generation item session
  generalize drainItem idling validates generation item session = result at run ⊢
  cases run with
  | interrupted ran => exact .panics
  | passed ran settled => exact .deals (.passed ran settled (Spares.of_hook ran).interp)
  | unresolved ran deferred checked => exact .panics
  | stopped ran deferred checked =>
      have still := (Notes.of_hook ran).draining.trans draining
      rcases declines_of_check checked still with ⟨checks, found, declines⟩
      exact .stops checks ⟨ran, deferred, found, declines⟩
  | cleared ran deferred checked run =>
      exact passage_referenceRun run draining ran deferred checked

end Session

end Custody
