import Custody.Proofs.Finalizer.Moves

/-!
# Who gets an event

An event goes to the callbacks that are subscribed when it is raised, in the order of
subscription, each of them once, up to and including the first one that stops the
delivery.  What a callback does to the subscriptions shows when the next event is
raised, not before.

The lists of callbacks share one supply of numbers.  So a number names one subscription
at most, and ending that one leaves all others where they are.
-/

namespace Custody

/-! ## Up to the first that stops -/

/-- The items of a list up to and including the first one that stops. -/
def upTo {α : Type} (stops : α → Bool) : List α → List α
  | [] => []
  | item :: rest => if stops item then [item] else item :: upTo stops rest

/-- Whether the steps of a callback end with a panic. -/
def HandlerStep.panicIn (steps : List HandlerStep) : Bool :=
  steps.any fun step =>
    match step with
    | .panic _ => true
    | .unsubscribe _ => false

/-- A handler stops a delivery by a panic. -/
def Handler.stops (handler : Handler) : Bool :=
  HandlerStep.panicIn handler.steps

/-- A resolver ends an offer by a panic, or because it settles the mismatch. -/
def Resolver.stops (resolver : Resolver) : Bool :=
  HandlerStep.panicIn resolver.steps || resolver.settles

/-- Whether a resolver asks for a drain. -/
def ResolverStep.drains : ResolverStep → Bool
  | .collect => true
  | .adjust _ => false

/-- What a resolver says of the drains that it asked for while one was running. -/
def Resolver.idleDrains (resolver : Resolver) : Option Nat :=
  if resolver.before.any ResolverStep.drains then some 0 else none

/-! ## Numbers -/

namespace Subscriptions

variable {α : Type}

theorem has_eq
    (subscriptions : Subscriptions α)
    (id : SubscriptionId) :
    subscriptions.has id = decide (id ∈ subscriptions.map Prod.fst) := by
  rw [Bool.eq_iff_iff]
  simp [has]

theorem remove_of_not_mem
    {subscriptions : Subscriptions α}
    {id : SubscriptionId}
    (missing : id ∉ subscriptions.map Prod.fst) :
    subscriptions.remove id = subscriptions := by
  apply List.filter_eq_self.mpr
  intro entry among
  have other : entry.1 ≠ id := fun same => missing (same ▸ List.mem_map_of_mem among)
  simpa using other

end Subscriptions

namespace Finalizer

variable {finalizer finalizer' : Finalizer} {next : SubscriptionId}

/-- The numbers under which callbacks are subscribed, list by list. -/
def subscribed (finalizer : Finalizer) : List SubscriptionId :=
  finalizer.collectHandlers.map Prod.fst ++
    (finalizer.errorHandlers.map Prod.fst ++ finalizer.resolvers.map Prod.fst)

/-- A finalizer without the subscription of a number, whichever list held it. -/
def without (finalizer : Finalizer) (id : SubscriptionId) : Finalizer :=
  { finalizer with
    collectHandlers := finalizer.collectHandlers.remove id
    errorHandlers := finalizer.errorHandlers.remove id
    resolvers := finalizer.resolvers.remove id }

/--
No two subscriptions share a number, whichever lists they are in.  In each list the
later ones have the greater numbers, and `next` is greater than all.
-/
structure Numbered (finalizer : Finalizer) (next : SubscriptionId) : Prop where
  distinct : finalizer.subscribed.Nodup
  below : ∀ id ∈ finalizer.subscribed, id < next
  collectHandlers : (finalizer.collectHandlers.map Prod.fst).Pairwise (· < ·)
  errorHandlers : (finalizer.errorHandlers.map Prod.fst).Pairwise (· < ·)
  resolvers : (finalizer.resolvers.map Prod.fst).Pairwise (· < ·)

namespace Numbered

/-- Ending subscriptions leaves the numbers of the others. -/
theorem of_fewer
    (numbered : finalizer.Numbered next)
    (fewerCollect : finalizer'.collectHandlers.Sublist finalizer.collectHandlers)
    (fewerError : finalizer'.errorHandlers.Sublist finalizer.errorHandlers)
    (fewerResolvers : finalizer'.resolvers.Sublist finalizer.resolvers) :
    finalizer'.Numbered next := by
  have collectHandlers := fewerCollect.map Prod.fst
  have errorHandlers := fewerError.map Prod.fst
  have resolvers := fewerResolvers.map Prod.fst
  have fewer : finalizer'.subscribed.Sublist finalizer.subscribed :=
    collectHandlers.append (errorHandlers.append resolvers)
  exact
    { distinct := numbered.distinct.sublist fewer
      below := fun id among => numbered.below id (fewer.subset among)
      collectHandlers := numbered.collectHandlers.sublist collectHandlers
      errorHandlers := numbered.errorHandlers.sublist errorHandlers
      resolvers := numbered.resolvers.sublist resolvers }

theorem of_trims
    (numbered : finalizer.Numbered next)
    (trims : finalizer.Trims finalizer') :
    finalizer'.Numbered next :=
  numbered.of_fewer trims.collectHandlers trims.errorHandlers trims.resolvers

/-- With the next number there is one subscription more. -/
theorem distinct_of_perm
    {ids : List SubscriptionId}
    (numbered : finalizer.Numbered next)
    (added : ids.Perm (next :: finalizer.subscribed)) :
    ids.Nodup ∧ ∀ id ∈ ids, id < next + 1 := by
  constructor
  · rw [added.nodup_iff, List.nodup_cons]
    exact ⟨fun among => absurd (numbered.below next among) (lt_irrefl next), numbered.distinct⟩
  · intro id among
    rcases List.mem_cons.mp (added.subset among) with rfl | before
    · exact Nat.lt_succ_self id
    · exact Nat.lt_succ_of_lt (numbered.below id before)

/-- The newest subscription of a list has the greatest number. -/
theorem ordered_add
    {α : Type}
    {subscriptions : Subscriptions α}
    (ordered : (subscriptions.map Prod.fst).Pairwise (· < ·))
    (below : ∀ id ∈ subscriptions.map Prod.fst, id < next)
    (callback : α) :
    ((subscriptions.add next callback).map Prod.fst).Pairwise (· < ·) := by
  rw [Subscriptions.add, List.map_append, List.pairwise_append]
  refine ⟨ordered, List.pairwise_singleton _ _, fun id among newest isNewest => ?_⟩
  rw [List.map_singleton, List.mem_singleton] at isNewest
  exact isNewest ▸ below id among

theorem onCollect
    (numbered : finalizer.Numbered next)
    (handler : Handler) :
    ({ finalizer with
        collectHandlers := finalizer.collectHandlers.add next handler } : Finalizer).Numbered
      (next + 1) := by
  have added : ((finalizer.collectHandlers.add next handler).map Prod.fst ++
      (finalizer.errorHandlers.map Prod.fst ++ finalizer.resolvers.map Prod.fst)).Perm
        (next :: finalizer.subscribed) := by
    simp [subscribed, Subscriptions.add]
  have distinct := numbered.distinct_of_perm added
  have ordered := ordered_add numbered.collectHandlers
    (fun id among => numbered.below id (List.mem_append_left _ among)) handler
  exact { numbered with distinct := distinct.1, below := distinct.2, collectHandlers := ordered }

theorem onError
    (numbered : finalizer.Numbered next)
    (handler : Handler) :
    ({ finalizer with
        errorHandlers := finalizer.errorHandlers.add next handler } : Finalizer).Numbered
      (next + 1) := by
  have added : (finalizer.collectHandlers.map Prod.fst ++
      ((finalizer.errorHandlers.add next handler).map Prod.fst ++
        finalizer.resolvers.map Prod.fst)).Perm (next :: finalizer.subscribed) := by
    rw [subscribed, ← List.append_assoc, ← List.append_assoc, Subscriptions.add, List.map_append,
      ← List.append_assoc, List.append_assoc]
    exact List.perm_middle
  have distinct := numbered.distinct_of_perm added
  have ordered := ordered_add numbered.errorHandlers
    (fun id among => numbered.below id
      (List.mem_append_right _ (List.mem_append_left _ among))) handler
  exact { numbered with distinct := distinct.1, below := distinct.2, errorHandlers := ordered }

theorem addResolver
    (numbered : finalizer.Numbered next)
    (resolver : Resolver) :
    ({ finalizer with
        resolvers := finalizer.resolvers.add next resolver } : Finalizer).Numbered
      (next + 1) := by
  have added : (finalizer.collectHandlers.map Prod.fst ++
      (finalizer.errorHandlers.map Prod.fst ++
        (finalizer.resolvers.add next resolver).map Prod.fst)).Perm
          (next :: finalizer.subscribed) := by
    rw [subscribed, Subscriptions.add, List.map_append, ← List.append_assoc, ← List.append_assoc,
      ← List.append_assoc]
    exact List.perm_append_singleton _ _
  have distinct := numbered.distinct_of_perm added
  have ordered := ordered_add numbered.resolvers
    (fun id among => numbered.below id
      (List.mem_append_right _ (List.mem_append_right _ among))) resolver
  exact { numbered with distinct := distinct.1, below := distinct.2, resolvers := ordered }

/-- One list at most holds a number, so the first that has it is the one to take it from. -/
theorem unsubscribe
    (numbered : finalizer.Numbered next)
    (id : SubscriptionId) :
    finalizer.unsubscribe id = (decide (id ∈ finalizer.subscribed), finalizer.without id) := by
  have distinct := numbered.distinct
  rw [subscribed, List.nodup_append', List.nodup_append', List.disjoint_append_right] at distinct
  rcases distinct with ⟨-, ⟨-, -, apart⟩, ⟨apart', apart''⟩⟩
  simp only [Finalizer.unsubscribe, Subscriptions.has_eq, decide_eq_true_eq, without, subscribed,
    List.mem_append]
  split
  · next inFirst =>
      rw [Subscriptions.remove_of_not_mem (apart' inFirst),
        Subscriptions.remove_of_not_mem (apart'' inFirst)]
      simp [inFirst]
  · next notFirst =>
      rw [Subscriptions.remove_of_not_mem notFirst]
      split
      · next inSecond =>
          rw [Subscriptions.remove_of_not_mem (apart inSecond)]
          simp [inSecond]
      · next notSecond =>
          rw [Subscriptions.remove_of_not_mem notSecond]
          split
          · next inThird => simp [inThird]
          · next notThird =>
              rw [Subscriptions.remove_of_not_mem notThird]
              simp [notFirst, notSecond, notThird]

end Numbered

end Finalizer

namespace Session

variable {session session' : Session}

/-! ## Deliveries -/

/-- A callback panics if there is a panic among its steps. -/
theorem isOk_takeSteps
    (steps : List HandlerStep)
    (session : Session) :
    (takeSteps steps session).1.isOk = !HandlerStep.panicIn steps := by
  induction steps generalizing session with
  | nil => rfl
  | cons step rest later =>
      cases step with
      | unsubscribe id => exact later _
      | panic text => rfl

/-- Callbacks do not change what the finalizer is doing. -/
theorem finalizerState_takeSteps
    (steps : List HandlerStep)
    (session : Session) :
    (takeSteps steps session).2.finalizerState = session.finalizerState := by
  have spares := Spares.takeSteps steps session
  have draining := spares.finalizer.draining
  have queue : (takeSteps steps session).2.queue = session.queue := by
    rw [queue, ownTracker, registry_takeSteps, spares.tracker]
    rfl
  rw [finalizerState, finalizerState, draining, queue]

/-- What a delivery adds to the journal. -/
theorem registry_deliver
    {notice : Handler → Session → Notice}
    {told : Handler → Notice}
    (handlers : List Handler)
    (session : Session)
    (same :
      ∀ handler session',
        session'.finalizerState = session.finalizerState → notice handler session' = told handler) :
    (deliver notice handlers session).2.registry =
      { session.registry with
        journal :=
          session.registry.journal ++
            (upTo Handler.stops handlers).map fun handler => .notice (told handler) } := by
  induction handlers generalizing session with
  | nil => simp [deliver, upTo]
  | cons handler rest later =>
      have announced := same handler session rfl
      have state := finalizerState_takeSteps handler.steps
        (session.announce (notice handler session))
      have registry := registry_takeSteps handler.steps
        (session.announce (notice handler session))
      have panics := isOk_takeSteps handler.steps (session.announce (notice handler session))
      rw [deliver, upTo]
      rw [announced] at state registry panics ⊢
      generalize takeSteps handler.steps (session.announce (told handler)) = result
        at state registry panics ⊢
      rcases result with ⟨_ | _, session'⟩
      · have stops : handler.stops = true := by
          simpa [Handler.stops, Except.isOk, Except.toBool] using panics
        simp only [stops, if_true]
        simp only at registry
        rw [registry]
        rfl
      · have goes : handler.stops = false := by
          simpa [Handler.stops, Except.isOk, Except.toBool] using panics
        simp only [goes, Bool.false_eq_true, if_false]
        simp only at registry state
        rw [
          later session' fun handler session'' alike =>
            same handler session'' (alike.trans state),
          registry]
        simp [announce, enter, updateRegistry, Registry.enter]

/-! ## Offers -/

variable {nested : Session → Except Abort Nat × Session}

/-- While a drain runs, a resolver changes nothing but the interpreter before it announces. -/
theorem prepare_eq
    (idles : Idles nested)
    (mismatch : Mismatch)
    (steps : List ResolverStep)
    (drained : Option Nat)
    (session : Session)
    (draining : session.finalizer.draining = true) :
    ∃ interp,
      prepare nested mismatch steps drained session =
        (if steps.any ResolverStep.drains then some 0 else drained,
          { session with interp }) := by
  induction steps generalizing drained session with
  | nil => exact ⟨session.interp, rfl⟩
  | cons step rest later =>
      cases step with
      | adjust change =>
          rcases later drained (session.updateInterp (change mismatch)) draining with ⟨interp, same⟩
          exact ⟨interp, same⟩
      | collect =>
          rcases later (some 0) session draining with ⟨interp, same⟩
          refine ⟨interp, Eq.trans ?_ (same.trans ?_)⟩
          · simp only [prepare, idles session draining]
            rfl
          · simp [ResolverStep.drains]

/-- What an offer adds to the journal. -/
theorem registry_offer
    (idles : Idles nested)
    (mismatch : Mismatch)
    (resolvers : List Resolver)
    (session : Session)
    (draining : session.finalizer.draining = true) :
    (offer nested mismatch resolvers session).2.registry =
      { session.registry with
        journal :=
          session.registry.journal ++
            (upTo Resolver.stops resolvers).map fun resolver =>
              .notice (.offered resolver.label mismatch resolver.idleDrains) } := by
  induction resolvers generalizing session with
  | nil => simp [offer, upTo]
  | cons resolver rest later =>
      obtain ⟨interp, prepared⟩ :
          ∃ interp,
            prepare nested mismatch resolver.before none session =
              (resolver.idleDrains, { session with interp }) :=
        prepare_eq idles mismatch resolver.before none session draining
      have spares := Spares.takeSteps resolver.steps
        (({ session with interp } : Session).announce
          (.offered resolver.label mismatch resolver.idleDrains))
      have registry := registry_takeSteps resolver.steps
        (({ session with interp } : Session).announce
          (.offered resolver.label mismatch resolver.idleDrains))
      have panics := isOk_takeSteps resolver.steps
        (({ session with interp } : Session).announce
          (.offered resolver.label mismatch resolver.idleDrains))
      rw [offer, prepared, upTo]
      simp only
      generalize takeSteps resolver.steps _ = result at spares registry panics ⊢
      rcases result with ⟨_ | _, session'⟩
      · have stops : resolver.stops = true := by
          simp_all [Resolver.stops, Except.isOk, Except.toBool]
        simp only [stops, if_true]
        simp only at registry
        rw [registry]
        rfl
      · have quiet : HandlerStep.panicIn resolver.steps = false := by
          simpa [Except.isOk, Except.toBool] using panics
        simp only at registry
        simp only [Resolver.stops, quiet, Bool.false_or]
        split
        · rw [registry]
          rfl
        · have draining' := spares.finalizer.draining.trans draining
          rw [later session' draining', registry]
          simp [announce, enter, updateRegistry, Registry.enter]

end Session

end Custody
