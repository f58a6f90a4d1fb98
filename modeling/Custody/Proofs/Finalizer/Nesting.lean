import Custody.Proofs.Finalizer.Moves

/-!
# Drains do not nest

A resolver may ask for a drain.  While one runs it finds the flag set wherever it
is called, so the answer to what it asks for is settled: nothing is released and
nothing changes.  Two ways to answer that agree while a drain runs make no
difference to the drain.
-/

namespace Custody.Session

variable {nested nested' : Session → Except Abort Nat × Session}

/-- The answer to a drain that is asked for while another one runs. -/
def idling (session : Session) : Except Abort Nat × Session :=
  (.ok 0, session)

theorem idles_idling : Idles idling :=
  fun _ _ => rfl

theorem prepare_congr
    (idles : Idles nested)
    (idles' : Idles nested')
    (mismatch : Mismatch)
    (steps : List ResolverStep)
    (drained : Option Nat)
    (session : Session)
    (draining : session.finalizer.draining = true) :
    prepare nested mismatch steps drained session =
      prepare nested' mismatch steps drained session := by
  induction steps generalizing drained session with
  | nil => rfl
  | cons step rest later =>
      cases step with
      | adjust change => exact later drained _ draining
      | collect =>
          simp only [prepare, idles session draining, idles' session draining]
          exact later _ session draining

theorem offer_congr
    (idles : Idles nested)
    (idles' : Idles nested')
    (mismatch : Mismatch)
    (resolvers : List Resolver)
    (session : Session)
    (draining : session.finalizer.draining = true) :
    offer nested mismatch resolvers session = offer nested' mismatch resolvers session := by
  induction resolvers generalizing session with
  | nil => rfl
  | cons resolver rest later =>
      have prepared := Notifies.prepare idles' mismatch resolver.before none session draining
      rw [offer, offer, prepare_congr idles idles' mismatch resolver.before none session draining]
      generalize prepare nested' mismatch resolver.before none session = result at prepared ⊢
      rcases result with ⟨drained, asked⟩
      have told := Notifies.announce asked (.offered resolver.label mismatch drained)
      have stepped := Spares.takeSteps resolver.steps
        (asked.announce (.offered resolver.label mismatch drained))
      have draining' := ((prepared.trans told).trans stepped.toNotifies).draining draining
      simp only
      generalize takeSteps resolver.steps _ = result at draining' ⊢
      rcases result with ⟨_ | _, session'⟩
      · rfl
      · simp only
        rw [later session' draining']

theorem validate_congr
    (idles : Idles nested)
    (idles' : Idles nested')
    (ref : RecordRef)
    (session : Session)
    (draining : session.finalizer.draining = true) :
    validate nested ref session = validate nested' ref session := by
  rw [validate, validate]
  split
  · rfl
  · rw [offer_congr idles idles' _ _ session draining]

theorem drainItem_congr
    (idles : Idles nested)
    (idles' : Idles nested')
    (validates : Bool)
    (generation : Nat)
    (item : PendingRelease)
    (session : Session)
    (draining : session.finalizer.draining = true) :
    drainItem nested validates generation item session =
      drainItem nested' validates generation item session := by
  have ran := Spares.runHook item.record item.hook (session.enter (.takenUp item.record))
  have draining' := ran.toNotifies.draining draining
  simp only [drainItem]
  generalize runHook item.record item.hook (session.enter (.takenUp item.record)) = result
    at draining' ⊢
  rcases result with ⟨_ | _, session'⟩
  · rfl
  · simp only [validate_congr idles idles' item.record session' draining']

theorem drainBatch_congr
    (idles : Idles nested)
    (idles' : Idles nested')
    (validates : Bool)
    (generation : Nat)
    (batch : List PendingRelease)
    (log : List CollectedObject)
    (session : Session)
    (draining : session.finalizer.draining = true) :
    drainBatch nested validates generation batch log session =
      drainBatch nested' validates generation batch log session := by
  induction batch generalizing log session with
  | nil => rfl
  | cons item rest step =>
      have abides := Abides.drainItem idles' validates generation item session draining
      simp only [drainBatch,
        drainItem_congr idles idles' validates generation item session draining]
      generalize drainItem nested' validates generation item session = result at abides ⊢
      rcases result with ⟨_ | _ | _ | _, session'⟩
      · exact step log session' (abides.draining.trans draining)
      · exact step _ session' (abides.draining.trans draining)
      · rfl
      · rfl

/-- How drains are answered that are asked for meanwhile does not matter as long as they idle. -/
theorem drain_congr
    (idles : Idles nested)
    (idles' : Idles nested')
    (session : Session) :
    session.drain nested = session.drain nested' := by
  simp only [drain]
  rw [drainBatch_congr idles idles' _ _ _ _ (session.setDraining true).takeSnapshot.2.2 rfl]

/-- A drain that is not asked for by a running one is a drain in which others idle. -/
theorem collect_eq_drain
    {session : Session}
    (idles : Idles nested)
    (idle : session.finalizer.draining = false) :
    session.collect = session.drain nested := by
  rw [drain_congr idles (idles_collectWithin 1) session]
  simp [collect, collectWithin, idle]

/-- Nor does a drain that waits for enough to be queued do anything while another one runs. -/
theorem collectThrottled_of_draining
    {session : Session}
    (draining : session.finalizer.draining = true) :
    session.collectThrottled = (.ok 0, session) := by
  rw [collectThrottled, collectReporting, collect_of_draining session draining]
  split
  · rfl
  · rfl

end Custody.Session
