import Custody.Proofs.Session.Wrapping
import Custody.Session.Capture

/-!
# Capturing keeps the ledger

The references of the pending error go to the wrappers of the captured
exception; if normalizing it raises, they are given back, and the error that was
raised is captured in its place.  Making a captured exception pending again
takes new references, or those of its wrappers.
-/

namespace Custody.CapturedException

variable {quiet acyclic : Prop} {session : Session} {owned : Multiset Handle}

/-! ## Wrapping a triple -/

theorem ledger_completeTraceback
    {interp : Interpreter}
    {credit : Multiset Handle}
    {traceback : Option Handle}
    (value : Handle)
    (ledger : interp.Ledger acyclic (traceback.toList + credit)) :
    (completeTraceback interp value traceback).2.Ledger acyclic
      ((completeTraceback interp value traceback).1.toList + credit) := by
  cases traceback with
  | some entry => exact ledger
  | none =>
      simp only [completeTraceback]
      split
      · exact ledger
      · next entry _ =>
          split
          · next taken => exact (ledger.incref taken).congr _ (by simp)
          · exact ledger

/-- The references of a complete triple, when its traceback has been looked up. -/
theorem sound_completeTraceback
    {triple : Triple}
    {value : Handle}
    (isValue : triple.value = some value)
    (sound : session.Sound quiet acyclic (triple.references + owned)) :
    { session with
        interp := (completeTraceback session.interp value triple.traceback).2 }.Sound quiet acyclic
      (triple.type ::ₘ value ::ₘ
        ((completeTraceback session.interp value triple.traceback).1.toList + owned)) := by
  refine sound.useInterp fun rest ledger => ?_
  have before := ledger.congr
    (triple.traceback.toList + (triple.type ::ₘ value ::ₘ (owned + rest)))
    (by
      simp only [Triple.references, isValue, Option.toList_some, Multiset.coe_singleton,
        Multiset.singleton_add, Multiset.cons_add, Multiset.add_cons, add_assoc])
  refine (ledger_completeTraceback value before).congr _ ?_
  simp only [Multiset.cons_add, Multiset.add_cons, add_assoc]

/-- The references of a normalized triple go to its wrappers. -/
theorem sound_ofNormalized
    {triple : Triple}
    {value : Handle}
    (isValue : triple.value = some value)
    (sound : session.Sound quiet acyclic (triple.references + owned)) :
    (ofNormalized triple).Ends session fun _ session' => session'.Sound quiet acyclic owned := by
  have ready := sound_completeTraceback isValue sound
  simp only [ofNormalized, isValue, Op.ends_bind, Op.ends_withInterp, Op.andThen_ok,
    Op.ends_session]
  generalize completeTraceback session.interp value triple.traceback = result at ready ⊢
  rcases result with ⟨traceback, interp⟩
  have less : owned ≤ value ::ₘ (traceback.toList + owned) :=
    (Multiset.le_add_left _ _).trans (Multiset.le_cons_self _ _)
  rw [← Op.ends_bind]
  apply (Wrapper.smooth_ofOwned ready).bind_smooth
  · intro typeWrapper session' sound'
    apply ((Wrapper.smooth_ofOwned sound').orDrop_smooth [typeWrapper]).bind_smooth
    · intro valueWrapper session'' sound''
      cases traceback with
      | none => exact sound''.congr _ (by simp)
      | some entry =>
          apply ((Wrapper.smooth_ofOwned (sound''.congr (entry ::ₘ owned)
            (by simp))).orDrop_smooth [valueWrapper, typeWrapper]).bind_smooth
          · exact fun _ _ done => done
          · exact fun _ _ done _ => done _ le_rfl
    · exact fun _ _ done _ => done _ (Multiset.le_add_left _ _)
  · exact fun _ _ done _ => done _ less

/-- An error that cannot be normalized makes way for the one that it raises. -/
theorem sound_ofTriple
    {triple : Triple}
    (attempts : Nat)
    (sound : session.Sound quiet acyclic (triple.references + owned))
    (open_ended : acyclic → session.interp.heap.HasRoom → session.interp.OpenEnded triple) :
    (ofTriple attempts triple).Ends session fun _ session' => session'.Sound quiet acyclic owned := by
  induction attempts generalizing session triple with
  | zero =>
      simp only [ofTriple, Op.ends_bind, Op.ends_changeInterp, Op.andThen_ok, Op.ends_fail]
      exact sound.useInterp fun _ ledger =>
        (ledger.congr _ (add_assoc _ _ _).symm).releaseTriple
  | succ attempts step =>
      have before {rest : Multiset Handle}
          (ledger : session.interp.Ledger acyclic (triple.references + owned + rest)) :=
        ledger.congr (triple.references + (owned + rest)) (add_assoc _ _ _).symm
      simp only [ofTriple, Op.ends_bind, Op.ends_withInterp, Op.andThen_ok]
      cases normalized : session.interp.normalize triple with
      | mk outcome interp =>
          cases outcome with
          | ok triple' =>
              rcases Interpreter.normalize_ok_components normalized with ⟨⟨value, isValue⟩, -⟩
              exact sound_ofNormalized isValue (sound.useInterp fun _ ledger =>
                ((before ledger).normalize_of_ok open_ended normalized).congr _ (add_assoc _ _ _))
          | error raised =>
              rcases sound.exists_ledger with ⟨others, ledger, -⟩
              have traced := ledger.traced_normalize normalized
              have released {rest : Multiset Handle}
                  (ledger : session.interp.Ledger acyclic (triple.references + owned + rest)) :=
                ((before ledger).normalize_of_error normalized).releaseTriple
              have shrinks := interp.shrinks_releaseTriple triple
              simp only [Op.ends_bind, Op.ends_changeInterp, Op.andThen_ok, Op.ends_session]
              split
              · exact sound.useInterp fun _ => released
              · next fetched =>
                  rw [Op.ends_bind, Op.ends_changeInterp, Op.andThen_ok]
                  apply step
                  · exact sound.useInterp fun _ ledger =>
                      ((released ledger).fetch fetched).congr _ (add_assoc _ _ _)
                  · intro _ room
                    rcases Interpreter.fetch_eq_some fetched with ⟨-, rfl⟩
                    have room' : (interp.releaseTriple triple).heap.HasRoom := room
                    have still := (traced (shrinks.hasRoom_iff.mp room')).of_shrinks
                      (interp.pending_releaseTriple triple) shrinks (released ledger) room'
                    exact still.openEnded.fetch fetched

/-! ## Taking what is pending -/

theorem sound_fetch
    (sound : session.Sound quiet acyclic owned)
    (open_ended :
      acyclic → session.interp.heap.HasRoom → session.interp.PendingOpenEnded) :
    fetch.Ends session fun _ session' => session'.Sound quiet acyclic owned := by
  simp only [fetch, Op.ends_bind, Op.ends_session, Op.andThen_ok]
  split
  · exact sound
  · next triple interp fetched =>
      simp only [Op.ends_bind, Op.ends_changeInterp, Op.andThen_ok]
      rw [← Op.ends_bind]
      apply Op.Ends.bind_sound
      · apply sound_ofTriple
        · exact sound.useInterp fun _ ledger =>
            (ledger.fetch fetched).congr _ (add_assoc _ _ _)
        · intro isAcyclic room
          rcases Interpreter.fetch_eq_some fetched with ⟨-, rfl⟩
          exact (open_ended isAcyclic room).fetch fetched
      · exact fun _ _ sound' => sound'

/-- The error that a call has just raised has its traceback. -/
theorem sound_raised
    {α : Type}
    (sound : session.Sound quiet acyclic owned)
    (traced : session.interp.heap.HasRoom → session.interp.PendingTraced) :
    (raised : Op α).Ends session fun _ session' => session'.Sound quiet acyclic owned := by
  rw [raised]
  apply Op.Ends.bind
    (sound_fetch sound fun _ room => (traced room).openEnded)
  · intro exception session' sound'
    cases exception with
    | some exception => exact sound'
    | none => exact sound'
  · exact fun _ _ sound' => sound'

/-- Ending with the error that was raised is no result. -/
theorem raised_fails
    {α : Type} :
    (raised : Op α).Ends session fun outcome _ => ∃ abort, outcome = .error abort := by
  have fetched : fetch.Ends session fun _ _ => True := trivial
  apply fetched.bind
  · intro exception _ _
    cases exception with
    | some exception => exact ⟨_, rfl⟩
    | none => exact ⟨_, rfl⟩
  · exact fun abort _ _ => ⟨abort, rfl⟩

theorem sound_checkPending
    (sound : session.Sound quiet acyclic owned)
    (open_ended :
      acyclic → session.interp.heap.HasRoom → session.interp.PendingOpenEnded) :
    checkPending.Ends session fun _ session' => session'.Sound quiet acyclic owned := by
  rw [checkPending]
  apply Op.Ends.bind (sound_fetch sound open_ended)
  · intro exception session' sound'
    cases exception with
    | some exception => exact sound'
    | none => exact sound'
  · exact fun _ _ sound' => sound'

/-- A cause is there, with its class and its traceback. -/
theorem isLive_of_causeOf
    {interp : Interpreter}
    {credit : Multiset Handle}
    {type value cause : Handle}
    (ledger : interp.Ledger acyclic credit)
    (room : interp.heap.HasRoom)
    (linked : interp.heap.causeOf value = some cause)
    (typed : interp.typeOf cause = .ok type)
    (handle : Handle)
    (member : handle ∈ (⟨type, some cause, interp.heap.tracebackOf cause⟩ : Triple).components) :
    interp.heap.isLive handle = true := by
  simp only [Triple.components, Option.toList_some, List.mem_append, List.mem_cons,
    List.not_mem_nil, or_false, Option.mem_toList] at member
  rcases member with (rfl | rfl) | attached
  · exact ledger.isLive_typeOf room typed
  · exact ledger.heap.isLive_of_points room (Heap.points_of_causeOf linked)
  · exact ledger.heap.isLive_of_points room (Heap.points_of_tracebackOf attached)

/-- The cause of a captured exception is captured with references of its own. -/
theorem sound_cause
    (exception : CapturedException)
    (sound : session.Sound quiet acyclic owned) :
    exception.cause.Ends session fun _ session' => session'.Sound quiet acyclic owned := by
  rw [cause, Op.ends_bind]
  apply Wrapper.ends_requireOwn
  · intro _
    simp only [Op.andThen_ok, Op.ends_bind, Op.ends_session]
    split
    · exact sound
    · next cause linked =>
        rcases sound.exists_ledger with ⟨_, ledger, -⟩
        rw [Op.ends_bind]
        apply Op.ends_ofHeap
        · intro type typed
          apply Op.sound_retaining sound
          · exact fun room => isLive_of_causeOf ledger room linked typed
          · intro session' sound'
            apply Op.Ends.bind_sound (sound_ofNormalized rfl sound')
            exact fun _ _ done => done
        · exact fun _ _ => sound
  · exact fun _ => sound

/-! ## Putting back -/

/-- The references of a triple become pending. -/
theorem sound_restored
    {triple : Triple}
    (sound : session.Sound quiet acyclic (triple.references + owned)) :
    (session.updateInterp fun interp => interp.restore triple).Sound quiet acyclic owned :=
  sound.useInterp fun _ ledger => (ledger.congr _ (add_assoc _ _ _).symm).given.restore

/-- The wrappers of a captured exception keep their references. -/
theorem sound_restoreClone
    {exception : CapturedException}
    (usable : Wrapper.AreUsable exception.wrappers session)
    (sound : session.Sound quiet acyclic owned) :
    exception.restoreClone.Ends session fun _ session' => session'.Sound quiet acyclic owned := by
  rw [restoreClone, Op.ends_bind]
  apply Wrapper.ends_requireOwn
  · intro _
    rw [Op.andThen_ok, Op.ends_bind, Op.ends_session, Op.andThen_ok]
    apply Op.sound_retaining sound
    · intro _ handle member
      simp only [Triple.components, Option.toList_some, List.mem_append, List.mem_cons,
        List.not_mem_nil, or_false, Option.mem_toList, Option.map_eq_some_iff] at member
      rcases member with (rfl | rfl) | ⟨wrapper, isTraceback, rfl⟩
      · exact (usable exception.type (by simp [wrappers])).2
      · exact (usable exception.value (by simp [wrappers])).2
      · exact (usable wrapper (by simp [wrappers, isTraceback])).2
    · exact fun session' sound' => sound_restored sound'
  · exact fun _ => sound

/-- The references of the wrappers become pending. -/
theorem sound_restore
    {exception : CapturedException}
    (intact : Wrapper.AreIntact exception.wrappers session)
    (sound : session.Sound quiet acyclic owned) :
    exception.restore.Ends session fun _ session' => session'.Sound quiet acyclic owned := by
  have own : exception.value.tracker = session.tracker := intact.own _ (by simp [wrappers])
  rw [restore, Op.ends_bind, Op.ends_orDrop]
  apply Wrapper.ends_requireOwn
  · intro _
    rw [Op.orDropped, Op.andThen_ok, Op.ends_bind, Op.ends_orDrop]
    apply (Wrapper.sound_intoHandle_of_intact intact sound).mono
    rintro _ session₁ ⟨type, rfl, intact₁, sound₁⟩
    rw [Op.orDropped, Op.andThen_ok, Op.ends_bind, Op.ends_orDrop]
    apply (Wrapper.sound_intoHandle_of_intact intact₁ sound₁).mono
    rintro _ session₂ ⟨value, rfl, intact₂, sound₂⟩
    rw [Op.orDropped, Op.andThen_ok]
    cases traced : exception.traceback with
    | none =>
        refine sound_restored (sound₂.congr _ ?_)
        simp [Triple.references, Multiset.cons_swap]
    | some wrapper =>
        rw [traced] at intact₂
        simp only [Op.ends_bind, Op.ends_map]
        apply (Wrapper.sound_intoHandle_of_intact intact₂ sound₂).mono
        rintro _ session₃ ⟨entry, rfl, -, sound₃⟩
        refine sound_restored (sound₃.congr _ ?_)
        simp only [Triple.references, Option.toList_some, Multiset.coe_singleton,
          Multiset.cons_add, Multiset.singleton_add]
        rw [Multiset.cons_swap entry value, Multiset.cons_swap entry type,
          Multiset.cons_swap value type]
  · exact fun foreign => absurd own foreign

end Custody.CapturedException

namespace Custody.Wrapper

variable {quiet acyclic : Prop} {session : Session} {owned : Multiset Handle}

/-- An item is wrapped with a reference of its own; otherwise an error is captured. -/
theorem sound_getItem
    (wrapper : Wrapper)
    (index : Int)
    (sound : session.Sound quiet acyclic owned) :
    (wrapper.getItem index).Ends session fun _ session' => session'.Sound quiet acyclic owned := by
  rw [getItem, Op.ends_bind]
  apply ends_requireOwn
  · intro _
    simp only [Op.andThen_ok, Op.ends_bind, Op.ends_session, Op.ends_withInterp]
    cases result : session.interp.getItem (wrapper.handle session) index with
    | mk outcome interp =>
        have got {rest : Multiset Handle}
            (ledger : session.interp.Ledger acyclic (owned + rest)) :
            interp.Ledger acyclic (outcome.toOption.toList + (owned + rest)) := by
          simpa [result] using ledger.getItem (wrapper.handle session) index
        cases outcome with
        | ok item =>
            refine sound_ofOwned (sound.useInterp fun _ ledger => (got ledger).congr _ ?_)
            simp [Except.toOption, Multiset.cons_add]
        | error raised =>
            rcases sound.exists_ledger with ⟨_, ledger, -⟩
            apply CapturedException.sound_raised
            · exact sound.useInterp fun _ ledger =>
                (got ledger).congr _ (by simp [Except.toOption])
            · exact ledger.traced_getItem result
  · exact fun _ => sound

end Custody.Wrapper
