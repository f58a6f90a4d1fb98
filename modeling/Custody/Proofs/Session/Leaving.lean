import Custody.Proofs.Session.Fetching

/-!
# What refused wrappers leave behind

To wrap an object is to register a reference that was taken before.  Only the maker of a
second wrapper gives that reference back if the registration is refused.  Every other
maker leaves it behind: the object has one reference more than it has owners, and nobody
is going to give it back.  A list that cannot be made leaves behind what was taken of the
items before the one that cannot be used.

A tracker that is open refuses nothing that is there.
-/

namespace Custody

/-! ## One reference there and back -/

namespace Heap

variable {heap heap' : Heap} {handle : Handle} {entry : Entry}

theorem write_write
    (heap : Heap)
    (handle : Handle)
    (entry entry' : Entry) :
    (heap.write handle entry).write handle entry' = heap.write handle entry' := by
  simp only [write, Heap.mk.injEq, and_true]
  apply Array.ext (by simp)
  intro index _ _
  simp only [Array.getElem_modify]
  split
  · rfl
  · rfl

/-- To write what is there already changes nothing. -/
theorem write_of_find?
    (found : heap.find? handle = some entry) :
    heap.write handle entry = heap := by
  rcases find?_eq_some found with ⟨slot, at_index, -, holds⟩
  have same : heap.slots.modify handle.index.toNat
      (fun slot => { slot with entry := some entry }) = heap.slots := by
    apply Array.ext (by simp)
    intro index inside inside'
    rw [Array.getElem_modify]
    split
    · next isIndex =>
        subst isIndex
        rw [Array.getElem?_eq_getElem inside', Option.some.injEq] at at_index
        rw [at_index, ← holds]
    · rfl
  rw [write, same]

/-- A reference that was taken is given back without a trace. -/
theorem decref_of_incref
    (wellFormed : heap.WellFormed)
    (taken : heap.incref handle = .ok heap') :
    ∃ remaining, heap'.decref handle = .ok (remaining, heap) := by
  rcases Except.bind_eq_ok_iff.mp taken with ⟨entry, resolved, written⟩
  cases written
  have found := (resolve_eq_ok_iff heap handle entry).mp resolved
  have positive := wellFormed.refcount_pos found
  have again := (resolve_eq_ok_iff _ handle _).mpr
    (find?_write_self { entry with refcount := entry.refcount + 1 } found)
  refine ⟨entry.refcount, ?_⟩
  rw [decref, again]
  simp only [bind, Except.bind, pure, Except.pure, add_sub_cancel_right, write_write,
    write_of_find? found, positive.ne', if_false]

end Heap

theorem Interpreter.release_of_incref
    {interp interp' : Interpreter}
    {handle : Handle}
    (wellFormed : interp.heap.WellFormed)
    (taken : interp.incref handle = .ok interp') :
    interp'.release handle = interp := by
  rcases incref_eq_ok_iff.mp taken with ⟨heap, counted, rfl⟩
  rcases Heap.decref_of_incref wellFormed counted with ⟨remaining, released⟩
  have given : ({ interp with heap } : Interpreter).decref handle = .ok (remaining, interp) :=
    decref_eq_ok_iff.mpr ⟨interp.heap, released, rfl⟩
  rw [release, given]

/-- Taking a reference to an object takes none away, and brings none back. -/
theorem Interpreter.isLive_retain_eq
    (interp : Interpreter)
    (handle other : Handle) :
    (interp.retain handle).heap.isLive other = interp.heap.isLive other := by
  rw [Bool.eq_iff_iff]
  exact ⟨(interp.shrinks_retain handle).isLive, isLive_retain handle⟩

variable {session session' session'' : Session} {owned : Multiset Handle}
variable {quiet : Prop}

/-! ## What is left behind -/

/--
References were taken and left behind.  Nothing changed outside the interpreter, and so
no record owns them; every count that was accounted for before still is, if one adds
these references.
-/
structure Session.Leaves (session : Session) (behind : Multiset Handle) (session' : Session) :
    Prop where
  same : session' = { session with interp := session'.interp }
  accounts :
    ∀ credit,
      session.interp.Ledger False credit → session'.interp.Ledger False (behind + credit)

namespace Session.Leaves

variable {behind behind' : Multiset Handle}

theorem refl (session : Session) : session.Leaves 0 session where
  same := rfl
  accounts := fun credit ledger => ledger.congr _ (zero_add credit)

theorem trans
    (first : session.Leaves behind session')
    (later : session'.Leaves behind' session'') :
    session.Leaves (behind' + behind) session'' where
  same := by rw [later.same, first.same]
  accounts := fun credit ledger =>
    (later.accounts _ (first.accounts credit ledger)).congr _ (add_assoc _ _ _)

theorem cons
    {handle : Handle}
    {handles : List Handle}
    (first : session.Leaves {handle} session')
    (later : session'.Leaves handles session'') :
    session.Leaves (handle :: handles : List Handle) session'' where
  same := (first.trans later).same
  accounts := fun credit ledger =>
    ((first.trans later).accounts credit ledger).congr _ <| by
      rw [← Multiset.cons_coe, ← Multiset.singleton_add, add_comm {handle} (handles : Multiset _)]

theorem of_interp
    {interp : Interpreter}
    (accounts :
      ∀ credit, session.interp.Ledger False credit → interp.Ledger False (behind + credit)) :
    session.Leaves behind { session with interp } :=
  ⟨rfl, accounts⟩

theorem of_incref
    {interp : Interpreter}
    {handle : Handle}
    (taken : session.interp.incref handle = .ok interp) :
    session.Leaves {handle} { session with interp } :=
  of_interp fun _ ledger => (ledger.incref taken).congr _ (Multiset.singleton_add _ _)

end Session.Leaves

namespace Op

variable {α β : Type} {op : Op α} {post post' : Session → Prop}

/-- What is true if the operation ends with an error, as long as there are handles left. -/
def Refused (op : Op α) (session : Session) (post : Session → Prop) : Prop :=
  op.Ends session fun outcome session' =>
    ∀ error, outcome = .error (.error error) → session'.interp.heap.HasRoom → post session'

namespace Refused

theorem mono
    (refused : op.Refused session post)
    (weaker : ∀ session', session'.interp.heap.HasRoom → post session' → post' session') :
    op.Refused session post' := by
  apply Ends.mono refused
  exact fun _ session' reached error failed room =>
    weaker session' room (reached error failed room)

end Refused

end Op

/-! ## Registering -/

/-- Of an object that is there a registration is refused only if the tracker is closed. -/
theorem Session.isOpen_of_register
    {handle : Handle}
    {error : BridgeError}
    (live : session.interp.heap.isLive handle = true)
    (refused : session.register handle = .error error) :
    session.ownTracker.isOpen = false := by
  rcases Interpreter.exists_typeName live with ⟨typeName, named⟩
  by_contra isOpen
  rw [Session.register, Heap.isNull_of_isLive live, named, Bool.eq_true_of_not_eq_false isOpen]
    at refused
  cases refused

namespace Wrapper

variable {handle : Handle}

/-- A refused registration changes nothing. -/
theorem unchanged_ofOwned (handle : Handle) :
    (ofOwned handle).Ends session fun outcome session' =>
      ∀ error,
        outcome = .error (.error error) →
          session' = session ∧ session.register handle = .error error := by
  rw [ofOwned, Op.register, Op.ends_bind]
  simp only [Op.ends_bind, Op.ends_session, Op.andThen_ok]
  cases registered : session.register handle with
  | error reason =>
      intro error failed
      cases failed
      exact ⟨rfl, rfl⟩
  | ok result =>
      simp only [Op.ends_bind, Op.ends_change, Op.andThen_ok]
      apply Op.ends_ofPanicking
      · intro count _ error failed
        cases failed
      · intro panic _ error failed
        cases failed

theorem refused_ofOwned
    (live : session.interp.heap.HasRoom → session.interp.heap.isLive handle = true) :
    (ofOwned handle).Refused session fun session' =>
      session.ownTracker.isOpen = false ∧ session' = session := by
  apply (unchanged_ofOwned handle).mono
  intro outcome session' unchanged error failed room
  rcases unchanged error failed with ⟨rfl, refused⟩
  exact ⟨Session.isOpen_of_register (live room) refused, rfl⟩

/-! ## Making wrappers -/

/-- A reference that was taken to be registered is left behind only by a closed tracker. -/
theorem isClosed_of_leaves
    (sound : session.Sound quiet False owned)
    (leaves : session.Leaves {handle} session') :
    (ofOwned handle).Refused session' fun session'' =>
      session.ownTracker.isOpen = false ∧ session'' = session' := by
  rcases sound.exists_ledger with ⟨_, ledger, -⟩
  have ledger' := leaves.accounts _ ledger
  have refused := refused_ofOwned fun room =>
    ledger'.isLive_of_mem room (Multiset.mem_add.mpr (.inl (Multiset.mem_singleton_self handle)))
  rw [leaves.same] at refused ⊢
  exact refused

theorem refused_ofNone
    (sound : session.Sound quiet False owned) :
    ofNone.Refused session fun session' =>
      session.ownTracker.isOpen = false ∧ session.Leaves {session.interp.noneObject} session' := by
  simp only [ofNone, Op.Refused, Op.ends_bind, Op.ends_withInterp, Op.andThen_ok]
  have leaves : session.Leaves {session.interp.noneObject}
      { session with interp := session.interp.newNone.2 } :=
    .of_interp fun _ ledger => ledger.newNone.congr _ (Multiset.singleton_add _ _)
  refine Op.Refused.mono (isClosed_of_leaves sound leaves) ?_
  rintro _ - ⟨isClosed, rfl⟩
  exact ⟨isClosed, leaves⟩

/-- An object without children is left behind as it was made. -/
theorem refused_ofPayload
    {payload : Payload}
    (sound : session.Sound quiet False owned)
    (plain : payload.children = []) :
    (ofPayload payload).Refused session fun session' =>
      session.ownTracker.isOpen = false ∧
        session.Leaves {(session.interp.allocate payload).1} session' := by
  simp only [ofPayload, Op.Refused, Op.ends_bind, Op.ends_withInterp, Op.andThen_ok]
  have leaves : session.Leaves {(session.interp.allocate payload).1}
      { session with interp := (session.interp.allocate payload).2 } := by
    refine .of_interp fun credit ledger => ?_
    have ready := ledger.congr (payload.children + credit) (by simp [plain])
    exact (ready.allocate payload).congr _ (Multiset.singleton_add _ _)
  refine Op.Refused.mono (isClosed_of_leaves sound leaves) ?_
  rintro _ - ⟨isClosed, rfl⟩
  exact ⟨isClosed, leaves⟩

theorem isLive_incref
    {interp : Interpreter}
    {other : Handle}
    (taken : session.interp.incref handle = .ok interp) :
    interp.heap.isLive other = session.interp.heap.isLive other := by
  have retained : session.interp.retain handle = interp := by rw [Interpreter.retain, taken]
  rw [← retained, Interpreter.isLive_retain_eq]

/-- The first of some wrappers that is of another runtime or of an object that is gone. -/
structure FailsAt
    (wrappers before : List Wrapper)
    (wrapper : Wrapper)
    (after : List Wrapper)
    (session : Session) :
    Prop where
  split : wrappers = before ++ wrapper :: after
  usable : AreUsable before session
  unusable :
    wrapper.tracker = session.tracker →
      session.interp.heap.isLive (wrapper.handle session) = false

/--
References are taken to the items one after another.  At the first that cannot be used
those taken before are left behind.
-/
theorem ends_retainAll (wrappers : List Wrapper) :
    (retainAll wrappers).Ends session fun outcome session' =>
      match outcome with
      | .ok handles =>
          handles = wrappers.map (fun wrapper => wrapper.handle session) ∧
            AreUsable wrappers session ∧ session.Leaves handles session'
      | .error (.error _) =>
          ∃ before wrapper after,
            FailsAt wrappers before wrapper after session ∧
              session.Leaves (before.map fun wrapper => wrapper.handle session) session'
      | .error (.panic _) => False := by
  induction wrappers generalizing session with
  | nil => exact ⟨rfl, nofun, .refl session⟩
  | cons wrapper rest step =>
      rw [retainAll, Op.ends_bind]
      apply ends_requireOwn
      · intro own
        simp only [Op.andThen_ok, Op.ends_bind, Op.ends_session]
        apply Op.ends_tryInterp
        · intro interp taken
          have leaves := Session.Leaves.of_incref taken
          have live := Interpreter.isLive_of_incref taken
          have usable_of (others : List Wrapper) (usable : AreUsable others { session with interp }) :
              AreUsable (wrapper :: others) session := by
            rintro other (_ | ⟨_, among⟩)
            · exact ⟨own, live⟩
            · rcases usable other among with ⟨otherOwn, otherLive⟩
              exact ⟨otherOwn, (isLive_incref taken).symm.trans otherLive⟩
          rw [Op.andThen_ok, Op.ends_bind]
          refine Op.Ends.mono (@step { session with interp }) ?_
          rintro ((error | panic) | handles) session' reached
          · rcases reached with ⟨before, other, after, fails, later⟩
            refine ⟨wrapper :: before, other, after, ⟨?_, ?_, ?_⟩, ?_⟩
            · rw [fails.split, List.cons_append]
            · exact usable_of before fails.usable
            · exact fun isOwn => (isLive_incref taken).symm.trans (fails.unusable isOwn)
            · exact leaves.cons later
          · exact reached
          · rcases reached with ⟨rfl, usable, later⟩
            exact ⟨rfl, usable_of rest usable, leaves.cons later⟩
        · intro reason failed
          refine ⟨[], wrapper, rest, ⟨rfl, nofun, fun _ => ?_⟩, .refl session⟩
          rw [← Bool.not_eq_true]
          intro live
          rcases Interpreter.incref_of_isLive live with ⟨_, taken⟩
          exact absurd (failed.symm.trans taken) (by simp)
      · exact fun foreign =>
          ⟨[], wrapper, rest, ⟨rfl, nofun, fun own => absurd own foreign⟩, .refl session⟩

/--
If a list cannot be made, either an item cannot be used and the references to those before
it are left behind, or the list itself is left behind, with its references to the items.
-/
theorem refused_ofList
    {items : List Wrapper}
    (sound : session.Sound quiet False owned) :
    (ofList items).Refused session fun session' =>
      (∃ before wrapper after,
        FailsAt items before wrapper after session ∧
          session.Leaves (before.map fun wrapper => wrapper.handle session) session') ∨
        session.ownTracker.isOpen = false ∧
          AreUsable items session ∧
            ∃ list,
              session.Leaves {list} session' ∧
                session'.interp.heap.payload? list =
                  some (.list (items.map fun wrapper => wrapper.handle session)) := by
  rw [ofList, Op.Refused]
  apply (ends_retainAll items).bind
  · rintro _ taken ⟨rfl, usable, leaves⟩
    simp only [ofPayload, Op.ends_bind, Op.ends_withInterp, Op.andThen_ok]
    generalize isPayload :
      Payload.list (items.map fun wrapper => wrapper.handle session) = payload
    have made (credit : Multiset Handle) (ledger : session.interp.Ledger False credit) :
        taken.interp.Ledger False (payload.children + credit) := by
      rw [← isPayload]
      exact leaves.accounts credit ledger
    have left : session.Leaves {(taken.interp.allocate payload).1}
        { taken with interp := (taken.interp.allocate payload).2 } := by
      refine ⟨by rw [leaves.same], fun credit ledger => ?_⟩
      exact ((made credit ledger).allocate payload).congr _ (Multiset.singleton_add _ _)
    refine Op.Refused.mono (isClosed_of_leaves sound left) ?_
    rintro _ room ⟨isClosed, rfl⟩
    rcases sound.exists_ledger with ⟨_, ledger, -⟩
    have before : taken.interp.heap.HasRoom := room.of_allocate
    have tidy := ((made _ ledger).heap before).1.tidy
    exact .inr ⟨isClosed, usable, _, left,
      (Heap.payload?_allocate tidy before _).trans (if_pos rfl)⟩
  · rintro (error | panic) session' reached other failed _
    · exact .inl reached
    · exact reached.elim

/-- A second reference is given back if it is not registered. -/
theorem refused_ofBorrowed
    (wellFormed : session.interp.heap.HasRoom → session.interp.heap.WellFormed)
    (handle : Handle) :
    (ofBorrowed handle).Refused session fun session' => session' = session := by
  rw [ofBorrowed, Op.Refused]
  split
  · exact fun _ _ _ => rfl
  · rw [Op.ends_bind]
    apply Op.ends_tryInterp
    · intro interp taken
      rw [Op.andThen_ok, Op.ends_onError]
      apply (unchanged_ofOwned handle).mono
      rintro ((error | panic) | wrapper) session' unchanged other failed room
      · rcases unchanged error rfl with ⟨rfl, -⟩
        have held : interp.heap.HasRoom := (interp.shrinks_release handle).hasRoom_iff.mp room
        rcases Interpreter.incref_eq_ok_iff.mp taken with ⟨heap, counted, rfl⟩
        have started := (Heap.Shrinks.incref counted).hasRoom_iff.mp held
        simp only [Session.updateInterp,
          Interpreter.release_of_incref (wellFormed started) taken]
      · cases failed
      · cases failed
    · exact fun _ _ _ _ _ => rfl

theorem refused_clone
    (wellFormed : session.interp.heap.HasRoom → session.interp.heap.WellFormed)
    (wrapper : Wrapper) :
    wrapper.clone.Refused session fun session' => session' = session := by
  rw [clone, Op.Refused, Op.ends_bind]
  apply ends_requireOwn
  · intro _
    simp only [Op.andThen_ok, Op.ends_bind, Op.ends_session]
    exact refused_ofBorrowed wellFormed _
  · exact fun _ _ _ _ => rfl

end Wrapper

end Custody
