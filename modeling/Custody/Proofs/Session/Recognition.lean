import Custody.Proofs.Interpreter.Matching
import Custody.Proofs.Session.Categories

/-!
# Recognizing what was captured

To capture an error is to normalize it first, which may narrow its type to the class of
its value.  That class derives from the type, so it matches what the type matched: an
exception that was captured is recognized by the patterns that the pending error matched.

A class that the type derives from is there as long as the type is.  A list is there only
as long as somebody refers to it, and the error itself may have been the last to do so.
-/

namespace Custody

namespace Heap

variable {heap : Heap} {sub super : Handle}

/-- What a class derives from is there. -/
theorem Whole.isLive_of_isSubclass
    (whole : heap.Whole)
    (derives : heap.isSubclass sub super = true)
    (live : heap.isLive sub = true) :
    heap.isLive super = true := by
  rw [isSubclass_iff_derives] at derives
  induction derives with
  | refl => exact live
  | tail _ goes _ => exact whole (holds_of_baseOf goes).points

end Heap

namespace Interpreter

variable {interp mid interp' : Interpreter} {type type' given pattern : Handle}
variable {credit credit₁ credit' : Multiset Handle}

theorem isType_of_isExceptionClass
    (isClass : interp.isExceptionClass type = true) :
    interp.heap.isType type = true := by
  rw [isExceptionClass] at isClass
  split at isClass
  · exact (Bool.and_eq_true_iff.mp isClass).1
  · cases isClass

/-- Make an instance of the items of a list in place of the last reference to the list. -/
def remake
    (interp : Interpreter)
    (type given : Handle)
    (items : List Handle) :
    Handle × Interpreter :=
  let retained := items.foldl retain interp
  let heap := (retained.heap.withdraw given (.list items)).1
  (({ retained with heap } : Interpreter).retain type).allocate
    (.exception ⟨type, items, none, none⟩)

theorem normalize_of_list
    {items : List Handle}
    (isClass : interp.isExceptionClass type = true)
    (written : interp.heap.payload? given = some (.list items))
    (written' : (items.foldl retain interp).heap.payload? given = some (.list items))
    (last : (items.foldl retain interp).heap.refcount? given = some 1)
    (kept : ((items.foldl retain interp).heap.withdraw given (.list items)).2 = []) :
    interp.normalize ⟨type, some given, none⟩ =
      (.ok ⟨type, some (interp.remake type given items).1, none⟩,
        (interp.remake type given items).2) := by
  have other : interp.instanceClass? type (some given) = none := by
    rw [instanceClass?, Option.bind_some, written]
  rw [normalize_of_other isClass other, instantiate, argumentsOf, written]
  simp only [release_last written' last kept]
  rfl

/-- What a class matches is there. -/
theorem isLive_of_givenMatches
    (isClass : interp.heap.isType given = true)
    (found : interp.givenMatches given pattern = true) :
    interp.heap.isLive pattern = true := by
  have present := Heap.isNull_of_isLive (Heap.isLive_of_isType isClass)
  rcases exists_leaf_of_matchesWithin present (classGiven_of_isType isClass)
    (matchesWithin_of_givenMatches found) with ⟨leaf, leaves, meets⟩
  cases leaves with
  | closed => exact Heap.isLive_of_isType (meets.isSubclass isClass).1
  | item written => exact Heap.isLive_of_payload? written

/--
A class that derived from another one after a while matches, from then on, what that one
matched before, unless the pattern is a list that is gone.
-/
theorem Regular.recognizes
    (regular : interp.Regular credit)
    (between : mid.Regular credit₁)
    (regular' : interp'.Regular credit')
    (before : interp.Evolves mid)
    (after : mid.Evolves interp')
    (room : interp'.heap.HasRoom)
    (isClass : interp.heap.isType type = true)
    (narrow : mid.heap.isType type' = true)
    (derives : mid.heap.isSubclass type' type = true)
    (there : interp'.heap.isLive type' = true)
    (found : interp.givenMatches type pattern = true)
    (kept : interp.heap.isType pattern = true ∨ interp'.heap.isLive pattern = true) :
    interp'.givenMatches type' pattern = true := by
  have roomMid := after.heap.hasRoom room
  have live := Heap.isLive_of_isType isClass
  have liveMid :=
    Heap.Whole.isLive_of_isSubclass (between.ledger.whole roomMid) derives
      (Heap.isLive_of_isType narrow)
  have agree := regular.agree_later between before roomMid
  have agree' := between.agree_later regular' after room
  have narrow' := (agree'.isType_eq ⟨Heap.isLive_of_isType narrow, there⟩).trans narrow
  have narrows (super : Handle) (above : interp.heap.isSubclass type super = true) :
      interp'.heap.isSubclass type' super = true := by
    rw [agree'.isSubclass_eq super ⟨Heap.isLive_of_isType narrow, there⟩]
    rw [← agree.isSubclass_eq super ⟨live, liveMid⟩] at above
    exact Heap.isSubclass_trans derives above
  have patternLive : interp'.heap.isLive pattern = true := by
    rcases kept with isType | live
    · rcases (givenMatches_iff_of_isType isType).mp found with ⟨-, type₁, classed, above⟩
      cases (classGiven_of_isType isClass).symm.trans classed
      exact Heap.Whole.isLive_of_isSubclass (regular'.ledger.whole room) (narrows _ above) there
    · exact live
  exact givenMatches_rises (regular.agree_later regular' (before.trans after) room) isClass narrow'
    narrows ⟨isLive_of_givenMatches isClass found, patternLive⟩
    (Nat.succ_le_succ (before.trans after).heap.size_le) found

end Interpreter

namespace CapturedException

variable {config : Config} {hasTable : Bool} {session session' : Session}
variable {owned : Multiset Handle} {triple normal : Triple} {pattern : Handle}

/--
An exception is recognized by a pattern that is there, and by a class in any case, as long
as its own class is there.  That is so if the hooks that wait mention only records that
were there before, and a hook can know of no others.
-/
structure RecognizedBy
    (pattern : Handle)
    (exception : CapturedException)
    (session session' : Session) :
    Prop where
  there :
    session.registry.MentionsBelow session.registry.records.size →
      session'.interp.heap.isLive (exception.type.handle session') = true
  isMatched :
    session'.interp.heap.isLive (exception.type.handle session') = true →
      session.interp.heap.isType pattern = true ∨ session'.interp.heap.isLive pattern = true →
        exception.isMatchedBy pattern session' = true

/-- Capturing goes on from what was pending, normalized. -/
theorem evolves_fetch_of_ok
    {interp : Interpreter}
    (pending : session.interp.pending = some triple)
    (normalized :
      ({ session.interp with pending := none } : Interpreter).normalize triple =
        (.ok normal, interp))
    (untroubled : (fetch.on session).2.registry.Untroubled) :
    interp.Evolves (fetch.on session).2.interp := by
  rw [on_fetch_of_ok pending normalized, Op.on_map] at untroubled ⊢
  have strokes : Session.Strokes { session with interp }
      ((ofNormalized normal).on { session with interp }).2 :=
    relates_ofNormalized normal
  exact ⟨strokes.passes.heap untroubled, strokes.builtins untroubled⟩

/-- The class of a captured exception is there as long as its value is not given up. -/
theorem isLive_type_of_lasts
    {interp : Interpreter}
    {exception : CapturedException}
    {taken : Session}
    {type value : Handle}
    {traceback : Option Handle}
    {credit : Multiset Handle}
    (regular : interp.Regular credit)
    (typed : interp.typeOf value = .ok type)
    (evolves : interp.Evolves session'.interp)
    (solvent : session'.Solvent config hasTable owned)
    (room : session'.interp.heap.HasRoom)
    (lasts : exception.value.Lasts session session')
    (reads : exception.Reads taken type value traceback session')
    (below : session.registry.MentionsBelow session.registry.records.size) :
    session'.interp.heap.isLive (exception.type.handle session') = true := by
  rcases solvent.exists_regular room with ⟨_, regular'⟩
  have live := solvent.sound.isLive_of_owns room (congrArg RecordState.owns (lasts.live below))
  rw [← Wrapper.handle, reads.valued.handle] at live
  have typed' := Interpreter.typeOf_of_agree (regular.agree_later regular' evolves room)
    evolves.builtins ⟨Interpreter.isLive_of_typeOf typed, live⟩ typed
  rw [reads.typed.handle]
  exact regular'.ledger.isLive_typeOf room typed'

/-- What the pending error matches recognizes the exception that is captured for it. -/
theorem recognizedBy_fetch
    (solvent : session.Solvent config hasTable owned)
    (isOpen : session.ownTracker.isOpen = true)
    (pending : session.interp.pending = some triple)
    (isClass : session.interp.isExceptionClass triple.type = true)
    (matched : session.interp.errorMatches pattern = true) :
    fetch.Attains session fun captured session' =>
      ∃ exception,
        captured = some exception ∧ exception.RecognizedBy pattern session session' := by
  intro room
  have captured : (fetch.on session).2.Solvent config hasTable owned :=
    solvent.follow .fetch rfl rfl trivial
  have untroubled := captured.sound.untroubled room
  have evolves : session.interp.Evolves (fetch.on session).2.interp :=
    Session.Solvent.evolves_perform (solvent.follow .fetch rfl rfl trivial) room
  have started := evolves.heap.hasRoom room
  rcases solvent.exists_regular started with ⟨_, regular⟩
  rcases captured.exists_regular room with ⟨_, regular'⟩
  rcases (regular.fetch pending).normalizes started isClass with
    ⟨normal, value, interp, normalized, normalizes⟩
  have between := (regular.fetch pending).normalize_of_ok normalized
  have before : session.interp.Evolves interp := by
    have second := Interpreter.Evolves.normalize { session.interp with pending := none } triple
    rw [normalized] at second
    exact (Interpreter.Evolves.fetch (Interpreter.fetch_of_pending pending)).trans second
  have after := evolves_fetch_of_ok pending normalized untroubled
  rcases attains_fetch solvent.sound isOpen pending normalized normalizes.valued room with
    ⟨_, returned, exception, rfl, -, lasts, reads⟩ | panics
  · refine .inl ⟨some exception, returned, exception, rfl, fun below => ?_, fun there kept => ?_⟩
    · exact isLive_type_of_lasts between normalizes.typed after captured room lasts reads below
    · rw [reads.typed.handle] at there
      rw [Interpreter.errorMatches, Interpreter.errorType, pending] at matched
      rw [isMatchedBy, reads.typed.handle]
      exact regular.recognizes between regular' before after room
        (Interpreter.isType_of_isExceptionClass isClass)
        (Interpreter.isType_of_isExceptionClass normalizes.isExceptionClass) normalizes.derives
        there matched kept
  · exact .inr panics

/--
Matching goes by what classes derive from, and what the pending error matches recognizes the
exception that is captured for it.
-/
theorem matches_by_subclass_and_recognizes :
    (∀ interp : Interpreter,
      interp.Visited → interp.heap.HasRoom → interp.MatchesBySubclass) ∧
      ∀ (config : Config) (hasTable : Bool) (session : Session) (owned : Multiset Handle)
        (triple : Triple) (pattern : Handle),
        session.Solvent config hasTable owned →
          session.ownTracker.isOpen = true →
            session.interp.pending = some triple →
              session.interp.isExceptionClass triple.type = true →
                session.interp.errorMatches pattern = true →
                  fetch.Attains session fun captured session' =>
                    ∃ exception,
                      captured = some exception ∧
                        exception.RecognizedBy pattern session session' :=
  ⟨fun _ visited room => visited.matchesBySubclass room, fun _ _ _ _ _ _ => recognizedBy_fetch⟩

end CapturedException

/-! ## A list that is kept and a list that is not -/

namespace Session

/--
A `ValueError` is pending as an `Exception`, and the caller has a list of a list of the
class of exceptions.
-/
def nested : Session :=
  [Request.interpret (.newException ⟨39, 0⟩ none),
    .interpret (.setErrorObject ⟨12, 0⟩ (some ⟨53, 0⟩)),
    .interpret (.incref ⟨12, 0⟩),
    .interpret (.newObject (.list [⟨12, 0⟩])),
    .interpret (.newObject (.list [⟨54, 0⟩]))].foldl
      (fun session request => (request.perform session).2) (opened .standard false)

/-- A `ValueError` is pending, and nothing but it refers to a list of its class. -/
def unshared : Session :=
  [Request.interpret (.incref ⟨39, 0⟩),
    .interpret (.newObject (.list [⟨39, 0⟩])),
    .interpret (.setErrorObject ⟨39, 0⟩ (some ⟨53, 0⟩)),
    .interpret (.decref ⟨53, 0⟩)].foldl
      (fun session request => (request.perform session).2) (opened .standard true)

/-- A call gives the caller other references for those that it takes. -/
theorem Solvent.receive
    {config : Config}
    {hasTable : Bool}
    {session : Session}
    {owned : Multiset Handle}
    (before : Solvent config hasTable session owned)
    (call : Interpreter.Call)
    (handles : List Handle)
    (rest : Multiset Handle)
    (taken : owned = call.taken + rest)
    (received : (call.perform session.interp).1 = handles) :
    Solvent config hasTable ((Request.interpret call).perform session).2 (handles + rest) := by
  subst taken received
  exact before.request (.interpret call) trivial

theorem visited_nested : nested.interp.Visited := by
  have made := Interpreter.Visited.initial.follow (.newException ⟨39, 0⟩ none) (by decide +kernel)
  have raised := made.follow (.setErrorObject ⟨12, 0⟩ (some ⟨53, 0⟩)) (by decide +kernel)
  have taken := raised.follow (.incref ⟨12, 0⟩) (by decide +kernel)
  have inner := taken.follow (.newObject (.list [⟨12, 0⟩])) (by decide +kernel)
  exact inner.follow (.newObject (.list [⟨54, 0⟩])) (by decide +kernel)

theorem solvent_nested : nested.Solvent .standard false {⟨55, 0⟩, ⟨53, 0⟩} := by
  have started : Solvent .standard false (opened .standard false) 0 := .opened
  have made := started.receive (.newException ⟨39, 0⟩ none) [⟨53, 0⟩] 0 rfl (by decide +kernel)
  have raised := made.receive (.setErrorObject ⟨12, 0⟩ (some ⟨53, 0⟩)) [] {⟨53, 0⟩} rfl
    (by decide +kernel)
  have taken := raised.receive (.incref ⟨12, 0⟩) [⟨12, 0⟩] {⟨53, 0⟩} rfl (by decide +kernel)
  have inner := taken.receive (.newObject (.list [⟨12, 0⟩])) [⟨54, 0⟩] {⟨53, 0⟩} rfl
    (by decide +kernel)
  exact inner.receive (.newObject (.list [⟨54, 0⟩])) [⟨55, 0⟩] {⟨53, 0⟩} rfl (by decide +kernel)

/-- The interpreter when the error was taken out of it. -/
def cleared : Interpreter :=
  { unshared.interp with pending := none }

theorem normalize_cleared :
    cleared.normalize ⟨⟨39, 0⟩, some ⟨53, 0⟩, none⟩ =
      (.ok ⟨⟨39, 0⟩, some (cleared.remake ⟨39, 0⟩ ⟨53, 0⟩ [⟨39, 0⟩]).1, none⟩,
        (cleared.remake ⟨39, 0⟩ ⟨53, 0⟩ [⟨39, 0⟩]).2) := by
  have facts :
      cleared.isExceptionClass ⟨39, 0⟩ = true ∧
        cleared.heap.payload? ⟨53, 0⟩ = some (.list [⟨39, 0⟩]) ∧
          ([⟨39, 0⟩].foldl Interpreter.retain cleared).heap.payload? ⟨53, 0⟩ =
              some (.list [⟨39, 0⟩]) ∧
            ([⟨39, 0⟩].foldl Interpreter.retain cleared).heap.refcount? ⟨53, 0⟩ = some 1 ∧
              (([⟨39, 0⟩].foldl Interpreter.retain cleared).heap.withdraw ⟨53, 0⟩
                (.list [⟨39, 0⟩])).2 = [] := by
    decide +kernel
  rcases facts with ⟨isClass, written, written', last, kept⟩
  exact Interpreter.normalize_of_list isClass written written' last kept

theorem solvent_unshared : unshared.Solvent .standard true 0 := by
  have started : Solvent .standard true (opened .standard true) 0 := .opened
  have taken := started.receive (.incref ⟨39, 0⟩) [⟨39, 0⟩] 0 rfl (by decide +kernel)
  have made := taken.receive (.newObject (.list [⟨39, 0⟩])) [⟨53, 0⟩] 0 rfl (by decide +kernel)
  have raised := made.receive (.setErrorObject ⟨39, 0⟩ (some ⟨53, 0⟩)) [] {⟨53, 0⟩} rfl
    (by decide +kernel)
  exact raised.receive (.decref ⟨53, 0⟩) [] 0 rfl (by decide +kernel)

end Session

namespace CapturedException

/-- The list recognizes the `ValueError`, which was pending as something wider. -/
theorem matches_by_subclass_and_recognizes_nested :
    Session.nested.interp.MatchesBySubclass ∧
      Session.nested.interp.pending = some ⟨⟨12, 0⟩, some ⟨53, 0⟩, none⟩ ∧
        Session.nested.interp.errorMatches ⟨55, 0⟩ = true ∧
          ∃ exception,
            (fetch.on Session.nested).1 = .ok (some exception) ∧
              exception.isMatchedBy ⟨55, 0⟩ (fetch.on Session.nested).2 = true := by
  have facts :
      Session.nested.interp.heap.HasRoom ∧
        Session.nested.ownTracker.isOpen = true ∧
          Session.nested.interp.pending = some ⟨⟨12, 0⟩, some ⟨53, 0⟩, none⟩ ∧
            Session.nested.interp.isExceptionClass ⟨12, 0⟩ = true ∧
              Session.nested.interp.errorMatches ⟨55, 0⟩ = true ∧
                Session.nested.registry.MentionsBelow Session.nested.registry.records.size ∧
                  (fetch.on Session.nested).2.interp.heap.HasRoom ∧
                    (fetch.on Session.nested).2.interp.heap.isLive ⟨55, 0⟩ = true ∧
                      (fetch.on Session.nested).1.isOk = true := by
    decide +kernel
  rcases facts with ⟨room, isOpen, pending, isClass, matched, below, room', live, succeeds⟩
  have both := matches_by_subclass_and_recognizes
  refine ⟨both.1 _ Session.visited_nested room, pending, matched, ?_⟩
  rcases both.2 .standard false _ _ _ _ Session.solvent_nested isOpen pending isClass matched
    room' with ⟨_, returned, exception, rfl, recognized⟩ | ⟨-, panic, failed⟩
  · exact ⟨exception, returned, recognized.isMatched (recognized.there below) (.inr live)⟩
  · rw [failed] at succeeds
    cases succeeds

/-- The list is given back when the error is captured, and recognizes nothing any more. -/
theorem not_recognized_unshared :
    Session.unshared.Solvent .standard true 0 ∧
      Session.unshared.ownTracker.isOpen = true ∧
        Session.unshared.interp.pending = some ⟨⟨39, 0⟩, some ⟨53, 0⟩, none⟩ ∧
          Session.unshared.interp.isExceptionClass ⟨39, 0⟩ = true ∧
            Session.unshared.interp.errorMatches ⟨53, 0⟩ = true ∧
              (fetch.on Session.unshared).2.interp.heap.HasRoom ∧
                ∃ exception,
                  (fetch.on Session.unshared).1 = .ok (some exception) ∧
                    exception.isMatchedBy ⟨53, 0⟩ (fetch.on Session.unshared).2 = false := by
  have before :
      Session.unshared.ownTracker.isOpen = true ∧
        Session.unshared.interp.pending = some ⟨⟨39, 0⟩, some ⟨53, 0⟩, none⟩ ∧
          Session.unshared.interp.isExceptionClass ⟨39, 0⟩ = true ∧
            Session.unshared.interp.errorMatches ⟨53, 0⟩ = true := by
    decide +kernel
  rcases before with ⟨isOpen, pending, isClass, matched⟩
  have after :
      (fetch.on Session.unshared).2.interp.heap.HasRoom ∧
        (fetch.on Session.unshared).1 =
            .ok (some ⟨⟨0, 0, none⟩, ⟨0, 1, none⟩, none, "ValueError", "<class 'ValueError'>"⟩) ∧
          isMatchedBy ⟨⟨0, 0, none⟩, ⟨0, 1, none⟩, none, "ValueError", "<class 'ValueError'>"⟩
              ⟨53, 0⟩ (fetch.on Session.unshared).2 =
            false := by
    rw [on_fetch_of_ok pending Session.normalize_cleared]
    decide +kernel
  rcases after with ⟨room, returned, unmatched⟩
  exact ⟨Session.solvent_unshared, isOpen, pending, isClass, matched, room, _, returned, unmatched⟩

end CapturedException

end Custody
