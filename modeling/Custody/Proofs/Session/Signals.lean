import Custody.Proofs.Finalizer.Upkeep
import Custody.Proofs.Interpreter.Signals
import Custody.Proofs.Session.Schedules
import Custody.Proofs.Session.Transparency

/-!
# The protocol of the error indicator

A call of the interpreter that raises leaves an error pending, and one that does
not leaves alone what is pending.  A call of the bridge takes what was raised and
returns it as an exception, after which nothing is pending.  In between records
are made for the components of the exception, which may start drains; so nothing
is pending then unless a resolver that is asked sets an error.

No call of the bridge finds that something raised and left no error.
-/

namespace Custody

/-- No resolver that may be asked sets an error. -/
def Session.Discreet (session : Session) : Prop :=
  session.ResolversKeep fun interp => interp.pending = none

/-- An end that neither returns an exception nor misses one. -/
def Abort.IsPlain : Abort → Prop
  | .error (.foreign _) => False
  | .error (.misuse .raisedNothing) => False
  | _ => True

variable {α β : Type} {discreet : Prop} {session session' : Session} {interp' : Interpreter}

/-! ## While nothing is pending -/

namespace Session

/-- If resolvers set no error, nothing is pending and no drain changes that. -/
def Clear (discreet : Prop) (session : Session) : Prop :=
  discreet → session.Upkept fun interp => interp.pending = none

/-- Nothing is pending after an operation, or it ended early for some other reason. -/
def EndsClear (discreet : Prop) : Except Abort α → Session → Prop
  | .ok _, session => session.Clear discreet
  | .error abort, _ => abort.IsPlain

/--
If an exception is returned, nothing is pending unless a resolver was asked that
sets errors; and something is never said to have raised without an error.
-/
structure Heeds (discreet : Prop) (outcome : Except Abort α) (session : Session) : Prop where
  cleared :
    ∀ exception,
      outcome = .error (.error (.foreign exception)) → discreet → session.interp.pending = none
  raised : outcome ≠ .error (.error (.misuse .raisedNothing))

theorem Heeds.ok (value : α) (session : Session) :
    Heeds discreet (.ok value) session :=
  ⟨nofun, nofun⟩

theorem Heeds.of_foreign
    (exception : CapturedException)
    (cleared : discreet → session.interp.pending = none) :
    Heeds discreet (.error (.error (.foreign exception)) : Except Abort α) session :=
  ⟨fun _ _ => cleared, nofun⟩

theorem Heeds.of_plain
    {abort : Abort}
    (plain : abort.IsPlain)
    (session : Session) :
    Heeds discreet (.error abort : Except Abort α) session := by
  constructor
  · rintro exception same
    cases same
    exact plain.elim
  · intro same
    cases same
    exact plain.elim

theorem survivesReleases_clear :
    SurvivesReleases fun interp => interp.pending = none := by
  intro interp handle remaining interp' before released
  rw [(Interpreter.OnHeap.decref released).pending]
  exact before

namespace Clear

theorem of_interp
    (clear : session.Clear discreet)
    (same : interp'.pending = session.interp.pending) :
    { session with interp := interp' }.Clear discreet :=
  fun isDiscreet => ⟨same.trans (clear isDiscreet).interp, (clear isDiscreet).resolvers⟩

theorem of_spares
    (clear : session.Clear discreet)
    (spares : session.Spares session') :
    session'.Clear discreet :=
  fun isDiscreet => (clear isDiscreet).of_spares spares

end Clear

/-- What is pending was taken. -/
theorem clear_of_fetch
    {interp : Interpreter}
    {triple : Triple}
    (resolvers : discreet → session.Discreet)
    (fetched : interp.fetch = some (triple, interp')) :
    { session with interp := interp' }.Clear discreet := by
  rcases Interpreter.fetch_eq_some fetched with ⟨-, rfl⟩
  exact fun isDiscreet => ⟨rfl, resolvers isDiscreet⟩

theorem isPlain_of_register
    {handle : Handle}
    {error : BridgeError}
    (refused : session.register handle = .error error) :
    (Abort.error error).IsPlain := by
  rw [register] at refused
  split at refused
  · cases refused
    trivial
  · split at refused
    · cases refused
      trivial
    · split at refused
      · cases refused
        trivial
      · cases refused

end Session

open Session (EndsClear Heeds)

/-- What follows an operation after which nothing is pending. -/
theorem Op.Ends.bind_clear
    {op : Op α}
    {next : α → Op β}
    (ends : op.Ends session (EndsClear discreet))
    (continues :
      ∀ value session', session'.Clear discreet →
        (next value).Ends session' (EndsClear discreet)) :
    (op >>= next).Ends session (EndsClear discreet) := by
  apply ends.bind
  · exact fun value session' clear => continues value session' clear
  · exact fun _ _ plain => plain

theorem Op.Ends.orDrop_clear
    {op : Op α}
    (ends : op.Ends session (EndsClear discreet))
    (wrappers : List Wrapper) :
    (op.orDrop wrappers).Ends session (EndsClear discreet) := by
  rw [ends_orDrop]
  apply ends.mono
  intro outcome session' reached
  cases outcome with
  | ok value => exact reached
  | error abort => exact reached

/-- The drain that a registration may start leaves nothing pending. -/
theorem Op.clear_register
    (handle : Handle)
    (clear : session.Clear discreet) :
    (register handle).Ends session (EndsClear discreet) := by
  simp only [register, ends_bind, ends_session, andThen_ok]
  split
  · next error refused => exact Session.isPlain_of_register refused
  · next record session' registered =>
      rcases Session.register_eq_ok registered with ⟨typeName, rfl, -⟩
      simp only [ends_bind, ends_change, andThen_ok]
      apply ends_ofPanicking
      · intro count _ isDiscreet
        have upkept := clear isDiscreet
        exact Session.Upkept.collectThrottled ⟨upkept.interp, upkept.resolvers⟩
          Session.survivesReleases_clear
      · exact fun panic _ => trivial

theorem Wrapper.clear_ofOwned
    (handle : Handle)
    (clear : session.Clear discreet) :
    (ofOwned handle).Ends session (EndsClear discreet) := by
  rw [ofOwned]
  apply (Op.clear_register handle clear).bind_clear
  intro record session' clear'
  simp only [Op.ends_bind, Op.ends_session, Op.ends_change, Op.andThen_ok, Op.ends_pure]
  exact clear'.of_spares (.updateRegistry (.hold _ _))

/-! ## Capturing -/

namespace CapturedException

theorem onHeap_completeTraceback
    (interp : Interpreter)
    (value : Handle)
    (traceback : Option Handle) :
    interp.OnHeap (completeTraceback interp value traceback).2 := by
  unfold completeTraceback
  split
  · exact .refl interp
  · split
    · exact .refl interp
    · split
      · next taken => exact .incref taken
      · exact .refl interp

theorem clear_ofNormalized
    (triple : Triple)
    (clear : session.Clear discreet) :
    (ofNormalized triple).Ends session (EndsClear discreet) := by
  rw [ofNormalized]
  cases triple.value with
  | none => trivial
  | some value =>
      simp only [Op.ends_bind, Op.ends_withInterp, Op.ends_session, Op.andThen_ok]
      have onHeap := onHeap_completeTraceback session.interp value triple.traceback
      generalize completeTraceback session.interp value triple.traceback = result at onHeap ⊢
      rcases result with ⟨traceback, interp⟩
      have completed : { session with interp }.Clear discreet := clear.of_interp onHeap.pending
      rw [← Op.ends_bind]
      apply (Wrapper.clear_ofOwned triple.type completed).bind_clear
      intro typeWrapper session₁ typed
      apply ((Wrapper.clear_ofOwned value typed).orDrop_clear [typeWrapper]).bind_clear
      intro valueWrapper session₂ valued
      cases traceback with
      | none => exact valued
      | some entry =>
          apply ((Wrapper.clear_ofOwned entry valued).orDrop_clear
            [valueWrapper, typeWrapper]).bind_clear
          exact fun _ _ traced => traced

/-- Whatever a normalization raises is taken before the next attempt. -/
theorem clear_ofTriple
    (attempts : Nat)
    (triple : Triple)
    (resolvers : discreet → session.Discreet)
    (clear : session.Clear discreet) :
    (ofTriple attempts triple).Ends session (EndsClear discreet) := by
  induction attempts generalizing session triple with
  | zero => trivial
  | succ attempts step =>
      simp only [ofTriple, Op.ends_bind, Op.ends_withInterp, Op.andThen_ok]
      cases normalized : session.interp.normalize triple with
      | mk outcome interp =>
          cases outcome with
          | ok triple' =>
              apply clear_ofNormalized
              exact clear.of_interp (Interpreter.pending_normalize normalized)
          | error raised =>
              simp only [Op.ends_bind, Op.ends_changeInterp, Op.andThen_ok, Op.ends_session]
              split
              · trivial
              · next next interp' fetched =>
                  rw [Op.ends_bind, Op.ends_changeInterp, Op.andThen_ok]
                  apply step
                  · exact resolvers
                  · exact Session.clear_of_fetch resolvers fetched

/-- What a fetch ends with: nothing was pending, or nothing is any more. -/
def Fetches
    (discreet : Prop)
    (session : Session) :
    Except Abort (Option CapturedException) → Session → Prop
  | .ok none, _ => session.interp.pending = none
  | .ok (some _), session' => session'.Clear discreet
  | .error abort, _ => abort.IsPlain

theorem fetches
    (resolvers : discreet → session.Discreet) :
    fetch.Ends session (Fetches discreet session) := by
  simp only [fetch, Op.ends_bind, Op.ends_session, Op.andThen_ok]
  split
  · next nothing => exact Option.map_eq_none_iff.mp nothing
  · next triple interp fetched =>
      simp only [Op.ends_bind, Op.ends_changeInterp, Op.andThen_ok]
      rw [← Op.ends_bind]
      apply (clear_ofTriple _ triple ?_ (Session.clear_of_fetch resolvers fetched)).bind
      · exact fun _ _ clear => clear
      · exact fun _ _ plain => plain
      · exact resolvers

/-- The error that a call has just raised is there to be captured. -/
theorem heeds_raised
    (resolvers : discreet → session.Discreet)
    (pending : session.interp.pending ≠ none) :
    (raised : Op α).Ends session (Heeds discreet) := by
  rw [raised]
  apply (fetches resolvers).bind
  · intro exception session' fetched
    cases exception with
    | none => exact absurd fetched pending
    | some exception => exact .of_foreign exception fun isDiscreet => (fetched isDiscreet).interp
  · exact fun abort session' plain => .of_plain plain session'

theorem heeds_checkPending
    (resolvers : discreet → session.Discreet) :
    checkPending.Ends session (Heeds discreet) := by
  rw [checkPending]
  apply (fetches resolvers).bind
  · intro exception session' fetched
    cases exception with
    | none => exact .ok () session'
    | some exception => exact .of_foreign exception fun isDiscreet => (fetched isDiscreet).interp
  · exact fun abort session' plain => .of_plain plain session'

end CapturedException

theorem Wrapper.heeds_getItem
    (armed : session.interp.Armed)
    (resolvers : discreet → session.Discreet)
    (wrapper : Wrapper)
    (index : Int) :
    (wrapper.getItem index).Ends session (Heeds discreet) := by
  rw [getItem, Op.ends_bind]
  apply ends_requireOwn
  · intro _
    simp only [Op.andThen_ok, Op.ends_bind, Op.ends_session, Op.ends_withInterp]
    have signals := armed.signals_getItem (wrapper.handle session) index
    generalize session.interp.getItem (wrapper.handle session) index = result at signals ⊢
    rcases result with ⟨raised | item, interp⟩
    · apply CapturedException.heeds_raised
      · exact resolvers
      · exact signals
    · -- whether anything is pending matters only if an exception is returned, and none is
      have wrapped : (ofOwned item).Ends { session with interp } (EndsClear False) :=
        clear_ofOwned item False.elim
      apply wrapped.mono
      intro outcome session' ended
      cases outcome with
      | ok value => exact .ok value session'
      | error abort => exact .of_plain ended session'
  · exact fun _ => .of_plain (by trivial) session

/-! ## The indicator -/

namespace Indicator

theorem heeds_normalize
    (armed : session.interp.Armed)
    (resolvers : discreet → session.Discreet)
    (triple : Triple) :
    (normalize triple).Ends session (Heeds discreet) := by
  simp only [normalize, Op.ends_bind, Op.ends_session, Op.andThen_ok]
  split
  · exact .of_plain (by trivial) session
  · simp only [Op.ends_bind, Op.ends_withInterp, Op.andThen_ok]
    have signals := armed.signals_normalize triple
    generalize session.interp.normalize triple = result at signals ⊢
    rcases result with ⟨raised | triple', interp⟩
    · apply CapturedException.heeds_raised
      · exact resolvers
      · exact signals
    · exact .ok triple' _

theorem heeds_setCause
    (armed : session.interp.Armed)
    (resolvers : discreet → session.Discreet)
    (cause : CapturedException) :
    (setCause cause).Ends session (Heeds discreet) := by
  rw [setCause, Op.ends_bind]
  apply Wrapper.ends_requireOwn
  · intro _
    simp only [Op.andThen_ok, Op.ends_bind, Op.ends_session]
    split
    · exact .of_plain (by trivial) session
    · rw [Op.ends_bind]
      apply Op.ends_tryInterp
      · intro held taken
        rw [Op.andThen_ok, Op.ends_bind, Op.ends_session, Op.andThen_ok]
        cases fetched : held.fetch with
        | none => exact .of_plain (by trivial) _
        | some result =>
            rcases result with ⟨current, bare⟩
            rcases Interpreter.fetch_eq_some fetched with ⟨-, rfl⟩
            simp only [Op.ends_bind, Op.ends_changeInterp, Op.ends_withInterp, Op.andThen_ok,
              Session.updateInterp]
            have signals := ((armed.incref taken).withPending none).signals_normalize current
            generalize ({ held with pending := none } : Interpreter).normalize current = result
              at signals ⊢
            rcases result with ⟨raised | current', interp⟩
            · have pending : interp.pending ≠ none := signals
              simp only [Op.ends_bind, Op.ends_changeInterp, Op.andThen_ok]
              apply CapturedException.heeds_raised
              · exact resolvers
              · simpa [Session.updateInterp] using pending
            · simp only
              split
              · exact .ok () _
              · rw [Op.ends_bind]
                apply Op.ends_tryInterp
                · exact fun _ _ => .ok () _
                · exact fun _ _ => .of_plain (by trivial) _
      · exact fun _ _ => .of_plain (by trivial) session
  · exact fun _ => .of_plain (by trivial) session

/-- A `TypeError` is pending, unless it could not be made. -/
def Raises (session : Session) : Except Abort Unit → Session → Prop
  | .ok _, session' =>
      session'.interp.pending ≠ none ∧ session'.finalizer = session.finalizer
  | .error abort, _ => abort.IsPlain

theorem raises_raiseTypeError (message : String) :
    (raiseTypeError message).Ends session (Raises session) := by
  simp only [raiseTypeError, wellKnown, Op.ends_bind, Op.ends_session, Op.andThen_ok]
  split
  · simp only [Op.ends_pure, Op.andThen_ok, Op.ends_bind, Op.ends_session]
    apply Op.ends_ofHeap
    · rintro ⟨value, interp⟩ -
      simp only [Op.andThen_ok, Op.ends_bind, Op.ends_changeInterp, Op.ends_onError]
      apply Op.ends_tryInterp
      · intro interp' set
        have pending := Interpreter.pending_setErrorObject set
        constructor
        · show (interp'.release value).pending ≠ none
          rw [Interpreter.pending_release, pending]
          exact Option.some_ne_none _
        · rfl
      · exact fun _ _ => trivial
    · exact fun _ _ => trivial
  · exact trivial

theorem heeds_warn
    (armed : session.interp.Armed)
    (resolvers : discreet → session.Discreet)
    (category : Handle)
    (message : String)
    (level : Nat) :
    (warn category message level).Ends session (Heeds discreet) := by
  simp only [warn, Op.ends_bind, Op.ends_session, Op.andThen_ok]
  split
  · simp only [Op.ends_bind, Op.ends_withInterp, Op.andThen_ok]
    have signals := armed.signals_warn category message level
    generalize session.interp.warn category message level = result at signals ⊢
    rcases result with ⟨raised | _, interp⟩
    · apply CapturedException.heeds_raised
      · exact resolvers
      · exact signals
    · exact .ok () _
  · apply (raises_raiseTypeError _).bind
    · rintro _ session' ⟨pending, same⟩
      apply CapturedException.heeds_raised
      · intro isDiscreet
        rw [Session.Discreet, Session.ResolversKeep, same]
        exact resolvers isDiscreet
      · exact pending
    · exact fun abort session' plain => .of_plain plain session'

theorem heeds_deprecation
    (armed : session.interp.Armed)
    (resolvers : discreet → session.Discreet)
    (message : String)
    (level : Nat) :
    (deprecation message level).Ends session (Heeds discreet) := by
  simp only [deprecation, wellKnown, Op.ends_bind, Op.ends_session, Op.andThen_ok]
  split
  · exact heeds_warn armed resolvers _ message level
  · exact .of_plain (by trivial) session

end Indicator

/-! ## The protocol -/

/-- No resolver that is asked sets an error: none that may be asked does, or none was asked. -/
def Session.Undisturbed (session session' : Session) : Prop :=
  session.Discreet ∨ session'.registry.Untroubled

/-- The end of an operation is as the protocol asks, as far as resolvers let it. -/
def Session.Observes
    (session : Session)
    (outcome : Except Abort α)
    (session' : Session) :
    Prop :=
  Heeds (session.Undisturbed session') outcome session'

/-- Where no resolver was asked, the same happens in a runtime that asks none. -/
theorem Op.Transparent.observes
    {op : Op α}
    (transparent : op.Transparent)
    (armed : session.interp.Armed)
    (heeds :
      ∀ {discreet : Prop} {session : Session},
        session.interp.Armed → (discreet → session.Discreet) → op.Ends session (Heeds discreet)) :
    op.Ends session session.Observes := by
  have checked : op.Ends session (Heeds session.Discreet) := heeds armed id
  constructor
  · intro exception returned undisturbed
    rcases undisturbed with isDiscreet | untroubled
    · exact checked.cleared exception returned isDiscreet
    · have resolvers : True → session.unchecked.Discreet := fun _ asked => by cases asked
      have unchecked : op.Ends session.unchecked (Heeds True) := heeds armed resolvers
      rw [Op.Ends, transparent.unchecked session untroubled] at unchecked
      exact unchecked.cleared exception returned trivial
  · exact checked.raised

namespace Session

variable {config : Config} {hasTable : Bool} {owned : Multiset Handle}

/-- As long as there is room no count is found to be too low, and no resolver is asked. -/
theorem Employed.undisturbed
    (request : Request)
    (before : Employed config hasTable session (request.taken + owned))
    (tolerated : request.Tolerated session)
    (room : (request.perform session).2.interp.heap.HasRoom) :
    session.Undisturbed (request.perform session).2 :=
  .inr ((before.request request tolerated).sound.untroubled room)

/--
After any run with fewer allocations than there are handles, whatever the calls
are given: if a call of the interpreter raises, an error is pending, and if it
does not, what is pending is what was before; and after a call of the bridge that
returns an exception nothing is pending, unless a resolver was asked on the way
and one of those that may be asked sets errors.  No call of the bridge says that
something raised without an error.
-/
theorem raised_pending_until_captured
    (employed : Employed config hasTable session owned)
    (room : session.interp.heap.HasRoom) :
    ((∀ container index, session.interp.Signals (session.interp.getItem container index)) ∧
      (∀ triple, session.interp.Signals (session.interp.normalize triple)) ∧
      (∀ category message level,
        session.interp.Signals (session.interp.warn category message level)) ∧
      ∀ name message, (session.interp.raise name message).pending ≠ none) ∧
    (∀ wrapper index, (Wrapper.getItem wrapper index).Ends session session.Observes) ∧
    (∀ triple, (Indicator.normalize triple).Ends session session.Observes) ∧
    (∀ cause, (Indicator.setCause cause).Ends session session.Observes) ∧
    (∀ category message level,
      (Indicator.warn category message level).Ends session session.Observes) ∧
    (∀ message level, (Indicator.deprecation message level).Ends session session.Observes) ∧
    CapturedException.checkPending.Ends session session.Observes := by
  rcases employed.sound.exists_ledger with ⟨_, ledger, -⟩
  have armed := ledger.armed room
  refine ⟨⟨armed.signals_getItem, armed.signals_normalize, armed.signals_warn, armed.raise⟩,
    ?_, ?_, ?_, ?_, ?_, ?_⟩
  · intro wrapper index
    apply (wrapper.transparent_getItem index).observes armed
    exact fun armed resolvers => Wrapper.heeds_getItem armed resolvers wrapper index
  · intro triple
    apply (Indicator.transparent_normalize triple).observes armed
    exact fun armed resolvers => Indicator.heeds_normalize armed resolvers triple
  · intro cause
    apply (Indicator.transparent_setCause cause).observes armed
    exact fun armed resolvers => Indicator.heeds_setCause armed resolvers cause
  · intro category message level
    apply (Indicator.transparent_warn category message level).observes armed
    exact fun armed resolvers => Indicator.heeds_warn armed resolvers category message level
  · intro message level
    apply (Indicator.transparent_deprecation message level).observes armed
    exact fun armed resolvers => Indicator.heeds_deprecation armed resolvers message level
  · apply CapturedException.transparent_checkPending.observes armed
    exact fun _ resolvers => CapturedException.heeds_checkPending resolvers

/-- Repairing a count keeps whatever taking a reference keeps. -/
theorem keeps_repair
    {kept : Interpreter → Prop}
    (retains : ∀ interp handle, kept interp → kept (interp.retain handle))
    (label : String)
    (steps : List HandlerStep)
    (settles : Bool) :
    Resolver.Keeps kept ⟨label, [.repair], steps, settles⟩ := by
  intro change listed mismatch interp before
  rw [List.mem_singleton, ResolverStep.repair, ResolverStep.adjust.injEq] at listed
  subst listed
  simp only
  generalize (mismatch.expected - mismatch.observed).toNat = count
  induction count with
  | zero => exact before
  | succ count step => exact retains _ _ step

/-- A runtime that repairs counts, and in which deprecations are errors. -/
def strict : Session :=
  [Request.act (.addResolver ⟨"repair", [.repair], [], true⟩),
    .interpret (.addFilter ⟨43, 0⟩ .raise)].foldl
      (fun session request => (request.perform session).2) (opened .standard true)

theorem employed_strict : Employed .standard true strict 0 := by
  have started : Reached False .standard true (opened .standard true) 0 := .opened
  have honest : Resolver.IsHonest ⟨"repair", [.repair], [], true⟩ := by
    intro change listed mismatch interp
    have retains (between : Interpreter) (handle : Handle)
        (before : interp.Ages between) : interp.Ages (between.retain handle) := by
      apply before.trans
      constructor
      · exact (between.shrinks_retain handle).allocations.ge
      · exact (Interpreter.OnHeap.retain between handle).builtins
    exact keeps_repair retains _ _ _ change listed mismatch interp (.refl interp)
  have watched := started.follow (.act (.addResolver ⟨"repair", [.repair], [], true⟩)) rfl rfl
    honest fun _ => trivial
  apply Employed.of_reached
  apply watched.follow (.interpret (.addFilter ⟨43, 0⟩ .raise)) rfl rfl
  · intro handle borrowed
    rcases List.mem_singleton.mp borrowed with rfl
    decide +kernel
  · exact fun _ => trivial

/-- The warning is raised, captured and no longer pending. -/
theorem raised_pending_until_captured_strict :
    ((Indicator.deprecation "old" 1).on strict).1 =
        .error (.error (.foreign
          ⟨⟨0, 0, none⟩, ⟨0, 1, none⟩, none, "DeprecationWarning", "old"⟩)) ∧
      ((Indicator.deprecation "old" 1).on strict).2.interp.pending = none := by
  have discreet : strict.Discreet := by
    intro _ entry listed
    rcases List.mem_singleton.mp listed with rfl
    apply keeps_repair
    intro interp handle before
    exact (Interpreter.OnHeap.retain interp handle).pending.trans before
  have room : strict.interp.heap.HasRoom := by
    rw [Heap.HasRoom]
    decide +kernel
  have returned :
      ((Indicator.deprecation "old" 1).on strict).1 =
        .error (.error (.foreign
          ⟨⟨0, 0, none⟩, ⟨0, 1, none⟩, none, "DeprecationWarning", "old"⟩)) := by
    decide +kernel
  rcases raised_pending_until_captured employed_strict room with ⟨-, -, -, -, -, deprecates, -⟩
  exact ⟨returned, (deprecates "old" 1).cleared _ returned (.inl discreet)⟩

end Session

end Custody
