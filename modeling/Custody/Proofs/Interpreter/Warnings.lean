import Custody.Proofs.Heap.Descent
import Custody.Proofs.Interpreter.Tracebacks

/-!
# The newest filter that covers a warning decides

What becomes of a warning is told by the history of a run: by the filters that were
added since the last reset, the newest first, and by the classes that the category
derives from.  A warning that is ignored changes nothing, one that is raised leaves a
new instance pending, and one that no filter covers is recorded.

The records are those of the warnings that were recorded since they were last taken,
whatever else was done in between.
-/

namespace Custody.Interpreter

variable {interp interp' : Interpreter} {owned : Multiset Handle} {call : Call}
variable {category : Handle} {message : String} {level : Nat}

/-! ## What the history says -/

/-- The calls of a run, newest first, each beside the interpreter that it was made to. -/
abbrev History :=
  List (Interpreter × Call)

/-- A run of calls by a caller that gives up only references it owns, with its history. -/
inductive Chronicle : Interpreter → Multiset Handle → History → Prop where
  | initial : Chronicle .initial 0 []
  | call
      {interp : Interpreter}
      {owned : Multiset Handle}
      {earlier : History}
      (call : Call)
      (before : Chronicle interp (call.taken + owned) earlier) :
      Chronicle (call.perform interp).2 ((call.perform interp).1 + owned)
        ((interp, call) :: earlier)

/--
What the newest filter says that was added since the last reset and whose category is
met from the given one.  A filter is added only if its category is there.
-/
def ruling (heap : Heap) (category : Handle) : History → WarningAction
  | [] => .record
  | (before, call) :: earlier =>
      match call with
      | .addFilter covered action =>
          if before.heap.isLive covered = true ∧ heap.Derives category covered then
            action
          else
            ruling heap category earlier
      | .resetFilters => .record
      | _ => ruling heap category earlier

/-- The place of the active call at a level counted from the innermost, which is level 1. -/
def placeAt (frames : List Frame) (level : Nat) : String × Nat :=
  match frames[max level 1 - 1]? with
  | some frame => (frame.file, frame.line)
  | none => ("sys", 1)

/-- What is recorded of a warning. -/
def notice
    (interp : Interpreter)
    (category : Handle)
    (message : String)
    (level : Nat) :
    WarningRecord :=
  ⟨interp.heap.className category, message, (placeAt interp.frames level).1,
    (placeAt interp.frames level).2⟩

/-- The records of the warnings that were recorded since they were last taken, oldest first. -/
def recorded : History → List WarningRecord
  | [] => []
  | (before, call) :: earlier =>
      match call with
      | .warn category message level =>
          if ruling before.heap category earlier = .record then
            recorded earlier ++ [before.notice category message level]
          else
            recorded earlier
      | .takeWarnings => []
      | _ => recorded earlier

/-- What becomes of a warning. -/
def Emits
    (interp : Interpreter)
    (category : Handle)
    (message : String)
    (level : Nat) :
    WarningAction → Prop
  | .ignore => interp.warn category message level = (.ok (), interp)
  | .raise =>
      ∃ interp' value head entries,
        interp.warn category message level = (.error {}, interp') ∧
          (∀ handle ∈ value :: entries, interp.heap.isLive handle = false) ∧
            interp'.Backtraced interp.frames.reverse category value head entries ∧
              interp'.typeOf value = .ok category ∧
                interp'.heap.str value = message ∧ interp'.warnings = interp.warnings
  | .record =>
      interp.warn category message level =
        (.ok (),
          { interp with
            warnings := interp.warnings ++ [interp.notice category message level] })

/-! ## Calls that have nothing to do with warnings -/

/-- The filters and the records are the same. -/
structure KeepsWarnings (interp interp' : Interpreter) : Prop where
  filters : interp'.filters = interp.filters
  warnings : interp'.warnings = interp.warnings

theorem OnHeap.keepsWarnings
    (onHeap : interp.OnHeap interp') :
    interp.KeepsWarnings interp' := by
  rcases onHeap with ⟨heap, rfl⟩
  exact ⟨rfl, rfl⟩

namespace KeepsWarnings

theorem refl (interp : Interpreter) : interp.KeepsWarnings interp :=
  ⟨rfl, rfl⟩

theorem trans
    {interp'' : Interpreter}
    (first : interp.KeepsWarnings interp')
    (second : interp'.KeepsWarnings interp'') :
    interp.KeepsWarnings interp'' :=
  ⟨second.filters.trans first.filters, second.warnings.trans first.warnings⟩

/-- What is pending has no part in it. -/
theorem of_pending
    (kept :
      ({ interp with pending := none } : Interpreter).KeepsWarnings
        { interp' with pending := none }) :
    interp.KeepsWarnings interp' :=
  ⟨kept.filters, kept.warnings⟩

theorem replacePending
    (interp : Interpreter)
    (pending : Option Triple) :
    interp.KeepsWarnings (interp.replacePending pending) :=
  of_pending (OnHeap.replacePending interp pending none).keepsWarnings

theorem raiseInstance
    (interp : Interpreter)
    (type : Handle)
    (message : String) :
    interp.KeepsWarnings (interp.raiseInstance type message) :=
  of_pending (OnHeap.raiseInstance interp type message none).keepsWarnings

theorem attempt
    {received : List Handle}
    {result : Except HeapError Interpreter}
    (kept : ∀ {interp'}, result = .ok interp' → interp.KeepsWarnings interp') :
    interp.KeepsWarnings (Call.attempt interp received result).2 := by
  unfold Call.attempt
  split
  · exact kept rfl
  · exact refl interp

theorem attemptNew
    {result : Except HeapError (Handle × Interpreter)}
    (kept : ∀ {handle interp'}, result = .ok (handle, interp') → interp.KeepsWarnings interp') :
    interp.KeepsWarnings (Call.attemptNew interp result).2 := by
  unfold Call.attemptNew
  split
  · exact kept rfl
  · exact refl interp

end KeepsWarnings

/-- The calls that add or remove filters, or make or take records. -/
def Call.Warns : Call → Prop
  | .warn _ _ _ => True
  | .addFilter _ _ => True
  | .resetFilters => True
  | .takeWarnings => True
  | _ => False

theorem keepsWarnings_perform
    (call : Call)
    (other : ¬ call.Warns)
    (interp : Interpreter) :
    interp.KeepsWarnings (call.perform interp).2 := by
  cases call with
  | incref handle => exact .attempt fun taken => (OnHeap.incref taken).keepsWarnings
  | decref handle => exact (OnHeap.release interp handle).keepsWarnings
  | newNone => exact (OnHeap.retain interp interp.noneObject).keepsWarnings
  | newObject payload => exact (OnHeap.allocate interp payload).keepsWarnings
  | newClass name home base =>
      refine .attemptNew fun made => ?_
      rcases Except.bind_eq_ok_iff.mp made with ⟨held, taken, made⟩
      cases made
      exact ((OnHeap.incref taken).trans (.allocate held _)).keepsWarnings
  | hostClass key =>
      rw [Call.perform, Interpreter.hostClass]
      split
      · exact .refl interp
      · have kept := ((OnHeap.retain interp (interp.builtin "Exception")).trans
          (.allocate _
            (.type ⟨lastSegment key, some hostModule, some (interp.builtin "Exception")⟩))
          ).keepsWarnings
        exact ⟨kept.filters, kept.warnings⟩
  | newException type message =>
      exact .attemptNew fun made => (OnHeap.newException made).keepsWarnings
  | setCause handle cause => exact .attempt fun linked => (OnHeap.replaceLink linked).keepsWarnings
  | setTraceback handle traceback =>
      exact .attempt fun linked => (OnHeap.replaceLink linked).keepsWarnings
  | setError type message =>
      refine .attempt fun set => ?_
      rcases Except.bind_eq_ok_iff.mp set with ⟨held, taken, set⟩
      cases set
      exact ((OnHeap.incref taken).trans (.allocate held _)).keepsWarnings.trans
        (.replacePending _ _)
  | setErrorObject type value =>
      refine .attempt fun set => ?_
      rcases Except.bind_eq_ok_iff.mp set with ⟨held, taken, set⟩
      cases value with
      | none =>
          cases set
          exact (OnHeap.incref taken).keepsWarnings.trans (.replacePending held _)
      | some value =>
          rcases Except.bind_eq_ok_iff.mp set with ⟨both, taken', set⟩
          cases set
          exact ((OnHeap.incref taken).trans (.incref taken')).keepsWarnings.trans
            (.replacePending both _)
  | fetch =>
      cases pending : interp.pending <;> simp only [Call.perform, Interpreter.fetch, pending] <;>
        exact ⟨rfl, rfl⟩
  | restore triple =>
      rw [Call.perform, Interpreter.restore]
      split
      · exact ((OnHeap.release? interp _).trans (.release? _ _)).keepsWarnings.trans
          (.replacePending _ none)
      · exact .replacePending interp _
  | clear => exact .replacePending interp none
  | normalize triple =>
      rw [Call.perform]
      rcases interp.normalize_cases triple with
        ⟨-, same⟩ | ⟨value, info, -, -, -, -, same⟩ | same
      · rw [same]
        exact .raiseInstance interp _ _
      · rw [same]
        exact ((OnHeap.narrow interp _ _).trans (.attachTraceback _ _ _)).keepsWarnings
      · rw [same]
        exact ((OnHeap.instantiate interp _ _).trans (.attachTraceback _ _ _)).keepsWarnings
  | raise name message => exact .raiseInstance interp _ message
  | pushFrame frame => exact ⟨rfl, rfl⟩
  | popFrame => exact ⟨rfl, rfl⟩
  | getItem container index =>
      rw [Call.perform, Interpreter.getItem]
      split
      · exact .raiseInstance interp _ _
      · split
        · exact (OnHeap.retain interp _).keepsWarnings
        · exact .raiseInstance interp _ _
      · simp only
        split
        · exact (OnHeap.allocate interp _).keepsWarnings
        · exact .raiseInstance interp _ _
      · exact .raiseInstance interp _ _
  | _ => exact absurd trivial other

/-! ## Along a run -/

/-- The filters that were added since the last reset, newest first. -/
def installed : History → List (Handle × WarningAction)
  | [] => []
  | (before, call) :: earlier =>
      match call with
      | .addFilter covered action =>
          if before.heap.isLive covered = true then
            (covered, action) :: installed earlier
          else
            installed earlier
      | .resetFilters => []
      | _ => installed earlier

/-- A filter is added if its category is there. -/
theorem filters_addFilter
    (interp : Interpreter)
    (covered : Handle)
    (action : WarningAction) :
    (Call.perform interp (.addFilter covered action)).2.filters =
      if interp.heap.isLive covered = true then
        (covered, action) :: interp.filters
      else
        interp.filters := by
  rw [Call.perform, addFilter]
  cases taken : interp.incref covered with
  | ok held =>
      have live := isLive_of_incref taken
      rcases OnHeap.incref taken with ⟨heap, rfl⟩
      rw [if_pos live]
      rfl
  | error reason =>
      rw [if_neg]
      · rfl
      · intro live
        rcases incref_of_isLive live with ⟨held, taken'⟩
        rw [taken] at taken'
        cases taken'

theorem warnings_addFilter
    (interp : Interpreter)
    (covered : Handle)
    (action : WarningAction) :
    (Call.perform interp (.addFilter covered action)).2.warnings = interp.warnings := by
  rw [Call.perform, addFilter]
  cases taken : interp.incref covered with
  | ok held => exact (OnHeap.incref taken).keepsWarnings.warnings
  | error reason => rfl

theorem placeAt_frames
    (interp : Interpreter)
    (level : Nat) :
    interp.warningPlace level = placeAt interp.frames level := by
  have innermost : level - 1 = max level 1 - 1 := by omega
  rw [warningPlace, innermost]
  rfl

/-- A warning is emitted as the filters say, and has no part in them. -/
theorem warnings_warn
    (interp : Interpreter)
    (category : Handle)
    (message : String)
    (level : Nat) :
    (interp.warn category message level).2.filters = interp.filters ∧
      (interp.warn category message level).2.warnings =
        if interp.warningAction category = .record then
          interp.warnings ++ [interp.notice category message level]
        else
          interp.warnings := by
  rw [Interpreter.warn]
  cases interp.warningAction category with
  | ignore => exact ⟨rfl, rfl⟩
  | raise =>
      have kept := KeepsWarnings.raiseInstance interp category message
      exact ⟨kept.filters, kept.warnings⟩
  | record => exact ⟨rfl, by simp [notice, placeAt_frames]⟩

theorem filters_resetFilters (interp : Interpreter) : interp.resetFilters.filters = [] := by
  rcases interp.resetFilters_eq with ⟨heap, same⟩
  rw [same]

theorem warnings_resetFilters (interp : Interpreter) :
    interp.resetFilters.warnings = interp.warnings := by
  rcases interp.resetFilters_eq with ⟨heap, same⟩
  rw [same]

theorem filters_eq_installed
    {history : History}
    (chronicle : Chronicle interp owned history) :
    interp.filters = installed history := by
  induction chronicle with
  | initial => rfl
  | @call interp owned earlier call before step =>
      by_cases warns : call.Warns
      · cases call with
        | warn category message level =>
            exact (interp.warnings_warn category message level).1.trans step
        | addFilter covered action => rw [filters_addFilter, installed, step]
        | resetFilters => exact interp.filters_resetFilters
        | takeWarnings => exact step
        | _ => exact warns.elim
      · rw [(keepsWarnings_perform call warns interp).filters, step]
        cases call <;> first | rfl | exact absurd trivial warns

/-- The first filter that covers a category is the newest one. -/
theorem find?_installed
    (heap : Heap)
    (category : Handle)
    (history : History) :
    (((installed history).find? fun filter => heap.isSubclass category filter.1).map
      Prod.snd).getD .record = ruling heap category history := by
  induction history with
  | nil => rfl
  | cons moment earlier step =>
      rcases moment with ⟨before, call⟩
      cases call with
      | addFilter covered action =>
          rw [installed, ruling]
          by_cases live : before.heap.isLive covered = true
          · by_cases derives : heap.Derives category covered
            · have covers := Heap.isSubclass_iff_derives.mpr derives
              rw [if_pos live, if_pos ⟨live, derives⟩]
              simp [covers]
            · have misses : heap.isSubclass category covered = false :=
                Bool.eq_false_iff.mpr fun covers => derives (Heap.isSubclass_iff_derives.mp covers)
              rw [if_pos live, if_neg fun both => derives both.2]
              simpa [List.find?_cons, misses] using step
          · rw [if_neg live, if_neg fun both => live both.1]
            exact step
      | resetFilters => rfl
      | _ => exact step

/-- The filters say what the newest of them says that covers the category. -/
theorem warningAction_eq_ruling
    {history : History}
    (chronicle : Chronicle interp owned history)
    (category : Handle) :
    interp.warningAction category = ruling interp.heap category history := by
  rw [← find?_installed, ← filters_eq_installed chronicle, warningAction]
  cases interp.filters.find? fun filter => interp.heap.isSubclass category filter.1 <;> rfl

theorem warnings_eq_recorded
    {history : History}
    (chronicle : Chronicle interp owned history) :
    interp.warnings = recorded history := by
  induction chronicle with
  | initial => rfl
  | @call interp owned earlier call before step =>
      by_cases warns : call.Warns
      · cases call with
        | warn category message level =>
            rw [recorded, ← warningAction_eq_ruling before, ← step]
            exact (interp.warnings_warn category message level).2
        | addFilter covered action => exact (interp.warnings_addFilter covered action).trans step
        | resetFilters => exact interp.warnings_resetFilters.trans step
        | takeWarnings => rfl
        | _ => exact warns.elim
      · rw [(keepsWarnings_perform call warns interp).warnings, step]
        cases call <;> first | rfl | exact absurd trivial warns

/-! ## What becomes of a warning -/

theorem Chronicle.solvent
    {history : History}
    (chronicle : Chronicle interp owned history) :
    Solvent interp owned := by
  induction chronicle with
  | initial => exact .initial
  | call call _ before => exact .call call before

theorem Solvent.origin
    (solvent : Solvent interp owned) :
    Heap.empty.Evolves interp.heap := by
  induction solvent with
  | initial => exact evolves_initial
  | call call _ before => exact before.trans (Evolves.perform call _).heap

/-- A warning whose category is there is emitted as the filters say. -/
theorem Solvent.emits
    (solvent : Solvent interp owned)
    (live : interp.heap.isLive category = true)
    (room : (interp.warn category message level).2.heap.HasRoom) :
    interp.Emits category message level (interp.warningAction category) := by
  cases action : interp.warningAction category with
  | ignore => rw [Emits, Interpreter.warn, action]
  | record =>
      rw [Emits, Interpreter.warn, action]
      simp [notice, placeAt_frames]
  | raise =>
      have raises :
          interp.warn category message level =
            (.error {}, interp.raiseInstance category message) := by
        rw [Interpreter.warn, action]
      rw [raises] at room
      rcases solvent.exists_ledger with ⟨lost, ledger⟩
      rcases ledger.backtraced_raiseInstance live room with
        ⟨value, head, entries, new, backtraced⟩
      rcases ledger.message_raiseInstance solvent.origin live message with
        ⟨value', traceback, pending, message⟩
      obtain ⟨rfl, -⟩ : value' = value ∧ traceback = head := by
        simpa using pending.symm.trans backtraced.pending
      exact ⟨_, _, head, entries, raises, new, backtraced, (message room).1, (message room).2,
        (KeepsWarnings.raiseInstance interp category _).warnings⟩

/--
As long as there were fewer allocations than there are handles, and with a caller that
gives up only references it owns: a warning whose category is there is emitted as the
newest filter says that was added since the last reset and covers it, and the records
that are taken are those of the warnings that were recorded since the last time.
-/
theorem newest_filter_decides
    {history : History}
    (chronicle : Chronicle interp owned history)
    (live : interp.heap.isLive category = true)
    (room : (interp.warn category message level).2.heap.HasRoom) :
    interp.Emits category message level (ruling interp.heap category history) ∧
      interp.takeWarnings = (recorded history, { interp with warnings := [] }) := by
  constructor
  · rw [← warningAction_eq_ruling chronicle]
    exact chronicle.solvent.emits live room
  · rw [takeWarnings, warnings_eq_recorded chronicle]

/-- A call that takes nothing over. -/
theorem Chronicle.receive
    {history : History}
    (call : Call)
    (before : Chronicle interp owned history)
    (taken : call.taken = 0) :
    Chronicle (call.perform interp).2 ((call.perform interp).1 + owned)
      ((interp, call) :: history) := by
  have before' : Chronicle interp (call.taken + owned) history := by
    rwa [taken, zero_add]
  exact before'.call call

/-- Make calls one after another and keep their history. -/
def after (calls : List Call) : Interpreter × History :=
  calls.foldl (fun (interp, history) call => ((call.perform interp).2, (interp, call) :: history))
    (initial, [])

/-- Two filters cover a class of warnings that is new, and one of them was added later. -/
def overlapping : Interpreter × History :=
  after
    [ .newClass "Late" (some "app") ⟨42, 0⟩,
      .pushFrame ⟨"main", "main.py", 3, none⟩,
      .warn ⟨53, 0⟩ "early" 2,
      .addFilter ⟨41, 0⟩ .ignore,
      .addFilter ⟨42, 0⟩ .raise,
      .warn ⟨43, 0⟩ "unheard" 1 ]

private theorem chronicle_overlapping :
    ∃ owned, Chronicle overlapping.1 owned overlapping.2 := by
  have made := Chronicle.initial.receive (.newClass "Late" (some "app") ⟨42, 0⟩) rfl
  have entered := made.receive (.pushFrame ⟨"main", "main.py", 3, none⟩) rfl
  have recorded := entered.receive (.warn ⟨53, 0⟩ "early" 2) rfl
  have ignoring := recorded.receive (.addFilter ⟨41, 0⟩ .ignore) rfl
  have raising := ignoring.receive (.addFilter ⟨42, 0⟩ .raise) rfl
  exact ⟨_, raising.receive (.warn ⟨43, 0⟩ "unheard" 1) rfl⟩

/-- The filter of the nearer base class was added later, and what it covers is raised. -/
theorem newest_filter_decides_overlapping :
    ruling overlapping.1.heap ⟨53, 0⟩ overlapping.2 = .raise ∧
      overlapping.1.Emits ⟨53, 0⟩ "late" 1 .raise ∧
        overlapping.1.takeWarnings.1 = [⟨"Late", "early", "sys", 1⟩] := by
  rcases chronicle_overlapping with ⟨owned, chronicle⟩
  have rules : ruling overlapping.1.heap ⟨53, 0⟩ overlapping.2 = .raise := by
    decide +kernel
  have written : recorded overlapping.2 = [⟨"Late", "early", "sys", 1⟩] := by
    decide +kernel
  have decided :
      overlapping.1.Emits ⟨53, 0⟩ "late" 1 (ruling overlapping.1.heap ⟨53, 0⟩ overlapping.2) ∧
        overlapping.1.takeWarnings =
          (recorded overlapping.2, { overlapping.1 with warnings := [] }) :=
    newest_filter_decides chronicle (by decide +kernel) (by decide +kernel)
  rw [rules] at decided
  exact ⟨rules, decided.1, by rw [decided.2, written]⟩

end Custody.Interpreter
