import Custody.Proofs.Heap.Chains
import Custody.Proofs.Interpreter.NormalForm
import Custody.Proofs.Interpreter.Reports
import Custody.Proofs.Interpreter.Signals

/-!
# The traceback of an error that is raised

The traceback of a new error is written from the innermost active call outwards, and
so it is read from the outermost inwards.  Its entries are new, nothing else leads to
them, and so they go when the error goes.

Nothing is asked of the handles that a caller borrows: it only gives up references
that it owns.  Some of these may be lost, when they are given to a call that fails.
-/

namespace Custody

/-! ## The frames of a chain -/

/-- The frames of a chain are shown from its first entry on, if none was seen before. -/
theorem Heap.Spells.showsFrom
    {heap : Heap}
    {before : Option Handle}
    {entry : Handle}
    {seen entries : List Handle}
    {frames : List Frame}
    (spells : heap.Spells before (some entry) entries frames)
    (distinct : entries.Nodup)
    (unseen : ∀ other ∈ entries, other ∉ seen) :
    heap.ShowsFrom seen entry frames := by
  induction entries generalizing before entry seen frames with
  | nil => cases spells
  | cons first entries step =>
      cases spells with
      | @cons _ next _ _ frame frames written only rest =>
          have found : heap.tracebackAt? first = some ⟨frame, next⟩ := by
            rw [Heap.tracebackAt?, written]
          have shown : heap.frame? first = some frame := by
            rw [Heap.frame?, found, Option.map_some]
          rw [List.nodup_cons] at distinct
          rw [List.forall_mem_cons] at unseen
          cases rest with
          | nil =>
              refine .last shown fun other links => ?_
              rw [Heap.nextEntry, found] at links
              cases links
          | @cons _ next' next entries further frames written' only' rest' =>
              have new : next ∉ first :: seen := fun old => by
                rcases List.mem_cons.mp old with rfl | old
                · exact distinct.1 List.mem_cons_self
                · exact unseen.2 next List.mem_cons_self old
              refine .cons shown ?_ new (step (.cons written' only' rest') distinct.2 ?_)
              · rw [Heap.nextEntry, found, Option.bind_some, Option.filter_some, Heap.tracebackAt?,
                  written', Option.isSome_some, if_pos rfl]
              · intro other among old
                rcases List.mem_cons.mp old with rfl | old
                · exact distinct.1 among
                · exact unseen.2 other among old

/-- A chain shows its frames. -/
theorem Heap.Spells.shows
    {heap : Heap}
    {before : Option Handle}
    {entry : Handle}
    {entries : List Handle}
    {frames : List Frame}
    (spells : heap.Spells before (some entry) entries frames)
    (distinct : entries.Nodup) :
    heap.Shows entry frames := by
  have shown := spells.showsFrom distinct fun _ _ => List.not_mem_nil
  cases spells with
  | cons written _ _ =>
      rw [Heap.Shows, Heap.tracebackAt?, written]
      exact shown

namespace Interpreter

variable {acyclic : Prop} {interp interp' : Interpreter} {credit owned : Multiset Handle}
variable {call : Call} {handle type value : Handle}

/-! ## Callers that give up only what they own -/

/-- A link can only be assigned to what is there. -/
theorem isLive_of_replaceLink
    {link : Option Handle}
    {change : ExceptionInfo → Option Handle × ExceptionInfo}
    (replaced : interp.replaceLink handle link change = .ok interp') :
    interp.heap.isLive handle = true := by
  rcases Except.bind_eq_ok_iff.mp replaced with ⟨payload, holds, -⟩
  exact Heap.isLive_of_payload? (Heap.payload_eq_ok_iff.mp holds)

theorem attempt_of_missing
    {link : Option Handle}
    {change : ExceptionInfo → Option Handle × ExceptionInfo}
    (missing : ¬ ∀ written ∈ [handle], interp.heap.isLive written = true) :
    Call.attempt interp [] (interp.replaceLink handle link change) = ([], interp) := by
  cases replaced : interp.replaceLink handle link change with
  | error reason => rfl
  | ok interp' =>
      refine absurd (fun written among => ?_) missing
      rw [List.mem_singleton.mp among]
      exact isLive_of_replaceLink replaced

/-- A call that fails because something is gone may lose what it was given. -/
theorem Ledger.perform_any
    (call : Call)
    (ledger : interp.Ledger False (call.taken + credit)) :
    ∃ lost, (call.perform interp).2.Ledger False ((call.perform interp).1 + credit + lost) := by
  by_cases there : ∀ handle ∈ call.written, interp.heap.isLive handle = true
  · have after := ledger.perform call (fun _ => there) False.elim False.elim
    exact ⟨0, after.congr _ (add_zero _)⟩
  · cases call with
    | setCause handle cause =>
        refine ⟨cause.toList, ?_⟩
        rw [Call.perform, Interpreter.setCause, attempt_of_missing there]
        exact ledger.congr _ (by rw [Multiset.coe_nil, zero_add, add_comm]; rfl)
    | setTraceback handle traceback =>
        refine ⟨traceback.toList, ?_⟩
        rw [Call.perform, Interpreter.setTraceback, attempt_of_missing there]
        exact ledger.congr _ (by rw [Multiset.coe_nil, zero_add, add_comm]; rfl)
    | _ => exact absurd (List.forall_mem_nil _) there

/-- A run of calls by a caller that gives up only references it owns. -/
inductive Solvent : Interpreter → Multiset Handle → Prop where
  | initial : Solvent .initial 0
  | call
      {interp : Interpreter}
      {owned : Multiset Handle}
      (call : Call)
      (before : Solvent interp (call.taken + owned)) :
      Solvent (call.perform interp).2 ((call.perform interp).1 + owned)

/-- Each reference is owned by the caller, held by the interpreter, or lost. -/
theorem Solvent.exists_ledger
    (solvent : Solvent interp owned) :
    ∃ lost, interp.Ledger False (owned + lost) := by
  induction solvent with
  | initial => exact ⟨0, ledger_initial False⟩
  | @call interp owned call _ before =>
      rcases before with ⟨lost, ledger⟩
      rcases (ledger.congr (call.taken + (owned + lost)) (add_assoc _ _ _).symm).perform_any with
        ⟨more, after⟩
      refine ⟨lost + more, after.congr _ ?_⟩
      rw [add_assoc, add_assoc, add_assoc]

/-! ## A new chain -/

/--
The entries for some frames are written in front of a chain that nothing leads into.
They are new, and nothing leads into the longer chain either.
-/
theorem Ledger.spells_chainFrames
    (start : Heap)
    {frames shown : List Frame}
    {chain : Option Handle}
    {entries : List Handle}
    (ledger : interp.Ledger acyclic (chain.toList + credit))
    (spells : interp.heap.Spells none chain entries shown)
    (distinct : entries.Nodup)
    (fresh : ∀ entry ∈ entries, start.isLive entry = false)
    (kept : ∀ handle, start.isLive handle = true → interp.heap.isLive handle = true)
    (room : (interp.chainFrames frames chain).2.heap.HasRoom) :
    ∃ entries',
      (interp.chainFrames frames chain).2.heap.Spells none (interp.chainFrames frames chain).1
          entries' (frames.reverse ++ shown) ∧
        entries'.Nodup ∧
        ∀ entry ∈ entries', start.isLive entry = false := by
  induction frames generalizing interp chain entries shown with
  | nil => exact ⟨entries, spells, distinct, fresh⟩
  | cons frame outer step =>
      have before := hasRoom_of_chainFrames room
      have tidy := (ledger.heap before).1.tidy
      have addressable := tidy.addressable_allocate before (.traceback ⟨frame, chain⟩)
      have missing : interp.heap.isLive (interp.allocate (.traceback ⟨frame, chain⟩)).1 = false :=
        congrArg Option.isSome (Heap.find?_allocate_fresh tidy addressable)
      have kept' (handle : Handle) (live : start.isLive handle = true) :
          (interp.allocate (.traceback ⟨frame, chain⟩)).2.heap.isLive handle = true :=
        Heap.isLive_allocate_of_isLive tidy before (kept handle live)
      have made := ledger.allocate (.traceback ⟨frame, chain⟩)
      rw [← Multiset.singleton_add] at made
      have unlinked :
          (interp.allocate (.traceback ⟨frame, chain⟩)).2.heap.Unlinked
            (interp.allocate (.traceback ⟨frame, chain⟩)).1 := by
        have before' := ledger.heap
        rw [add_assoc] at before'
        exact before'.unlinked_allocate before
      have longer :
          (interp.allocate (.traceback ⟨frame, chain⟩)).2.heap.Spells none
            (some (interp.allocate (.traceback ⟨frame, chain⟩)).1)
            ((interp.allocate (.traceback ⟨frame, chain⟩)).1 :: entries) (frame :: shown) := by
        refine .cons ?_ (fun other points => absurd points (unlinked other))
          (spells.lead distinct (fun entry among => ?_) fun parent child points => ?_)
        · exact (Heap.payload?_allocate tidy before _).trans (if_pos rfl)
        · exact Heap.payload?_allocate_of_isLive tidy before (spells.isLive entry among)
        · refine (Heap.points_allocate tidy before points).imp_right fun new => ⟨new.1, ?_⟩
          simpa [Payload.children] using new.2
      have apart : (interp.allocate (.traceback ⟨frame, chain⟩)).1 ∉ entries := fun among => by
        rw [spells.isLive _ among] at missing
        cases missing
      have fresh' : start.isLive (interp.allocate (.traceback ⟨frame, chain⟩)).1 = false := by
        rw [← Bool.not_eq_true]
        intro live
        rw [kept _ live] at missing
        cases missing
      have later := step made longer (List.nodup_cons.mpr ⟨apart, distinct⟩)
        (List.forall_mem_cons.mpr ⟨fresh', fresh⟩) kept' room
      rwa [List.reverse_cons, List.append_assoc, List.singleton_append]

/-- A new instance was not there before, and whatever was there stays as it is. -/
theorem Ledger.payload?_newException_other
    {message : String}
    (ledger : interp.Ledger acyclic credit)
    (made : interp.newException type (some message) = .ok (value, interp'))
    (room : interp'.heap.HasRoom) :
    interp.heap.isLive value = false ∧
      ∀ other,
        interp.heap.isLive other = true →
          interp'.heap.payload? other = interp.heap.payload? other := by
  rcases Except.bind_eq_ok_iff.mp made with ⟨held, taken, made⟩
  have typed := ledger.incref taken
  have retained : interp.retain type = held := by rw [Interpreter.retain, taken]
  have worded := (typed.congr (([] : List Handle) + type ::ₘ credit) (by simp)).allocate
    (.str message)
  cases made
  have roomWorded := room.of_allocate
  have roomHeld := roomWorded.of_allocate
  have tidyHeld := (typed.heap roomHeld).1.tidy
  have tidyWorded := (worded.heap roomWorded).1.tidy
  have live (other : Handle) (there : interp.heap.isLive other = true) :
      held.heap.isLive other = true := by
    rw [← retained]
    exact isLive_retain type there
  have live' (other : Handle) (there : interp.heap.isLive other = true) :
      (held.allocate (.str message)).2.heap.isLive other = true :=
    Heap.isLive_allocate_of_isLive tidyHeld roomHeld (live other there)
  refine ⟨?_, fun other there => ?_⟩
  · rw [← Bool.not_eq_true]
    intro there
    have addressable := tidyWorded.addressable_allocate roomWorded
      (.exception ⟨type, [(held.allocate (.str message)).1], none, none⟩)
    rcases (Heap.isLive_iff _ _).mp (live' _ there) with ⟨entry, found⟩
    cases found.symm.trans (Heap.find?_allocate_fresh tidyWorded addressable)
  · refine (Heap.payload?_allocate_of_isLive tidyWorded roomWorded (live' other there)).trans ?_
    refine (Heap.payload?_allocate_of_isLive tidyHeld roomHeld (live other there)).trans ?_
    rw [← retained, payload?_retain]

theorem Ledger.isLive_newException_other
    {message : String}
    {other : Handle}
    (ledger : interp.Ledger acyclic credit)
    (made : interp.newException type (some message) = .ok (value, interp'))
    (room : interp'.heap.HasRoom)
    (live : interp.heap.isLive other = true) :
    interp'.heap.isLive other = true := by
  rcases Heap.exists_payload?_of_isLive live with ⟨written, holds⟩
  have same := (ledger.payload?_newException_other made room).2 other live
  exact Heap.isLive_of_payload? (same.trans holds)

/-! ## What is shown -/

/-- The line that says where a call is. -/
def placeLine (frame : Frame) : String :=
  "  File \"" ++ frame.file ++ "\", line " ++ toString frame.line ++ ", in " ++ frame.name ++ "\n"

/-- The source line of a call, if one is known and not blank. -/
def shownSource (frame : Frame) : Option String :=
  (frame.source.map Text.trim).filter fun line => !line.isEmpty

/-- The source line that is shown under the line that says where a call is. -/
def sourceLine (frame : Frame) : String :=
  (shownSource frame).elim "" fun line => "    " ++ line ++ "\n"

theorem frameText_eq (frame : Frame) : frameText frame = placeLine frame ++ sourceLine frame := by
  rw [frameText, ← placeLine, sourceLine, shownSource]
  cases frame.source.map Text.trim with
  | none => simp
  | some line =>
      by_cases blank : line = ""
      · simp [blank, Option.filter_some]
      · simp [blank, Option.filter_some, String.append_assoc]

/-! ## Raising -/

/--
An error is pending whose traceback is a chain of entries for some frames, outermost
first.  It is that of the instance too, which nothing else leads to, and neither does
anything else lead to an entry: the first is held by the error and by the instance,
and each other one by the entry before it.
-/
structure Backtraced
    (interp : Interpreter)
    (frames : List Frame)
    (type value : Handle)
    (head : Option Handle)
    (entries : List Handle) :
    Prop where
  pending : interp.pending = some ⟨type, some value, head⟩
  attached : interp.heap.tracebackOf value = head
  first : head = entries.head?
  each : entries.length = frames.length
  distinct : entries.Nodup
  spells : interp.heap.Spells (some value) head entries frames
  unlinked : interp.heap.Unlinked value
  counts :
    ∀ entry ∈ entries,
      interp.heap.refcount? entry = some (if head = some entry then 2 else 1)
  text :
    ∀ entry,
      head = some entry →
        interp.tracebackText entry =
          String.join (frames.map fun frame => placeLine frame ++ sourceLine frame)

/-- What there is once an instance is made and the traceback of the active calls is attached. -/
theorem Ledger.spells_attach
    {message : String}
    {started : Interpreter}
    (ledger : interp.Ledger acyclic credit)
    (made : interp.newException type (some message) = .ok (value, started))
    (room : (started.newTraceback.2.attach value started.newTraceback.1).heap.HasRoom) :
    ∃ entries args,
      (started.newTraceback.2.attach value started.newTraceback.1).heap.Spells (some value)
          started.newTraceback.1 entries interp.frames.reverse ∧
        entries.Nodup ∧
        (∀ entry ∈ entries, started.heap.isLive entry = false) ∧
        (∀ arg ∈ args, started.heap.isLive arg = true) ∧
        (started.newTraceback.2.attach value started.newTraceback.1).heap.Unlinked value ∧
        (started.newTraceback.2.attach value started.newTraceback.1).heap.payload? value =
          some (.exception ⟨type, args, none, started.newTraceback.1⟩) := by
  have active : started.frames = interp.frames := by
    rcases OnHeap.newException made with ⟨heap, rfl⟩
    rfl
  have roomTraced := (hasRoom_attach _ _ _).mp room
  have roomStarted := hasRoom_of_chainFrames roomTraced
  have valued := ledger.newException made
  have before : started.Ledger acyclic ((none : Option Handle).toList + value ::ₘ credit) :=
    valued.congr _ (by simp)
  rcases ledger.payload?_newException made roomStarted with ⟨unlinked, -, args, holds⟩
  rcases before.unlinked_chainFrames (fun _ => unlinked) (fun _ => (Option.some_ne_none value).symm)
    roomTraced with ⟨unlinked', apart, same⟩
  rcases before.spells_chainFrames started.heap .nil List.nodup_nil
    (List.forall_mem_nil _) (fun _ => id) roomTraced with ⟨entries, spells, distinct, fresh⟩
  have traced := same.trans holds
  rw [List.append_nil] at spells
  rw [← active]
  refine ⟨entries, args, spells.lead distinct (fun entry among => ?_) ?_, distinct, fresh,
    ?_, ?_, ?_⟩
  · rw [Interpreter.newTraceback, payload?_attach traced rfl, if_neg]
    rintro rfl
    cases (fresh _ among).symm.trans (Heap.isLive_of_payload? holds)
  · exact fun parent child points => points_attach traced rfl points
  · intro arg among
    exact valued.heap.isLive_of_points roomStarted ⟨_, holds, by simp [Payload.children, among]⟩
  · intro parent points
    rcases points_attach traced rfl points with old | ⟨-, isValue⟩
    · exact unlinked' parent old
    · exact apart isValue
  · rw [Interpreter.newTraceback, payload?_attach traced rfl, if_pos rfl]

/-- What was not there before an error was raised is part of the pending error, if anything. -/
theorem Ledger.unheld_raiseInstance
    (ledger : interp.Ledger acyclic credit)
    (room : interp.heap.HasRoom)
    (type : Handle)
    (message : String)
    (missing : interp.heap.isLive handle = false) :
    handle ∉
      credit + ({ interp.raiseInstance type message with pending := none } : Interpreter).held := by
  rw [(OnHeap.raiseInstance interp type message none).held]
  intro member
  have live : interp.heap.isLive handle = true := by
    rcases Multiset.mem_add.mp member with owned | own
    · exact ledger.isLive_of_mem room owned
    · refine ledger.isLive_of_held room ?_
      rw [← add_zero interp.held, ← Triple.referencesOf_none, ← interp.held_pending none]
      exact Multiset.mem_add.mpr (.inl own)
  cases missing.symm.trans live

/-- The counts of the entries of a chain that an error and its instance have. -/
theorem Ledger.refcounts
    {frames : List Frame}
    {head : Option Handle}
    {entries args : List Handle}
    (ledger : interp.Ledger acyclic credit)
    (room : interp.heap.HasRoom)
    (pending : interp.pending = some ⟨type, some value, head⟩)
    (holds : interp.heap.payload? value = some (.exception ⟨type, args, none, head⟩))
    (spells : interp.heap.Spells (some value) head entries frames)
    (apart : ∀ entry ∈ entries, entry ≠ type ∧ entry ≠ value ∧ entry ∉ args)
    (unheld :
      ∀ entry ∈ entries,
        entry ∉ credit + ({ interp with pending := none } : Interpreter).held) :
    ∀ entry ∈ entries,
      interp.heap.refcount? entry = some (if head = some entry then 2 else 1) := by
  have links (entry : Handle) :
      head.toList.count entry = if head = some entry then 1 else 0 := by
    cases head with
    | none => rfl
    | some first => simp [List.count_singleton]
  have once (entry : Handle) (isHead : head = some entry) :
      (Payload.exception ⟨type, args, none, head⟩).children.count entry = 1 := by
    rcases spells with _ | ⟨written, only, rest⟩
    · cases isHead
    · cases isHead
      rcases apart entry List.mem_cons_self with ⟨notType, -, notArg⟩
      simp [Payload.children, notType.symm, List.count_eq_zero.mpr notArg]
  intro entry among
  rcases apart entry among with ⟨notType, notValue, -⟩
  have others := Multiset.count_eq_zero.mpr (unheld entry among)
  have own := congrArg (Multiset.count entry) (interp.held_pending none)
  have triple : Triple.references ⟨type, some value, head⟩ = type ::ₘ value ::ₘ head.toList := by
    simp [Triple.references]
  have pair : Multiset.count entry (Triple.references ⟨type, some value, head⟩) =
      if head = some entry then 1 else 0 := by
    rw [triple, Multiset.count_cons_of_ne notType, Multiset.count_cons_of_ne notValue,
      Multiset.coe_count, links]
  rw [pending, Triple.referencesOf_none, add_zero, Triple.referencesOf_some, Multiset.count_add,
    pair] at own
  rw [Multiset.count_add] at others
  rw [spells.refcounts (ledger.heap room).1 room holds once entry among, Multiset.count_add, ← own]
  split
  · simp only [Option.some.injEq]
    omega
  · simp only [Option.some.injEq]
    omega

/-- An instance that is raised gets a traceback of its own, with an entry for each active call. -/
theorem Ledger.backtraced_raiseInstance
    {message : String}
    (ledger : interp.Ledger acyclic credit)
    (live : interp.heap.isLive type = true)
    (room : (interp.raiseInstance type message).heap.HasRoom) :
    ∃ value head entries,
      (∀ handle ∈ value :: entries, interp.heap.isLive handle = false) ∧
        (interp.raiseInstance type message).Backtraced interp.frames.reverse type value head
          entries := by
  rcases exists_newException (some message) live with ⟨value, started, made⟩
  have after := ledger.raiseInstance type message
  have unheld (handle : Handle) (missing : interp.heap.isLive handle = false) :=
    ledger.unheld_raiseInstance (hasRoom_of_raiseInstance room) type message missing
  rw [raiseInstance_eq made] at after room unheld ⊢
  have shrinks :=
    (shrinks_retain (started.newTraceback.2.attach value started.newTraceback.1) type).trans
      (shrinks_replacePending _ (some ⟨type, some value, started.newTraceback.1⟩))
  have roomAttached := shrinks.hasRoom_iff.mp room
  have roomStarted := hasRoom_of_chainFrames ((hasRoom_attach _ _ _).mp roomAttached)
  rcases ledger.spells_attach made roomAttached with
    ⟨entries, args, spells, distinct, fresh, old, unlinked, holds⟩
  have new := (ledger.payload?_newException_other made roomStarted).1
  have valued := (ledger.newException made).isLive_of_mem roomStarted (Multiset.mem_cons_self _ _)
  generalize started.newTraceback.2.attach value started.newTraceback.1 = attached at *
  generalize started.newTraceback.1 = head at *
  generalize raisedIs : (attached.retain type).replacePending (some ⟨type, some value, head⟩) =
    raised at *
  have pending : raised.pending = some ⟨type, some value, head⟩ := by
    rw [← raisedIs, pending_replacePending]
  have held (handle : Handle) (part : handle ∈ (⟨type, some value, head⟩ : Triple).references) :
      raised.heap.isLive handle = true :=
    after.isLive_of_held room (mem_held_of_pending pending part)
  have there := held value (by simp [Triple.references])
  have holds' := (shrinks.payload?_eq there).trans holds
  have spells' := spells.of_shrinks shrinks
    (fun parent child points => after.heap.isLive_of_points room points)
    fun entry isHead => held entry (by simp [Triple.references, isHead])
  have missing (entry : Handle) (among : entry ∈ entries) : interp.heap.isLive entry = false := by
    rw [← Bool.not_eq_true]
    intro wasLive
    cases (fresh entry among).symm.trans
      (ledger.isLive_newException_other made roomStarted wasLive)
  have apart (entry : Handle) (among : entry ∈ entries) :
      entry ≠ type ∧ entry ≠ value ∧ entry ∉ args := by
    refine ⟨?_, ?_, fun isArg => ?_⟩
    · rintro rfl
      cases (missing _ among).symm.trans live
    · rintro rfl
      cases (fresh _ among).symm.trans valued
    · cases (fresh _ among).symm.trans (old _ isArg)
  refine ⟨value, head, entries, List.forall_mem_cons.mpr ⟨new, missing⟩, ?_⟩
  exact {
    pending := pending
    attached := by rw [Heap.tracebackOf, holds']
    first := spells'.head_eq
    each := spells'.length_eq
    distinct := distinct
    spells := spells'
    unlinked := fun parent points => unlinked parent (shrinks.points points)
    counts :=
      after.refcounts room pending holds' spells' apart fun entry among =>
        unheld entry (missing entry among)
    text := by
      rintro entry rfl
      rw [tracebackText_of_shows (spells'.shows distinct), funext frameText_eq] }

theorem shrinks_releaseAll (order : List Handle) (interp : Interpreter) :
    interp.heap.Shrinks (order.foldl release interp).heap := by
  induction order generalizing interp with
  | nil => exact .refl _
  | cons handle order step => exact (shrinks_release interp handle).trans (step _)

/--
Once the error is taken and its references are given back, in whatever order, nothing is
left of its instance or its traceback, if nobody else has a reference to them.
-/
theorem Backtraced.not_isLive
    {frames : List Frame}
    {head : Option Handle}
    {entries order : List Handle}
    (backtraced : interp.Backtraced frames type value head entries)
    (ledger : interp.Ledger acyclic credit)
    (room : interp.heap.HasRoom)
    (unheld :
      ∀ handle ∈ value :: entries,
        handle ∉ credit + ({ interp with pending := none } : Interpreter).held)
    (all : order.Perm (⟨type, some value, head⟩ : Triple).components) :
    ∀ handle ∈ value :: entries,
      (order.foldl release { interp with pending := none }).heap.isLive handle = false := by
  have taken := ledger.fetch (fetch_of_pending backtraced.pending)
  have given : ({ interp with pending := none } : Interpreter).Ledger acyclic
      ((order.map id : List Handle) + credit) := by
    rwa [List.map_id, Multiset.coe_eq_coe.mpr all]
  have left := given.releaseAll
  have own := (OnHeap.releaseAll id order { interp with pending := none }).held
  have shrinks := shrinks_releaseAll order { interp with pending := none }
  have room' := shrinks.hasRoom_iff.mpr room
  have balanced := (left.heap room').1
  rw [own] at balanced
  rw [List.forall_mem_cons] at unheld
  have dead : (order.foldl release { interp with pending := none }).heap.isLive value = false := by
    rw [← Bool.not_eq_true]
    intro live
    rcases Multiset.mem_add.mp (balanced.mem_of_isLive live) with member | linked
    · exact unheld.1 member
    · rcases (Heap.mem_links balanced.tidy room' value).mp linked with ⟨parent, points⟩
      exact backtraced.unlinked parent (shrinks.points points)
  refine List.forall_mem_cons.mpr ⟨dead, ?_⟩
  refine backtraced.spells.not_isLive shrinks balanced room' (fun parent isValue => ?_) unheld.2
  rwa [← Option.some.inj isValue]

/-! ## Calls that raise -/

/-- A call raises if it is a call to raise, or answers with the sign that it did. -/
def Call.Raises (interp : Interpreter) : Call → Prop
  | .raise _ _ => True
  | .normalize triple => ∃ raised, (interp.normalize triple).1 = .error raised
  | .getItem container index => ∃ raised, (interp.getItem container index).1 = .error raised
  | .warn category message level =>
      ∃ raised, (interp.warn category message level).1 = .error raised
  | _ => False

/-- A call that only enters or leaves a call of the program. -/
def Call.MovesFrames : Call → Prop
  | .pushFrame _ => True
  | .popFrame => True
  | _ => False

/-- What getting an item raises is an instance of a class that is there. -/
theorem Armed.exists_raiseInstance_getItem
    {container : Handle}
    {index : Int}
    {raised : Raised}
    (armed : interp.Armed)
    (failed : interp.getItem container index = (.error raised, interp')) :
    ∃ type message,
      interp.heap.isLive type = true ∧ interp' = interp.raiseInstance type message := by
  have raises (name message : String) (same : interp.raise name message = interp') :
      ∃ type message,
        interp.heap.isLive type = true ∧ interp' = interp.raiseInstance type message := by
    rcases armed.exists_raise name message with ⟨type, there, raised⟩
    exact ⟨type, message, there, same.symm.trans raised⟩
  rw [Interpreter.getItem] at failed
  split at failed
  · exact raises _ _ (Prod.mk.inj failed).2
  · split at failed
    · cases failed
    · exact raises _ _ (Prod.mk.inj failed).2
  · simp only at failed
    split at failed
    · cases failed
    · exact raises _ _ (Prod.mk.inj failed).2
  · exact raises _ _ (Prod.mk.inj failed).2

/-- A call that raises makes an instance of a class that is there, and does nothing else. -/
theorem Call.Raises.exists_raiseInstance
    (raises : call.Raises interp)
    (armed : interp.Armed) :
    ∃ type message,
      interp.heap.isLive type = true ∧
        (call.perform interp).2 = interp.raiseInstance type message := by
  cases call with
  | raise name message =>
      rcases armed.exists_raise name message with ⟨type, there, same⟩
      exact ⟨type, message, there, same⟩
  | normalize triple =>
      rcases raises with ⟨sign, failed⟩
      rcases interp.normalize_cases triple with ⟨-, same⟩ | ⟨value, info, -, -, -, -, same⟩ | same
      · rcases armed.exists_raise "TypeError" _ with ⟨type, there, raised⟩
        exact ⟨type, _, there, (congrArg Prod.snd same).trans raised⟩
      · rw [same] at failed
        cases failed
      · rw [same] at failed
        cases failed
  | getItem container index =>
      rcases raises with ⟨sign, failed⟩
      exact armed.exists_raiseInstance_getItem (Prod.ext failed rfl)
  | warn category message level =>
      rcases raises with ⟨sign, failed⟩
      rw [Interpreter.warn] at failed
      split at failed
      · cases failed
      · next action =>
          refine ⟨category, message, armed.isLive_of_warningAction action, ?_⟩
          rw [Call.perform, Interpreter.warn, action]
      · cases failed
  | _ => exact raises.elim

/-- Entering and leaving calls of the program changes nothing else. -/
theorem exists_frames
    (moves : List Call)
    (only : ∀ move ∈ moves, move.MovesFrames)
    (interp : Interpreter) :
    ∃ frames,
      moves.foldl (fun interp call => (call.perform interp).2) interp = { interp with frames } := by
  induction moves generalizing interp with
  | nil => exact ⟨interp.frames, rfl⟩
  | cons move moves step =>
      rw [List.forall_mem_cons] at only
      rcases step only.2 (move.perform interp).2 with ⟨frames, later⟩
      refine ⟨frames, later.trans ?_⟩
      cases move with
      | pushFrame frame => rfl
      | popFrame => rfl
      | _ => exact only.1.elim

/--
Whatever a call raises under some active calls, with a caller that gives up only what it
owns: the pending error has a new traceback, with an entry for each active call, outermost
first.  Frames that are pushed or popped afterwards leave it as it is, and nothing is left
of it or of the instance once the error is taken and its references are given back.
-/
theorem raises_backtraced
    (solvent : Solvent interp (call.taken + owned))
    (raises : call.Raises interp)
    (room : (call.perform interp).2.heap.HasRoom) :
    ∃ type value head entries,
      (∀ handle ∈ value :: entries, interp.heap.isLive handle = false) ∧
        (call.perform interp).2.Backtraced interp.frames.reverse type value head entries ∧
          ∀ moves : List Call,
            (∀ move ∈ moves, move.MovesFrames) →
              ∃ later,
                moves.foldl (fun interp call => (call.perform interp).2) (call.perform interp).2 =
                    later ∧
                  later.Backtraced interp.frames.reverse type value head entries ∧
                    ∃ taken,
                      later.fetch = some (⟨type, some value, head⟩, taken) ∧
                        ∀ order : List Handle,
                          order.Perm (⟨type, some value, head⟩ : Triple).components →
                            ∀ handle ∈ value :: entries,
                              (order.foldl release taken).heap.isLive handle = false := by
  rcases solvent.exists_ledger with ⟨lost, ledger⟩
  have before := (Evolves.perform call interp).heap.hasRoom room
  rcases raises.exists_raiseInstance (ledger.armed before) with ⟨type, message, live, same⟩
  have after := ledger.raiseInstance type message
  rw [same] at room ⊢
  rcases ledger.backtraced_raiseInstance live room with ⟨value, head, entries, new, backtraced⟩
  refine ⟨type, value, head, entries, new, backtraced, fun moves only => ?_⟩
  rcases exists_frames moves only (interp.raiseInstance type message) with ⟨frames, later⟩
  refine ⟨_, later, { backtraced with }, _, fetch_of_pending backtraced.pending, ?_⟩
  intro order all
  exact Backtraced.not_isLive { backtraced with } (after.exchange rfl rfl rfl) room
    (fun handle among => ledger.unheld_raiseInstance before type message (new handle among)) all

/-- Two calls are active: one whose source line is shown, and one whose line is blank. -/
def underCalls : Interpreter :=
  [ Call.pushFrame ⟨"main", "main.py", 1, some "  helper()  "⟩,
    .pushFrame ⟨"helper", "main.py", 7, some "   "⟩ ].foldl
    (fun interp call => (call.perform interp).2) initial

private theorem solvent_underCalls : Solvent underCalls (0 + 0) := by
  have inMain : Solvent _ (0 + 0) :=
    .call (.pushFrame ⟨"main", "main.py", 1, some "  helper()  "⟩) .initial
  exact .call (.pushFrame ⟨"helper", "main.py", 7, some "   "⟩) inMain

/-- An item of something that is not there raises, and both calls are shown. -/
theorem raises_backtraced_underCalls :
    Solvent underCalls 0 ∧
      (Call.getItem ⟨99, 0⟩ 0).Raises underCalls ∧
        ∃ type value entry entries,
          ((Call.getItem ⟨99, 0⟩ 0).perform underCalls).2.Backtraced underCalls.frames.reverse type
              value (some entry) entries ∧
            ((Call.getItem ⟨99, 0⟩ 0).perform underCalls).2.tracebackText entry =
              "  File \"main.py\", line 1, in main\n    helper()\n" ++
                "  File \"main.py\", line 7, in helper\n" := by
  have solvent : Solvent underCalls ((Call.getItem ⟨99, 0⟩ 0).taken + 0) := solvent_underCalls
  have raises : (Call.getItem ⟨99, 0⟩ 0).Raises underCalls := ⟨{}, by decide +kernel⟩
  have room : ((Call.getItem ⟨99, 0⟩ 0).perform underCalls).2.heap.HasRoom := by decide +kernel
  rcases raises_backtraced solvent raises room with ⟨type, value, head, entries, -, backtraced, -⟩
  have isHead := backtraced.first
  cases head with
  | none =>
      rw [eq_comm, List.head?_eq_none_iff] at isHead
      have each := backtraced.each
      rw [isHead] at each
      cases each
  | some entry =>
      refine ⟨solvent_underCalls, raises, type, value, entry, entries, backtraced, ?_⟩
      rw [backtraced.text entry rfl]
      decide +kernel

end Interpreter

end Custody
