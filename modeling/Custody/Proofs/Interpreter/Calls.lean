import Custody.Proofs.Interpreter.Bootstrap
import Custody.Proofs.Interpreter.Services

/-!
# Runs of an interpreter

A caller makes calls one after another and keeps account of the references that
it owns.  Each call takes over some references and returns others; what it
borrows has to be there.  Along every run that starts with a fresh interpreter,
the count of every object is the number of references that the caller, the other
objects and the interpreter have to it.
-/

namespace Custody.Interpreter

/-- A call that can change an interpreter. -/
inductive Call where
  | incref (handle : Handle)
  | decref (handle : Handle)
  | newNone
  | newObject (payload : Payload)
  | newClass (name : String) (home : Option String) (base : Handle)
  | hostClass (key : String)
  | newException (type : Handle) (message : Option String)
  | setCause (handle : Handle) (cause : Option Handle)
  | setTraceback (handle : Handle) (traceback : Option Handle)
  | setError (type : Handle) (message : String)
  | setErrorObject (type : Handle) (value : Option Handle)
  | fetch
  | restore (triple : Triple)
  | clear
  | normalize (triple : Triple)
  | raise (name message : String)
  | pushFrame (frame : Frame)
  | popFrame
  | getItem (container : Handle) (index : Int)
  | warn (category : Handle) (message : String) (level : Nat)
  | addFilter (category : Handle) (action : WarningAction)
  | resetFilters
  | takeWarnings

namespace Call

/-- The references that a call takes over from the caller. -/
def taken : Call → Multiset Handle
  | .decref handle => {handle}
  | .newObject payload => payload.children
  | .setCause _ cause => cause.toList
  | .setTraceback _ traceback => traceback.toList
  | .restore triple => triple.given
  | .normalize triple => triple.type ::ₘ triple.value.toList
  | _ => 0

/-- The objects that a call borrows. -/
def borrowed : Call → List Handle
  | .incref handle => [handle]
  | .newClass _ _ base => [base]
  | .newException type _ => [type]
  | .setCause handle _ => [handle]
  | .setTraceback handle _ => [handle]
  | .setError type _ => [type]
  | .setErrorObject type value => type :: value.toList
  | .normalize triple => triple.traceback.toList
  | .getItem container _ => [container]
  | .warn category _ _ => [category]
  | .addFilter category _ => [category]
  | _ => []

/-- The objects that a call writes to. -/
def written : Call → List Handle
  | .setCause handle _ => [handle]
  | .setTraceback handle _ => [handle]
  | _ => []

/-- A call borrows what it writes to. -/
theorem mem_borrowed_of_written
    {call : Call}
    {handle : Handle}
    (written : handle ∈ call.written) :
    handle ∈ call.borrowed := by
  cases call with
  | setCause => exact written
  | setTraceback => exact written
  | _ => exact absurd written List.not_mem_nil

/-- The outcome of a call that fails without a change if its arguments are not there. -/
def attempt
    (interp : Interpreter)
    (received : List Handle)
    (result : Except HeapError Interpreter) :
    List Handle × Interpreter :=
  match result with
  | .ok interp => (received, interp)
  | .error _ => ([], interp)

/-- The outcome of a call that returns a new reference or fails without a change. -/
def attemptNew
    (interp : Interpreter)
    (result : Except HeapError (Handle × Interpreter)) :
    List Handle × Interpreter :=
  match result with
  | .ok (handle, interp) => ([handle], interp)
  | .error _ => ([], interp)

/-- Make a call.  The references that the caller owns from now on are returned. -/
def perform (interp : Interpreter) : Call → List Handle × Interpreter
  | .incref handle => attempt interp [handle] (interp.incref handle)
  | .decref handle => ([], interp.release handle)
  | .newNone => ([interp.newNone.1], interp.newNone.2)
  | .newObject payload => ([(interp.allocate payload).1], (interp.allocate payload).2)
  | .newClass name home base => attemptNew interp (interp.newClass name home base)
  | .hostClass key => ([], (interp.hostClass key).2)
  | .newException type message => attemptNew interp (interp.newException type message)
  | .setCause handle cause => attempt interp [] (interp.setCause handle cause)
  | .setTraceback handle traceback => attempt interp [] (interp.setTraceback handle traceback)
  | .setError type message => attempt interp [] (interp.setError type message)
  | .setErrorObject type value => attempt interp [] (interp.setErrorObject type value)
  | .fetch =>
      match interp.fetch with
      | some (triple, interp) => (triple.components, interp)
      | none => ([], interp)
  | .restore triple => ([], interp.restore triple)
  | .clear => ([], interp.clear)
  | .normalize triple =>
      ((interp.normalized triple).type :: (interp.normalized triple).value.toList,
        (interp.normalize triple).2)
  | .raise name message => ([], interp.raise name message)
  | .pushFrame frame => ([], interp.pushFrame frame)
  | .popFrame => ([], interp.popFrame)
  | .getItem container index =>
      ((interp.getItem container index).1.toOption.toList, (interp.getItem container index).2)
  | .warn category message level => ([], (interp.warn category message level).2)
  | .addFilter category action => attempt interp [] (interp.addFilter category action)
  | .resetFilters => ([], interp.resetFilters)
  | .takeWarnings => ([], interp.takeWarnings.2)

/-- No assignment of a cause or a traceback that a call makes closes a cycle. -/
def OpenEnded (interp : Interpreter) : Call → Prop
  | .setCause handle cause => interp.heap.OpenEnded handle cause
  | .setTraceback handle traceback => interp.heap.OpenEnded handle traceback
  | .normalize triple => interp.OpenEnded triple
  | _ => True

end Call

/--
A run of calls by a caller that gives up only references it owns and borrows
only objects that are there.  The references it owns in the end are counted.
-/
inductive Reached : Interpreter → Multiset Handle → Prop where
  | initial : Reached .initial 0
  | call
      {interp : Interpreter}
      {owned : Multiset Handle}
      (call : Call)
      (before : Reached interp (call.taken + owned))
      (live : ∀ handle ∈ call.borrowed, interp.heap.isLive handle = true) :
      Reached (call.perform interp).2 ((call.perform interp).1 + owned)

variable {acyclic : Prop} {interp : Interpreter} {credit owned : Multiset Handle}

/-! ## One call -/

namespace Ledger

/-- A call that takes nothing over and leaves everything as it was if it fails. -/
private theorem attempt
    {received : List Handle}
    {result : Except HeapError Interpreter}
    (ledger : interp.Ledger acyclic credit)
    (succeeds :
      ∀ {interp'}, result = .ok interp' → interp'.Ledger acyclic (received + credit)) :
    (Call.attempt interp received result).2.Ledger acyclic
      ((Call.attempt interp received result).1 + credit) := by
  unfold Call.attempt
  cases result with
  | ok interp' => exact succeeds rfl
  | error reason => exact ledger.congr _ (by simp)

private theorem attemptNew
    {result : Except HeapError (Handle × Interpreter)}
    (ledger : interp.Ledger acyclic credit)
    (succeeds :
      ∀ {handle interp'}, result = .ok (handle, interp') →
        interp'.Ledger acyclic (handle ::ₘ credit)) :
    (Call.attemptNew interp result).2.Ledger acyclic
      ((Call.attemptNew interp result).1 + credit) := by
  unfold Call.attemptNew
  cases result with
  | ok made => exact succeeds rfl
  | error reason => exact ledger.congr _ (by simp)

/-- A link is assigned to whatever is there; without room there is nothing to keep. -/
private theorem assign
    {handle : Handle}
    {link : Option Handle}
    {change : ExceptionInfo → Option Handle × ExceptionInfo}
    (ledger : interp.Ledger acyclic (link.toList + credit))
    (live : interp.heap.HasRoom → interp.heap.isLive handle = true)
    (succeeds :
      ∀ {interp'}, interp.replaceLink handle link change = .ok interp' →
        interp'.Ledger acyclic credit) :
    (Call.attempt interp [] (interp.replaceLink handle link change)).2.Ledger acyclic
      ((Call.attempt interp [] (interp.replaceLink handle link change)).1 + credit) := by
  unfold Call.attempt
  cases replaced : interp.replaceLink handle link change with
  | ok interp' => exact (succeeds replaced).congr _ (by simp)
  | error reason =>
      refine ledger.of_full fun room => ?_
      rcases exists_replaceLink link change (live room) with ⟨interp', replaced'⟩
      exact absurd (replaced.symm.trans replaced') (by simp)

/--
A call exchanges the references that it takes over for those that it returns, if the
object that it writes to is there.
-/
theorem perform
    (call : Call)
    (ledger : interp.Ledger acyclic (call.taken + credit))
    (there : interp.heap.HasRoom → ∀ handle ∈ call.written, interp.heap.isLive handle = true)
    (live :
      acyclic →
        interp.heap.HasRoom → ∀ handle ∈ call.borrowed, interp.heap.isLive handle = true)
    (open_ended : acyclic → interp.heap.HasRoom → call.OpenEnded interp) :
    (call.perform interp).2.Ledger acyclic ((call.perform interp).1 + credit) := by
  have plain (nothing : call.taken = 0) : interp.Ledger acyclic credit :=
    ledger.congr _ (by simp [nothing])
  cases call with
  | incref handle =>
      exact attempt (plain rfl) fun taken => (ledger.congr _ (by simp [Call.taken])).incref taken
  | decref handle =>
      exact (ledger.congr (handle ::ₘ credit) (by simp [Call.taken])).release.congr _
        (by simp [Call.perform])
  | newNone => exact (plain rfl).newNone
  | newObject payload => exact ledger.allocate payload
  | newClass name home base => exact attemptNew (plain rfl) (plain rfl).newClass
  | hostClass key => exact ((plain rfl).hostClass key).congr _ (by simp [Call.perform])
  | newException type message => exact attemptNew (plain rfl) (plain rfl).newException
  | setCause handle cause =>
      refine assign ledger (fun room => there room handle (List.mem_singleton_self _)) ?_
      exact fun replaced => ledger.setCause open_ended replaced
  | setTraceback handle traceback =>
      refine assign ledger (fun room => there room handle (List.mem_singleton_self _)) ?_
      exact fun replaced => ledger.setTraceback open_ended replaced
  | setError type message =>
      exact attempt (plain rfl) fun set => ((plain rfl).setError set).congr _ (by simp)
  | setErrorObject type value =>
      exact attempt (plain rfl) fun set => ((plain rfl).setErrorObject set).congr _ (by simp)
  | fetch =>
      cases fetched : interp.fetch with
      | some result =>
          simpa [Call.perform, fetched] using (plain rfl).fetch fetched
      | none =>
          simpa [Call.perform, fetched] using plain rfl
  | restore triple => exact (Ledger.restore ledger).congr _ (by simp [Call.perform])
  | clear => exact (plain rfl).clear.congr _ (by simp [Call.perform])
  | normalize triple =>
      have before := ledger.congr (triple.type ::ₘ (triple.value.toList + credit))
        (by rw [Call.taken, Multiset.cons_add])
      refine (before.normalize (fun isAcyclic room entry isEntry => ?_) open_ended).congr _ ?_
      · exact live isAcyclic room entry (by simp [Call.borrowed, isEntry])
      · rw [Call.perform, ← Multiset.cons_coe, Multiset.cons_add]
  | raise name message => exact ((plain rfl).raise name message).congr _ (by simp [Call.perform])
  | pushFrame frame => exact ((plain rfl).pushFrame frame).congr _ (by simp [Call.perform])
  | popFrame => exact (plain rfl).popFrame.congr _ (by simp [Call.perform])
  | getItem container index => exact (plain rfl).getItem container index
  | warn category message level =>
      exact ((plain rfl).warn category message level).congr _ (by simp [Call.perform])
  | addFilter category action =>
      exact attempt (plain rfl) fun added => ((plain rfl).addFilter added).congr _ (by simp)
  | resetFilters => exact (plain rfl).resetFilters.congr _ (by simp [Call.perform])
  | takeWarnings => exact (plain rfl).takeWarnings.congr _ (by simp [Call.perform])

end Ledger

/-! ## Whole runs -/

/-- A call that takes nothing over. -/
theorem Reached.receive
    (call : Call)
    (before : Reached interp owned)
    (taken : call.taken = 0)
    (live : ∀ handle ∈ call.borrowed, interp.heap.isLive handle = true) :
    Reached (call.perform interp).2 ((call.perform interp).1 + owned) := by
  have before' : Reached interp (call.taken + owned) := by
    rwa [taken, zero_add]
  exact before'.call call live

/-- A call that takes nothing over and returns nothing. -/
theorem Reached.follow
    (call : Call)
    (before : Reached interp owned)
    (taken : call.taken = 0)
    (received : (call.perform interp).1 = [])
    (live : ∀ handle ∈ call.borrowed, interp.heap.isLive handle = true) :
    Reached (call.perform interp).2 owned := by
  have after := before.receive call taken live
  rwa [received, Multiset.coe_nil, zero_add] at after

theorem Reached.ledger
    (reached : Reached interp owned) :
    interp.Ledger False owned := by
  induction reached with
  | initial => exact ledger_initial False
  | call call _ live ledger =>
      refine ledger.perform call (fun _ handle written => ?_) False.elim False.elim
      exact live handle (Call.mem_borrowed_of_written written)

/--
As long as there were fewer allocations than there are handles, the count of an
object is the number of references to it: those that the caller owns, those of
other objects, and those that the interpreter holds.
-/
theorem refcount_eq_references
    {handle : Handle}
    {entry : Entry}
    (reached : Reached interp owned)
    (room : interp.heap.HasRoom)
    (found : interp.heap.find? handle = some entry) :
    entry.refcount =
      (owned.count handle + interp.heap.links.count handle + interp.held.count handle : Nat) := by
  have counted := (reached.ledger.heap room).1.counted found
  rw [counted, Multiset.count_add, Multiset.count_add]
  omega

/-- An interpreter in which an error was raised inside a call. -/
def raisedInFrame : Interpreter :=
  [Call.pushFrame ⟨"main", "main.py", 1, none⟩, .raise "TypeError" "no"].foldl
    (fun interp call => (call.perform interp).2) initial

private theorem reached_fetched :
    Reached (Call.fetch.perform raisedInFrame).2 ((Call.fetch.perform raisedInFrame).1 + 0) := by
  have framed := Reached.initial.follow (.pushFrame ⟨"main", "main.py", 1, none⟩) rfl rfl nofun
  have raised := framed.follow (.raise "TypeError" "no") rfl rfl nofun
  exact .call .fetch raised nofun

/-- The traceback of the fetched error belongs to its instance and to the caller. -/
theorem refcount_eq_references_traceback :
    ∃ interp owned,
      Reached interp owned ∧
        interp.heap.HasRoom ∧
          interp.heap.refcount? ⟨55, 0⟩ = some 2 ∧
            owned.count ⟨55, 0⟩ + interp.heap.links.count ⟨55, 0⟩ +
              interp.held.count ⟨55, 0⟩ = 2 := by
  have room : (Call.fetch.perform raisedInFrame).2.heap.HasRoom := by
    rw [Heap.HasRoom]
    decide +kernel
  have two : (Call.fetch.perform raisedInFrame).2.heap.refcount? ⟨55, 0⟩ = some 2 := by
    decide +kernel
  rcases Option.map_eq_some_iff.mp two with ⟨entry, found, counted⟩
  have equation := refcount_eq_references reached_fetched room found
  exact ⟨_, _, reached_fetched, room, two, by omega⟩

end Custody.Interpreter
