import Custody.Proofs.Session.Closing
import Custody.Proofs.Session.Requests

/-!
# Runs of a runtime

A runtime is started, used request by request, and perhaps shut down in the end.
The caller gives up only references that it owns and borrows only what is there.
Along every such run each reference to an object is on exactly one account, and
an object is there as long as something refers to it.
-/

namespace Custody.Session

/-! ## Runs -/

/--
A run of permitted requests to a runtime in use, with the references that the
caller owns in the end.  If `acyclic` holds, no assignment of a cause or a
traceback has closed a cycle.
-/
inductive Reached
    (acyclic : Prop)
    (config : Config)
    (hasTable : Bool) :
    Session → Multiset Handle → Prop where
  | opened : Reached acyclic config hasTable (opened config hasTable) 0
  | request
      {session : Session}
      {owned : Multiset Handle}
      (request : Request)
      (before : Reached acyclic config hasTable session (request.taken + owned))
      (permitted : request.Permitted session)
      (open_ended : acyclic → request.OpenEnded session) :
      Reached acyclic config hasTable (request.perform session).2
        ((request.perform session).1 + owned)

/-- A run up to and including a shutdown. -/
inductive Run
    (acyclic : Prop)
    (config : Config)
    (hasTable : Bool) :
    Session → Multiset Handle → Prop where
  | inUse
      {session : Session}
      {owned : Multiset Handle}
      (reached : Reached acyclic config hasTable session owned) :
      Run acyclic config hasTable session owned
  | shutDown
      {session : Session}
      {owned : Multiset Handle}
      (reached : Reached acyclic config hasTable session owned) :
      Run acyclic config hasTable (Op.shutDown.on session).2 owned

variable {acyclic : Prop} {config : Config} {hasTable : Bool}
variable {session : Session} {owned : Multiset Handle}

/-! ## Starting -/

/--
A runtime starts with an interpreter and perhaps a table of exceptions, which do
not depend on its configuration, and nothing else.
-/
theorem opened_eq (hasTable : Bool) :
    ∃ table interp,
      (∀ config,
        opened config hasTable =
          { Embedding.bare 0 config 0 with
            table
            interp
            registry := (Registry.empty.addTracker config.defers).2 }) ∧
        ∀ acyclic, interp.Ledger acyclic table.references := by
  have unfolded (config : Config) :
      opened config hasTable =
        { (if hasTable then (Embedding.bare 0 config 0).withTable else .bare 0 config 0) with
          registry := (Registry.empty.addTracker config.defers).2 } := by
    rw [opened]
    rfl
  cases hasTable with
  | false => exact ⟨.empty, .initial, unfolded, Interpreter.ledger_initial⟩
  | true =>
      refine ⟨_, _, fun config => ?_, fun acyclic =>
        (ExceptionTable.ledger_resolve (Interpreter.ledger_initial acyclic)).congr _
          (add_zero _).symm⟩
      rw [unfolded, if_pos rfl, withTable_eq]
      rfl

/-- A runtime that was just started is sound, and the caller owns nothing. -/
theorem sound_opened
    (quiet acyclic : Prop)
    (config : Config)
    (hasTable : Bool) :
    (opened config hasTable).Sound quiet acyclic 0 := by
  rcases opened_eq hasTable with ⟨table, interp, started, ledger⟩
  rw [started]
  refine ⟨⟨⟨?_, ?_, ?_⟩, ⟨nofun, nofun, nofun⟩, fun _ => rfl⟩, ⟨0, fun _ => rfl, ?_⟩, fun _ => nofun⟩
  · exact List.nodup_nil
  · exact nofun
  · exact nofun
  · refine (ledger acyclic).congr _ ?_
    rw [add_zero, zero_add]
    exact add_zero _

/-! ## Using -/

theorem Reached.sound
    (reached : Reached acyclic config hasTable session owned) :
    session.Sound True acyclic owned := by
  induction reached with
  | opened => exact sound_opened True acyclic config hasTable
  | request request _ permitted open_ended sound =>
      exact sound.perform permitted.tolerated (fun _ => permitted) open_ended

theorem Run.ledger
    (run : Run acyclic config hasTable session owned) :
    session.Ledger acyclic owned := by
  cases run with
  | inUse reached => exact reached.sound.ledger trivial
  | shutDown reached => exact Op.ledger_shutDown trivial reached.sound

/-- A request that takes nothing over and returns nothing. -/
theorem Reached.follow
    (request : Request)
    (before : Reached acyclic config hasTable session owned)
    (taken : request.taken = 0)
    (received : (request.perform session).1 = [])
    (permitted : request.Permitted session)
    (open_ended : acyclic → request.OpenEnded session) :
    Reached acyclic config hasTable (request.perform session).2 owned := by
  have before' : Reached acyclic config hasTable session (request.taken + owned) := by
    rwa [taken, zero_add]
  have after := before'.request request permitted open_ended
  rwa [received, Multiset.coe_nil, zero_add] at after

/-- What is held from outside the heap: each reference is on one account. -/
inductive IsRoot (session : Session) (owned : Multiset Handle) : Handle → Prop where
  | owned {handle : Handle} (isOwned : handle ∈ owned) : IsRoot session owned handle
  | interp {handle : Handle} (isHeld : handle ∈ session.interp.held) :
      IsRoot session owned handle
  | table {handle : Handle} (isListed : handle ∈ session.table.references) :
      IsRoot session owned handle
  | record (ref : RecordRef) (owns : (session.record ref).state.owns = true) :
      IsRoot session owned (session.record ref).handle

theorem isRoot_iff_mem
    {handle : Handle} :
    session.IsRoot owned handle ↔
      handle ∈ owned + session.reserve + session.interp.held := by
  simp only [reserve, Multiset.mem_add, Registry.mem_held]
  constructor
  · rintro (isOwned | isHeld | isListed | ⟨ref, owns⟩)
    · exact .inl (.inl isOwned)
    · exact .inr isHeld
    · exact .inl (.inr (.inl isListed))
    · exact .inl (.inr (.inr ⟨ref, Registry.mem_owning.mpr (Record.references_of_owns owns)⟩))
  · rintro ((isOwned | isListed | ⟨ref, isOwner⟩) | isHeld)
    · exact .owned isOwned
    · exact .table isListed
    · rcases Record.owns_of_references (Registry.mem_owning.mp isOwner) with ⟨owns, rfl⟩
      exact .record ref owns
    · exact .interp isHeld

/-! ## Every reference is on one account -/

/--
As long as there were fewer allocations than there are handles, the count of an
object is the number of references to it: those that the caller owns, those of
other objects, those that the interpreter and the table of exceptions hold, and
one for each record that is live or deferred.
-/
theorem refcount_eq_accounts
    {handle : Handle}
    {entry : Entry}
    (run : Run False config hasTable session owned)
    (room : session.interp.heap.HasRoom)
    (found : session.interp.heap.find? handle = some entry) :
    entry.refcount =
      (owned.count handle + session.interp.heap.links.count handle +
        session.interp.held.count handle + session.table.references.count handle +
          (session.registry.owning handle).card : Nat) := by
  have counted := (run.ledger.heap room).1.counted found
  rw [counted, ← Registry.count_held, reserve]
  simp only [Multiset.count_add]
  congr 1
  omega

/-- A runtime in which an error was raised and captured. -/
def captured : Session :=
  [Request.interpret (.pushFrame ⟨"main", "main.py", 1, none⟩),
    .interpret (.raise "TypeError" "no"), .fetch].foldl
      (fun session request => (request.perform session).2) (opened .standard true)

/-- The error that is captured has its traceback already. -/
theorem reached_captured (acyclic : Prop) :
    Reached acyclic .standard true captured 0 := by
  have started : Reached acyclic .standard true (opened .standard true) 0 := .opened
  have framed := started.follow (.interpret (.pushFrame ⟨"main", "main.py", 1, none⟩)) rfl rfl
    nofun fun _ => trivial
  have raised := framed.follow (.interpret (.raise "TypeError" "no")) rfl rfl nofun
    fun _ => trivial
  refine raised.follow .fetch rfl rfl trivial fun _ => ?_
  apply Interpreter.PendingTraced.openEnded
  refine (framed.sound.ledger trivial).traced_raise (by decide) ?_
  rw [Heap.HasRoom]
  decide +kernel

theorem hasRoom_captured : captured.interp.heap.HasRoom := by
  rw [Heap.HasRoom]
  decide +kernel

/-- The class of the error has its name, its instance, the table and a record. -/
theorem refcount_eq_accounts_captured :
    captured.interp.heap.refcount? ⟨38, 0⟩ = some 4 ∧
      captured.interp.heap.links.count ⟨38, 0⟩ + captured.interp.held.count ⟨38, 0⟩ +
        captured.table.references.count ⟨38, 0⟩ + (captured.registry.owning ⟨38, 0⟩).card = 4 := by
  have four : captured.interp.heap.refcount? ⟨38, 0⟩ = some 4 := by
    decide +kernel
  rcases Option.map_eq_some_iff.mp four with ⟨entry, found, counted⟩
  have equation := refcount_eq_accounts (.inUse (reached_captured False)) hasRoom_captured found
  constructor
  · exact four
  · rw [counted, Multiset.count_zero] at equation
    omega

/-! ## What is there is reached -/

/--
As long as there were fewer allocations than there are handles, and if no
assignment of a cause or a traceback has closed a cycle, an object is there if
and only if it is reached from a reference that the caller, the interpreter, the
table of exceptions or a record holds.
-/
theorem isLive_iff_reached_from_root
    (run : Run True config hasTable session owned)
    (room : session.interp.heap.HasRoom)
    (handle : Handle) :
    session.interp.heap.isLive handle = true ↔
      ∃ root, session.IsRoot owned root ∧ session.interp.heap.Reaches root handle := by
  rcases run.ledger.heap room with ⟨balanced, layered⟩
  rw [Heap.Settling.isLive_iff_reached balanced room (layered trivial) handle]
  simp only [isRoot_iff_mem]

/-- The traceback of the error is reached; the next handle is not yet in use. -/
theorem isLive_iff_reached_from_root_captured :
    (∃ root, captured.IsRoot 0 root ∧ captured.interp.heap.Reaches root ⟨55, 0⟩) ∧
      ¬ ∃ root, captured.IsRoot 0 root ∧ captured.interp.heap.Reaches root ⟨56, 0⟩ := by
  have reaches (handle : Handle) :=
    isLive_iff_reached_from_root (.inUse (reached_captured True)) hasRoom_captured handle
  have observed :
      captured.interp.heap.isLive ⟨55, 0⟩ = true ∧
        captured.interp.heap.isLive ⟨56, 0⟩ = false := by
    decide +kernel
  refine ⟨(reaches _).mp observed.1, fun reached => ?_⟩
  have live := (reaches _).mpr reached
  rw [observed.2] at live
  cases live

end Custody.Session
