import Custody.Proofs.Heap.Graph

/-!
# Runs of heap operations

The interface of a heap as a list of operations.  Any handle may be passed to any
operation, and no operation asks who owns what.  An operation that fails answers
the reason and leaves the heap it was asked of.

What an operation can do to a heap is said once, by `Step`; an invariant of the
heap has one case for each of its constructors.
-/

namespace Custody.Heap

/-- A call of the heap's interface. -/
inductive Operation where
  | allocate (payload : Payload)
  | incref (handle : Handle)
  | decref (handle : Handle)
  | setPayload (handle : Handle) (payload : Payload)
  | payload (handle : Handle)
  | refcount (handle : Handle)
deriving DecidableEq, Repr

/-- What a call answers. -/
inductive Answer where
  | issued (handle : Handle)
  | done
  | remaining (refcount : Int)
  | payload (payload : Payload)
  | refcount (refcount : Option Int)
  | failed (reason : HeapError)
deriving DecidableEq, Repr

/-- The handle that a call issued. -/
def Answer.issued? : Answer → Option Handle
  | .issued handle => some handle
  | _ => none

/-- Carry out an operation. -/
def perform (heap : Heap) : Operation → Answer × Heap
  | .allocate payload =>
      let (handle, heap') := heap.allocate payload
      (.issued handle, heap')
  | .incref handle =>
      match heap.incref handle with
      | .ok heap' => (.done, heap')
      | .error reason => (.failed reason, heap)
  | .decref handle =>
      match heap.decref handle with
      | .ok (remaining, heap') => (.remaining remaining, heap')
      | .error reason => (.failed reason, heap)
  | .setPayload handle payload =>
      match heap.setPayload handle payload with
      | .ok heap' => (.done, heap')
      | .error reason => (.failed reason, heap)
  | .payload handle =>
      match heap.payload handle with
      | .ok payload => (.payload payload, heap)
      | .error reason => (.failed reason, heap)
  | .refcount handle => (.refcount (heap.refcount? handle), heap)

/-- The heap that a run of operations leads to. -/
def after (heap : Heap) : List Operation → Heap
  | [] => heap
  | operation :: rest => (heap.perform operation).2.after rest

/-- The handles that a run of operations issues, first things first. -/
def issued (heap : Heap) : List Operation → List Handle
  | [] => []
  | operation :: rest =>
      (heap.perform operation).1.issued?.toList ++ (heap.perform operation).2.issued rest

variable {heap heap' : Heap} {handle : Handle} {fresh : Option Handle}

/-! ## Failing -/

/-- An operation that needs an object fails if there is none, and changes nothing. -/
theorem perform_of_missing
    (missing : heap.find? handle = none)
    (payload : Payload) :
    let reason := if handle.isNull then .null else HeapError.freed handle
    heap.perform (.incref handle) = (.failed reason, heap) ∧
      heap.perform (.decref handle) = (.failed reason, heap) ∧
        heap.perform (.setPayload handle payload) = (.failed reason, heap) ∧
          heap.perform (.payload handle) = (.failed reason, heap) ∧
            heap.perform (.refcount handle) = (.refcount none, heap) := by
  have resolved :
      heap.resolve handle = .error (if handle.isNull then .null else .freed handle) := by
    rw [resolve, missing]
  refine ⟨?_, ?_, ?_, ?_, ?_⟩
  · simp [perform, incref, resolved, bind, Except.bind]
  · simp [perform, decref, resolved, bind, Except.bind]
  · simp [perform, setPayload, resolved, bind, Except.bind]
  · simp [perform, Heap.payload, resolved, Except.map]
  · simp [perform, refcount?, missing]

/-- An operation that fails changes nothing. -/
theorem perform_eq_of_failed
    {operation : Operation}
    {reason : HeapError}
    (failed : (heap.perform operation).1 = .failed reason) :
    (heap.perform operation).2 = heap := by
  cases operation with
  | allocate payload => cases failed
  | incref handle =>
      cases found : heap.find? handle with
      | none => rw [(perform_of_missing found .none).1]
      | some entry => simp [perform, incref_of_found found] at failed
  | decref handle =>
      cases found : heap.find? handle with
      | none => rw [(perform_of_missing found .none).2.1]
      | some entry => simp [perform, decref_of_found found] at failed
  | setPayload handle payload =>
      cases found : heap.find? handle with
      | none => rw [(perform_of_missing found payload).2.2.1]
      | some entry => simp [perform, setPayload_of_found found] at failed
  | payload handle =>
      rw [perform]
      split
      · rfl
      · rfl
  | refcount handle => rfl

/-! ## What an operation can do -/

/-- One operation leads from a heap to another, and issued a handle on the way or did not. -/
inductive Step (heap : Heap) : Option Handle → Heap → Prop
  | idle : Step heap none heap
  | allocate (payload : Payload) :
      Step heap (some (heap.allocate payload).1) (heap.allocate payload).2
  | incref
      {handle : Handle}
      {entry : Entry}
      (found : heap.find? handle = some entry) :
      Step heap none (heap.write handle { entry with refcount := entry.refcount + 1 })
  | decref
      {handle : Handle}
      {entry : Entry}
      (found : heap.find? handle = some entry) :
      Step heap none
        ((releaseChild (heap, []) handle).1.cascade (releaseChild (heap, []) handle).2)
  | setPayload
      {handle : Handle}
      {entry : Entry}
      (found : heap.find? handle = some entry)
      (payload : Payload) :
      Step heap none (heap.write handle { entry with payload })

theorem step_perform
    (heap : Heap)
    (operation : Operation) :
    heap.Step (heap.perform operation).1.issued? (heap.perform operation).2 := by
  cases operation with
  | allocate payload => exact .allocate payload
  | incref handle =>
      cases found : heap.find? handle with
      | none =>
          rw [(perform_of_missing found .none).1]
          exact .idle
      | some entry =>
          rw [perform, incref_of_found found]
          exact .incref found
  | decref handle =>
      cases found : heap.find? handle with
      | none =>
          rw [(perform_of_missing found .none).2.1]
          exact .idle
      | some entry =>
          rw [perform, decref_of_found found]
          exact .decref found
  | setPayload handle payload =>
      cases found : heap.find? handle with
      | none =>
          rw [(perform_of_missing found payload).2.2.1]
          exact .idle
      | some entry =>
          rw [perform, setPayload_of_found found]
          exact .setPayload found payload
  | payload handle =>
      rw [perform]
      split
      · exact .idle
      · exact .idle
  | refcount handle => exact .idle

/-- Only an allocation issues a handle. -/
theorem eq_allocate_of_issued
    {operation : Operation}
    (issued : (heap.perform operation).1.issued? = some handle) :
    ∃ payload, operation = .allocate payload ∧ handle = (heap.allocate payload).1 := by
  cases operation with
  | allocate payload => exact ⟨payload, rfl, (Option.some.inj issued).symm⟩
  | refcount other => cases issued
  | incref other | decref other | setPayload other payload | payload other =>
      rw [perform] at issued
      split at issued
      · cases issued
      · cases issued

/-! ## Runs -/

theorem after_append
    (heap : Heap)
    (earlier later : List Operation) :
    heap.after (earlier ++ later) = (heap.after earlier).after later := by
  induction earlier generalizing heap with
  | nil => rfl
  | cons operation rest step => exact step _

theorem issued_append
    (heap : Heap)
    (earlier later : List Operation) :
    heap.issued (earlier ++ later) = heap.issued earlier ++ (heap.after earlier).issued later := by
  induction earlier generalizing heap with
  | nil => rfl
  | cons operation rest step =>
      rw [List.cons_append, issued, step, issued, after, List.append_assoc]

theorem after_allocate
    (heap : Heap)
    (payload : Payload)
    (rest : List Operation) :
    heap.after (.allocate payload :: rest) = (heap.allocate payload).2.after rest :=
  rfl

theorem issued_allocate
    (heap : Heap)
    (payload : Payload)
    (rest : List Operation) :
    heap.issued (.allocate payload :: rest) =
      (heap.allocate payload).1 :: (heap.allocate payload).2.issued rest :=
  rfl

/-- No slot is ever given up. -/
theorem Step.size_le (step : heap.Step fresh heap') :
    heap.slots.size ≤ heap'.slots.size := by
  cases step with
  | idle => exact le_rfl
  | allocate payload =>
      rw [size_allocate]
      exact Nat.le_add_right _ _
  | incref found => simp [write]
  | decref found => exact (Shrinks.decref (decref_of_found found)).size_eq.ge
  | setPayload found payload => simp [write]

/-- There are no more slots than there were allocations. -/
theorem Step.size_le_add (step : heap.Step fresh heap') :
    heap'.slots.size ≤ heap.slots.size + fresh.toList.length := by
  cases step with
  | idle => exact le_rfl
  | allocate payload =>
      rw [size_allocate]
      split
      · exact le_rfl
      · exact Nat.le_add_right _ _
  | incref found => simp [write]
  | decref found => exact (Shrinks.decref (decref_of_found found)).size_eq.le
  | setPayload found payload => simp [write]

theorem Step.allocations_eq (step : heap.Step fresh heap') :
    heap'.stats.allocations = heap.stats.allocations + fresh.toList.length := by
  cases step with
  | idle => rfl
  | allocate payload => exact allocations_allocate heap payload
  | incref found => rfl
  | decref found => exact (Shrinks.decref (decref_of_found found)).allocations
  | setPayload found payload => rfl

theorem Addressable.of_step
    (addressable : heap'.Addressable)
    (step : heap.Step fresh heap') :
    heap.Addressable :=
  step.size_le.trans addressable

theorem Addressable.of_after
    {operations : List Operation}
    (addressable : (heap.after operations).Addressable) :
    heap.Addressable := by
  induction operations generalizing heap with
  | nil => exact addressable
  | cons operation rest step => exact (step addressable).of_step (step_perform heap operation)

theorem size_after_le
    (heap : Heap)
    (operations : List Operation) :
    (heap.after operations).slots.size ≤
      heap.slots.size + (heap.issued operations).length := by
  induction operations generalizing heap with
  | nil => exact le_rfl
  | cons operation rest step =>
      have first := (step_perform heap operation).size_le_add
      have later := step (heap.perform operation).2
      rw [after, issued, List.length_append]
      omega

theorem allocations_after
    (heap : Heap)
    (operations : List Operation) :
    (heap.after operations).stats.allocations =
      heap.stats.allocations + (heap.issued operations).length := by
  induction operations generalizing heap with
  | nil => rfl
  | cons operation rest step =>
      have first := (step_perform heap operation).allocations_eq
      have later := step (heap.perform operation).2
      rw [after, issued, List.length_append]
      omega

/-- A handle was issued by an allocation. -/
theorem exists_allocate_of_mem_issued
    {operations : List Operation}
    (member : handle ∈ heap.issued operations) :
    ∃ earlier payload later,
      operations = earlier ++ .allocate payload :: later ∧
        handle = ((heap.after earlier).allocate payload).1 := by
  induction operations generalizing heap with
  | nil => cases member
  | cons operation rest step =>
      rcases List.mem_append.mp member with now | later
      · rcases eq_allocate_of_issued (Option.mem_toList.mp now) with ⟨payload, rfl, rfl⟩
        exact ⟨[], payload, rest, rfl, rfl⟩
      · rcases step later with ⟨earlier, payload, others, rfl, same⟩
        exact ⟨operation :: earlier, payload, others, rfl, same⟩

end Custody.Heap
