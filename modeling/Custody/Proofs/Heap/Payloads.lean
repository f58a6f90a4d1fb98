import Custody.Heap.Classes
import Custody.Proofs.Heap.Graph

/-!
# Payloads of live objects

Whatever is there has a payload, which can be read and written.  Its links are
what the object points at.
-/

namespace Custody

theorem Except.bind_eq_ok_iff
    {ε α β : Type}
    {result : Except ε α}
    {next : α → Except ε β}
    {value : β} :
    result >>= next = .ok value ↔ ∃ first, result = .ok first ∧ next first = .ok value := by
  cases result <;> simp [bind, Except.bind]

namespace Heap

theorem payload_eq_ok_iff
    {heap : Heap}
    {handle : Handle}
    {payload : Payload} :
    heap.payload handle = .ok payload ↔ heap.payload? handle = some payload := by
  unfold Heap.payload payload? resolve
  split
  · next found => simp [found, Except.map]
  · next missing => simp [missing, Except.map]

theorem isLive_of_payload?
    {heap : Heap}
    {handle : Handle}
    {payload : Payload}
    (holds : heap.payload? handle = some payload) :
    heap.isLive handle = true := by
  rcases Option.map_eq_some_iff.mp holds with ⟨entry, found, -⟩
  exact (isLive_iff heap handle).mpr ⟨entry, found⟩

theorem isNull_of_isLive
    {heap : Heap}
    {handle : Handle}
    (live : heap.isLive handle = true) :
    handle.isNull = false := by
  rcases (isLive_iff heap handle).mp live with ⟨entry, found⟩
  simpa [Handle.isNull] using ne_null_of_find? found

theorem exists_payload?_of_isLive
    {heap : Heap}
    {handle : Handle}
    (live : heap.isLive handle = true) :
    ∃ payload, heap.payload? handle = some payload := by
  rcases (isLive_iff heap handle).mp live with ⟨entry, found⟩
  exact ⟨entry.payload, by simp [payload?, found]⟩

theorem exists_setPayload
    {heap : Heap}
    {handle : Handle}
    {payload : Payload}
    (payload' : Payload)
    (holds : heap.payload? handle = some payload) :
    ∃ heap', heap.setPayload handle payload' = .ok heap' := by
  rcases Option.map_eq_some_iff.mp holds with ⟨entry, found, -⟩
  exact ⟨_, setPayload_of_found found payload'⟩

/-- An instance points at its cause. -/
theorem points_of_causeOf
    {heap : Heap}
    {handle cause : Handle}
    (linked : heap.causeOf handle = some cause) :
    heap.Points handle cause := by
  rw [causeOf] at linked
  split at linked
  · next info holds => exact ⟨_, holds, by simp [Payload.children, linked]⟩
  · cases linked

/-- An instance points at its traceback. -/
theorem points_of_tracebackOf
    {heap : Heap}
    {handle entry : Handle}
    (linked : heap.tracebackOf handle = some entry) :
    heap.Points handle entry := by
  rw [tracebackOf] at linked
  split at linked
  · next info holds => exact ⟨_, holds, by simp [Payload.children, linked]⟩
  · cases linked

/-- An object holds what was written to it, and the others what they held before. -/
theorem payload?_setPayload
    {heap heap' : Heap}
    {handle : Handle}
    {payload : Payload}
    (changed : heap.setPayload handle payload = .ok heap')
    (other : Handle) :
    heap'.payload? other = if other = handle then some payload else heap.payload? other := by
  rcases found_of_setPayload changed with ⟨entry, found, rfl⟩
  by_cases same : other = handle
  · subst same
    simp [payload?, find?_write_self _ found]
  · simp [payload?, find?_write_of_ne _ found same, same]

theorem isLive_of_isType
    {heap : Heap}
    {handle : Handle}
    (isClass : heap.isType handle = true) :
    heap.isLive handle = true := by
  rw [isType] at isClass
  split at isClass
  · next holds => exact isLive_of_payload? holds
  · cases isClass

/-- What derives from something else is a class. -/
theorem eq_or_isType_of_isSubclass
    {heap : Heap}
    {sub super : Handle}
    (derives : heap.isSubclass sub super = true) :
    sub = super ∨ heap.isType sub = true := by
  rw [isSubclass, reach, subclassWithin] at derives
  by_cases same : sub = super
  · exact .inl same
  · cases based : heap.baseOf sub with
    | none => simp [same, based] at derives
    | some base =>
        rw [baseOf] at based
        split at based
        · next info holds => exact .inr (by simp [isType, holds])
        · cases based

/-- What is counted once more holds what it held before. -/
theorem payload?_incref
    {heap heap' : Heap}
    {handle : Handle}
    (taken : heap.incref handle = .ok heap')
    (other : Handle) :
    heap'.payload? other = heap.payload? other := by
  rcases found_of_incref taken with ⟨entry, found, rfl⟩
  by_cases same : other = handle
  · subst same
    simp [payload?, find?_write_self _ found, found]
  · simp [payload?, find?_write_of_ne _ found same]

end Heap

theorem Payload.children_exception (info : ExceptionInfo) :
    ((Payload.exception info).children : Multiset Handle) =
      {info.type} + info.args + info.cause.toList + info.traceback.toList := by
  simp [Payload.children]

end Custody
