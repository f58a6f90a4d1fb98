import Custody.Proofs.Heap.Payloads

/-!
# The ledger of a heap

A heap keeps its ledger for a multiset of references held from outside if it is
balanced for them, and layered too where that is asked for, as long as it has
room.  Once the handles are used up nothing is claimed any more; since no
operation takes an allocation back, a heap that still has room kept its ledger
all the time.

Each primitive operation keeps the ledger and moves references between the heap
and the outside.
-/

namespace Custody.Heap

/--
While the heap has room it is balanced for the references in `credit`, and
layered if `acyclic` holds.
-/
def Ledger (acyclic : Prop) (heap : Heap) (credit : Multiset Handle) : Prop :=
  heap.HasRoom → heap.Balanced credit ∧ (acyclic → heap.Layered)

theorem ledger_empty (acyclic : Prop) : empty.Ledger acyclic 0 :=
  fun _ => ⟨balanced_empty, fun _ => layered_empty⟩

namespace Ledger

variable {acyclic : Prop} {heap heap' : Heap} {credit credit' : Multiset Handle}
variable {handle : Handle}

/-- Without room there is nothing to keep. -/
theorem of_full (full : ¬ heap.HasRoom) : heap.Ledger acyclic credit :=
  fun room => absurd room full

theorem find?_of_mem
    (ledger : heap.Ledger acyclic credit)
    (room : heap.HasRoom)
    (member : handle ∈ credit) :
    ∃ entry, heap.find? handle = some entry :=
  (ledger room).1.present handle (Multiset.mem_add.mpr (.inl member))

theorem isLive_of_mem
    (ledger : heap.Ledger acyclic credit)
    (room : heap.HasRoom)
    (member : handle ∈ credit) :
    heap.isLive handle = true :=
  (isLive_iff heap handle).mpr (ledger.find?_of_mem room member)

theorem isLive_of_points
    {parent : Handle}
    (ledger : heap.Ledger acyclic credit)
    (room : heap.HasRoom)
    (points : heap.Points parent handle) :
    heap.isLive handle = true :=
  (ledger room).1.isLive_of_points room points

/-! ## Counts -/

theorem incref
    (ledger : heap.Ledger acyclic credit)
    (taken : heap.incref handle = .ok heap') :
    heap'.Ledger acyclic (handle ::ₘ credit) := by
  have shrinks := Shrinks.incref taken
  intro room
  rcases ledger (by rwa [HasRoom, ← shrinks.allocations]) with ⟨balanced, layered⟩
  refine ⟨?_, fun acyclic => (layered acyclic).of_shrinks shrinks⟩
  rcases found_of_incref taken with ⟨entry, found, rfl⟩
  exact balanced.incref found

theorem decref
    {remaining : Int}
    (ledger : heap.Ledger acyclic (handle ::ₘ credit))
    (released : heap.decref handle = .ok (remaining, heap')) :
    heap'.Ledger acyclic credit := by
  have shrinks := Shrinks.decref released
  intro room
  rcases ledger (by rwa [HasRoom, ← shrinks.allocations]) with ⟨balanced, layered⟩
  refine ⟨?_, fun acyclic => (layered acyclic).of_shrinks shrinks⟩
  rcases balanced.decref with ⟨settled, result, balanced'⟩
  rw [released] at result
  cases result
  exact balanced'

/-! ## Objects -/

/-- What is not there is not linked to. -/
theorem unlinked
    (ledger : heap.Ledger acyclic credit)
    (room : heap.HasRoom)
    (missing : heap.find? handle = none) :
    heap.Unlinked handle := by
  intro parent points
  have live := ledger.isLive_of_points room points
  simp [isLive, missing] at live

/-- Nothing has a link to a new object. -/
theorem unlinked_allocate
    {payload : Payload}
    (ledger : heap.Ledger acyclic (payload.children + credit))
    (room : heap.HasRoom) :
    (heap.allocate payload).2.Unlinked (heap.allocate payload).1 := by
  have tidy := (ledger room).1.tidy
  have fresh := find?_allocate_fresh tidy (tidy.addressable_allocate room payload)
  intro parent points
  rcases points_allocate tidy room points with old | ⟨-, among⟩
  · exact ledger.unlinked room fresh parent old
  · rcases ledger.find?_of_mem room (Multiset.mem_add.mpr (.inl among)) with ⟨entry, found⟩
    rw [fresh] at found
    cases found

theorem allocate
    (payload : Payload)
    (ledger : heap.Ledger acyclic (payload.children + credit)) :
    (heap.allocate payload).2.Ledger acyclic ((heap.allocate payload).1 ::ₘ credit) := by
  intro room
  have before := room.of_allocate
  rcases ledger before with ⟨balanced, layered⟩
  refine ⟨balanced.allocate before, fun acyclic => ?_⟩
  refine (layered acyclic).of_new ?_ (ledger.unlinked_allocate before)
  intro parent child other points
  rcases points_allocate balanced.tidy before points with old | ⟨same, -⟩
  · exact old
  · exact absurd same other

/--
Changing the payload of an object exchanges links for outside references.  If
the graph is to stay layered, no new child may reach the object.
-/
theorem setPayload
    {payload payload' : Payload}
    (ledger : heap.Ledger acyclic credit)
    (holds : heap.payload? handle = some payload)
    (changed : heap.setPayload handle payload' = .ok heap')
    (exchange :
      credit' + (payload'.children : Multiset Handle) =
        credit + (payload.children : Multiset Handle))
    (open_ended :
      acyclic → heap.HasRoom →
        ∀ child ∈ payload'.children, child ∈ payload.children ∨ ¬ heap.Reaches child handle) :
    heap'.Ledger acyclic credit' := by
  rcases Option.map_eq_some_iff.mp holds with ⟨entry, found, rfl⟩
  rw [setPayload_of_found found] at changed
  cases changed
  intro room
  have before : heap.HasRoom := room
  rcases ledger before with ⟨balanced, layered⟩
  refine ⟨balanced.setPayload payload' found exchange, fun acyclic => ?_⟩
  refine (layered acyclic).of_link (fun child => ¬ heap.Reaches child handle) ?_
    fun target apart => apart
  rintro parent child ⟨payload'', holds', among⟩
  by_cases same : parent = handle
  · subst same
    rw [payload?, find?_write_self _ found] at holds'
    cases holds'
    rcases open_ended acyclic before child among with old | apart
    · exact .inl ⟨entry.payload, holds, old⟩
    · exact .inr ⟨rfl, apart⟩
  · rw [payload?, find?_write_of_ne _ found same] at holds'
    exact .inl ⟨payload'', holds', among⟩

end Ledger

end Custody.Heap
