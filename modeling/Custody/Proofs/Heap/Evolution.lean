import Custody.Proofs.Heap.Generations
import Custody.Proofs.Heap.Payloads
import Mathlib.Logic.Relation

/-!
# What stays with an object

An interpreter allocates, takes references and gives them back, and the only
thing that it ever writes to an object is a link of an exception instance.  So
whatever else an object holds, it holds for as long as it is there.

A handle whose object is gone might be issued again; but not as long as there are
handles left, so that an object which is there at two times is the same.
-/

namespace Custody

/-- What a payload holds apart from the links that an exception instance is given later. -/
def Payload.core : Payload → Payload
  | .exception info => .exception { info with cause := Option.none, traceback := Option.none }
  | payload => payload

namespace Heap

/-- An operation that writes nothing but the links of an exception instance. -/
inductive Alters (heap : Heap) : Heap → Prop where
  | allocate (payload : Payload) : heap.Alters (heap.allocate payload).2
  | incref {handle : Handle} {heap' : Heap} (taken : heap.incref handle = .ok heap') :
      heap.Alters heap'
  | decref {handle : Handle} {remaining : Int} {heap' : Heap}
      (released : heap.decref handle = .ok (remaining, heap')) :
      heap.Alters heap'
  | relink {handle : Handle} {info info' : ExceptionInfo} {heap' : Heap}
      (holds : heap.payload? handle = some (.exception info))
      (kept : (Payload.exception info').core = (Payload.exception info).core)
      (changed : heap.setPayload handle (.exception info') = .ok heap') :
      heap.Alters heap'

/-- Any number of such operations. -/
abbrev Evolves : Heap → Heap → Prop :=
  Relation.ReflTransGen Alters

variable {heap heap' : Heap} {handle : Handle}

/-! ## One operation -/

namespace Alters

theorem perform (alters : heap.Alters heap') : ∃ operation, heap' = (heap.perform operation).2 := by
  cases alters with
  | allocate payload => exact ⟨.allocate payload, rfl⟩
  | @incref handle _ taken => exact ⟨.incref handle, by rw [Heap.perform, taken]⟩
  | @decref handle _ _ released => exact ⟨.decref handle, by rw [Heap.perform, released]⟩
  | @relink handle _ info' _ _ _ changed =>
      exact ⟨.setPayload handle (.exception info'), by rw [Heap.perform, changed]⟩

theorem size_le (alters : heap.Alters heap') : heap.slots.size ≤ heap'.slots.size := by
  rcases alters.perform with ⟨operation, rfl⟩
  exact (step_perform heap operation).size_le

theorem hasRoom
    (alters : heap.Alters heap')
    (room : heap'.HasRoom) :
    heap.HasRoom := by
  rcases alters.perform with ⟨operation, rfl⟩
  have counted := (step_perform heap operation).allocations_eq
  rw [HasRoom] at room ⊢
  omega

/-- An object that is there before and after holds the same but for links. -/
theorem core_payload?
    (alters : heap.Alters heap')
    (tidy : heap.Tidy)
    (addressable : heap'.Addressable)
    (live : heap.isLive handle = true)
    (live' : heap'.isLive handle = true) :
    (heap'.payload? handle).map Payload.core = (heap.payload? handle).map Payload.core := by
  cases alters with
  | allocate payload =>
      have distinct : handle ≠ (heap.allocate payload).1 := by
        rintro rfl
        simp [isLive, find?_allocate_fresh tidy addressable] at live
      rw [payload?, find?_allocate_of_ne tidy addressable distinct, payload?]
  | incref taken => rw [(Shrinks.incref taken).payload?_eq live']
  | decref released => rw [(Shrinks.decref released).payload?_eq live']
  | relink holds kept changed =>
      rw [payload?_setPayload changed]
      split
      · next same =>
          rw [same, holds, Option.map_some, Option.map_some, kept]
      · rfl

end Alters

/-! ## Any number of operations -/

namespace Evolves

theorem after (evolves : heap.Evolves heap') : ∃ operations, heap' = heap.after operations := by
  induction evolves with
  | refl => exact ⟨[], rfl⟩
  | tail _ alters before =>
      rcases before with ⟨operations, rfl⟩
      rcases alters.perform with ⟨operation, rfl⟩
      exact ⟨operations ++ [operation], (after_append heap operations [operation]).symm⟩

theorem size_le (evolves : heap.Evolves heap') : heap.slots.size ≤ heap'.slots.size := by
  induction evolves with
  | refl => exact le_rfl
  | tail _ alters before => exact before.trans alters.size_le

theorem hasRoom
    (evolves : heap.Evolves heap')
    (room : heap'.HasRoom) :
    heap.HasRoom := by
  induction evolves with
  | refl => exact room
  | tail _ alters before => exact before (alters.hasRoom room)

/-- With room for more, few enough objects were made for their handles to differ. -/
theorem fits
    {operations : List Operation}
    (room : (empty.after operations).HasRoom) :
    (empty.after operations).Addressable ∧ (empty.issued operations).length < 2 ^ 32 := by
  have counted := allocations_after empty operations
  have size := size_after_le empty operations
  simp only [show empty.stats.allocations = 0 from rfl, show empty.slots.size = 0 from rfl,
    Nat.zero_add] at counted size
  rw [HasRoom, counted] at room
  exact ⟨size.trans room.le, room.trans (by decide)⟩

/-- With room for more a heap is well formed. -/
theorem wellFormed
    (origin : empty.Evolves heap)
    (room : heap.HasRoom) :
    heap.WellFormed := by
  rcases origin.after with ⟨operations, rfl⟩
  exact WellFormed.empty.after (fits room).1

/-- What is there was issued. -/
theorem mem_issued
    {operations : List Operation}
    (room : (empty.after operations).HasRoom)
    (live : (empty.after operations).isLive handle = true) :
    handle ∈ empty.issued operations := by
  by_contra unissued
  have nowhere : empty.find? handle = none := by simp [find?, empty]
  have missing := find?_after_eq_none .empty (fits room).1 nowhere unissued
  simp [isLive, missing] at live

/-- What went does not come back as long as there is room. -/
theorem isLive_eq_false
    {between : Heap}
    (origin : empty.Evolves heap)
    (first : heap.Evolves between)
    (second : between.Evolves heap')
    (room : heap'.HasRoom)
    (live : heap.isLive handle = true)
    (gone : between.isLive handle = false) :
    heap'.isLive handle = false := by
  rcases origin.after with ⟨before, rfl⟩
  rcases first.after with ⟨middle, rfl⟩
  rcases second.after with ⟨later, rfl⟩
  have issued := mem_issued (first.hasRoom (second.hasRoom room)) live
  simp only [← after_append] at room gone ⊢
  have member : handle ∈ empty.issued (before ++ middle) := by
    rw [issued_append]
    exact List.mem_append_left _ issued
  have missing := find?_eq_none_of_few .empty (fits room).1 (fits room).2 member gone
  rw [isLive, missing, Option.isSome_none]

/-- What is there was there before if it was the latest object in its slot. -/
theorem isLive_of_isCurrent
    (origin : empty.Evolves heap)
    (evolves : heap.Evolves heap')
    (room : heap'.HasRoom)
    (current : heap.IsCurrent handle)
    (live : heap'.isLive handle = true) :
    heap.isLive handle = true := by
  by_contra gone
  have wellFormed := origin.wellFormed (evolves.hasRoom room)
  rcases origin.after with ⟨before, rfl⟩
  rcases evolves.after with ⟨later, rfl⟩
  rcases current with ⟨slot, at_index, generation⟩
  have known : (empty.after before).generation? handle.index = some handle.generation := by
    rw [generation?, at_index, ← generation, Option.map_some]
  have addressable : (empty.after (before ++ later)).Addressable ∧
      (empty.issued (before ++ later)).length < 2 ^ 32 := fits (by rwa [after_append])
  rw [after_append, issued_append, List.length_append] at addressable
  -- The slot would have to go all the way round for the handle to be issued again.
  have unissued : handle ∉ (empty.after before).issued later := by
    intro member
    have many := le_rounds_of_reissued wellFormed addressable.1 known member
    have few := rounds_le_length (empty.after before) later handle.index
    omega
  have missing : (empty.after before).find? handle = none := by simpa [isLive] using gone
  have still := find?_after_eq_none wellFormed addressable.1 missing unissued
  rw [isLive, still] at live
  cases live

/--
An object that is there at two times holds the same at both, but for the links
of an exception.
-/
theorem core_payload?
    (origin : empty.Evolves heap)
    (evolves : heap.Evolves heap')
    (room : heap'.HasRoom)
    (live : heap.isLive handle = true)
    (live' : heap'.isLive handle = true) :
    (heap'.payload? handle).map Payload.core = (heap.payload? handle).map Payload.core := by
  induction evolves with
  | refl => rfl
  | @tail between heap' first last same =>
      have roomBetween := last.hasRoom room
      have liveBetween : between.isLive handle = true := by
        by_contra gone
        rw [isLive_eq_false origin first (.single last) room live (by simpa using gone)] at live'
        cases live'
      have tidy := (Evolves.wellFormed (origin.trans first) roomBetween).toTidy
      have addressable := (Evolves.wellFormed ((origin.trans first).tail last) room).toTidy.addressable room
      rw [last.core_payload? tidy addressable liveBetween live']
      exact same roomBetween liveBetween

end Evolves

end Heap

end Custody
