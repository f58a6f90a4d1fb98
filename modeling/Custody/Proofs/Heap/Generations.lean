import Custody.Proofs.Heap.Representation

/-!
# Generations

A slot counts its allocations in a generation that wraps around.  So the latest
handle of a slot, read off after a run, differs from an earlier one by the number
of times the slot was allocated in between, up to a multiple of `2 ^ 32`.

A handle of an object that is gone names nothing until it is issued again.  It is
issued again only after its slot went all the way round, and a run with fewer
allocations than there are generations never gets there.
-/

namespace Custody.Heap

/-- The generation of the slot at an index. -/
def generation? (heap : Heap) (index : UInt32) : Option UInt32 :=
  (heap.slots[index.toNat]?).map Slot.generation

/-- How often a run allocates the slot at an index. -/
def rounds (heap : Heap) (operations : List Operation) (index : UInt32) : Nat :=
  (heap.issued operations).countP fun handle => handle.index = index

variable {heap heap' : Heap} {handle : Handle} {entry : Entry} {fresh : Option Handle}
variable {operations earlier later : List Operation} {index generation : UInt32}

theorem generation?_of_find? (found : heap.find? handle = some entry) :
    heap.generation? handle.index = some handle.generation := by
  rcases find?_eq_some found with ⟨slot, at_index, generation, -⟩
  rw [generation?, at_index, ← generation, Option.map_some]

theorem generation?_congr
    (same : heap'.slots.map Slot.generation = heap.slots.map Slot.generation)
    (index : UInt32) :
    heap'.generation? index = heap.generation? index := by
  rw [generation?, generation?, ← Array.getElem?_map, same, Array.getElem?_map]

theorem rounds_append
    (heap : Heap)
    (earlier later : List Operation)
    (index : UInt32) :
    heap.rounds (earlier ++ later) index =
      heap.rounds earlier index + (heap.after earlier).rounds later index := by
  rw [rounds, issued_append, List.countP_append]
  rfl

theorem rounds_le_length
    (heap : Heap)
    (operations : List Operation)
    (index : UInt32) :
    heap.rounds operations index ≤ (heap.issued operations).length :=
  List.countP_le_length

theorem rounds_pos_of_issued (member : handle ∈ heap.issued operations) :
    0 < heap.rounds operations handle.index :=
  List.countP_pos_iff.mpr ⟨handle, member, by simp⟩

/-! ## What an operation does to the generations -/

/-- A new object advances the generation of its slot, and every other slot keeps its own. -/
theorem generation?_allocate
    {payload : Payload}
    (tidy : heap.Tidy)
    (addressable : (heap.allocate payload).2.Addressable)
    (known : heap.generation? index = some generation) :
    (heap.allocate payload).2.generation? index =
      some (generation + if (heap.allocate payload).1.index = index then 1 else 0) := by
  rcases Option.map_eq_some_iff.mp known with ⟨slot', at_index', rfl⟩
  rcases allocate_cases tidy addressable with ⟨slot, at_index, -, -, slots⟩ | ⟨added, -, slots⟩
  · rw [generation?, slots, Array.getElem?_modify, at_index']
    by_cases same : (heap.allocate payload).1.index = index
    · rw [same, at_index'] at at_index
      cases at_index
      simp [same]
    · have apart : (heap.allocate payload).1.index.toNat ≠ index.toNat :=
        fun equal => same (UInt32.toNat_inj.mp equal)
      simp [same, apart]
  · have inside := (Array.getElem?_eq_some_iff.mp at_index').1
    have apart : (heap.allocate payload).1.index ≠ index := by
      rintro rfl
      omega
    rw [generation?, slots, Array.getElem?_push, if_neg inside.ne, at_index']
    simp [apart]

theorem Step.generation?_eq
    (step : heap.Step fresh heap')
    (tidy : heap.Tidy)
    (addressable : heap'.Addressable)
    (known : heap.generation? index = some generation) :
    heap'.generation? index =
      some (generation +
        UInt32.ofNat (fresh.toList.countP fun handle => handle.index = index)) := by
  cases step with
  | idle => simpa using known
  | allocate payload =>
      rw [generation?_allocate tidy addressable known]
      by_cases same : (heap.allocate payload).1.index = index
      · simp [same]
      · simp [same]
  | incref found =>
      simpa [generation?_congr (Shrinks.write _ found).generations] using known
  | decref found =>
      have shrinks := Shrinks.decref (decref_of_found found)
      simpa [generation?_congr shrinks.generations] using known
  | setPayload found payload =>
      simpa [generation?_congr (generations_write _ _ _)] using known

/-- After a run a slot is as many generations on as it was allocated in the run. -/
theorem generation?_after
    (wellFormed : heap.WellFormed)
    (addressable : (heap.after operations).Addressable)
    (known : heap.generation? index = some generation) :
    (heap.after operations).generation? index =
      some (generation + UInt32.ofNat (heap.rounds operations index)) := by
  induction operations generalizing heap generation with
  | nil => simpa [after, rounds, issued] using known
  | cons operation rest run =>
      rw [after] at addressable ⊢
      have step := step_perform heap operation
      have known' := step.generation?_eq wellFormed.toTidy addressable.of_after known
      have next := wellFormed.step step addressable.of_after
      rw [run next addressable known', rounds, rounds, issued, List.countP_append,
        UInt32.ofNat_add, UInt32.add_assoc]

/-! ## Handles of what is gone -/

/-- What names nothing goes on naming nothing unless an operation issues it. -/
theorem Step.find?_eq_none
    (step : heap.Step fresh heap')
    (tidy : heap.Tidy)
    (addressable : heap'.Addressable)
    (missing : heap.find? handle = none)
    (unissued : handle ∉ fresh.toList) :
    heap'.find? handle = none := by
  cases step with
  | idle => exact missing
  | allocate payload =>
      have distinct : handle ≠ (heap.allocate payload).1 := by simpa using unissued
      rw [find?_allocate_of_ne tidy addressable distinct]
      exact missing
  | incref found =>
      rw [find?_write_of_ne _ found (ne_of_missing found missing)]
      exact missing
  | decref found => exact (Shrinks.decref (decref_of_found found)).find?_eq_none missing
  | setPayload found payload =>
      rw [find?_write_of_ne _ found (ne_of_missing found missing)]
      exact missing

theorem find?_after_eq_none
    (wellFormed : heap.WellFormed)
    (addressable : (heap.after operations).Addressable)
    (missing : heap.find? handle = none)
    (unissued : handle ∉ heap.issued operations) :
    (heap.after operations).find? handle = none := by
  induction operations generalizing heap with
  | nil => exact missing
  | cons operation rest run =>
      rw [after] at addressable ⊢
      rw [issued, List.mem_append, not_or] at unissued
      have step := step_perform heap operation
      have missing' :=
        step.find?_eq_none wellFormed.toTidy addressable.of_after missing unissued.1
      exact run (wellFormed.step step addressable.of_after) addressable missing' unissued.2

/-! ## Going all the way round -/

/-- A handle comes back to its slot only after whole laps. -/
theorem exists_laps
    (wellFormed : heap.WellFormed)
    (addressable : (heap.after operations).Addressable)
    (known : heap.generation? handle.index = some handle.generation)
    (again : (heap.after operations).generation? handle.index = some handle.generation) :
    ∃ laps, heap.rounds operations handle.index = laps * 2 ^ 32 := by
  have advanced := generation?_after wellFormed addressable known
  rw [again, Option.some.injEq] at advanced
  have wrapped := congrArg UInt32.toNat advanced
  rw [UInt32.toNat_add, UInt32.toNat_ofNat'] at wrapped
  have bound := handle.generation.toNat_lt
  exact ⟨heap.rounds operations handle.index / 2 ^ 32, by omega⟩

/--
A handle that named nothing after a part of a run and names an object at its end
was issued again, after its slot went round at least once.
-/
theorem exists_laps_of_revived
    (wellFormed : heap.WellFormed)
    (addressable : (heap.after (earlier ++ later)).Addressable)
    (known : heap.generation? handle.index = some handle.generation)
    (gone : (heap.after earlier).isLive handle = false)
    (back : (heap.after (earlier ++ later)).isLive handle = true) :
    ∃ laps, 0 < laps ∧ heap.rounds (earlier ++ later) handle.index = laps * 2 ^ 32 := by
  rcases (isLive_iff _ handle).mp back with ⟨entry, found⟩
  rcases exists_laps wellFormed addressable known (generation?_of_find? found) with ⟨laps, round⟩
  have reissued : handle ∈ (heap.after earlier).issued later := by
    by_contra unissued
    rw [after_append] at addressable found
    have missing : (heap.after earlier).find? handle = none := by simpa [isLive] using gone
    rw [find?_after_eq_none (wellFormed.after addressable.of_after) addressable missing unissued]
      at found
    cases found
  have positive := rounds_pos_of_issued reissued
  rw [rounds_append] at round ⊢
  refine ⟨laps, ?_, round⟩
  by_contra still
  rw [Nat.eq_zero_of_not_pos still, Nat.zero_mul] at round
  omega

/-- The new handle of an allocation is the latest of its slot. -/
theorem generation?_issued
    {payload : Payload}
    (tidy : heap.Tidy)
    (addressable : (heap.allocate payload).2.Addressable) :
    (heap.allocate payload).2.generation? (heap.allocate payload).1.index =
      some (heap.allocate payload).1.generation :=
  generation?_of_find? (find?_allocate_self tidy addressable)

/-- The latest handle of a slot is not issued again before the slot went all the way round. -/
theorem le_rounds_of_reissued
    (wellFormed : heap.WellFormed)
    (addressable : (heap.after operations).Addressable)
    (known : heap.generation? handle.index = some handle.generation)
    (member : handle ∈ heap.issued operations) :
    2 ^ 32 ≤ heap.rounds operations handle.index := by
  rcases exists_allocate_of_mem_issued member with ⟨earlier, payload, later, rfl, rfl⟩
  have parts :
      earlier ++ .allocate payload :: later = (earlier ++ [.allocate payload]) ++ later := by
    simp
  have made :
      heap.after (earlier ++ [.allocate payload]) = ((heap.after earlier).allocate payload).2 := by
    rw [after_append, after_allocate, after]
  rw [parts, after_append] at addressable
  have fits := addressable.of_after
  have again := fits
  rw [made] at again
  have known' := generation?_issued (wellFormed.after again.of_allocate).toTidy again
  rw [← made] at known'
  rcases exists_laps wellFormed fits known known' with ⟨laps, round⟩
  have now :
      ((heap.after earlier).allocate payload).1 ∈ heap.issued (earlier ++ [.allocate payload]) := by
    rw [issued_append]
    exact List.mem_append_right _ List.mem_cons_self
  have positive := rounds_pos_of_issued now
  rw [parts, rounds_append, round]
  rw [round] at positive
  have lap : 0 < laps := Nat.pos_of_mul_pos_right positive
  omega

/-! ## Runs that do not get all the way round -/

theorem nodup_issued
    (wellFormed : heap.WellFormed)
    (addressable : (heap.after operations).Addressable)
    (few : (heap.issued operations).length < 2 ^ 32) :
    (heap.issued operations).Nodup := by
  induction operations generalizing heap with
  | nil => exact List.nodup_nil
  | cons operation rest run =>
      rw [after] at addressable
      have next := wellFormed.step (step_perform heap operation) addressable.of_after
      rw [issued, List.length_append] at few
      have fewer : ((heap.perform operation).2.issued rest).length < 2 ^ 32 := by omega
      have distinct := run next addressable fewer
      rw [issued]
      cases made : (heap.perform operation).1.issued? with
      | none => exact distinct
      | some handle =>
          rcases eq_allocate_of_issued made with ⟨payload, rfl, rfl⟩
          have known := generation?_issued wellFormed.toTidy addressable.of_after
          refine List.nodup_cons.mpr ⟨fun member => ?_, distinct⟩
          have lap := le_rounds_of_reissued next addressable known member
          exact absurd fewer (not_lt.mpr (lap.trans (rounds_le_length _ _ _)))

/-- Once gone, what a handle named is gone for good. -/
theorem find?_eq_none_of_few
    (wellFormed : heap.WellFormed)
    (addressable : (heap.after (earlier ++ later)).Addressable)
    (few : (heap.issued (earlier ++ later)).length < 2 ^ 32)
    (member : handle ∈ heap.issued earlier)
    (gone : (heap.after earlier).isLive handle = false) :
    (heap.after (earlier ++ later)).find? handle = none := by
  cases found : (heap.after (earlier ++ later)).find? handle with
  | none => rfl
  | some entry =>
      have back : (heap.after (earlier ++ later)).isLive handle = true := by simp [isLive, found]
      rcases exists_allocate_of_mem_issued member with ⟨before, payload, middle, rfl, rfl⟩
      rw [List.append_assoc, List.cons_append, after_append, after_allocate] at addressable back
      rw [List.append_assoc, List.cons_append, issued_append, issued_allocate,
        List.length_append, List.length_cons] at few
      rw [after_append, after_allocate] at gone
      have fits := addressable.of_after
      have tidy := (wellFormed.after fits.of_allocate).toTidy
      have made := (wellFormed.after fits.of_allocate).allocate fits
      rcases exists_laps_of_revived made addressable (generation?_issued tidy fits) gone back with
        ⟨laps, positive, round⟩
      have bound := rounds_le_length ((heap.after before).allocate payload).2 (middle ++ later)
        ((heap.after before).allocate payload).1.index
      omega

/-! ## A run that gets all the way round -/

/-- A heap whose only slot was allocated again so many times. -/
def aged (times : Nat) : Heap where
  slots := #[⟨UInt32.ofNat times, some ⟨1, .none⟩⟩]
  vacant := []
  stats := ⟨1, times + 1, times⟩

/-- The same heap after its object was freed. -/
def bereft (times : Nat) : Heap where
  slots := #[⟨UInt32.ofNat times, none⟩]
  vacant := [0]
  stats := ⟨0, times + 1, times + 1⟩

/-- Free the object of the only slot and make another, so many times. -/
def turnover (start : Nat) : Nat → List Operation
  | 0 => []
  | times + 1 =>
      .decref ⟨0, UInt32.ofNat start⟩ :: .allocate .none :: turnover (start + 1) times

theorem perform_decref_aged (times : Nat) :
    ((aged times).perform (.decref ⟨0, UInt32.ofNat times⟩)).2 = bereft times := by
  have notNull : (⟨0, UInt32.ofNat times⟩ : Handle) ≠ .null :=
    ne_null_of_index_lt (show 0 < capacity by decide)
  have found : (aged times).find? ⟨0, UInt32.ofNat times⟩ = some ⟨1, .none⟩ := by
    simp [find?, aged, Handle.isNull, notNull]
  rw [perform, decref_of_found found, releaseChild_of_found found]
  simp only [Int.sub_self, if_true]
  rw [cascade_of_found (find?_write_self ⟨0, .none⟩ found)]
  simp [Payload.children, Heap.vacate, Heap.write, aged, bereft]

theorem allocate_bereft (times : Nat) :
    ((bereft times).allocate .none).2 = aged (times + 1) := by
  simp [allocate, bereft, aged]

theorem after_turnover (start times : Nat) :
    (aged start).after (turnover start times) = aged (start + times) := by
  induction times generalizing start with
  | zero => rfl
  | succ times step =>
      rw [turnover, after, perform_decref_aged, after_allocate, allocate_bereft, step,
        Nat.add_right_comm, Nat.add_assoc]

/-! ## Stale handles -/

/--
No allocation answers the null handle or that of a live object, and a handle of
an object that went names one again only after its slot was allocated a positive
multiple of `2 ^ 32` times since.  So in a run of fewer than `2 ^ 32` allocations
no handle is issued twice, and one whose object went fails from then on and
changes nothing.
-/
theorem issued_handles_never_alias (operations : List Operation) :
    ((empty.after operations).Addressable →
      ∀ earlier payload later,
        operations = earlier ++ .allocate payload :: later →
          let before := empty.after earlier
          let handle := (before.allocate payload).1
          let made := (before.allocate payload).2
          handle ≠ .null ∧
            before.isLive handle = false ∧
            ∀ middle rest,
              later = middle ++ rest →
                (made.after middle).isLive handle = false →
                (made.after later).isLive handle = true →
                ∃ laps, 0 < laps ∧ made.rounds later handle.index = laps * 2 ^ 32) ∧
      ((empty.after operations).stats.allocations < 2 ^ 32 →
        (empty.issued operations).Nodup ∧
          ∀ earlier later handle,
            operations = earlier ++ later →
              handle ∈ empty.issued earlier →
              (empty.after earlier).isLive handle = false →
              let heap := empty.after operations
              heap.perform (.payload handle) = (.failed (.freed handle), heap) ∧
                heap.perform (.incref handle) = (.failed (.freed handle), heap) ∧
                heap.perform (.decref handle) = (.failed (.freed handle), heap) ∧
                (∀ payload,
                  heap.perform (.setPayload handle payload) = (.failed (.freed handle), heap)) ∧
                heap.perform (.refcount handle) = (.refcount none, heap)) := by
  constructor
  · rintro addressable earlier payload later rfl before handle made
    rw [after_append, after_allocate] at addressable
    have fits : made.Addressable := addressable.of_after
    have wellFormed : before.WellFormed := WellFormed.empty.after fits.of_allocate
    refine ⟨allocate_ne_null wellFormed.toTidy fits, ?_, ?_⟩
    · simp [isLive, handle, find?_allocate_fresh wellFormed.toTidy fits]
    · rintro middle rest rfl gone back
      have known := generation?_issued wellFormed.toTidy fits
      exact exists_laps_of_revived (wellFormed.allocate fits) addressable known gone back
  · intro few
    have counted := allocations_after empty operations
    have fewIssued : (empty.issued operations).length < 2 ^ 32 := by omega
    have addressable : (empty.after operations).Addressable := by
      have size := size_after_le empty operations
      simp only [empty, Array.size_empty, Nat.zero_add] at size
      exact size.trans (Nat.le_sub_one_of_lt fewIssued)
    refine ⟨nodup_issued .empty addressable fewIssued, ?_⟩
    rintro earlier later handle rfl member gone heap
    have missing : heap.find? handle = none :=
      find?_eq_none_of_few .empty addressable fewIssued member gone
    have notNull : handle.isNull = false := by
      rcases exists_allocate_of_mem_issued member with ⟨before, payload, middle, rfl, rfl⟩
      rw [after_append, after_append, after_allocate] at addressable
      have fits := addressable.of_after.of_after
      have tidy := (WellFormed.empty.after fits.of_allocate).toTidy
      simp [Handle.isNull, allocate_ne_null tidy fits]
    have fails := perform_of_missing missing
    simp only [notNull] at fails
    exact ⟨(fails .none).2.2.2.1, (fails .none).1, (fails .none).2.1,
      fun payload => (fails payload).2.2.1, (fails .none).2.2.2.2⟩

/--
The first handle of a slot is stale as soon as the slot was allocated again, and
names an object again after `2 ^ 32` such rounds; in a short run it stays stale.
-/
theorem issued_handles_never_alias_turnover :
    let laps := turnover 0 (capacity + 1)
    (empty.after (.allocate .none :: laps)).Addressable ∧
      (empty.after (.allocate .none :: laps)).isLive ⟨0, 0⟩ = true ∧
      (∃ times, 0 < times ∧ (aged 0).rounds laps 0 = times * 2 ^ 32) ∧
      empty.issued (.allocate .none :: turnover 0 2) = [⟨0, 0⟩, ⟨0, 1⟩, ⟨0, 2⟩] ∧
      ((empty.after (.allocate .none :: turnover 0 2)).perform (.decref ⟨0, 0⟩)).1 =
        .failed (.freed ⟨0, 0⟩) := by
  intro laps
  have made : (empty.allocate .none).2 = aged 0 := rfl
  have ended : empty.after (.allocate .none :: laps) = aged (capacity + 1) := by
    rw [after_allocate, made, after_turnover, Nat.zero_add]
  have addressable : (empty.after (.allocate .none :: laps)).Addressable := by
    rw [ended]
    decide
  have back : (empty.after (.allocate .none :: laps)).isLive ⟨0, 0⟩ = true := by
    rw [ended]
    decide
  have first := (issued_handles_never_alias _).1 addressable [] .none laps rfl
  have round :=
    first.2.2 (turnover 0 1) (turnover 1 capacity) rfl (by cbv) (by rwa [after_allocate] at back)
  have short := (issued_handles_never_alias (.allocate .none :: turnover 0 2)).2 (by decide_cbv)
  have stale :=
    short.2 (.allocate .none :: turnover 0 1) (turnover 1 1) ⟨0, 0⟩ rfl (by decide_cbv) (by cbv)
  exact ⟨addressable, back, round, by cbv, congrArg Prod.fst stale.2.2.1⟩

end Custody.Heap
