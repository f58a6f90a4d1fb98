import Custody.Interpreter.Report
import Custody.Proofs.Interpreter.Lineage

/-!
# Every walk over the objects ends

Deriving, matching and writing follow what objects hold, and there no way leads
back to where it was.  A report also follows causes, which may lead in a circle;
it ends because it passes over whatever it has seen.  So each of these answers,
whatever handle it is given, and the reach of the heap bounds them all.
-/

namespace Custody

/-! ## Lists, item by item -/

section Lists

variable {α : Type} {items : List α} {matching matching' : α → Option Bool} {answer : Bool}

theorem List.isSome_anyM
    (decided : ∀ item ∈ items, (matching item).isSome = true) :
    (items.anyM matching).isSome = true := by
  induction items with
  | nil => rfl
  | cons item rest step =>
      rcases Option.isSome_iff_exists.mp (decided item List.mem_cons_self) with ⟨first, found⟩
      have later := step fun other among => decided other (List.mem_cons_of_mem _ among)
      cases first with
      | true => simp [List.anyM, found]
      | false => simpa [List.anyM, found] using later

theorem List.anyM_mono
    (weaker : ∀ item answer, matching item = some answer → matching' item = some answer)
    (decided : items.anyM matching = some answer) :
    items.anyM matching' = some answer := by
  induction items with
  | nil => exact decided
  | cons item rest step =>
      simp only [List.anyM, Option.bind_eq_bind, Option.bind_eq_some_iff] at decided ⊢
      rcases decided with ⟨first, found, others⟩
      refine ⟨first, weaker item first found, ?_⟩
      cases first with
      | true => exact others
      | false => exact step others

end Lists

namespace Heap

variable {heap : Heap} {handle : Handle} {seen : List Handle}

/-- What is left of a heap without an object, and what goes along with it. -/
def withdraw (heap : Heap) (handle : Handle) (payload : Payload) : Heap × List Handle :=
  ((heap.write handle ⟨0, payload⟩).vacate handle).releaseChildren [] payload.children

/-- A list holds its items. -/
theorem holds_of_mem_items
    {items : List Handle}
    {item : Handle}
    (written : heap.payload? handle = some (.list items))
    (among : item ∈ items) :
    heap.Holds handle item :=
  ⟨_, written, among⟩

/-- There are no more objects among what was seen than slots. -/
theorem length_filter_isLive_le
    (distinct : seen.Nodup) :
    (seen.filter heap.isLive).length ≤ heap.slots.size :=
  length_le_size (distinct.filter _) fun _ among => (List.mem_filter.mp among).2

/-- A further object is one more. -/
theorem length_filter_isLive_cons
    (seen : List Handle)
    (live : heap.isLive handle = true) :
    ((handle :: seen).filter heap.isLive).length = (seen.filter heap.isLive).length + 1 := by
  rw [List.filter_cons_of_pos live, List.length_cons]

end Heap

namespace Interpreter

variable {interp : Interpreter} {heap : Heap} {handle given pattern : Handle}
variable {seen : List Handle} {depth bound : Nat} {answer : Bool} {text : String}

/-! ## Matching -/

theorem matchesWithin_mono
    (deeper : depth ≤ bound)
    (decided : interp.matchesWithin given depth pattern = some answer) :
    interp.matchesWithin given bound pattern = some answer := by
  induction depth generalizing bound pattern answer with
  | zero => cases decided
  | succ depth step =>
      obtain ⟨bound, rfl⟩ : ∃ more, bound = more + 1 := ⟨bound - 1, by omega⟩
      rw [matchesWithin] at decided ⊢
      split at decided
      · next isNull => rwa [if_pos isNull]
      · next notNull =>
          rw [if_neg notNull]
          split at decided
          · exact List.anyM_mono (fun _ _ => step (by omega)) decided
          · exact decided
          · exact decided

theorem isSome_matchesWithin
    (given : Handle)
    (ends : Heap.EndsWithin interp.heap.Holds bound pattern) :
    (interp.matchesWithin given bound pattern).isSome = true := by
  induction bound generalizing pattern with
  | zero => exact ends.elim
  | succ bound step =>
      rw [matchesWithin]
      split
      · rfl
      · split
        · next items written =>
            refine List.isSome_anyM fun item among => step (ends item ?_)
            exact Heap.holds_of_mem_items written among
        · rfl
        · rfl

/-! ## Reports -/

theorem chainTextWithin_mono
    (deeper : depth ≤ bound)
    (written : chainTextWithin heap depth seen handle = some text) :
    chainTextWithin heap bound seen handle = some text := by
  induction depth generalizing bound seen handle text with
  | zero => cases written
  | succ depth step =>
      obtain ⟨bound, rfl⟩ : ∃ more, bound = more + 1 := ⟨bound - 1, by omega⟩
      rw [chainTextWithin] at written ⊢
      split at written
      · next old => rwa [if_pos old]
      · next new =>
          rw [if_neg new]
          split at written
          · split at written
            · rw [Option.map_eq_some_iff] at written ⊢
              rcases written with ⟨lines, later, result⟩
              exact ⟨lines, step (by omega) later, result⟩
            · exact written
          · exact written

/-- Each entry that is written is one more of those seen. -/
theorem isSome_chainTextWithin
    (distinct : seen.Nodup)
    (enough : heap.slots.size < bound + (seen.filter heap.isLive).length) :
    (chainTextWithin heap bound seen handle).isSome = true := by
  induction bound generalizing seen handle with
  | zero =>
      have few := heap.length_filter_isLive_le distinct
      omega
  | succ bound step =>
      rw [chainTextWithin]
      split
      · rfl
      · next new =>
          split
          · next info written =>
              split
              · have more := heap.length_filter_isLive_cons seen
                  (Heap.isLive_of_payload? written)
                rw [Option.isSome_map]
                exact step (List.nodup_cons.mpr ⟨new, distinct⟩) (by omega)
              · rfl
          · rfl

theorem chainedReportWithin_mono
    {type : Handle}
    {value traceback : Option Handle}
    (deeper : depth ≤ bound)
    (written : interp.chainedReportWithin depth seen type value traceback = some text) :
    interp.chainedReportWithin bound seen type value traceback = some text := by
  induction depth generalizing bound seen type value traceback text with
  | zero => cases written
  | succ depth step =>
      obtain ⟨bound, rfl⟩ : ∃ more, bound = more + 1 := ⟨bound - 1, by omega⟩
      rw [chainedReportWithin] at written ⊢
      simp only [Option.map_eq_some_iff] at written ⊢
      rcases written with ⟨reports, before, result⟩
      refine ⟨reports, ?_, result⟩
      split at before
      · exact before
      · next cause linked =>
          split at before
          · next old => rwa [if_pos old]
          · next new =>
              rw [if_neg new]
              split at before
              · exact before
              · rw [Option.map_eq_some_iff] at before ⊢
                rcases before with ⟨report, earlier, result⟩
                exact ⟨report, step (by omega) earlier, result⟩

/-- Each cause that is reported is one more of those seen. -/
theorem isSome_chainedReportWithin
    {type : Handle}
    {value traceback : Option Handle}
    (distinct : seen.Nodup)
    (enough : interp.heap.slots.size < bound + (seen.filter interp.heap.isLive).length) :
    (interp.chainedReportWithin bound seen type value traceback).isSome = true := by
  induction bound generalizing seen type value traceback with
  | zero =>
      have few := interp.heap.length_filter_isLive_le distinct
      omega
  | succ bound step =>
      rw [chainedReportWithin, Option.isSome_map]
      split
      · rfl
      · next cause linked =>
          split
          · rfl
          · next new =>
              split
              · rfl
              · next typed =>
                  have more := interp.heap.length_filter_isLive_cons seen
                    (isLive_of_typeOf typed)
                  rw [Option.isSome_map]
                  exact step (List.nodup_cons.mpr ⟨new, distinct⟩) (by omega)

/-- The lines of a traceback are written to its last entry, whatever it is linked to. -/
theorem chainTextWithin_eq
    (far : interp.heap.reach ≤ bound)
    (traceback : Handle) :
    chainTextWithin interp.heap bound [] traceback = some (interp.tracebackText traceback) := by
  have within : (chainTextWithin interp.heap interp.heap.reach [] traceback).isSome = true :=
    isSome_chainTextWithin List.nodup_nil (Nat.lt_succ_self _)
  rcases Option.isSome_iff_exists.mp within with ⟨text, written⟩
  rw [tracebackText, chainTextWithin_mono far written, written, Option.getD_some]

/-- A report is written to the first of its causes, even if they lead in a circle. -/
theorem chainedReportWithin_eq
    (far : interp.heap.reach ≤ bound)
    (type : Handle)
    (value traceback : Option Handle) :
    interp.chainedReportWithin bound value.toList type value traceback =
      some (interp.report type value traceback) := by
  have distinct : value.toList.Nodup := by cases value <;> simp
  have within :
      (interp.chainedReportWithin interp.heap.reach value.toList type value traceback).isSome =
        true :=
    isSome_chainedReportWithin distinct (by rw [Heap.reach]; omega)
  rcases Option.isSome_iff_exists.mp within with ⟨text, written⟩
  rw [report, chainedReportWithin_mono far written, written, Option.getD_some]

/-! ## All walks -/

/--
No way along what objects hold leads back, and what follows references answers
with every bound from the reach of the heap on, always the same.
-/
structure WalksEnd (interp : Interpreter) : Prop where
  not_returns : ∀ handle, ¬ Relation.TransGen interp.heap.Holds handle handle
  isSubclass :
    ∀ bound, interp.heap.reach ≤ bound → ∀ sub super,
      interp.heap.subclassWithin super bound sub = some (interp.heap.isSubclass sub super)
  isInstance :
    ∀ bound, interp.heap.reach ≤ bound → ∀ handle type,
      (match interp.typeOf handle with
        | .ok own => interp.heap.subclassWithin type bound own
        | .error _ => some false) =
          some (interp.isInstance handle type)
  repr :
    ∀ bound, interp.heap.reach ≤ bound → ∀ handle,
      interp.heap.reprWithin bound handle = some (interp.heap.repr handle)
  str :
    ∀ bound, interp.heap.reach ≤ bound → ∀ handle,
      interp.heap.strWithin bound handle = some (interp.heap.str handle)
  givenMatches :
    ∀ bound, interp.heap.reach ≤ bound → ∀ given pattern,
      interp.matchesWithin given bound pattern = some (interp.givenMatches given pattern)
  tracebackText :
    ∀ bound, interp.heap.reach ≤ bound → ∀ traceback,
      chainTextWithin interp.heap bound [] traceback = some (interp.tracebackText traceback)
  report :
    ∀ bound, interp.heap.reach ≤ bound → ∀ type value traceback,
      interp.chainedReportWithin bound value.toList type value traceback =
        some (interp.report type value traceback)

theorem matchesWithin_eq
    (founded : interp.heap.Founded)
    (far : interp.heap.reach ≤ bound)
    (given pattern : Handle) :
    interp.matchesWithin given bound pattern = some (interp.givenMatches given pattern) := by
  have within := isSome_matchesWithin given (founded.endsWithin le_rfl pattern)
  rcases Option.isSome_iff_exists.mp within with ⟨answer, decided⟩
  rw [givenMatches, matchesWithin_mono far decided, decided, Option.getD_some]

theorem isInstance_eq
    (founded : interp.heap.Founded)
    (far : interp.heap.reach ≤ bound)
    (handle type : Handle) :
    (match interp.typeOf handle with
      | .ok own => interp.heap.subclassWithin type bound own
      | .error _ => some false) =
        some (interp.isInstance handle type) := by
  rw [isInstance]
  cases interp.typeOf handle with
  | ok own => exact founded.subclassWithin_eq far own type
  | error reason => rfl

/--
As long as there were fewer allocations than there are handles, every walk over
the objects ends, however causes and tracebacks were assigned, slots used again
and references given back.
-/
theorem every_walk_ends
    (visited : Visited interp)
    (room : interp.heap.HasRoom) :
    interp.WalksEnd := by
  have founded := visited.founded.heap room
  exact {
    not_returns := founded.not_returns
    isSubclass := fun _ far => founded.subclassWithin_eq far
    isInstance := fun _ far => isInstance_eq founded far
    repr := fun _ far => founded.reprWithin_eq far
    str := fun _ far => founded.strWithin_eq far
    givenMatches := fun _ far => matchesWithin_eq founded far
    tracebackText := fun _ far => chainTextWithin_eq far
    report := fun _ far => chainedReportWithin_eq far }

/-- A list of a text, and an instance that is its own cause. -/
def selfCaused : Interpreter :=
  [ Call.newObject (.str "a"),
    .newObject (.list [⟨53, 0⟩]),
    .newException ⟨39, 0⟩ (some "x"),
    .setCause ⟨56, 0⟩ (some ⟨56, 0⟩) ].foldl
    (fun interp call => (call.perform interp).2) initial

private theorem visited_selfCaused : Visited selfCaused := by
  have begun := Visited.initial.follow (.newObject (.str "a")) (by decide +kernel)
  have listed := begun.follow (.newObject (.list [⟨53, 0⟩])) (by decide +kernel)
  have raised := listed.follow (.newException ⟨39, 0⟩ (some "x")) (by decide +kernel)
  exact raised.follow (.setCause ⟨56, 0⟩ (some ⟨56, 0⟩)) (by decide +kernel)

/-- The text is given back although the list holds it, and a list of the list takes its slot. -/
def recycled : Interpreter :=
  (Call.perform (Call.perform selfCaused (.decref ⟨53, 0⟩)).2 (.newObject (.list [⟨54, 0⟩]))).2

/-- An object goes alone where all that it holds is referred to elsewhere. -/
theorem release_last
    {payload : Payload}
    (written : interp.heap.payload? handle = some payload)
    (last : interp.heap.refcount? handle = some 1)
    (kept : (interp.heap.withdraw handle payload).2 = []) :
    interp.release handle =
      { interp with heap := (interp.heap.withdraw handle payload).1 } := by
  have found : interp.heap.find? handle = some ⟨1, payload⟩ := by
    rw [Heap.payload?, Option.map_eq_some_iff] at written
    rcases written with ⟨entry, found, rfl⟩
    rw [Heap.refcount?, found] at last
    rw [found, ← Option.some.inj last]
  rw [Heap.withdraw] at kept
  simp only [release, decref, Heap.decref_of_found found, Heap.releaseChild_of_found found,
    Int.sub_self, if_true]
  rw [Heap.cascade_of_found (Heap.find?_write_self ⟨0, payload⟩ found), kept, Heap.cascade_nil]
  rfl

private theorem perform_decref_selfCaused :
    (Call.perform selfCaused (.decref ⟨53, 0⟩)).2 =
      { selfCaused with
        heap := (selfCaused.heap.write ⟨53, 0⟩ ⟨0, .str "a"⟩).vacate ⟨53, 0⟩ } := by
  have facts :
      selfCaused.heap.payload? ⟨53, 0⟩ = some (.str "a") ∧
        selfCaused.heap.refcount? ⟨53, 0⟩ = some 1 := by
    decide +kernel
  exact release_last facts.1 facts.2 rfl

/-- Walks end although a cause leads to itself and a slot was used again. -/
theorem every_walk_ends_recycled :
    recycled.heap.causeOf ⟨56, 0⟩ = some ⟨56, 0⟩ ∧
      recycled.heap.payload? ⟨53, 1⟩ = some (.list [⟨54, 0⟩]) ∧
        recycled.heap.payload? ⟨54, 0⟩ = some (.list [⟨53, 0⟩]) ∧
          recycled.heap.HasRoom ∧ recycled.WalksEnd := by
  have facts :
      recycled.heap.causeOf ⟨56, 0⟩ = some ⟨56, 0⟩ ∧
        recycled.heap.payload? ⟨53, 1⟩ = some (.list [⟨54, 0⟩]) ∧
          recycled.heap.payload? ⟨54, 0⟩ = some (.list [⟨53, 0⟩]) ∧
            recycled.heap.HasRoom := by
    rw [recycled, perform_decref_selfCaused]
    decide +kernel
  rcases facts with ⟨caused, taken, stale, room⟩
  have freed := visited_selfCaused.follow (.decref ⟨53, 0⟩) (by decide +kernel)
  have visited : Visited recycled := by
    refine freed.follow _ ?_
    rw [perform_decref_selfCaused]
    decide +kernel
  exact ⟨caused, taken, stale, room, every_walk_ends visited room⟩

end Interpreter

end Custody
