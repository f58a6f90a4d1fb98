import Custody.Proofs.Interpreter.Tracebacks
import Custody.Proofs.Session.Interruption
import Custody.Proofs.Session.Wear

/-!
# Solvent callers

A caller that gives up only references that it owns may borrow whatever it likes: handles
of objects that are gone, or that were never there.  A call that fails for that reason may
lose what it was given, and nobody else loses anything.

The table of exceptions names the built-in classes, until the runtime is shut down and it
names nothing any more.
-/

namespace Custody

namespace ExceptionTable

variable {interp : Interpreter} {name : String} {type : Handle}

theorem onHeap_find
    (interp : Interpreter)
    (name : String) :
    interp.OnHeap (find interp name).2 := by
  rw [find]
  split
  · exact .refl interp
  · split
    · split
      · next taken => exact .incref taken
      · exact .refl interp
    · exact .refl interp

theorem onHeap_findAll
    (names : List String)
    (interp : Interpreter) :
    interp.OnHeap (findAll names interp).2 := by
  induction names generalizing interp with
  | nil => exact .refl interp
  | cons first rest step => exact (onHeap_find interp first).trans (step _)

/-- A table finds nothing under a name but the class of that name. -/
theorem lookup_findAll
    (names : List String)
    (interp : Interpreter)
    (found : (findAll names interp).1.lookup name = some (some type)) :
    interp.lookup name = some type := by
  induction names generalizing interp with
  | nil => cases found
  | cons first rest step =>
      rw [findAll, List.lookup_cons] at found
      split at found
      · next same =>
          obtain rfl := eq_of_beq same
          rw [Option.some.injEq, find] at found
          split at found
          · cases found
          · next own isNamed =>
              split at found
              · split at found
                · rw [← Option.some.inj found]
                  exact isNamed
                · cases found
              · cases found
      · have later := step _ found
        rwa [Interpreter.lookup, (onHeap_find interp first).builtins] at later

/-- A table that was looked up names the built-in classes that it found. -/
theorem indexes_resolve (interp : Interpreter) :
    ∀ name type,
      (resolve interp).1.get? name = some type →
        (resolve interp).2.lookup name = some type := by
  intro name type found
  have listed := @lookup_findAll name type names interp
  have onHeap := onHeap_findAll names interp
  rw [resolve] at found ⊢
  generalize findAll names interp = result at found listed onHeap ⊢
  rw [Interpreter.lookup, onHeap.builtins]
  exact listed (Option.join_eq_some_iff.mp found)

theorem join_lookup_none
    {α : Type}
    (entries : List α)
    (nameOf : α → String)
    (name : String) :
    ((entries.map fun entry => (nameOf entry, (none : Option Handle))).lookup name).join =
      none := by
  induction entries with
  | nil => rfl
  | cons first rest step =>
      rw [List.map_cons, List.lookup_cons]
      split
      · rfl
      · exact step

theorem get?_empty (name : String) : empty.get? name = none := by
  rw [get?, empty]
  exact join_lookup_none names id name

/-- A table that was given back names nothing. -/
theorem get?_release
    (table : ExceptionTable)
    (interp : Interpreter)
    (name : String) :
    (table.release interp).1.get? name = none := by
  rw [release, get?]
  exact join_lookup_none table.entries Prod.fst name

end ExceptionTable

namespace Session

variable {session session' : Session} {owned : Multiset Handle}
variable {config : Config} {hasTable : Bool} {request : Request}

/-! ## The table -/

/-- The table names no class but the built-in one of the name. -/
def Indexes (session : Session) : Prop :=
  ∀ name type,
    session.table.get? name = some type → session.interp.lookup name = some type

theorem Indexes.wellKnown?_eq
    (indexes : session.Indexes)
    (name : String) :
    Indicator.wellKnown? session name = session.interp.lookup name := by
  rw [Indicator.wellKnown?]
  cases found : session.table.get? name with
  | none => rfl
  | some type => exact (indexes name type found).symm

theorem Indexes.congr
    (indexes : session.Indexes)
    (table : session'.table = session.table)
    (builtins : session'.interp.builtins = session.interp.builtins) :
    session'.Indexes := by
  intro name type found
  rw [table] at found
  rw [Interpreter.lookup, builtins]
  exact indexes name type found

theorem indexes_opened (config : Config) (hasTable : Bool) : (opened config hasTable).Indexes := by
  -- Of a runtime in general, so that no table is ever looked up.
  have general (embedding : Embedding) (registry : Registry)
      (bare : ∀ name, embedding.table.get? name = none) :
      ({ (if hasTable then embedding.withTable else embedding) with
        registry } : Session).Indexes := by
    cases hasTable with
    | false =>
        intro name type found
        cases (bare name).symm.trans found
    | true =>
        have resolved := ExceptionTable.indexes_resolve embedding.interp
        rw [if_pos rfl, withTable_eq]
        generalize ExceptionTable.resolve embedding.interp = result at resolved ⊢
        exact resolved
  exact general (.bare 0 config 0) _ ExceptionTable.get?_empty

/-- Only a shutdown changes the table, which is empty afterwards. -/
theorem table_perform
    (isOwn : request.IsOwn session) :
    (request.perform session).2.table = session.table ∨
      ∀ name, (request.perform session).2.table.get? name = none := by
  by_cases stops : request = .act .shutDown
  · subst stops
    cases inUse : session.isShutDown with
    | true =>
        left
        show (Op.shutDown.on session).2.table = session.table
        rw [shutDown_refused inUse]
    | false =>
        show (Op.shutDown.on session).2.table = session.table ∨
          ∀ name, (Op.shutDown.on session).2.table.get? name = none
        rcases Op.shutDown_cases inUse 0 with
          ⟨drained, leads, ⟨panic, panicked⟩ | ⟨report, returned⟩⟩
        · rw [panicked]
          exact .inl leads.table
        · rw [returned]
          exact .inr (ExceptionTable.get?_release _ drained.releaseAll.2.interp)
  · left
    by_cases isManual : request.IsManual
    · cases request with
      | act action => exact (spares_manual isManual session).table
      | _ => exact isManual.elim
    · cases serves_perform isManual isOwn stops 0 with
      | leads leads => exact leads.table
      | hooked ref hook _ _ _ leads => exact leads.table

/-! ## The caller -/

/-- As `Endured`, but calls of the interpreter may borrow anything. -/
def Request.Afforded (session : Session) : Request → Prop
  | .interpret _ => True
  | .normalize _ => True
  | request => request.Endured session

theorem Request.Endured.afforded
    (endured : request.Endured session) :
    request.Afforded session := by
  cases request with
  | interpret call => trivial
  | normalize triple => trivial
  | _ => exact endured

/-- The wrappers that a request uses up are of the runtime. -/
theorem Request.Afforded.isOwn
    (afforded : request.Afforded session) :
    request.IsOwn session := by
  cases request with
  | act action =>
      cases action with
      | intoHandle wrapper => exact afforded
      | _ => trivial
  | restore exception => exact afforded
  | _ => trivial

/-- Whatever is borrowed, only what the caller gave up may be lost. -/
theorem Sound.afford
    (sound : session.Sound False False (request.taken + owned))
    (afforded : request.Afforded session) :
    (request.perform session).2.Sound False False ((request.perform session).1 + owned) := by
  cases request with
  | interpret call =>
      rcases sound.accounts with ⟨lost, -, ledger⟩
      have before : session.interp.Ledger False (call.taken + (owned + lost + session.reserve)) :=
        Interpreter.Ledger.congr _ ledger (by simp only [Request.taken, add_assoc])
      rcases before.perform_any with ⟨more, after⟩
      refine ⟨⟨sound.accurate, sound.calm, sound.isOpen⟩,
        ⟨lost + more, False.elim, ?_⟩, fun room => ?_⟩
      · refine Interpreter.Ledger.congr _ after ?_
        change _ + owned + (lost + more) + session.reserve = _
        simp only [Request.perform]
        abel
      · exact sound.untroubled
          ((Interpreter.Evolves.perform call session.interp).heap.hasRoom room)
  | normalize triple =>
      have before := sound.congr (triple.type ::ₘ (triple.value.toList + owned))
        (by rw [Request.taken, Multiset.cons_add])
      refine Sound.congr _ (Indicator.sound_normalize before False.elim False.elim) ?_
      simp only [Request.perform]
      rw [← Multiset.cons_coe, Multiset.cons_add]
  | _ => exact sound.endure afforded

/-- A runtime in use by a caller that gives up only what it owns, whatever it borrows. -/
inductive Solvent
    (config : Config)
    (hasTable : Bool) :
    Session → Multiset Handle → Prop
  | opened : Solvent config hasTable (opened config hasTable) 0
  | request
      {session : Session}
      {owned : Multiset Handle}
      (request : Request)
      (before : Solvent config hasTable session (request.taken + owned))
      (afforded : request.Afforded session) :
      Solvent config hasTable (request.perform session).2 ((request.perform session).1 + owned)

namespace Solvent

/-- The same for a request that takes and gives nothing. -/
theorem follow
    (request : Request)
    (before : Solvent config hasTable session owned)
    (taken : request.taken = 0)
    (received : (request.perform session).1 = [])
    (afforded : request.Afforded session) :
    Solvent config hasTable (request.perform session).2 owned := by
  have before' : Solvent config hasTable session (request.taken + owned) := by
    rwa [taken, zero_add]
  have after := before'.request request afforded
  rwa [received, Multiset.coe_nil, zero_add] at after

theorem of_worn (worn : Worn config hasTable session owned) :
    Solvent config hasTable session owned := by
  induction worn with
  | opened => exact .opened
  | request request _ endured before => exact .request request before endured.afforded

theorem sound (solvent : Solvent config hasTable session owned) :
    session.Sound False False owned := by
  induction solvent with
  | opened => exact sound_opened False False config hasTable
  | request request _ afforded before => exact before.afford afforded

/-- What a request leads to comes after what there was. -/
theorem evolves_perform
    {request : Request}
    (after : Solvent config hasTable (request.perform session).2 owned)
    (room : (request.perform session).2.interp.heap.HasRoom) :
    session.interp.Evolves (request.perform session).2.interp :=
  have untroubled := after.sound.untroubled room
  ⟨(passes_perform request session).heap untroubled, builtins_perform request untroubled⟩

/-- As long as there is room, objects remain what they are. -/
theorem evolves
    (solvent : Solvent config hasTable session owned)
    (room : session.interp.heap.HasRoom) :
    Interpreter.initial.Evolves session.interp := by
  induction solvent with
  | opened => exact evolves_opened config hasTable
  | request request before afforded step =>
      have later := evolves_perform (before.request request afforded) room
      exact (step (later.heap.hasRoom room)).trans later

/-- The interpreter keeps its ledger for what the caller owns and for what others do. -/
theorem exists_regular
    (solvent : Solvent config hasTable session owned)
    (room : session.interp.heap.HasRoom) :
    ∃ rest, session.interp.Regular (owned + rest) := by
  rcases solvent.sound.exists_ledger with ⟨rest, ledger, -⟩
  exact ⟨rest, ledger, solvent.evolves room⟩

/-- The table goes on naming the built-in classes, or it names none. -/
theorem indexes
    (solvent : Solvent config hasTable session owned)
    (room : session.interp.heap.HasRoom) :
    session.Indexes := by
  induction solvent with
  | opened => exact indexes_opened config hasTable
  | request request before afforded step =>
      have later := evolves_perform (before.request request afforded) room
      have earlier := step (later.heap.hasRoom room)
      rcases table_perform afforded.isOwn with same | nothing
      · exact earlier.congr same later.builtins
      · intro name type found
        cases (nothing name).symm.trans found

end Solvent

end Session

end Custody
