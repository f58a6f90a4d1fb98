import Custody.Proofs.Interpreter.Ledger

/-!
# A fresh interpreter keeps its ledger

The built-in classes are made one after another, each with a reference to its
base; every name owns a reference to its class.
-/

namespace Custody

namespace Namespace

variable {acyclic : Prop} {state : Heap × Namespace}

/-- The references that names own. -/
def references (names : Namespace) : Multiset Handle :=
  names.map Prod.snd

@[simp]
theorem references_append (names : Namespace) (name : String) (handle : Handle) :
    references (names ++ [(name, handle)]) = handle ::ₘ references names := by
  simp only [references, List.map_append, List.map_cons, List.map_nil, ← Multiset.coe_add,
    Multiset.coe_singleton]
  rw [add_comm, Multiset.singleton_add]

theorem mem_references_of_lookup
    {names : Namespace}
    {name : String}
    {handle : Handle}
    (found : names.lookup name = some handle) :
    handle ∈ references names := by
  rcases List.lookup_eq_some_iff.mp found with ⟨before, after, split, -⟩
  simp [references, split]

/-- Whatever is referenced can be given one more reference. -/
theorem incref_of_mem
    {heap : Heap}
    {credit : Multiset Handle}
    {handle : Handle}
    (ledger : heap.Ledger acyclic credit)
    (member : handle ∈ credit) :
    ((heap.incref handle).toOption.getD heap).Ledger acyclic (handle ::ₘ credit) := by
  cases taken : heap.incref handle with
  | ok counted => exact ledger.incref taken
  | error reason =>
      refine .of_full fun room => ?_
      rcases ledger.find?_of_mem room member with ⟨entry, found⟩
      rw [Heap.incref_of_found found] at taken
      cases taken

theorem ledger_define
    (ledger : state.1.Ledger acyclic (references state.2))
    (entry : String × String) :
    (define state entry).1.Ledger acyclic (references (define state entry).2) := by
  simp only [define, references_append]
  cases found : state.2.lookup entry.2 with
  | none =>
      exact Heap.Ledger.allocate (.type ⟨entry.1, none, none⟩)
        (by simpa [Payload.children] using ledger)
  | some base =>
      have counted := incref_of_mem ledger (mem_references_of_lookup found)
      exact Heap.Ledger.allocate (.type ⟨entry.1, none, some base⟩)
        (by simpa [Payload.children] using counted)

theorem ledger_defineAlias
    (ledger : state.1.Ledger acyclic (references state.2))
    (entry : String × String) :
    (defineAlias state entry).1.Ledger acyclic (references (defineAlias state entry).2) := by
  rw [defineAlias]
  cases found : state.2.lookup entry.2 with
  | none => simpa [found] using ledger
  | some handle =>
      cases taken : state.1.incref handle with
      | error reason => simpa [found, taken] using ledger
      | ok heap => simpa [found, taken] using ledger.incref taken

theorem ledger_bootstrap :
    bootstrap.1.Ledger acyclic (references bootstrap.2) := by
  have defined :
      ∀ (entries : List (String × String)) (state : Heap × Namespace),
        state.1.Ledger acyclic (references state.2) →
          (entries.foldl define state).1.Ledger acyclic
            (references (entries.foldl define state).2) := by
    intro entries
    induction entries with
    | nil => exact fun _ ledger => ledger
    | cons entry rest step => exact fun state ledger => step _ (ledger_define ledger entry)
  have aliased :
      ∀ (entries : List (String × String)) (state : Heap × Namespace),
        state.1.Ledger acyclic (references state.2) →
          (entries.foldl defineAlias state).1.Ledger acyclic
            (references (entries.foldl defineAlias state).2) := by
    intro entries
    induction entries with
    | nil => exact fun _ ledger => ledger
    | cons entry rest step => exact fun state ledger => step _ (ledger_defineAlias ledger entry)
  exact aliased _ _ (defined _ _ (Heap.ledger_empty acyclic))

/-! ## Names -/

/-- Every name that stays is still there after a further definition, and so is the new one. -/
theorem mem_names_define
    {name : String}
    {entry : String × String}
    (listed : name ∈ state.2.map Prod.fst ∨ name = entry.1) :
    name ∈ (define state entry).2.map Prod.fst := by
  simpa [define] using listed

theorem mem_names_defineAlias
    {name : String}
    {entry : String × String}
    (listed : name ∈ state.2.map Prod.fst) :
    name ∈ (defineAlias state entry).2.map Prod.fst := by
  rw [defineAlias]
  cases found : state.2.lookup entry.2 with
  | none => simpa [found] using listed
  | some handle =>
      cases taken : state.1.incref handle with
      | error reason => simpa [found, taken] using listed
      | ok heap =>
          simp only [taken, List.map_append, List.mem_append]
          exact .inl listed

theorem mem_names_bootstrap
    {name : String}
    (listed : name ∈ Interpreter.classNames) :
    name ∈ bootstrap.2.map Prod.fst := by
  have defined :
      ∀ (entries : List (String × String)) (state : Heap × Namespace),
        name ∈ state.2.map Prod.fst ∨ name ∈ entries.map Prod.fst →
          name ∈ (entries.foldl define state).2.map Prod.fst := by
    intro entries
    induction entries with
    | nil => exact fun state listed => by simpa using listed
    | cons entry rest step =>
        intro state listed
        apply step
        rcases listed with old | among
        · exact .inl (mem_names_define (.inl old))
        · rcases List.mem_cons.mp among with new | later
          · exact .inl (mem_names_define (.inr new))
          · exact .inr later
  have aliased :
      ∀ (entries : List (String × String)) (state : Heap × Namespace),
        name ∈ state.2.map Prod.fst →
          name ∈ (entries.foldl defineAlias state).2.map Prod.fst := by
    intro entries
    induction entries with
    | nil => exact fun _ listed => listed
    | cons entry rest step => exact fun state listed => step _ (mem_names_defineAlias listed)
  refine aliased _ _ (defined _ _ (.inr ?_))
  simpa [Interpreter.classNames, Function.comp_def] using listed

end Namespace

namespace Interpreter

/-- A fresh interpreter has a reference for each name and one to the `None` object. -/
theorem ledger_initial (acyclic : Prop) :
    initial.Ledger acyclic 0 where
  heap := by
    have named : Namespace.bootstrap.1.Ledger acyclic
        ((Payload.none.children : Multiset Handle) +
          Namespace.references Namespace.bootstrap.2) := by
      simpa [Payload.children] using Namespace.ledger_bootstrap
    have made := named.allocate _
    have holds :
        initial.held =
          Namespace.references Namespace.bootstrap.2 + {initial.noneObject} := by
      simp [held, initial, Namespace.references]
    rw [zero_add, holds, add_comm, Multiset.singleton_add]
    exact made
  named := by
    intro name listed
    have among := Namespace.mem_names_bootstrap listed
    have found : initial.builtins = Namespace.bootstrap.2 := rfl
    cases missing : Namespace.bootstrap.2.lookup name with
    | some handle => exact ⟨handle, by rw [lookup, found, missing]⟩
    | none =>
        rcases List.mem_map.mp among with ⟨entry, member, rfl⟩
        have other := List.lookup_eq_none_iff.mp missing entry member
        simp at other

end Interpreter

end Custody
