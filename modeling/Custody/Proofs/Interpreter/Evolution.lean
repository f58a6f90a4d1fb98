import Custody.Interpreter.ExceptionTable
import Custody.Proofs.Heap.Evolution
import Custody.Proofs.Interpreter.Calls

/-!
# What an interpreter leaves alone

Whatever an interpreter is asked to do, it makes objects, takes references and
gives them back, and links exceptions to causes and tracebacks; and the names of
the built-in classes stay what they are.
-/

namespace Custody

namespace Interpreter

variable {α : Type} {interp interp' interp'' : Interpreter} {handle : Handle}

/-- Nothing was written but links of exceptions, and the built-in names are the same. -/
structure Evolves (interp interp' : Interpreter) : Prop where
  heap : interp.heap.Evolves interp'.heap
  builtins : interp'.builtins = interp.builtins

namespace Evolves

/-! ## References and objects -/

theorem refl (interp : Interpreter) : interp.Evolves interp :=
  ⟨.refl, rfl⟩

theorem trans
    (first : interp.Evolves interp')
    (second : interp'.Evolves interp'') :
    interp.Evolves interp'' :=
  ⟨Relation.ReflTransGen.trans first.heap second.heap, second.builtins.trans first.builtins⟩

/-- What an interpreter keeps beside its heap may change. -/
theorem of_same
    (heap : interp'.heap = interp.heap)
    (builtins : interp'.builtins = interp.builtins) :
    interp.Evolves interp' := by
  constructor
  · rw [heap]
  · exact builtins

theorem allocate
    (interp : Interpreter)
    (payload : Payload) :
    interp.Evolves (interp.allocate payload).2 :=
  ⟨.single (.allocate payload), rfl⟩

theorem incref (taken : interp.incref handle = .ok interp') : interp.Evolves interp' := by
  rcases incref_eq_ok_iff.mp taken with ⟨heap, counted, rfl⟩
  exact ⟨.single (.incref counted), rfl⟩

theorem decref
    {remaining : Int}
    (released : interp.decref handle = .ok (remaining, interp')) :
    interp.Evolves interp' := by
  rcases decref_eq_ok_iff.mp released with ⟨heap, counted, rfl⟩
  exact ⟨.single (.decref counted), rfl⟩

theorem retain
    (interp : Interpreter)
    (handle : Handle) :
    interp.Evolves (interp.retain handle) := by
  rw [Interpreter.retain]
  split
  · next taken => exact incref taken
  · exact refl interp

theorem release
    (interp : Interpreter)
    (handle : Handle) :
    interp.Evolves (interp.release handle) := by
  rw [Interpreter.release]
  split
  · next released => exact decref released
  · exact refl interp

theorem release?
    (interp : Interpreter)
    (handle : Option Handle) :
    interp.Evolves (interp.release? handle) := by
  cases handle with
  | none => exact refl interp
  | some handle => exact release interp handle

theorem releaseTriple
    (interp : Interpreter)
    (triple : Triple) :
    interp.Evolves (interp.releaseTriple triple) :=
  ((release _ _).trans (release? _ _)).trans (release? _ _)

/-- What each step of a walk over a list keeps to, the walk keeps to. -/
theorem foldl
    {step : Interpreter → α → Interpreter}
    (each : ∀ (interp : Interpreter) item, interp.Evolves (step interp item))
    (items : List α)
    (interp : Interpreter) :
    interp.Evolves (items.foldl step interp) := by
  induction items generalizing interp with
  | nil => exact refl interp
  | cons item rest later => exact (each interp item).trans (later _)

theorem newNone (interp : Interpreter) : interp.Evolves interp.newNone.2 :=
  retain interp interp.noneObject

/-! ## The pending error -/

theorem replacePending
    (interp : Interpreter)
    (pending : Option Triple) :
    interp.Evolves (interp.replacePending pending) := by
  have changed : interp.Evolves { interp with pending } := .of_same rfl rfl
  rw [Interpreter.replacePending]
  split
  · exact changed.trans (releaseTriple _ _)
  · exact changed

theorem clear (interp : Interpreter) : interp.Evolves interp.clear :=
  replacePending interp none

theorem fetch
    {triple : Triple}
    (fetched : interp.fetch = some (triple, interp')) :
    interp.Evolves interp' := by
  rcases Option.map_eq_some_iff.mp fetched with ⟨_, -, result⟩
  cases result
  exact .of_same rfl rfl

theorem restore
    (interp : Interpreter)
    (triple : Triple) :
    interp.Evolves (interp.restore triple) := by
  rw [Interpreter.restore]
  split
  · exact ((release? _ _).trans (release? _ _)).trans (replacePending _ _)
  · exact replacePending _ _

theorem setError
    {type : Handle}
    {message : String}
    (set : interp.setError type message = .ok interp') :
    interp.Evolves interp' := by
  rcases Except.bind_eq_ok_iff.mp set with ⟨held, taken, result⟩
  simp only [pure, Except.pure, Except.ok.injEq] at result
  subst result
  exact ((incref taken).trans (allocate _ _)).trans (replacePending _ _)

theorem setErrorObject
    {type : Handle}
    {value : Option Handle}
    (set : interp.setErrorObject type value = .ok interp') :
    interp.Evolves interp' := by
  rcases Except.bind_eq_ok_iff.mp set with ⟨held, taken, result⟩
  cases value with
  | none =>
      simp only [pure, Except.pure, Except.ok.injEq] at result
      subst result
      exact (incref taken).trans (replacePending _ _)
  | some value =>
      rcases Except.bind_eq_ok_iff.mp result with ⟨both, taken', result⟩
      simp only [pure, Except.pure, Except.ok.injEq] at result
      subst result
      exact ((incref taken).trans (incref taken')).trans (replacePending _ _)

/-! ## Links -/

/-- A link is written, and what else the exception holds stays. -/
theorem replaceLink
    {link : Option Handle}
    {change : ExceptionInfo → Option Handle × ExceptionInfo}
    (kept :
      ∀ info, (Payload.exception (change info).2).core = (Payload.exception info).core)
    (replaced : interp.replaceLink handle link change = .ok interp') :
    interp.Evolves interp' := by
  rcases Except.bind_eq_ok_iff.mp replaced with ⟨payload, holds, result⟩
  cases payload with
  | exception info =>
      rcases Except.bind_eq_ok_iff.mp result with ⟨heap, written, result⟩
      simp only [pure, Except.pure, Except.ok.injEq] at result
      subst result
      have altered : interp.heap.Alters heap :=
        .relink (Heap.payload_eq_ok_iff.mp holds) (kept info) written
      have linked : interp.Evolves { interp with heap } := ⟨.single altered, rfl⟩
      exact linked.trans (release? _ _)
  | _ =>
      simp only [pure, Except.pure, Except.ok.injEq] at result
      subst result
      exact release? interp link

theorem setCause
    {cause : Option Handle}
    (linked : interp.setCause handle cause = .ok interp') :
    interp.Evolves interp' :=
  replaceLink (fun _ => rfl) linked

theorem setTraceback
    {traceback : Option Handle}
    (linked : interp.setTraceback handle traceback = .ok interp') :
    interp.Evolves interp' :=
  replaceLink (fun _ => rfl) linked

/-- A traceback is linked if the object is there. -/
theorem getD_setTraceback
    (interp : Interpreter)
    (handle : Handle)
    (traceback : Option Handle) :
    interp.Evolves ((interp.setTraceback handle traceback).toOption.getD interp) := by
  cases linked : interp.setTraceback handle traceback with
  | ok interp' => exact setTraceback linked
  | error reason => exact refl interp

theorem attach
    (interp : Interpreter)
    (value : Handle)
    (traceback : Option Handle) :
    interp.Evolves (interp.attach value traceback) := by
  cases traceback with
  | none => exact refl interp
  | some entry => exact (retain interp entry).trans (getD_setTraceback _ _ _)

theorem attachTraceback
    (interp : Interpreter)
    (value : Handle)
    (traceback : Option Handle) :
    interp.Evolves (interp.attachTraceback value traceback) := by
  rcases interp.attachTraceback_eq value traceback with same | ⟨-, -, attached⟩
  · rw [same]
    exact refl interp
  · rw [attached]
    exact attach interp value traceback

/-! ## Classes, instances and tracebacks -/

theorem newClass
    {name : String}
    {home : Option String}
    {base : Handle}
    {result : Handle × Interpreter}
    (made : interp.newClass name home base = .ok result) :
    interp.Evolves result.2 := by
  rcases Except.bind_eq_ok_iff.mp made with ⟨held, taken, made⟩
  simp only [pure, Except.pure, Except.ok.injEq] at made
  subst made
  exact (incref taken).trans (allocate _ _)

theorem hostClass
    (interp : Interpreter)
    (key : String) :
    interp.Evolves (interp.hostClass key).2 := by
  rw [Interpreter.hostClass]
  split
  · exact refl interp
  · exact ((retain interp _).trans (allocate _ _)).trans (.of_same rfl rfl)

theorem newException
    {type : Handle}
    {message : Option String}
    {result : Handle × Interpreter}
    (made : interp.newException type message = .ok result) :
    interp.Evolves result.2 := by
  rcases Except.bind_eq_ok_iff.mp made with ⟨held, taken, made⟩
  cases message with
  | none =>
      simp only [pure, Except.pure, Except.ok.injEq] at made
      subst made
      exact (incref taken).trans (allocate _ _)
  | some message =>
      simp only [pure, Except.pure, Except.ok.injEq] at made
      subst made
      exact ((incref taken).trans (allocate _ _)).trans (allocate _ _)

theorem chainFrames
    (frames : List Frame)
    (chain : Option Handle)
    (interp : Interpreter) :
    interp.Evolves (interp.chainFrames frames chain).2 := by
  induction frames generalizing interp chain with
  | nil => exact refl interp
  | cons frame outer later => exact (allocate interp _).trans (later _ _)

/-! ## Raising -/

theorem raiseInstance
    (interp : Interpreter)
    (type : Handle)
    (message : String) :
    interp.Evolves (interp.raiseInstance type message) := by
  cases made : interp.newException type (some message) with
  | error reason =>
      simp only [Interpreter.raiseInstance, made]
      exact refl interp
  | ok result =>
      rcases result with ⟨value, started⟩
      rw [raiseInstance_eq made]
      have traced := (newException made).trans (chainFrames started.frames none started)
      exact ((traced.trans (attach _ _ _)).trans (retain _ type)).trans (replacePending _ _)

theorem raise
    (interp : Interpreter)
    (name message : String) :
    interp.Evolves (interp.raise name message) :=
  raiseInstance interp _ message

theorem getItem
    (interp : Interpreter)
    (container : Handle)
    (index : Int) :
    interp.Evolves (interp.getItem container index).2 := by
  rw [Interpreter.getItem]
  split
  · exact raise interp _ _
  · split
    · exact retain interp _
    · exact raise interp _ _
  · simp only
    split
    · exact allocate interp _
    · exact raise interp _ _
  · exact raise interp _ _

theorem warn
    (interp : Interpreter)
    (category : Handle)
    (message : String)
    (level : Nat) :
    interp.Evolves (interp.warn category message level).2 := by
  rw [Interpreter.warn]
  split
  · exact refl interp
  · exact raiseInstance interp category message
  · exact .of_same rfl rfl

/-! ## Normalizing -/

theorem argumentsOf
    (interp : Interpreter)
    (value : Option Handle) :
    interp.Evolves (interp.argumentsOf value).2 := by
  unfold Interpreter.argumentsOf
  split
  · exact refl interp
  · split
    · exact release interp _
    · exact (foldl retain _ interp).trans (release _ _)
    · exact refl interp

theorem narrow
    (interp : Interpreter)
    (type narrowed : Handle) :
    interp.Evolves (interp.narrow type narrowed) := by
  rw [Interpreter.narrow]
  split
  · exact refl interp
  · exact (retain interp narrowed).trans (release _ _)

theorem instantiate
    (interp : Interpreter)
    (type : Handle)
    (value : Option Handle) :
    interp.Evolves (interp.instantiate type value).2 :=
  ((argumentsOf interp value).trans (retain _ type)).trans (allocate _ _)

theorem normalize
    (interp : Interpreter)
    (triple : Triple) :
    interp.Evolves (interp.normalize triple).2 := by
  rcases interp.normalize_cases triple with
    ⟨-, result⟩ | ⟨value, info, -, -, -, -, result⟩ | result
  · rw [result]
    exact raise interp _ _
  · rw [result]
    exact (narrow interp _ _).trans (attachTraceback _ _ _)
  · rw [result]
    exact (instantiate interp _ _).trans (attachTraceback _ _ _)

/-! ## Filters and tables -/

theorem addFilter
    {category : Handle}
    {action : WarningAction}
    (added : interp.addFilter category action = .ok interp') :
    interp.Evolves interp' := by
  rcases Except.bind_eq_ok_iff.mp added with ⟨held, taken, result⟩
  simp only [pure, Except.pure, Except.ok.injEq] at result
  subst result
  exact (incref taken).trans (.of_same rfl rfl)

theorem resetFilters (interp : Interpreter) : interp.Evolves interp.resetFilters := by
  have emptied : interp.Evolves { interp with filters := [] } := .of_same rfl rfl
  apply emptied.trans
  exact foldl (fun interp (filter : Handle × WarningAction) => release interp filter.1) _ _

theorem releaseTable
    (table : ExceptionTable)
    (interp : Interpreter) :
    interp.Evolves (table.release interp).2 :=
  foldl (fun interp (entry : String × Option Handle) => release? interp entry.2) _ _

/-! ## Calls -/

theorem attempt
    {received : List Handle}
    {result : Except HeapError Interpreter}
    (succeeds : ∀ interp', result = .ok interp' → interp.Evolves interp') :
    interp.Evolves (Call.attempt interp received result).2 := by
  cases result with
  | ok interp' => exact succeeds interp' rfl
  | error reason => exact refl interp

theorem attemptNew
    {result : Except HeapError (Handle × Interpreter)}
    (succeeds : ∀ made, result = .ok made → interp.Evolves made.2) :
    interp.Evolves (Call.attemptNew interp result).2 := by
  cases result with
  | ok made => exact succeeds made rfl
  | error reason => exact refl interp

theorem perform
    (call : Call)
    (interp : Interpreter) :
    interp.Evolves (call.perform interp).2 := by
  cases call with
  | incref handle => exact attempt fun _ => incref
  | decref handle => exact release interp handle
  | newNone => exact newNone interp
  | newObject payload => exact allocate interp payload
  | newClass name home base => exact attemptNew fun _ => newClass
  | hostClass key => exact hostClass interp key
  | newException type message => exact attemptNew fun _ => newException
  | setCause handle cause => exact attempt fun _ => setCause
  | setTraceback handle traceback => exact attempt fun _ => setTraceback
  | setError type message => exact attempt fun _ => setError
  | setErrorObject type value => exact attempt fun _ => setErrorObject
  | fetch =>
      rw [Call.perform]
      split
      · next fetched => exact fetch fetched
      · exact refl interp
  | restore triple => exact restore interp triple
  | clear => exact clear interp
  | normalize triple => exact normalize interp triple
  | raise name message => exact raise interp name message
  | pushFrame frame => exact .of_same rfl rfl
  | popFrame => exact .of_same rfl rfl
  | getItem container index => exact getItem interp container index
  | warn category message level => exact warn interp category message level
  | addFilter category action => exact attempt fun _ => addFilter
  | resetFilters => exact resetFilters interp
  | takeWarnings => exact .of_same rfl rfl

end Evolves

end Interpreter

/-! ## A fresh interpreter -/

theorem Namespace.evolves_define
    (state : Heap × Namespace)
    (entry : String × String) :
    state.1.Evolves (define state entry).1 := by
  simp only [define]
  refine Relation.ReflTransGen.tail ?_ (.allocate _)
  split
  · next base _ =>
      cases taken : state.1.incref base with
      | ok heap => exact .single (.incref taken)
      | error reason => exact .refl
  · exact .refl

theorem Namespace.evolves_defineAlias
    (state : Heap × Namespace)
    (entry : String × String) :
    state.1.Evolves (defineAlias state entry).1 := by
  rw [defineAlias]
  split
  · exact .refl
  · split
    · next taken => exact .single (.incref taken)
    · exact .refl

theorem Namespace.evolves_bootstrap : Heap.empty.Evolves bootstrap.1 := by
  have walked {step : Heap × Namespace → String × String → Heap × Namespace}
      (each : ∀ (state : Heap × Namespace) entry, state.1.Evolves (step state entry).1) :
      ∀ (entries : List (String × String)) (state : Heap × Namespace),
        state.1.Evolves (entries.foldl step state).1 := by
    intro entries
    induction entries with
    | nil => exact fun _ => .refl
    | cons entry rest later =>
        exact fun state => Relation.ReflTransGen.trans (each state entry) (later _)
  have defined := walked evolves_define
    (("object", "") :: builtinTypes.map (·, "object") ++ exceptionHierarchy) (Heap.empty, [])
  exact Relation.ReflTransGen.trans defined (walked evolves_defineAlias builtinAliases _)

theorem Interpreter.evolves_initial : Heap.empty.Evolves initial.heap :=
  Namespace.evolves_bootstrap.tail (.allocate .none)

theorem ExceptionTable.evolves_find
    (interp : Interpreter)
    (name : String) :
    interp.Evolves (find interp name).2 := by
  rw [find]
  split
  · exact .refl interp
  · split
    · split
      · next taken => exact .incref taken
      · exact .refl interp
    · exact .refl interp

theorem ExceptionTable.evolves_findAll
    (names : List String)
    (interp : Interpreter) :
    interp.Evolves (findAll names interp).2 := by
  induction names generalizing interp with
  | nil => exact .refl interp
  | cons name rest later => exact (evolves_find interp name).trans (later _)

theorem ExceptionTable.evolves_resolve (interp : Interpreter) :
    interp.Evolves (resolve interp).2 := by
  have found := evolves_findAll names interp
  simp only [resolve]
  generalize findAll names interp = result at found ⊢
  exact found

end Custody
