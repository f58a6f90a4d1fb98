import Custody.Proofs.Heap.Lineage
import Custody.Proofs.Interpreter.Evolution

/-!
# Interpreters make objects of what is known

Whatever an interpreter is asked to do with known handles, it makes objects of
known handles only: those that it was given, those that it holds, those that
objects refer to, and those of objects that it has just made.  It hands out no
others.

The references of a caller are of no account here.  A caller may use handles of
objects that are gone, and give back references that it never had.
-/

namespace Custody

namespace Interpreter

variable {interp interp' : Interpreter} {handle : Handle}

/-- A handle is known, as far as there is room. -/
def Knows (interp : Interpreter) (handle : Handle) : Prop :=
  interp.heap.HasRoom → interp.heap.Known handle

/-- As far as there is room, the heap is founded, and the interpreter holds known handles. -/
structure Founded (interp : Interpreter) : Prop where
  heap : interp.heap.HasRoom → interp.heap.Founded
  held : ∀ handle ∈ interp.held, interp.Knows handle

theorem Knows.evolves
    (knows : interp.Knows handle)
    (evolves : interp.Evolves interp') :
    interp'.Knows handle :=
  fun room => (knows (evolves.heap.hasRoom room)).evolves evolves.heap

theorem OnHeap.held (onHeap : interp.OnHeap interp') : interp'.held = interp.held := by
  rcases onHeap with ⟨heap, rfl⟩
  rfl

/-- A class that stands for a kind of host error takes the place of an earlier one. -/
theorem mem_held_hostClasses
    {key : String}
    {type : Handle}
    (isHeld :
      handle ∈ ({ interp with
        hostClasses :=
          (key, type) :: interp.hostClasses.filter (·.1 ≠ key) } : Interpreter).held) :
    handle = type ∨ handle ∈ interp.held := by
  have among : handle ∈ (interp.hostClasses.filter (·.1 ≠ key)).map Prod.snd →
      handle ∈ interp.hostClasses.map Prod.snd :=
    fun filtered => List.map_subset _ (List.filter_subset_self _) filtered
  simp only [Interpreter.held, Multiset.mem_add, Multiset.mem_coe, List.map_cons,
    List.mem_cons] at isHeld ⊢
  tauto

namespace Founded

/-! ## What is known -/

/-- Whatever an object refers to is known. -/
theorem knows_of_payload?
    {payload : Payload}
    {child : Handle}
    (founded : interp.Founded)
    (written : interp.heap.payload? handle = some payload)
    (among : child ∈ payload.children) :
    interp.Knows child :=
  fun room => (founded.heap room).known ⟨payload, written, among⟩

/-- Whatever is there is known. -/
theorem knows_of_isLive
    (founded : interp.Founded)
    (live : interp.heap.isLive handle = true) :
    interp.Knows handle :=
  fun room => .of_isLive (founded.heap room).origin live

theorem knows_of_lookup
    {name : String}
    (founded : interp.Founded)
    (found : interp.lookup name = some handle) :
    interp.Knows handle :=
  founded.held handle (mem_held_of_lookup found)

/-- A built-in class is known, and so is the null handle that stands for a missing one. -/
theorem knows_builtin
    (founded : interp.Founded)
    (name : String) :
    interp.Knows (interp.builtin name) := by
  rw [builtin]
  cases found : interp.lookup name with
  | some handle => exact founded.knows_of_lookup found
  | none => exact fun _ => .null _

/-- A new object is known. -/
theorem knows_allocate
    (founded : interp.Founded)
    (payload : Payload) :
    (interp.allocate payload).2.Knows (interp.allocate payload).1 := by
  intro room
  have evolves := (Evolves.allocate interp payload).heap
  have before := evolves.hasRoom room
  have origin := (founded.heap before).origin
  exact .of_isLive (origin.trans evolves) (Heap.isLive_allocate origin before)

/-! ## Counting and freeing -/

/-- Counts may change, and the interpreter may take up what is known. -/
theorem of_shrinks
    (founded : interp.Founded)
    (evolves : interp.Evolves interp')
    (shrinks : interp.heap.Shrinks interp'.heap)
    (held : ∀ handle ∈ interp'.held, interp.Knows handle) :
    interp'.Founded where
  heap := fun room =>
    (founded.heap (evolves.heap.hasRoom room)).of_shrinks evolves.heap shrinks
  held := fun handle isHeld => (held handle isHeld).evolves evolves

/-- The interpreter may take up what is known, on the heap as it is. -/
theorem exchange
    (founded : interp.Founded)
    (heap : interp'.heap = interp.heap)
    (builtins : interp'.builtins = interp.builtins)
    (held : ∀ handle ∈ interp'.held, interp.Knows handle) :
    interp'.Founded :=
  founded.of_shrinks (.of_same heap builtins) (heap ▸ .refl _) held

/-- Only counts change. -/
private theorem of_onHeap
    (founded : interp.Founded)
    (evolves : interp.Evolves interp')
    (shrinks : interp.heap.Shrinks interp'.heap)
    (onHeap : interp.OnHeap interp') :
    interp'.Founded :=
  founded.of_shrinks evolves shrinks (onHeap.held ▸ founded.held)

theorem incref
    (founded : interp.Founded)
    (taken : interp.incref handle = .ok interp') :
    interp'.Founded := by
  refine founded.of_onHeap (.incref taken) ?_ (.incref taken)
  rcases incref_eq_ok_iff.mp taken with ⟨heap, counted, rfl⟩
  exact .incref counted

theorem retain
    (founded : interp.Founded)
    (handle : Handle) :
    (interp.retain handle).Founded :=
  founded.of_onHeap (.retain _ _) (shrinks_retain _ _) (.retain _ _)

theorem release
    (founded : interp.Founded)
    (handle : Handle) :
    (interp.release handle).Founded :=
  founded.of_onHeap (.release _ _) (shrinks_release _ _) (.release _ _)

theorem release?
    (founded : interp.Founded)
    (handle : Option Handle) :
    (interp.release? handle).Founded :=
  founded.of_onHeap (.release? _ _) (shrinks_release? _ _) (.release? _ _)

theorem releaseTriple
    (founded : interp.Founded)
    (triple : Triple) :
    (interp.releaseTriple triple).Founded :=
  ((founded.release _).release? _).release? _

/-- What each step of a walk over a list keeps to, the walk keeps to. -/
theorem foldl
    {α : Type}
    {step : Interpreter → α → Interpreter}
    (each : ∀ {interp : Interpreter}, interp.Founded → ∀ item, (step interp item).Founded)
    (items : List α)
    (founded : interp.Founded) :
    (items.foldl step interp).Founded := by
  induction items generalizing interp with
  | nil => exact founded
  | cons item rest later => exact later (each founded item)

/-! ## Objects -/

theorem allocate
    {payload : Payload}
    (founded : interp.Founded)
    (knows : ∀ child ∈ payload.children, interp.Knows child) :
    (interp.allocate payload).2.Founded where
  heap := by
    intro room
    have before := (Evolves.allocate interp payload).heap.hasRoom room
    exact (founded.heap before).allocate room fun child among => knows child among before
  held := fun handle isHeld => (founded.held handle isHeld).evolves (.allocate interp payload)

theorem newNone
    (founded : interp.Founded) :
    interp.newNone.2.Founded ∧ interp.newNone.2.Knows interp.newNone.1 :=
  ⟨founded.retain _, (founded.held _ (noneObject_mem_held interp)).evolves (.newNone interp)⟩

/-! ## The pending error -/

theorem replacePending
    {pending : Option Triple}
    (founded : interp.Founded)
    (knows : ∀ handle ∈ Triple.referencesOf pending, interp.Knows handle) :
    (interp.replacePending pending).Founded := by
  have changed : ({ interp with pending } : Interpreter).Founded := by
    refine founded.exchange rfl rfl fun handle isHeld => ?_
    have among : handle ∈ interp.held + Triple.referencesOf pending :=
      interp.held_pending pending ▸ Multiset.mem_add.mpr (.inl isHeld)
    rcases Multiset.mem_add.mp among with old | new
    · exact founded.held handle old
    · exact knows handle new
  rw [Interpreter.replacePending]
  split
  · exact changed.releaseTriple _
  · exact changed

theorem clear (founded : interp.Founded) : interp.clear.Founded :=
  founded.replacePending (by simp)

/-- What was pending is known. -/
theorem fetch
    {triple : Triple}
    (founded : interp.Founded)
    (fetched : interp.fetch = some (triple, interp')) :
    interp'.Founded ∧ ∀ handle ∈ triple.references, interp'.Knows handle := by
  rcases fetch_eq_some fetched with ⟨pending, rfl⟩
  constructor
  · refine founded.exchange rfl rfl fun handle isHeld => founded.held handle ?_
    have moved := interp.held_pending none
    rw [Triple.referencesOf_none, add_zero] at moved
    exact moved ▸ Multiset.mem_add.mpr (.inl isHeld)
  · exact fun handle among => founded.held handle (mem_held_of_pending pending among)

theorem restore
    {triple : Triple}
    (founded : interp.Founded)
    (knows : ∀ handle ∈ triple.given, interp.Knows handle) :
    (interp.restore triple).Founded := by
  rw [Triple.given] at knows
  rw [Interpreter.restore]
  split
  · exact ((founded.release? _).release? _).clear
  · next notNull =>
      rw [if_neg notNull] at knows
      exact founded.replacePending knows

theorem setError
    {type : Handle}
    {message : String}
    (founded : interp.Founded)
    (knows : interp.Knows type)
    (set : interp.setError type message = .ok interp') :
    interp'.Founded := by
  rcases Except.bind_eq_ok_iff.mp set with ⟨held, taken, result⟩
  simp only [pure, Except.pure, Except.ok.injEq] at result
  subst result
  have worded : (held.allocate (.str message)).2.Founded :=
    (founded.incref taken).allocate (List.forall_mem_nil _)
  refine worded.replacePending fun handle among => ?_
  simp only [Triple.referencesOf_some, Triple.references, Option.toList_some, Option.toList_none,
    Multiset.coe_singleton, Multiset.coe_nil, add_zero, Multiset.mem_cons,
    Multiset.mem_singleton] at among
  rcases among with rfl | rfl
  · exact knows.evolves ((Evolves.incref taken).trans (.allocate _ _))
  · exact (founded.incref taken).knows_allocate _

theorem setErrorObject
    {type : Handle}
    {value : Option Handle}
    (founded : interp.Founded)
    (knows : ∀ handle ∈ type :: value.toList, interp.Knows handle)
    (set : interp.setErrorObject type value = .ok interp') :
    interp'.Founded := by
  rcases Except.bind_eq_ok_iff.mp set with ⟨typed, taken, result⟩
  have typeHeld := founded.incref taken
  cases value with
  | none =>
      simp only [pure, Except.pure, Except.ok.injEq] at result
      subst result
      refine typeHeld.replacePending fun handle among => ?_
      exact (knows handle (by simpa [Triple.references] using among)).evolves (.incref taken)
  | some value =>
      rcases Except.bind_eq_ok_iff.mp result with ⟨valued, taken', result⟩
      simp only [pure, Except.pure, Except.ok.injEq] at result
      subst result
      refine (typeHeld.incref taken').replacePending fun handle among => ?_
      exact (knows handle (by simpa [Triple.references] using among)).evolves
        ((Evolves.incref taken).trans (.incref taken'))

/-! ## Links -/

/-- A link may be replaced with a known one. -/
theorem replaceLink
    {link : Option Handle}
    {change : ExceptionInfo → Option Handle × ExceptionInfo}
    (founded : interp.Founded)
    (kept :
      ∀ info, (Payload.exception (change info).2).core = (Payload.exception info).core)
    (moves :
      ∀ info, ∀ child ∈ (Payload.exception (change info).2).children,
        child ∈ (Payload.exception info).children ∨ link = some child)
    (knows : ∀ target, link = some target → interp.Knows target)
    (replaced : interp.replaceLink handle link change = .ok interp') :
    interp'.Founded := by
  rcases Except.bind_eq_ok_iff.mp replaced with ⟨payload, holds, result⟩
  rw [Heap.payload_eq_ok_iff] at holds
  cases payload with
  | exception info =>
      rcases Except.bind_eq_ok_iff.mp result with ⟨heap, changed, result⟩
      simp only [pure, Except.pure, Except.ok.injEq] at result
      subst result
      have altered : interp.heap.Evolves heap := .single (.relink holds (kept info) changed)
      have evolves : interp.Evolves { interp with heap } := ⟨altered, rfl⟩
      have linked : ({ interp with heap } : Interpreter).Founded := by
        refine ⟨fun room => ?_, fun handle isHeld => (founded.held handle isHeld).evolves evolves⟩
        have before := altered.hasRoom room
        refine (founded.heap before).relink holds (kept info) changed fun child among => ?_
        rcases moves info child among with old | new
        · exact founded.knows_of_payload? holds old before
        · exact knows child new before
      exact linked.release? _
  | _ =>
      simp only [pure, Except.pure, Except.ok.injEq] at result
      subst result
      exact founded.release? link

theorem setCause
    {cause : Option Handle}
    (founded : interp.Founded)
    (knows : ∀ target, cause = some target → interp.Knows target)
    (linked : interp.setCause handle cause = .ok interp') :
    interp'.Founded := by
  refine founded.replaceLink (fun _ => rfl) (fun info child among => ?_) knows linked
  simp only [Payload.children, List.mem_append, Option.mem_toList] at among ⊢
  tauto

theorem setTraceback
    {traceback : Option Handle}
    (founded : interp.Founded)
    (knows : ∀ target, traceback = some target → interp.Knows target)
    (linked : interp.setTraceback handle traceback = .ok interp') :
    interp'.Founded := by
  refine founded.replaceLink (fun _ => rfl) (fun info child among => ?_) knows linked
  simp only [Payload.children, List.mem_append, Option.mem_toList] at among ⊢
  tauto

theorem attach
    {traceback : Option Handle}
    (founded : interp.Founded)
    (value : Handle)
    (knows : ∀ target, traceback = some target → interp.Knows target) :
    (interp.attach value traceback).Founded := by
  cases traceback with
  | none => exact founded
  | some entry =>
      have held := founded.retain entry
      simp only [Interpreter.attach]
      cases attached : (interp.retain entry).setTraceback value (some entry) with
      | ok result =>
          exact held.setTraceback (fun target isTarget => (knows target isTarget).evolves
            (.retain interp entry)) attached
      | error reason => exact held

theorem attachTraceback
    {traceback : Option Handle}
    (founded : interp.Founded)
    (value : Handle)
    (knows : ∀ target, traceback = some target → interp.Knows target) :
    (interp.attachTraceback value traceback).Founded := by
  rcases interp.attachTraceback_eq value traceback with same | ⟨-, -, attached⟩
  · rw [same]
    exact founded
  · rw [attached]
    exact founded.attach value knows

/-! ## Classes, instances and tracebacks -/

theorem newClass
    {name : String}
    {home : Option String}
    {base : Handle}
    {result : Handle × Interpreter}
    (founded : interp.Founded)
    (knows : interp.Knows base)
    (made : interp.newClass name home base = .ok result) :
    result.2.Founded ∧ result.2.Knows result.1 := by
  rcases Except.bind_eq_ok_iff.mp made with ⟨held, taken, made⟩
  simp only [pure, Except.pure, Except.ok.injEq] at made
  subst made
  have based := founded.incref taken
  refine ⟨based.allocate fun child among => ?_, based.knows_allocate _⟩
  rcases List.mem_singleton.mp among with rfl
  exact knows.evolves (.incref taken)

theorem hostClass
    (founded : interp.Founded)
    (key : String) :
    (interp.hostClass key).2.Founded := by
  rw [Interpreter.hostClass]
  split
  · exact founded
  · have based := founded.retain (interp.builtin "Exception")
    let payload : Payload :=
      .type ⟨lastSegment key, some hostModule, some (interp.builtin "Exception")⟩
    have made : ((interp.retain (interp.builtin "Exception")).allocate payload).2.Founded :=
      based.allocate fun child among => by
        rw [List.mem_singleton.mp among]
        exact (founded.knows_builtin "Exception").evolves (.retain interp _)
    refine made.exchange rfl rfl fun handle isHeld => ?_
    rcases mem_held_hostClasses isHeld with rfl | old
    · exact based.knows_allocate _
    · exact made.held handle old

theorem newException
    {type : Handle}
    {message : Option String}
    {result : Handle × Interpreter}
    (founded : interp.Founded)
    (knows : interp.Knows type)
    (made : interp.newException type message = .ok result) :
    result.2.Founded ∧ result.2.Knows result.1 := by
  rcases Except.bind_eq_ok_iff.mp made with ⟨held, taken, made⟩
  have typed := founded.incref taken
  have knowsType := knows.evolves (.incref taken)
  cases message with
  | none =>
      simp only [pure, Except.pure, Except.ok.injEq] at made
      subst made
      refine ⟨typed.allocate fun child among => ?_, typed.knows_allocate _⟩
      rcases List.mem_singleton.mp among with rfl
      exact knowsType
  | some message =>
      simp only [pure, Except.pure, Except.ok.injEq] at made
      subst made
      have worded : (held.allocate (.str message)).2.Founded :=
        typed.allocate (List.forall_mem_nil _)
      refine ⟨worded.allocate fun child among => ?_, worded.knows_allocate _⟩
      simp only [Payload.children, Option.toList_none, List.append_nil, List.mem_cons,
        List.not_mem_nil, or_false] at among
      rcases among with rfl | rfl
      · exact knowsType.evolves (.allocate _ _)
      · exact typed.knows_allocate _

theorem chainFrames
    {chain : Option Handle}
    (founded : interp.Founded)
    (frames : List Frame)
    (knows : ∀ entry, chain = some entry → interp.Knows entry) :
    (interp.chainFrames frames chain).2.Founded ∧
      ∀ entry, (interp.chainFrames frames chain).1 = some entry →
        (interp.chainFrames frames chain).2.Knows entry := by
  induction frames generalizing interp chain with
  | nil => exact ⟨founded, knows⟩
  | cons frame outer later =>
      refine later (founded.allocate fun child among => ?_) fun entry isEntry => ?_
      · exact knows child (Option.mem_toList.mp among)
      · exact Option.some.inj isEntry ▸ founded.knows_allocate _

/-! ## Raising -/

theorem raiseInstance
    {type : Handle}
    (founded : interp.Founded)
    (knows : interp.Knows type)
    (message : String) :
    (interp.raiseInstance type message).Founded := by
  cases made : interp.newException type (some message) with
  | error reason => simpa [Interpreter.raiseInstance, made] using founded
  | ok result =>
      rcases result with ⟨value, started⟩
      rcases founded.newException knows made with ⟨begun, knowsValue⟩
      have unlinked (entry : Handle) (isEntry : none = some entry) : started.Knows entry :=
        (Option.some_ne_none entry isEntry.symm).elim
      rcases begun.chainFrames started.frames unlinked with ⟨traced, knowsEntry⟩
      rw [raiseInstance_eq made]
      have attached := (traced.attach value knowsEntry).retain type
      have counted := (Evolves.attach started.newTraceback.2 value started.newTraceback.1).trans
        (.retain _ type)
      have chained : started.Evolves started.newTraceback.2 :=
        .chainFrames started.frames none started
      refine attached.replacePending fun handle among => ?_
      simp only [Triple.referencesOf_some, Triple.references, Option.toList_some, Multiset.mem_cons,
        Multiset.mem_add, Multiset.mem_coe, List.mem_singleton, Option.mem_toList] at among
      rcases among with rfl | rfl | isEntry
      · exact knows.evolves (((Evolves.newException made).trans chained).trans counted)
      · exact knowsValue.evolves (chained.trans counted)
      · exact (knowsEntry handle isEntry).evolves counted

theorem raise
    (founded : interp.Founded)
    (name message : String) :
    (interp.raise name message).Founded := by
  refine founded.raiseInstance ?_ message
  cases found : interp.lookup name with
  | some type => exact founded.knows_of_lookup found
  | none => exact founded.knows_builtin "SystemError"

theorem getItem
    (founded : interp.Founded)
    (container : Handle)
    (index : Int) :
    (interp.getItem container index).2.Founded ∧
      ∀ item ∈ (interp.getItem container index).1.toOption,
        (interp.getItem container index).2.Knows item := by
  rw [Interpreter.getItem]
  split
  · exact ⟨founded.raise _ _, fun _ among => (Option.not_mem_none _ among).elim⟩
  · next items holds =>
      split
      · next item found =>
          rcases Option.bind_eq_some_iff.mp found with ⟨position, -, listed⟩
          have known := founded.knows_of_payload? (Heap.payload_eq_ok_iff.mp holds)
            (List.mem_of_getElem? listed)
          refine ⟨founded.retain item, fun other same => ?_⟩
          rcases Option.some.inj same with rfl
          exact known.evolves (.retain interp item)
      · exact ⟨founded.raise _ _, fun _ among => (Option.not_mem_none _ among).elim⟩
  · next text holds =>
      simp only
      split
      · next char found =>
          refine ⟨founded.allocate (List.forall_mem_nil _), fun other same => ?_⟩
          rcases Option.some.inj same with rfl
          exact founded.knows_allocate _
      · exact ⟨founded.raise _ _, fun _ among => (Option.not_mem_none _ among).elim⟩
  · exact ⟨founded.raise _ _, fun _ among => (Option.not_mem_none _ among).elim⟩

/-! ## Warnings -/

theorem warn
    {category : Handle}
    (founded : interp.Founded)
    (knows : interp.Knows category)
    (message : String)
    (level : Nat) :
    (interp.warn category message level).2.Founded := by
  rw [Interpreter.warn]
  split
  · exact founded
  · exact founded.raiseInstance knows message
  · exact founded.exchange rfl rfl founded.held

theorem addFilter
    {category : Handle}
    {action : WarningAction}
    (founded : interp.Founded)
    (knows : interp.Knows category)
    (added : interp.addFilter category action = .ok interp') :
    interp'.Founded := by
  rcases Except.bind_eq_ok_iff.mp added with ⟨held, taken, result⟩
  simp only [pure, Except.pure, Except.ok.injEq] at result
  subst result
  have typed := founded.incref taken
  refine typed.exchange rfl rfl fun handle isHeld => ?_
  have among : handle = category ∨ handle ∈ held.held := by
    simp only [Interpreter.held, Multiset.mem_add, Multiset.mem_coe, List.map_cons,
      List.mem_cons] at isHeld ⊢
    tauto
  rcases among with rfl | old
  · exact knows.evolves (.incref taken)
  · exact typed.held handle old

theorem resetFilters (founded : interp.Founded) : interp.resetFilters.Founded := by
  have emptied : ({ interp with filters := [] } : Interpreter).Founded := by
    refine founded.exchange rfl rfl fun handle isHeld => founded.held handle ?_
    simp only [Interpreter.held, List.map_nil, Multiset.coe_nil, add_zero] at isHeld ⊢
    exact Multiset.mem_add.mpr (.inl isHeld)
  exact emptied.foldl (fun founded filter => founded.release filter.1) interp.filters

/-! ## Normalizing -/

theorem argumentsOf
    {value : Option Handle}
    (founded : interp.Founded)
    (knows : ∀ handle, value = some handle → interp.Knows handle) :
    (interp.argumentsOf value).2.Founded ∧
      ∀ argument ∈ (interp.argumentsOf value).1,
        (interp.argumentsOf value).2.Knows argument := by
  constructor
  · unfold Interpreter.argumentsOf
    split
    · exact founded
    · split
      · exact founded.release _
      · exact (founded.foldl retain _).release _
      · exact founded
  · intro argument among
    refine Knows.evolves ?_ (.argumentsOf interp value)
    rcases mem_argumentsOf among with isValue | ⟨parent, payload, written, among⟩
    · exact knows argument isValue
    · exact founded.knows_of_payload? written among

theorem narrow
    (founded : interp.Founded)
    (type narrowed : Handle) :
    (interp.narrow type narrowed).Founded := by
  rw [Interpreter.narrow]
  split
  · exact founded
  · exact (founded.retain narrowed).release type

theorem instantiate
    {type : Handle}
    {value : Option Handle}
    (founded : interp.Founded)
    (knowsType : interp.Knows type)
    (knows : ∀ handle, value = some handle → interp.Knows handle) :
    (interp.instantiate type value).2.Founded ∧
      (interp.instantiate type value).2.Knows (interp.instantiate type value).1 := by
  rcases founded.argumentsOf knows with ⟨argued, knowsArguments⟩
  have ready := argued.retain type
  refine ⟨ready.allocate fun child among => ?_, ready.knows_allocate _⟩
  simp only [Payload.children, Option.toList_none, List.append_nil, List.mem_cons] at among
  rcases among with rfl | argument
  · exact knowsType.evolves ((Evolves.argumentsOf interp value).trans (.retain _ _))
  · exact (knowsArguments child argument).evolves (.retain _ _)

/-- Normalizing a known triple leaves a known one. -/
theorem normalize
    {triple : Triple}
    (founded : interp.Founded)
    (knows : ∀ handle ∈ triple.references, interp.Knows handle) :
    (interp.normalize triple).2.Founded ∧
      ∀ handle ∈ (interp.normalized triple).references,
        (interp.normalize triple).2.Knows handle := by
  have knowsType : interp.Knows triple.type := knows _ (Multiset.mem_cons_self _ _)
  have knowsValue (handle : Handle) (isValue : triple.value = some handle) :
      interp.Knows handle := knows _ (by simp [Triple.references, isValue])
  have knowsTraceback (handle : Handle) (isTraceback : triple.traceback = some handle) :
      interp.Knows handle := knows _ (by simp [Triple.references, isTraceback])
  have evolves := Evolves.normalize interp triple
  rw [normalized]
  rcases interp.normalize_cases triple with
    ⟨-, result⟩ | ⟨value, info, isValue, -, holds, -, result⟩ | result
  · rw [result] at evolves ⊢
    exact ⟨founded.raise _ _, fun handle among => (knows handle among).evolves evolves⟩
  · rw [result] at evolves ⊢
    have narrowed := founded.narrow triple.type info.type
    refine ⟨narrowed.attachTraceback value fun entry isEntry => ?_, fun handle among => ?_⟩
    · exact (knowsTraceback entry isEntry).evolves (.narrow interp _ _)
    · refine Knows.evolves ?_ evolves
      rcases Multiset.mem_cons.mp among with rfl | other
      · exact founded.knows_of_payload? holds (by simp [Payload.children, Except.toOption])
      · exact knows handle (Multiset.mem_cons_of_mem other)
  · rw [result] at evolves ⊢
    rcases founded.instantiate knowsType knowsValue with ⟨made, knowsMade⟩
    refine ⟨made.attachTraceback _ fun entry isEntry => ?_, fun handle among => ?_⟩
    · exact (knowsTraceback entry isEntry).evolves (.instantiate interp _ _)
    · simp only [Except.toOption, Option.getD_some, Triple.references, Option.toList_some,
        Multiset.mem_cons, Multiset.mem_add, Multiset.mem_coe, List.mem_singleton,
        Option.mem_toList] at among
      rcases among with rfl | rfl | isTraceback
      · exact knowsType.evolves evolves
      · exact knowsMade.evolves (.attachTraceback _ _ _)
      · exact (knowsTraceback handle isTraceback).evolves evolves

/-! ## Calls -/

private theorem attempt
    {received : List Handle}
    {result : Except HeapError Interpreter}
    (founded : interp.Founded)
    (succeeds :
      ∀ {interp'}, result = .ok interp' →
        interp'.Founded ∧ ∀ handle ∈ received, interp'.Knows handle) :
    (Call.attempt interp received result).2.Founded ∧
      ∀ handle ∈ (Call.attempt interp received result).1,
        (Call.attempt interp received result).2.Knows handle := by
  cases result with
  | ok interp' => exact succeeds rfl
  | error reason => exact ⟨founded, nofun⟩

private theorem attemptNew
    {result : Except HeapError (Handle × Interpreter)}
    (founded : interp.Founded)
    (succeeds : ∀ {made}, result = .ok made → made.2.Founded ∧ made.2.Knows made.1) :
    (Call.attemptNew interp result).2.Founded ∧
      ∀ handle ∈ (Call.attemptNew interp result).1,
        (Call.attemptNew interp result).2.Knows handle := by
  cases result with
  | ok made =>
      refine ⟨(succeeds rfl).1, fun handle same => ?_⟩
      exact List.mem_singleton.mp same ▸ (succeeds rfl).2
  | error reason => exact ⟨founded, nofun⟩

/-- A call that is made with known handles keeps an interpreter founded and returns known ones. -/
theorem perform
    (call : Call)
    (founded : interp.Founded)
    (knows : ∀ handle, handle ∈ call.taken ∨ handle ∈ call.borrowed → interp.Knows handle) :
    (call.perform interp).2.Founded ∧
      ∀ handle ∈ (call.perform interp).1, (call.perform interp).2.Knows handle := by
  have knowsTaken (handle : Handle) (among : handle ∈ call.taken) : interp.Knows handle :=
    knows handle (.inl among)
  have knowsBorrowed (handle : Handle) (among : handle ∈ call.borrowed) : interp.Knows handle :=
    knows handle (.inr among)
  have returnsNothing {interp' : Interpreter} (kept : interp'.Founded) :
      interp'.Founded ∧ ∀ handle ∈ ([] : List Handle), interp'.Knows handle :=
    ⟨kept, List.forall_mem_nil _⟩
  cases call with
  | incref handle =>
      refine founded.attempt fun taken => ⟨founded.incref taken, fun other same => ?_⟩
      rcases List.mem_singleton.mp same with rfl
      exact (knowsBorrowed other same).evolves (.incref taken)
  | decref handle => exact returnsNothing (founded.release handle)
  | newNone =>
      refine ⟨founded.newNone.1, fun handle same => ?_⟩
      exact List.mem_singleton.mp same ▸ founded.newNone.2
  | newObject payload =>
      refine ⟨founded.allocate knowsTaken, fun handle same => ?_⟩
      exact List.mem_singleton.mp same ▸ founded.knows_allocate payload
  | newClass name home base =>
      exact founded.attemptNew (founded.newClass (knowsBorrowed base (by simp [Call.borrowed])))
  | hostClass key => exact returnsNothing (founded.hostClass key)
  | newException type message =>
      exact founded.attemptNew (founded.newException (knowsBorrowed type (by simp [Call.borrowed])))
  | setCause handle cause =>
      refine founded.attempt fun linked => returnsNothing (founded.setCause ?_ linked)
      exact fun target isCause => knowsTaken target (by simp [Call.taken, isCause])
  | setTraceback handle traceback =>
      refine founded.attempt fun linked => returnsNothing (founded.setTraceback ?_ linked)
      exact fun target isTraceback => knowsTaken target (by simp [Call.taken, isTraceback])
  | setError type message =>
      refine founded.attempt fun set => returnsNothing (founded.setError ?_ set)
      exact knowsBorrowed type (by simp [Call.borrowed])
  | setErrorObject type value =>
      exact founded.attempt fun set => returnsNothing (founded.setErrorObject knowsBorrowed set)
  | fetch =>
      rw [Call.perform]
      split
      · next triple interp' fetched =>
          refine ⟨(founded.fetch fetched).1, fun handle among => (founded.fetch fetched).2 handle ?_⟩
          rwa [← Triple.coe_components, Multiset.mem_coe]
      · exact returnsNothing founded
  | restore triple => exact returnsNothing (founded.restore knowsTaken)
  | clear => exact returnsNothing founded.clear
  | normalize triple =>
      have knowsTriple : ∀ handle ∈ triple.references, interp.Knows handle :=
        fun handle among => by
          simp only [Triple.references, Multiset.mem_cons, Multiset.mem_add] at among
          refine knows handle ?_
          simp only [Call.taken, Call.borrowed, Multiset.mem_cons]
          tauto
      have normalized := founded.normalize knowsTriple
      refine ⟨normalized.1, fun handle among => normalized.2 handle ?_⟩
      simp only [Call.perform, List.mem_cons] at among
      simp only [Triple.references, Multiset.mem_cons, Multiset.mem_add, Multiset.mem_coe]
      tauto
  | raise name message => exact returnsNothing (founded.raise name message)
  | pushFrame frame => exact returnsNothing (founded.exchange rfl rfl founded.held)
  | popFrame => exact returnsNothing (founded.exchange rfl rfl founded.held)
  | getItem container index =>
      refine ⟨(founded.getItem container index).1, fun handle among => ?_⟩
      exact (founded.getItem container index).2 handle (Option.mem_toList.mp among)
  | warn category message level =>
      exact returnsNothing
        (founded.warn (knowsBorrowed category (by simp [Call.borrowed])) message level)
  | addFilter category action =>
      refine founded.attempt fun added => returnsNothing (founded.addFilter ?_ added)
      exact knowsBorrowed category (by simp [Call.borrowed])
  | resetFilters => exact returnsNothing founded.resetFilters
  | takeWarnings => exact returnsNothing (founded.exchange rfl rfl founded.held)

end Founded

end Interpreter

/-! ## A fresh interpreter -/

namespace Namespace

/-- As far as there is room, the heap is founded and the names stand for known classes. -/
def Founded (state : Heap × Namespace) : Prop :=
  state.1.HasRoom → state.1.Founded ∧ ∀ handle ∈ references state.2, state.1.Known handle

variable {state : Heap × Namespace}

/-- A new class may be named that is made of named ones. -/
private theorem Founded.name
    {counted : Heap}
    {payload : Payload}
    (founded : Founded state)
    (name : String)
    (evolves : state.1.Evolves counted)
    (shrinks : state.1.Shrinks counted)
    (named : ∀ child ∈ payload.children, child ∈ references state.2) :
    Founded ((counted.allocate payload).2, state.2 ++ [(name, (counted.allocate payload).1)]) := by
  intro room
  have made : counted.Evolves (counted.allocate payload).2 := .single (.allocate payload)
  have before := made.hasRoom room
  rcases founded (evolves.hasRoom before) with ⟨started, known⟩
  have kept := started.of_shrinks evolves shrinks
  constructor
  · exact kept.allocate room fun child among => (known child (named child among)).evolves evolves
  · intro handle among
    rw [references_append, Multiset.mem_cons] at among
    rcases among with rfl | old
    · exact .of_isLive (kept.origin.trans made) (Heap.isLive_allocate kept.origin before)
    · exact (known handle old).evolves (evolves.trans made)

theorem Founded.define
    (founded : Founded state)
    (entry : String × String) :
    Founded (define state entry) := by
  rw [Namespace.define]
  cases found : state.2.lookup entry.2 with
  | none => exact founded.name entry.1 .refl (.refl _) (List.forall_mem_nil _)
  | some base =>
      have named : base ∈ references state.2 := mem_references_of_lookup found
      have children : ∀ child ∈ (Payload.type ⟨entry.1, none, some base⟩).children,
          child ∈ references state.2 := by
        intro child among
        rwa [List.mem_singleton.mp among]
      cases taken : state.1.incref base with
      | ok heap =>
          simp only [taken, Except.toOption, Option.getD_some]
          exact founded.name entry.1 (.single (.incref taken)) (.incref taken) children
      | error reason =>
          simp only [taken, Except.toOption, Option.getD_none]
          exact founded.name entry.1 .refl (.refl _) children

theorem Founded.defineAlias
    (founded : Founded state)
    (entry : String × String) :
    Founded (defineAlias state entry) := by
  rw [Namespace.defineAlias]
  cases found : state.2.lookup entry.2 with
  | none => exact founded
  | some handle =>
      cases taken : state.1.incref handle with
      | error reason => simpa only [taken] using founded
      | ok heap =>
          simp only [taken]
          intro room
          have evolves : state.1.Evolves heap := .single (.incref taken)
          rcases founded (evolves.hasRoom room) with ⟨started, known⟩
          refine ⟨started.of_shrinks evolves (.incref taken), fun other among => ?_⟩
          rw [references_append, Multiset.mem_cons] at among
          rcases among with rfl | old
          · exact (known other (mem_references_of_lookup found)).evolves evolves
          · exact (known other old).evolves evolves

theorem founded_bootstrap : Founded bootstrap := by
  have walked {step : Heap × Namespace → String × String → Heap × Namespace}
      (each : ∀ {state}, Founded state → ∀ entry, Founded (step state entry)) :
      ∀ (entries : List (String × String)) {state}, Founded state →
        Founded (entries.foldl step state) := by
    intro entries
    induction entries with
    | nil => exact fun founded => founded
    | cons entry rest later => exact fun founded => later (each founded entry)
  exact walked Founded.defineAlias _
    (walked Founded.define _ fun _ => ⟨.empty, by simp [references]⟩)

end Namespace

namespace Interpreter

theorem founded_initial : initial.Founded where
  heap := by
    intro room
    have made : Namespace.bootstrap.1.Evolves initial.heap := .single (.allocate .none)
    exact (Namespace.founded_bootstrap (made.hasRoom room)).1.allocate room (List.forall_mem_nil _)
  held := by
    intro handle isHeld room
    have made : Namespace.bootstrap.1.Evolves initial.heap := .single (.allocate .none)
    have before := made.hasRoom room
    rcases Namespace.founded_bootstrap before with ⟨founded, known⟩
    have holds : initial.held =
        Namespace.references Namespace.bootstrap.2 + {initial.noneObject} := by
      simp [held, initial, Namespace.references]
    rw [holds] at isHeld
    rcases Multiset.mem_add.mp isHeld with named | isNone
    · exact (known handle named).evolves made
    · rw [Multiset.mem_singleton.mp isNone]
      exact .of_isLive evolves_initial (Heap.isLive_allocate founded.origin before)

/-! ## Whole runs -/

/--
A run of calls that are made with the null handle and with handles under which
an object was there at some time.  The caller may have no reference to any.
-/
inductive Visited : Interpreter → Prop where
  | initial : Visited .initial
  | call
      {interp : Interpreter}
      (call : Call)
      (before : Visited interp)
      (known :
        ∀ handle, handle ∈ call.taken ∨ handle ∈ call.borrowed → interp.heap.Known handle) :
      Visited (call.perform interp).2

namespace Visited

variable {interp : Interpreter}

theorem founded (visited : Visited interp) : interp.Founded := by
  induction visited with
  | initial => exact founded_initial
  | call call _ known founded =>
      exact (founded.perform call fun handle among _ => known handle among).1

/-- Whatever a call returns may be used in the calls that follow. -/
theorem known_perform
    (visited : Visited interp)
    (call : Call)
    (known :
      ∀ handle, handle ∈ call.taken ∨ handle ∈ call.borrowed → interp.heap.Known handle)
    (room : (call.perform interp).2.heap.HasRoom) :
    ∀ handle ∈ (call.perform interp).1, (call.perform interp).2.heap.Known handle :=
  fun handle among =>
    (visited.founded.perform call fun other used _ => known other used).2 handle among room

/-- Whatever is there may be used. -/
theorem known_of_isLive
    {handle : Handle}
    (visited : Visited interp)
    (room : interp.heap.HasRoom)
    (live : interp.heap.isLive handle = true) :
    interp.heap.Known handle :=
  visited.founded.knows_of_isLive live room

/-- A call may be made with whatever is there. -/
theorem follow
    (visited : Visited interp)
    (call : Call)
    (there :
      interp.heap.HasRoom ∧
        ∀ handle ∈ call.taken + call.borrowed, interp.heap.isLive handle = true) :
    Visited (call.perform interp).2 :=
  visited.call call fun handle used =>
    visited.known_of_isLive there.1 (there.2 handle (Multiset.mem_add.mpr used))

end Visited

/-- A caller that gives up what it owns and borrows what is there uses known handles. -/
theorem Reached.founded
    {interp : Interpreter}
    {owned : Multiset Handle}
    (reached : Reached interp owned) :
    interp.Founded := by
  induction reached with
  | initial => exact founded_initial
  | call call before there founded =>
      refine (founded.perform call fun handle used room => ?_).1
      rcases used with taken | borrowed
      · have live := before.ledger.isLive_of_mem room (Multiset.mem_add.mpr (.inl taken))
        exact founded.knows_of_isLive live room
      · exact founded.knows_of_isLive (there handle borrowed) room

end Interpreter

end Custody
