import Custody.Proofs.Interpreter.Raising

/-!
# Normalizing keeps the ledger

Normalizing takes the references to the type and the value of a triple over and
returns those of the triple that results; its traceback is borrowed.  An
instance that is made on the way is new, so attaching the traceback to it closes
no cycle.  An instance that is kept has been there before, and it depends on the
graph whether attaching one does.
-/

namespace Custody.Interpreter

variable {acyclic : Prop} {interp interp' : Interpreter} {credit : Multiset Handle}

/-! ## Attaching a borrowed traceback -/

/-- A traceback that is there is attached to an instance that has none. -/
theorem attachTraceback_eq
    (interp : Interpreter)
    (value : Handle)
    (traceback : Option Handle) :
    interp.attachTraceback value traceback = interp ∨
      interp.heap.tracebackOf value = none ∧
        (∀ entry, traceback = some entry → interp.heap.isLive entry = true) ∧
          interp.attachTraceback value traceback = interp.attach value traceback := by
  unfold attachTraceback
  split
  · next entry bare =>
      cases taken : interp.incref entry with
      | error reason => exact .inl rfl
      | ok held =>
          refine .inr ⟨bare, ?_, ?_⟩
          · intro other same
            rcases Option.some.inj same with rfl
            rcases incref_eq_ok_iff.mp taken with ⟨heap, counted, -⟩
            rcases Heap.found_of_incref counted with ⟨entry, found, -⟩
            exact (Heap.isLive_iff _ _).mpr ⟨entry, found⟩
          · simp [attach, retain, taken]
  · exact .inl rfl

/--
An instance keeps its traceback, or takes the attached one if that is there;
nothing else is written.
-/
theorem payload?_attachTraceback
    {value : Handle}
    {traceback : Option Handle}
    {info : ExceptionInfo}
    (holds : interp.heap.payload? value = some (.exception info))
    (live : ∀ entry, traceback = some entry → interp.heap.isLive entry = true)
    (other : Handle) :
    (interp.attachTraceback value traceback).heap.payload? other =
      if other = value then
        some (.exception { info with traceback := info.traceback <|> traceback })
      else
        interp.heap.payload? other := by
  have linked : interp.heap.tracebackOf value = info.traceback := by
    simp [Heap.tracebackOf, holds]
  cases bare : info.traceback with
  | some present =>
      have unchanged : interp.attachTraceback value traceback = interp := by
        rw [bare] at linked
        cases traceback <;> simp only [attachTraceback, linked]
      have kept : (some present <|> traceback) = info.traceback := bare.symm
      rw [unchanged, kept]
      split
      · next same => rw [same, holds]
      · rfl
  | none =>
      have attached : interp.attachTraceback value traceback = interp.attach value traceback := by
        rw [bare] at linked
        cases traceback with
        | none => rfl
        | some entry =>
            rcases incref_of_isLive (live entry rfl) with ⟨held, taken⟩
            simp only [attachTraceback, linked, taken, attach, retain]
      rw [attached, payload?_attach holds bare]
      rfl

theorem Ledger.attachTraceback
    {value : Handle}
    {traceback : Option Handle}
    (ledger : interp.Ledger acyclic credit)
    (live : interp.heap.HasRoom → interp.heap.isLive value = true)
    (open_ended :
      acyclic → interp.heap.HasRoom →
        interp.heap.tracebackOf value = none → interp.heap.OpenEnded value traceback) :
    (interp.attachTraceback value traceback).Ledger acyclic credit := by
  rcases interp.attachTraceback_eq value traceback with same | ⟨bare, there, attached⟩
  · rw [same]
    exact ledger
  · rw [attached]
    exact ledger.attach live (fun _ => there)
      fun isAcyclic room => open_ended isAcyclic room bare

theorem points_attachTraceback
    {value parent child : Handle}
    {traceback : Option Handle}
    {info : ExceptionInfo}
    (holds : interp.heap.payload? value = some (.exception info))
    (points : (interp.attachTraceback value traceback).heap.Points parent child) :
    interp.heap.Points parent child ∨ parent = value ∧ traceback = some child := by
  rcases interp.attachTraceback_eq value traceback with same | ⟨bare, -, attached⟩
  · rw [same] at points
    exact .inl points
  · rw [attached] at points
    refine points_attach holds ?_ points
    simpa [Heap.tracebackOf, holds] using bare

@[simp]
theorem hasRoom_attachTraceback
    (interp : Interpreter)
    (value : Handle)
    (traceback : Option Handle) :
    (interp.attachTraceback value traceback).heap.HasRoom ↔ interp.heap.HasRoom := by
  rcases interp.attachTraceback_eq value traceback with same | ⟨-, -, attached⟩
  · rw [same]
  · rw [attached, hasRoom_attach]

/-! ## Arguments -/

theorem shrinks_retainAll
    (items : List Handle)
    (interp : Interpreter) :
    interp.heap.Shrinks (items.foldl retain interp).heap := by
  induction items generalizing interp with
  | nil => exact .refl _
  | cons item rest step => exact (interp.shrinks_retain item).trans (step _)

theorem refcount?_retain
    {handle : Handle}
    (live : interp.heap.isLive handle = true)
    (other : Handle) :
    (interp.retain handle).heap.refcount? other =
      (interp.heap.refcount? other).map (· + if other = handle then 1 else 0) := by
  rcases incref_of_isLive live with ⟨held, taken⟩
  rw [retain, taken]
  rcases incref_eq_ok_iff.mp taken with ⟨heap, counted, rfl⟩
  rcases Heap.found_of_incref counted with ⟨entry, found, rfl⟩
  by_cases same : other = handle
  · subst same
    simp [Heap.refcount?, Heap.find?_write_self _ found, found]
  · simp [Heap.refcount?, Heap.find?_write_of_ne _ found same, same, Function.comp_def]

/-- Each time an object is listed it gets one more reference. -/
theorem refcount?_retainAll
    {items : List Handle}
    (live : ∀ item ∈ items, interp.heap.isLive item = true)
    (handle : Handle) :
    (items.foldl retain interp).heap.refcount? handle =
      (interp.heap.refcount? handle).map (· + (items.count handle : Int)) := by
  induction items generalizing interp with
  | nil => simp
  | cons item rest step =>
      rw [List.foldl_cons, step fun other among => isLive_retain _ (live other (by simp [among])),
        refcount?_retain (live item (by simp)), Option.map_map]
      congr 1
      funext count
      rw [Function.comp_apply, List.count_cons]
      by_cases same : handle = item
      · subst same
        simp
        omega
      · simp [same, Ne.symm same]

theorem Ledger.retainAll
    {items : List Handle}
    (ledger : interp.Ledger acyclic credit)
    (live : interp.heap.HasRoom → ∀ item ∈ items, interp.heap.isLive item = true) :
    (items.foldl Interpreter.retain interp).Ledger acyclic (items + credit) := by
  induction items generalizing interp credit with
  | nil => exact ledger.congr _ (by simp)
  | cons item rest step =>
      have held := ledger.retain fun room => live room item (by simp)
      have after := step held fun room other among =>
        isLive_retain _ (live ((hasRoom_retain _ _).mp room) other (by simp [among]))
      refine after.congr _ ?_
      rw [← Multiset.cons_coe, Multiset.cons_add, Multiset.add_cons]

theorem shrinks_argumentsOf
    (interp : Interpreter)
    (value : Option Handle) :
    interp.heap.Shrinks (interp.argumentsOf value).2.heap := by
  unfold argumentsOf
  split
  · exact .refl _
  · split
    · exact shrinks_release _ _
    · exact (shrinks_retainAll _ _).trans (shrinks_release _ _)
    · exact .refl _

/-- The reference to a value becomes references to its arguments. -/
theorem Ledger.argumentsOf
    {value : Option Handle}
    (ledger : interp.Ledger acyclic (value.toList + credit)) :
    (interp.argumentsOf value).2.Ledger acyclic ((interp.argumentsOf value).1 + credit) := by
  cases value with
  | none => exact ledger
  | some value =>
      rw [Option.toList_some, Multiset.coe_singleton, Multiset.singleton_add] at ledger
      simp only [Interpreter.argumentsOf]
      split
      · exact ledger.release.congr _ (by simp)
      · next items holds =>
          refine Ledger.release ((ledger.retainAll fun room item among => ?_).congr _ ?_)
          · exact ledger.heap.isLive_of_points room ⟨_, holds, among⟩
          · rw [Multiset.add_cons]
      · exact ledger.congr _ (by simp)

/-- Arguments are the value itself or its items. -/
theorem mem_argumentsOf
    {value : Option Handle}
    {argument : Handle}
    (among : argument ∈ (interp.argumentsOf value).1) :
    value = some argument ∨ ∃ parent, interp.heap.Points parent argument := by
  unfold argumentsOf at among
  split at among
  · simp at among
  · next value =>
      split at among
      · simp at among
      · next items holds => exact .inr ⟨value, _, holds, among⟩
      · simp only [List.mem_singleton] at among
        exact .inl (by rw [among])

/-! ## Normalizing -/

/-- Exchange the reference to a type for one to a class that derives from it. -/
def narrow (interp : Interpreter) (type narrowed : Handle) : Interpreter :=
  if narrowed = type then interp else (interp.retain narrowed).release type

theorem shrinks_narrow
    (interp : Interpreter)
    (type narrowed : Handle) :
    interp.heap.Shrinks (interp.narrow type narrowed).heap := by
  rw [narrow]
  split
  · exact .refl _
  · exact (interp.shrinks_retain narrowed).trans (shrinks_release _ _)

theorem Ledger.narrow
    {type : Handle}
    (narrowed : Handle)
    (ledger : interp.Ledger acyclic (type ::ₘ credit))
    (live : interp.heap.HasRoom → interp.heap.isLive narrowed = true) :
    (interp.narrow type narrowed).Ledger acyclic (narrowed ::ₘ credit) := by
  rw [Interpreter.narrow]
  split
  · next same => exact ledger.congr _ (by rw [same])
  · exact ((ledger.retain live).congr _ (Multiset.cons_swap _ _ _)).release

/-- A new instance, with references to its class and its arguments. -/
def instantiate
    (interp : Interpreter)
    (type : Handle)
    (value : Option Handle) :
    Handle × Interpreter :=
  let (args, interp) := interp.argumentsOf value
  (interp.retain type).allocate (.exception ⟨type, args, none, none⟩)

/-- What an instance is made of is there once more. -/
theorem Ledger.readyToInstantiate
    {type : Handle}
    {value : Option Handle}
    (ledger : interp.Ledger acyclic (type ::ₘ (value.toList + credit))) :
    ((interp.argumentsOf value).2.retain type).Ledger acyclic
      ((Payload.exception ⟨type, (interp.argumentsOf value).1, none, none⟩).children +
        type ::ₘ credit) := by
  have argued := Ledger.argumentsOf (ledger.congr (value.toList + type ::ₘ credit)
    (by rw [Multiset.add_cons]))
  refine (argued.retain fun room => argued.isLive_of_mem room (by simp)).congr _ ?_
  simp [Payload.children, ← Multiset.cons_coe]

theorem Ledger.instantiate
    {type : Handle}
    {value : Option Handle}
    (ledger : interp.Ledger acyclic (type ::ₘ (value.toList + credit))) :
    (interp.instantiate type value).2.Ledger acyclic
      ((interp.instantiate type value).1 ::ₘ type ::ₘ credit) :=
  ledger.readyToInstantiate.allocate _

theorem hasRoom_of_instantiate
    {type : Handle}
    {value : Option Handle}
    (room : (interp.instantiate type value).2.heap.HasRoom) :
    interp.heap.HasRoom := by
  have before : ((interp.argumentsOf value).2.retain type).heap.HasRoom := room.of_allocate
  rwa [hasRoom_retain, (interp.shrinks_argumentsOf value).hasRoom_iff] at before

/-- A new instance was not there before, and nothing has a link to it. -/
theorem Ledger.fresh_instantiate
    {type : Handle}
    {value : Option Handle}
    (ledger : interp.Ledger acyclic (type ::ₘ (value.toList + credit)))
    (room : (interp.instantiate type value).2.heap.HasRoom) :
    (interp.instantiate type value).2.heap.Unlinked (interp.instantiate type value).1 ∧
      ¬ interp.heap.IsCurrent (interp.instantiate type value).1 ∧
        (interp.instantiate type value).2.heap.payload? (interp.instantiate type value).1 =
          some (.exception ⟨type, (interp.argumentsOf value).1, none, none⟩) := by
  have ready := ledger.readyToInstantiate
  have before : ((interp.argumentsOf value).2.retain type).heap.HasRoom := room.of_allocate
  have tidy := (ready.heap before).1.tidy
  have addressable := tidy.addressable_allocate before
  have shrinks := (interp.shrinks_argumentsOf value).trans (shrinks_retain _ type)
  refine ⟨?_, ?_, ?_⟩
  · have ready' := ready.heap
    rw [add_assoc] at ready'
    exact ready'.unlinked_allocate before
  · exact fun current => Heap.not_isCurrent_allocate tidy (addressable _) (shrinks.current current)
  · exact congrArg (Option.map _) (Heap.find?_allocate_self tidy (addressable _))

/-- A new instance points at its class and its arguments. -/
theorem Ledger.points_instantiate
    {type parent child : Handle}
    {value : Option Handle}
    (ledger : interp.Ledger acyclic (type ::ₘ (value.toList + credit)))
    (room : (interp.instantiate type value).2.heap.HasRoom)
    (points : (interp.instantiate type value).2.heap.Points parent child) :
    interp.heap.Points parent child ∨
      parent = (interp.instantiate type value).1 ∧
        (child = type ∨ value = some child ∨ ∃ other, interp.heap.Points other child) := by
  have before : ((interp.argumentsOf value).2.retain type).heap.HasRoom := room.of_allocate
  have tidy := (ledger.readyToInstantiate.heap before).1.tidy
  have shrinks := (interp.shrinks_argumentsOf value).trans (shrinks_retain _ type)
  rcases Heap.points_allocate tidy before points with old | ⟨rfl, among⟩
  · exact .inl (shrinks.points old)
  · refine .inr ⟨rfl, ?_⟩
    simp only [Payload.children, Option.toList_none, List.append_nil, List.mem_cons] at among
    rcases among with rfl | argument
    · exact .inl rfl
    · exact .inr (mem_argumentsOf argument)

/-- A value is an instance of a type if it is an exception of a class that derives from it. -/
theorem instanceClass?_eq_some_iff
    {type value own : Handle} :
    interp.instanceClass? type (some value) = some own ↔
      ∃ info,
        interp.heap.payload? value = some (.exception info) ∧
          interp.heap.isSubclass info.type type = true ∧ info.type = own := by
  rw [instanceClass?, Option.bind_some]
  split
  · next info holds =>
      simp only [holds, Option.some.injEq, Payload.exception.injEq, exists_eq_left']
      split
      · next derives => simp [derives]
      · next apart => simp [apart]
  · next plain =>
      constructor
      · nofun
      · rintro ⟨info, holds, -⟩
        exact absurd holds (plain info)

/-- What is no class of exceptions cannot be normalized. -/
theorem normalize_of_misfit
    {triple : Triple}
    (misfit : interp.isExceptionClass triple.type = false) :
    interp.normalize triple =
      (.error {},
        interp.raise "TypeError"
          ("exceptions must derive from BaseException, not '" ++
            interp.nameOfMisfit triple.type ++ "'")) := by
  simp [normalize, misfit]

/-- An instance is kept. -/
theorem normalize_of_instance
    {triple : Triple}
    {value own : Handle}
    (isClass : interp.isExceptionClass triple.type = true)
    (isValue : triple.value = some value)
    (kept : interp.instanceClass? triple.type (some value) = some own) :
    interp.normalize triple =
      (.ok { triple with type := own },
        (interp.narrow triple.type own).attachTraceback value triple.traceback) := by
  simp [normalize, isClass, isValue, kept, narrow]

/-- An instance is made of what is none. -/
theorem normalize_of_other
    {triple : Triple}
    (isClass : interp.isExceptionClass triple.type = true)
    (other : interp.instanceClass? triple.type triple.value = none) :
    interp.normalize triple =
      (.ok { triple with value := some (interp.instantiate triple.type triple.value).1 },
        (interp.instantiate triple.type triple.value).2.attachTraceback
          (interp.instantiate triple.type triple.value).1 triple.traceback) := by
  simp [normalize, isClass, other, instantiate]

/-- The three ways in which normalizing ends. -/
theorem normalize_cases (interp : Interpreter) (triple : Triple) :
    interp.isExceptionClass triple.type = false ∧
        interp.normalize triple =
          (.error {},
            interp.raise "TypeError"
              ("exceptions must derive from BaseException, not '" ++
                interp.nameOfMisfit triple.type ++ "'")) ∨
      (∃ value info,
        triple.value = some value ∧
          interp.isExceptionClass triple.type = true ∧
            interp.heap.payload? value = some (.exception info) ∧
              interp.instanceClass? triple.type (some value) = some info.type ∧
                interp.normalize triple =
                  (.ok { triple with type := info.type },
                    (interp.narrow triple.type info.type).attachTraceback value
                      triple.traceback)) ∨
      interp.normalize triple =
        (.ok { triple with value := some (interp.instantiate triple.type triple.value).1 },
          (interp.instantiate triple.type triple.value).2.attachTraceback
            (interp.instantiate triple.type triple.value).1 triple.traceback) := by
  cases isClass : interp.isExceptionClass triple.type with
  | false => exact .inl ⟨rfl, normalize_of_misfit isClass⟩
  | true =>
      right
      cases own : interp.instanceClass? triple.type triple.value with
      | none => exact .inr (normalize_of_other isClass own)
      | some type =>
          left
          obtain ⟨value, isValue⟩ : ∃ value, triple.value = some value := by
            cases isValue : triple.value with
            | none => simp [isValue, instanceClass?] at own
            | some value => exact ⟨value, rfl⟩
          rw [isValue] at own
          rcases instanceClass?_eq_some_iff.mp own with ⟨info, holds, -, rfl⟩
          exact ⟨value, info, isValue, rfl, holds, own, normalize_of_instance isClass isValue own⟩

/-- What a call of `normalize` leaves with the caller. -/
def normalized (interp : Interpreter) (triple : Triple) : Triple :=
  (interp.normalize triple).1.toOption.getD triple

theorem Ledger.normalize
    {triple : Triple}
    (ledger : interp.Ledger acyclic (triple.type ::ₘ (triple.value.toList + credit)))
    (there :
      acyclic →
        interp.heap.HasRoom →
          ∀ entry, triple.traceback = some entry → interp.heap.isLive entry = true)
    (open_ended : acyclic → interp.heap.HasRoom → interp.OpenEnded triple) :
    (interp.normalize triple).2.Ledger acyclic
      ((interp.normalized triple).type ::ₘ ((interp.normalized triple).value.toList + credit)) := by
  rw [Interpreter.normalized]
  rcases interp.normalize_cases triple with
    ⟨-, result⟩ | ⟨value, info, isValue, isClass, holds, kept, result⟩ | result
  · rw [result]
    exact ledger.raise _ _
  · rw [result]
    simp only [Except.toOption, Option.getD_some]
    have shrinks := interp.shrinks_narrow triple.type info.type
    have classed := ledger.narrow info.type fun room =>
      ledger.heap.isLive_of_points room ⟨_, holds, by simp [Payload.children]⟩
    refine classed.attachTraceback (fun room => ?_) ?_
    · exact classed.isLive_of_mem room (by simp [isValue])
    · intro isAcyclic room bare other target holds' isTarget reaches
      have live : (interp.narrow triple.type info.type).heap.isLive value = true :=
        classed.isLive_of_mem room (by simp [isValue])
      have bare' : interp.heap.tracebackOf value = none := by
        rwa [Heap.tracebackOf, shrinks.payload?_eq live] at bare
      exact open_ended isAcyclic (shrinks.hasRoom_iff.mp room) value isValue isClass
        (by simp [kept]) bare' other target (shrinks.payload holds') isTarget
        (shrinks.reaches reaches)
  · rw [result]
    simp only [Except.toOption, Option.getD_some]
    have made := ledger.instantiate
    refine (made.attachTraceback (fun room => made.isLive_of_mem room (by simp)) ?_).congr _ ?_
    · intro isAcyclic room _ info target _ isTarget
      rcases ledger.fresh_instantiate room with ⟨unlinked, fresh, -⟩
      obtain ⟨entry, found⟩ := (Heap.isLive_iff _ _).mp
        (there isAcyclic (hasRoom_of_instantiate room) target isTarget)
      exact unlinked.not_reaches fun same => fresh (same ▸ Heap.isCurrent_of_find? found)
    · simp [Multiset.cons_swap]

/--
The value of a normalized triple is the instance that was there, or one that is
new and to which nothing has a link.  Only it has new links.
-/
theorem Ledger.normalize_ok
    {triple triple' : Triple}
    (ledger : interp.Ledger acyclic (triple.type ::ₘ (triple.value.toList + credit)))
    (there :
      interp.heap.HasRoom →
        ∀ entry, triple.traceback = some entry → interp.heap.isLive entry = true)
    (ok : interp.normalize triple = (.ok triple', interp'))
    (room : interp'.heap.HasRoom) :
    ∃ value,
      triple'.value = some value ∧
        (triple.value = some value ∧ interp.isExceptionClass triple.type = true ∧
            (interp.instanceClass? triple.type (some value)).isSome = true ∨
          interp'.heap.Unlinked value ∧ ¬ interp.heap.IsCurrent value) ∧
          ∀ parent child,
            interp'.heap.Points parent child →
              interp.heap.Points parent child ∨
                parent = value ∧
                  (child ∈ triple.references ∨ ∃ other, interp.heap.Points other child) := by
  have viaTraceback {child : Handle} (isTraceback : triple.traceback = some child) :
      child ∈ triple.references := by
    simp [Triple.references, isTraceback]
  rcases interp.normalize_cases triple with
    ⟨-, result⟩ | ⟨value, info, isValue, isClass, holds, kept, result⟩ | result
  · rw [result] at ok
    cases ok
  · rw [result] at ok
    cases ok
    refine ⟨value, isValue, .inl ⟨isValue, isClass, by simp [kept]⟩, ?_⟩
    intro parent child points
    have shrinks := interp.shrinks_narrow triple.type info.type
    have classed := ledger.narrow info.type fun room =>
      ledger.heap.isLive_of_points room ⟨_, holds, by simp [Payload.children]⟩
    have live : (interp.narrow triple.type info.type).heap.isLive value = true :=
      classed.isLive_of_mem ((hasRoom_attachTraceback _ _ _).mp room) (by simp [isValue])
    rcases points_attachTraceback ((shrinks.payload?_eq live).trans holds) points with
      old | ⟨rfl, isTraceback⟩
    · exact .inl (shrinks.points old)
    · exact .inr ⟨rfl, .inl (viaTraceback isTraceback)⟩
  · rw [result] at ok
    cases ok
    have made := (hasRoom_attachTraceback _ _ _).mp room
    rcases ledger.fresh_instantiate made with ⟨unlinked, fresh, holds⟩
    refine ⟨_, rfl, .inr ⟨?_, fresh⟩, ?_⟩
    · intro parent points
      rcases points_attachTraceback holds points with old | ⟨-, isTraceback⟩
      · exact unlinked parent old
      · obtain ⟨entry, found⟩ := (Heap.isLive_iff _ _).mp
          (there (hasRoom_of_instantiate made) _ isTraceback)
        exact fresh (Heap.isCurrent_of_find? found)
    · intro parent child points
      rcases points_attachTraceback holds points with old | ⟨rfl, isTraceback⟩
      · rcases ledger.points_instantiate made old with older | ⟨rfl, rfl | isValue | pointed⟩
        · exact .inl older
        · exact .inr ⟨rfl, .inl (by simp [Triple.references])⟩
        · exact .inr ⟨rfl, .inl (by simp [Triple.references, isValue])⟩
        · exact .inr ⟨rfl, .inr pointed⟩
      · exact .inr ⟨rfl, .inl (viaTraceback isTraceback)⟩

theorem hasRoom_of_normalize
    {triple : Triple}
    {outcome : Except Raised Triple}
    (normalized : interp.normalize triple = (outcome, interp'))
    (room : interp'.heap.HasRoom) :
    interp.heap.HasRoom := by
  rcases interp.normalize_cases triple with
    ⟨-, result⟩ | ⟨value, info, -, -, -, -, result⟩ | result
  · rw [result] at normalized
    cases normalized
    exact hasRoom_of_raiseInstance room
  · rw [result] at normalized
    cases normalized
    rwa [hasRoom_attachTraceback, (shrinks_narrow _ _ _).hasRoom_iff] at room
  · rw [result] at normalized
    cases normalized
    rw [hasRoom_attachTraceback] at room
    exact hasRoom_of_instantiate room

/-! ## Owning a whole triple -/

/-- A normalized triple has a value and the traceback that it had before. -/
theorem normalize_ok_components
    {triple triple' : Triple}
    (ok : interp.normalize triple = (.ok triple', interp')) :
    (∃ value, triple'.value = some value) ∧ triple'.traceback = triple.traceback := by
  rcases interp.normalize_cases triple with
    ⟨-, result⟩ | ⟨value, info, isValue, -, -, -, result⟩ | result
  · rw [result] at ok
    cases ok
  · rw [result] at ok
    cases ok
    exact ⟨⟨value, isValue⟩, rfl⟩
  · rw [result] at ok
    cases ok
    exact ⟨⟨_, rfl⟩, rfl⟩

/-- The caller has a reference to each part of a triple that it gives up. -/
theorem Ledger.normalizing
    {triple : Triple}
    (ledger : interp.Ledger acyclic (triple.references + credit)) :
    interp.Ledger acyclic
        (triple.type ::ₘ (triple.value.toList + (triple.traceback.toList + credit))) ∧
      (interp.heap.HasRoom →
        ∀ entry, triple.traceback = some entry → interp.heap.isLive entry = true) := by
  constructor
  · refine ledger.congr _ ?_
    rw [Triple.references, Multiset.cons_add, add_assoc]
  · intro room entry isTraceback
    exact ledger.isLive_of_mem room (by simp [Triple.references, isTraceback])

/-- The references to a triple become those to the normalized one. -/
theorem Ledger.normalize_of_ok
    {triple triple' : Triple}
    (ledger : interp.Ledger acyclic (triple.references + credit))
    (open_ended : acyclic → interp.heap.HasRoom → interp.OpenEnded triple)
    (ok : interp.normalize triple = (.ok triple', interp')) :
    interp'.Ledger acyclic (triple'.references + credit) := by
  rcases normalize_ok_components ok with ⟨-, kept⟩
  have after := ledger.normalizing.1.normalize (fun _ => ledger.normalizing.2) open_ended
  rw [normalized, ok] at after
  refine after.congr _ ?_
  simp only [Triple.references, Except.toOption, Option.getD_some, kept, Multiset.cons_add,
    add_assoc]

private theorem normalize_eq_error
    {triple : Triple}
    {raised : Raised}
    (failed : interp.normalize triple = (.error raised, interp')) :
    ∃ message, interp' = interp.raise "TypeError" message := by
  rcases interp.normalize_cases triple with
    ⟨-, result⟩ | ⟨value, info, -, -, -, -, result⟩ | result
  · rw [result] at failed
    cases failed
    exact ⟨_, rfl⟩
  · rw [result] at failed
    cases failed
  · rw [result] at failed
    cases failed

/-- A triple that cannot be normalized stays as it was. -/
theorem Ledger.normalize_of_error
    {triple : Triple}
    {raised : Raised}
    (ledger : interp.Ledger acyclic credit)
    (failed : interp.normalize triple = (.error raised, interp')) :
    interp'.Ledger acyclic credit := by
  rcases normalize_eq_error failed with ⟨message, rfl⟩
  exact ledger.raise _ _

/-- What is raised in its place has its traceback. -/
theorem Ledger.traced_normalize
    {triple : Triple}
    {raised : Raised}
    (ledger : interp.Ledger acyclic credit)
    (failed : interp.normalize triple = (.error raised, interp'))
    (room : interp'.heap.HasRoom) :
    interp'.PendingTraced := by
  rcases normalize_eq_error failed with ⟨message, rfl⟩
  exact ledger.traced_raise (by decide) room

/-! ## Causes -/

/-- Making an object the cause of the pending error, once normalized, closes no cycle. -/
def PendingAccepts (interp : Interpreter) (cause : Handle) : Prop :=
  ∀ triple value,
    interp.pending = some triple →
      triple.value = some value →
        interp.isExceptionClass triple.type = true →
          (interp.instanceClass? triple.type (some value)).isSome = true →
            interp.heap.OpenEnded value (some cause)

/-- The value of a normalized triple takes a cause if the kept one did. -/
theorem Ledger.openEnded_normalize
    {triple triple' : Triple}
    {value cause : Handle}
    (ledger : interp.Ledger acyclic (triple.references + credit))
    (ok : interp.normalize triple = (.ok triple', interp'))
    (room : interp'.heap.HasRoom)
    (isValue : triple'.value = some value)
    (live : interp.heap.isLive cause = true)
    (accepts :
      triple.value = some value →
        interp.isExceptionClass triple.type = true →
          (interp.instanceClass? triple.type (some value)).isSome = true →
            interp.heap.OpenEnded value (some cause)) :
    interp'.heap.OpenEnded value (some cause) := by
  obtain ⟨value', isValue', origin, links⟩ :=
    ledger.normalizing.1.normalize_ok ledger.normalizing.2 ok room
  rcases Option.some.inj (isValue'.symm.trans isValue) with rfl : value' = value
  intro info target _ isTarget reaches
  rcases Option.some.inj isTarget with rfl
  rcases origin with ⟨kept, isClass, isInstance⟩ | ⟨unlinked, fresh⟩
  · obtain ⟨info, holds⟩ : ∃ info, interp.heap.payload? value' = some (.exception info) := by
      rcases Option.isSome_iff_exists.mp isInstance with ⟨type, isType⟩
      rcases instanceClass?_eq_some_iff.mp isType with ⟨info, holds, -, -⟩
      exact ⟨info, holds⟩
    refine accepts kept isClass isInstance info cause holds rfl (.of_links_at ?_ reaches)
    intro parent child points
    rcases links parent child points with old | ⟨isValue, -⟩
    · exact .inl old
    · exact .inr isValue
  · rcases (Heap.isLive_iff _ _).mp live with ⟨entry, found⟩
    exact unlinked.not_reaches (fun same => fresh (same ▸ Heap.isCurrent_of_find? found)) reaches

/-- The value of a normalized triple closes no cycle as the cause of a new instance. -/
theorem Ledger.openEnded_unlinked
    {triple triple' : Triple}
    {value cause : Handle}
    (ledger : interp.Ledger acyclic (triple.references + credit))
    (ok : interp.normalize triple = (.ok triple', interp'))
    (room : interp'.heap.HasRoom)
    (isCause : triple'.value = some cause)
    (live : interp.heap.isLive value = true)
    (unlinked : interp.heap.Unlinked value)
    (apart : value ∉ triple.references) :
    interp'.heap.OpenEnded value (some cause) := by
  obtain ⟨cause', isCause', origin, links⟩ :=
    ledger.normalizing.1.normalize_ok ledger.normalizing.2 ok room
  rcases Option.some.inj (isCause'.symm.trans isCause) with rfl : cause' = cause
  have still : interp'.heap.Unlinked value := by
    intro parent points
    rcases links parent value points with old | ⟨-, component | ⟨other, old⟩⟩
    · exact unlinked parent old
    · exact apart component
    · exact unlinked other old
  have distinct : cause' ≠ value := by
    rintro rfl
    rcases origin with ⟨kept, -, -⟩ | ⟨-, fresh⟩
    · exact apart (by simp [Triple.references, kept])
    · rcases (Heap.isLive_iff _ _).mp live with ⟨entry, found⟩
      exact fresh (Heap.isCurrent_of_find? found)
  intro info target _ isTarget
  rcases Option.some.inj isTarget with rfl
  exact still.not_reaches distinct

end Custody.Interpreter
