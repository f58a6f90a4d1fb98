import Custody.Proofs.Finalizer.Transparency
import Custody.Proofs.Finalizer.Upkeep
import Custody.Proofs.Heap.Display
import Custody.Proofs.Session.Schedules
import Custody.Proofs.Session.Strokes
import Custody.Proofs.Tracking.Objects

/-!
# What lasts along a run

Whatever a runtime is asked to do, records remain records of their objects, and
what was told is not forgotten.  Only a resolver could write to an object that is
there; so if none was asked, what an object holds it holds for as long as it is
there, but for the links of exceptions.

As long as there are handles left no resolver is asked, and so the objects of a
runtime last through the whole of every run.
-/

namespace Custody

/-! ## Ways of changing a heap -/

/--
Ways of changing a heap that can be taken one after another, and one of which is
to give a reference back.
-/
class Heap.IsWay (way : Heap → Heap → Prop) : Prop where
  refl (heap : Heap) : way heap heap
  trans {heap heap' heap'' : Heap} (first : way heap heap') (second : way heap' heap'') :
    way heap heap''
  decref {heap heap' : Heap} {handle : Handle} {remaining : Int}
    (released : heap.decref handle = .ok (remaining, heap')) :
    way heap heap'

instance Heap.Evolves.isWay : Heap.IsWay Heap.Evolves where
  refl := fun _ => .refl
  trans := Relation.ReflTransGen.trans
  decref := fun released => .single (.decref released)

instance Heap.Shrinks.isWay : Heap.IsWay Heap.Shrinks where
  refl := .refl
  trans := .trans
  decref := .decref

namespace Session

variable {way : Heap → Heap → Prop} [Heap.IsWay way]
variable {session session' session'' : Session}

/-! ## Drains -/

section Kept

variable {kept : Interpreter → Prop}

/-- Where no resolver was asked, what giving references back leaves true survives a drain. -/
theorem kept_of_unchecked
    {drained : Session}
    (before : kept session.interp)
    (upkept : session.unchecked.Upkept kept → drained.unchecked.Upkept kept) :
    kept drained.interp :=
  (upkept ⟨before, nofun⟩).interp

theorem kept_collect
    (survives : SurvivesReleases kept)
    (untroubled : session.collect.2.registry.Untroubled)
    (before : kept session.interp) :
    kept session.collect.2.interp := by
  apply kept_of_unchecked before
  intro upkept
  have collected := upkept.collect survives
  rwa [collect_unchecked untroubled] at collected

theorem kept_collectReporting
    (survives : SurvivesReleases kept)
    (untroubled : session.collectReporting.2.registry.Untroubled)
    (before : kept session.interp) :
    kept session.collectReporting.2.interp := by
  apply kept_of_unchecked before
  intro upkept
  have collected := upkept.collectReporting survives
  rwa [collectReporting_unchecked untroubled] at collected

theorem kept_collectThrottled
    (survives : SurvivesReleases kept)
    (untroubled : session.collectThrottled.2.registry.Untroubled)
    (before : kept session.interp) :
    kept session.collectThrottled.2.interp := by
  rw [collectThrottled] at untroubled ⊢
  split at untroubled
  · next due =>
      rw [if_pos due]
      exact kept_collectReporting survives untroubled before
  · next early =>
      rw [if_neg early]
      exact before

/-- What giving references back leaves true is true when a record gave back its own. -/
theorem kept_releaseNow
    (survives : SurvivesReleases kept)
    (ref : RecordRef)
    (before : kept session.interp) :
    kept (session.releaseNow ref).2.interp := by
  rw [Session.releaseNow]
  simp only
  split
  · split
    · next released => exact survives _ _ _ _ before released
    · exact before
  · exact before

theorem kept_releaseOwner
    (survives : SurvivesReleases kept)
    (ref : RecordRef)
    (before : kept session.interp) :
    kept (session.releaseOwner ref).2.interp := by
  rw [releaseOwner]
  simp only
  split
  · split
    · next released => exact survives _ _ _ _ before released
    · exact before
  · exact before

theorem kept_releaseOwners
    (survives : SurvivesReleases kept)
    (refs : List RecordRef)
    (before : kept session.interp) :
    kept (session.releaseOwners refs).2.interp := by
  induction refs generalizing session with
  | nil => exact before
  | cons ref rest step => exact step (kept_releaseOwner survives ref before)

end Kept

theorem survivesReleases_way (heap : Heap) :
    SurvivesReleases fun interp => way heap interp.heap := by
  intro interp handle remaining interp' before released
  rcases Interpreter.decref_eq_ok_iff.mp released with ⟨heap, counted, rfl⟩
  exact Heap.IsWay.trans before (Heap.IsWay.decref counted)

/-- Nothing but the heap is touched by giving references back. -/
theorem survivesReleases_onHeap (interp : Interpreter) : SurvivesReleases interp.OnHeap :=
  fun _ _ _ _ before released => before.trans (.decref released)

/-! ## Passing from one session to another -/

/--
From one session to another records keep their objects, nothing told is
forgotten, and if no resolver was asked the heap changed in a certain way.
-/
structure Passes (way : Heap → Heap → Prop) (session session' : Session) : Prop where
  objects : session.registry.KeepsObjects session'.registry
  told : ∀ event ∈ session.registry.journal, event ∈ session'.registry.journal
  heap : session'.registry.Untroubled → way session.interp.heap session'.interp.heap

namespace Passes

omit [Heap.IsWay way] in
theorem untroubled
    (passes : session.Passes way session')
    (untroubled : session'.registry.Untroubled) :
    session.registry.Untroubled :=
  untroubled.of_told passes.told

theorem refl (session : Session) : session.Passes way session :=
  ⟨.refl _, fun _ => id, fun _ => Heap.IsWay.refl _⟩

theorem trans
    (first : session.Passes way session')
    (second : session'.Passes way session'') :
    session.Passes way session'' where
  objects := first.objects.trans second.objects
  told := fun event before => second.told event (first.told event before)
  heap := fun untroubled =>
    Heap.IsWay.trans (first.heap (second.untroubled untroubled)) (second.heap untroubled)

omit [Heap.IsWay way] in
theorem of_leads
    {hand hand' : Nat}
    {batch batch' : List PendingRelease}
    (leads : session.Leads hand batch session' hand' batch')
    (heap : session'.registry.Untroubled → way session.interp.heap session'.interp.heap) :
    session.Passes way session' :=
  ⟨.moves leads.moves, fun _ => leads.moves.told, heap⟩

theorem updateRegistry
    {kind : Event → Prop}
    {change : Registry → Registry}
    (defers : session.registry.Defers kind (change session.registry)) :
    session.Passes way (session.updateRegistry change) :=
  ⟨.of_defers defers, fun _ => defers.told, fun _ => Heap.IsWay.refl _⟩

theorem register
    {handle : Handle}
    {ref : RecordRef}
    (registered : session.register handle = .ok (ref, session')) :
    session.Passes way session' := by
  have leads : session.Leads 0 [] session' 0 [] := .register registered
  rcases register_eq_ok registered with ⟨typeName, rfl, -⟩
  exact of_leads leads fun _ => Heap.IsWay.refl _

theorem hold (session : Session) :
    session.Passes way
      (session.updateRegistry fun registry => registry.hold session.tracker) :=
  .of_leads (.hold session 0) fun _ => Heap.IsWay.refl _

theorem collectThrottled (session : Session) : session.Passes way session.collectThrottled.2 :=
  of_leads (leads_collectThrottled 0 session) fun untroubled =>
    kept_collectThrottled (survivesReleases_way _) untroubled (Heap.IsWay.refl _)

end Passes

/-! ## Strokes and requests -/

theorem passes_releaseOwner
    (ref : RecordRef)
    (session : Session) :
    session.Passes way (session.releaseOwner ref).2 := by
  have releases := releases_releaseOwner ref session
  have objects : session.registry.KeepsObjects (session.releaseOwner ref).2.registry := by
    refine ⟨releases.size.ge, fun other _ => ?_, fun other _ still => ?_⟩
    · rcases releases.record other with same | changed
      · rw [same]
      · rw [changed]
    · rcases releases.record other with same | changed
      · rwa [same] at still
      · rw [changed] at still
        cases still
  exact ⟨objects, fun _ => told_releaseOwner ref, fun _ =>
    kept_releaseOwner (survivesReleases_way _) ref (Heap.IsWay.refl _)⟩

theorem passes_releaseOwners
    (refs : List RecordRef)
    (session : Session) :
    session.Passes way (session.releaseOwners refs).2 := by
  induction refs generalizing session with
  | nil => exact .refl session
  | cons ref rest step => exact (passes_releaseOwner ref session).trans (step _)

theorem passes_releaseAll (session : Session) : session.Passes way session.releaseAll.2 := by
  have emptied : session.Passes way session.emptied :=
    ⟨.of_records rfl, fun _ => id, fun _ => Heap.IsWay.refl _⟩
  rw [releaseAll_eq_emptied]
  exact (emptied.trans (passes_releaseOwners _ _)).trans
    (.updateRegistry (Registry.Defers.discardBatch _ _))

theorem passes_releaseNow
    (session : Session)
    (ref : RecordRef) :
    session.Passes way (session.releaseNow ref).2 :=
  .of_leads (.releaseNow session 0 ref) fun _ =>
    kept_releaseNow (survivesReleases_way _) ref (Heap.IsWay.refl _)

theorem Stroke.passes
    (stroke : session.Stroke session') :
    session.Passes Heap.Evolves session' := by
  cases stroke with
  | note notes evolves =>
      exact ⟨.of_deferred notes.size notes.record, fun _ => notes.told, fun _ => evolves.heap⟩
  | register registered => exact .register registered
  | releaseNow ref => exact passes_releaseNow session ref
  | detach tracker ref =>
      refine ⟨.detach _ tracker ref, fun event before => ?_, fun _ => .refl⟩
      simp only [Registry.detach]
      split
      · exact before
      · exact before
  | releaseAll => exact passes_releaseAll session
  | collectReporting =>
      exact .of_leads (leads_collectReporting 0 session) fun untroubled =>
        kept_collectReporting (survivesReleases_way _) untroubled (Heap.IsWay.refl _)

theorem Strokes.passes
    (strokes : session.Strokes session') :
    session.Passes Heap.Evolves session' := by
  induction strokes with
  | refl => exact .refl session
  | tail _ stroke before => exact before.trans stroke.passes

theorem passes_perform
    (request : Request)
    (session : Session) :
    session.Passes Heap.Evolves (request.perform session).2 := by
  by_cases asks : request = .act .collect
  · subst asks
    exact .of_leads (leads_collect 0 session) fun untroubled =>
      kept_collect (survivesReleases_way _) untroubled (Heap.IsWay.refl _)
  · exact Strokes.passes (relates_perform asks)

/-! ## Built-in names -/

/-- Where no resolver was asked, no built-in name was changed. -/
theorem Stroke.builtins
    (stroke : session.Stroke session')
    (untroubled : session'.registry.Untroubled) :
    session'.interp.builtins = session.interp.builtins := by
  cases stroke with
  | note notes evolves => exact evolves.builtins
  | register registered =>
      rcases register_eq_ok registered with ⟨typeName, rfl, -⟩
      rfl
  | releaseNow ref => exact (kept_releaseNow (survivesReleases_onHeap _) ref (.refl _)).builtins
  | detach tracker ref => rfl
  | releaseAll =>
      rw [releaseAll_eq_emptied]
      exact (kept_releaseOwners (survivesReleases_onHeap session.emptied.interp) _
        (.refl _)).builtins
  | collectReporting =>
      exact (kept_collectReporting (survivesReleases_onHeap _) untroubled (.refl _)).builtins

theorem Strokes.builtins
    (strokes : session.Strokes session')
    (untroubled : session'.registry.Untroubled) :
    session'.interp.builtins = session.interp.builtins := by
  induction strokes with
  | refl => rfl
  | tail _ stroke before =>
      exact (stroke.builtins untroubled).trans (before (stroke.passes.untroubled untroubled))

theorem builtins_perform
    (request : Request)
    (untroubled : (request.perform session).2.registry.Untroubled) :
    (request.perform session).2.interp.builtins = session.interp.builtins := by
  by_cases asks : request = .act .collect
  · subst asks
    exact (kept_collect (survivesReleases_onHeap _) untroubled (.refl _)).builtins
  · exact Strokes.builtins (relates_perform asks) untroubled

/-! ## Runs -/

variable {config : Config} {hasTable : Bool} {owned : Multiset Handle}

/-- A runtime starts with an interpreter that was fresh. -/
theorem evolves_opened
    (config : Config)
    (hasTable : Bool) :
    Interpreter.initial.Evolves (opened config hasTable).interp := by
  -- Of a runtime in general, so that no table is ever looked up.
  have general (embedding : Embedding) (registry : Registry) :
      embedding.interp.Evolves
        ({ (if hasTable then embedding.withTable else embedding) with
            registry } : Session).interp := by
    cases hasTable with
    | false => exact .refl _
    | true =>
        have resolved := ExceptionTable.evolves_resolve embedding.interp
        rw [if_pos rfl, withTable_eq]
        generalize ExceptionTable.resolve embedding.interp = result at resolved ⊢
        exact resolved
  exact general (.bare 0 config 0) _

namespace Employed

/-- As long as there is room, whatever was done to the interpreter leaves objects what they are. -/
theorem evolves
    (employed : Employed config hasTable session owned)
    (room : session.interp.heap.HasRoom) :
    Interpreter.initial.Evolves session.interp := by
  induction employed with
  | opened => exact evolves_opened config hasTable
  | request request before tolerated step =>
      have after := before.request request tolerated
      have untroubled := after.sound.untroubled room
      have heap := (passes_perform request _).heap untroubled
      exact (step (heap.hasRoom room)).trans ⟨heap, builtins_perform request untroubled⟩

/-- Whatever was done to the heap, it was empty at first. -/
theorem origin
    (employed : Employed config hasTable session owned)
    (room : session.interp.heap.HasRoom) :
    Heap.empty.Evolves session.interp.heap :=
  Relation.ReflTransGen.trans Interpreter.evolves_initial (employed.evolves room).heap

/-- Nothing points at an object that is gone. -/
theorem whole
    (employed : Employed config hasTable session owned)
    (room : session.interp.heap.HasRoom) :
    session.interp.heap.Whole := by
  rcases employed.sound.exists_ledger with ⟨others, ledger, -⟩
  exact fun points => ledger.heap.isLive_of_points room points

end Employed

/-- A run that has come to a session and goes on from there. -/
inductive Onward
    (config : Config)
    (hasTable : Bool)
    (start : Session) :
    Session → Multiset Handle → Prop where
  | start
      {owned : Multiset Handle}
      (employed : Employed config hasTable start owned) :
      Onward config hasTable start start owned
  | request
      {session : Session}
      {owned : Multiset Handle}
      (request : Request)
      (before : Onward config hasTable start session (request.taken + owned))
      (tolerated : request.Tolerated session) :
      Onward config hasTable start (request.perform session).2
        ((request.perform session).1 + owned)

namespace Onward

variable {start : Session}

theorem employed
    (onward : Onward config hasTable start session owned) :
    Employed config hasTable session owned := by
  induction onward with
  | start employed => exact employed
  | request request _ tolerated before => exact .request request before tolerated

theorem exists_employed
    (onward : Onward config hasTable start session owned) :
    ∃ owned, Employed config hasTable start owned := by
  induction onward with
  | start employed => exact ⟨_, employed⟩
  | request _ _ _ before => exact before

/-- A request that takes nothing over and returns nothing. -/
theorem follow
    (request : Request)
    (before : Onward config hasTable start session owned)
    (taken : request.taken = 0)
    (received : (request.perform session).1 = [])
    (tolerated : request.Tolerated session) :
    Onward config hasTable start (request.perform session).2 owned := by
  have before' : Onward config hasTable start session (request.taken + owned) := by
    rwa [taken, zero_add]
  have after := before'.request request tolerated
  rwa [received, Multiset.coe_nil, zero_add] at after

theorem passes
    (onward : Onward config hasTable start session owned) :
    start.Passes Heap.Evolves session := by
  induction onward with
  | start => exact .refl start
  | request request _ _ before => exact before.trans (passes_perform request _)

/-- As long as there is room no built-in name is changed. -/
theorem builtins
    (onward : Onward config hasTable start session owned)
    (room : session.interp.heap.HasRoom) :
    session.interp.builtins = start.interp.builtins := by
  rcases onward.exists_employed with ⟨_, started⟩
  have evolves := onward.passes.heap (onward.employed.sound.untroubled room)
  exact (onward.employed.evolves room).builtins.trans
    (started.evolves (evolves.hasRoom room)).builtins.symm

end Onward

end Session

end Custody
