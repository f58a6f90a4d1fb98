import Custody.Proofs.Finalizer.Moves
import Custody.Proofs.Tracking.Mentions
import Custody.Proofs.Tracking.Order

/-!
# What survives drains

A drain takes the items from the queue and deals with them one by one, perhaps puts some
back, and tells what it did.  What each of these steps keeps true of the registry is
true after the drain.

So no drain closes a tracker.  And if the hooks that wait mention only records below a
bound, then live records from the bound on are live after the drain, and what waits then
mentions no more than before.
-/

namespace Custody

namespace Registry

/-- What is true of a registry survives drains in which every item is fine. -/
structure SurvivesDrains
    (home : TrackerRef)
    (fine : PendingRelease → Prop)
    (kept : Registry → Prop) :
    Prop where
  waits {registry : Registry} :
    kept registry → ∀ item ∈ (registry.tracker home).queue.items, fine item
  queued {registry : Registry} (change : PendingQueue PendingRelease → PendingQueue PendingRelease) :
    kept registry →
      (∀ item ∈ (change (registry.tracker home).queue).items, fine item) →
        kept (registry.updateQueue home change)
  dealt {registry registry' : Registry} {item : PendingRelease} :
    kept registry → fine item → Deal home item registry registry' → kept registry'
  told {registry registry' : Registry} :
    kept registry → registry.Tells (fun _ => True) registry' → kept registry'

variable {bound : Nat} {home : TrackerRef}

/-- Drains overlook what no hook mentions. -/
theorem survivesDrains_overlooks (start : Registry) :
    SurvivesDrains home (fun item => ∀ ref ∈ Hook.mentionedBy item.hook, ref < bound)
      fun registry => registry.MentionsBelow bound ∧ Overlooks bound start registry where
  waits := fun kept => kept.1 home
  queued := fun _ kept fine =>
    have changed : Overlooks bound _ _ := .updateQueue _ home fun _ => fine
    ⟨(changed kept.1).1, kept.2.trans changed⟩
  dealt := fun kept fine dealt =>
    have changed := Overlooks.deal dealt fine
    ⟨(changed kept.1).1, kept.2.trans changed⟩
  told := fun kept tells =>
    have changed : Overlooks bound _ _ := .of_tells tells
    ⟨(changed kept.1).1, kept.2.trans changed⟩

/-- No drain opens or closes its tracker. -/
theorem survivesDrains_isOpen (status : Bool) :
    SurvivesDrains home (fun _ => True)
      fun registry => (registry.tracker home).isOpen = status where
  waits := fun _ _ _ => trivial
  queued := by
    intro registry change kept _
    have same : ((registry.updateQueue home change).tracker home).isOpen = _ :=
      read_updateTracker Tracker.isOpen registry home home fun _ => rfl
    exact same.trans kept
  dealt := fun kept _ dealt => dealt.isOpen.trans kept
  told := by
    rintro registry registry' kept ⟨_, rfl, -⟩
    exact kept

end Registry

namespace Session

open Registry (Overlooks SurvivesDrains)

variable {nested : Session → Except Abort Nat × Session} {session : Session}
variable {home : TrackerRef} {fine : PendingRelease → Prop} {kept : Registry → Prop}

/-- What survives drains is kept by every phase of one, as long as what waits is fine. -/
theorem sustained_survives
    (idles : Idles nested)
    (survives : SurvivesDrains home fine kept) :
    Sustained nested
      (fun _ rest session =>
        session.tracker = home ∧ kept session.registry ∧ ∀ item ∈ rest, fine item)
      fun session => session.tracker = home ∧ kept session.registry where
  items := fun validates =>
    { item := by
        rintro session item rest generation running ⟨rfl, before, allFine⟩
        rcases List.forall_mem_cons.mp allFine with ⟨first, later⟩
        have abides := Abides.drainItem idles validates generation item session running
        exact ⟨abides.tracker, survives.dealt before first
          (deal_drainItem idles validates generation item session running), later⟩
      requeueFront := by
        rintro session rest ⟨rfl, before, allFine⟩
        have returned : ∀ item ∈ (session.queue.requeueFront rest).items, fine item := by
          intro item waits
          rcases List.mem_append.mp waits with returned | waited
          · exact allFine item returned
          · exact survives.waits before item waited
        exact ⟨rfl, survives.queued (fun queue => queue.requeueFront rest) before returned,
          List.forall_mem_nil _⟩ }
  start := by
    rintro session _ ⟨rfl, before⟩
    exact ⟨rfl, survives.queued (fun _ => session.queue.takeSnapshot.2) before fun _ => nofun,
      survives.waits before⟩
  finish := fun _ before => before
  countError := fun before => before
  reportCollected := by
    rintro _ session log generation _ _ ⟨rfl, before, -⟩
    have told : session.registry.Tells (fun _ => True) _ :=
      tells_reportCollected_ite (fun _ _ _ _ => trivial) false log.length generation session
    exact ⟨(Spares.reportCollected log.length generation session).tracker,
      survives.told before told, List.forall_mem_nil _⟩
  stop := fun before => ⟨before.1, before.2.1⟩
  report := by
    rintro session error ⟨rfl, before⟩
    have told : session.registry.Tells (fun _ => True) _ :=
      tells_report (fun _ _ _ => trivial) none error session
    exact ⟨(Spares.report none error session).tracker, survives.told before told⟩

theorem survives_collectThrottled
    (survives : SurvivesDrains session.tracker fine kept)
    (before : kept session.registry) :
    kept session.collectThrottled.2.registry :=
  ((sustained_survives (idles_collectWithin 1) survives).collectThrottled ⟨rfl, before⟩).2

/-- A drain that a registration starts leaves the records live that no hook mentions. -/
theorem overlooks_collectThrottled
    {bound : Nat}
    (session : Session) :
    Overlooks bound session.registry session.collectThrottled.2.registry := by
  intro below
  exact (survives_collectThrottled (Registry.survivesDrains_overlooks session.registry)
    ⟨below, .refl _⟩).2 below

/-- A drain that a registration starts does not close the tracker. -/
theorem isOpen_collectThrottled (session : Session) :
    session.collectThrottled.2.ownTracker.isOpen = session.ownTracker.isOpen := by
  rw [ownTracker, (leads_collectThrottled 0 session).tracker]
  exact survives_collectThrottled (Registry.survivesDrains_isOpen _) rfl

end Session

end Custody
