import Custody.Proofs.Tracking.Waiting

/-!
# First queued, first taken up

The journal tells in which order records were queued, and in which order drains
took them up.  What was queued is what drains took up, followed by what waits:
nobody overtakes, and nobody is taken up twice.  The one exception is a queue
that is given up for good, and then its tracker is closed.
-/

namespace Custody.Registry

/-- The records of those items that carry a hook. -/
def hookedRecords (items : List PendingRelease) : List RecordRef :=
  (items.filter fun item => item.hook.isSome).map PendingRelease.record

@[simp]
theorem hookedRecords_nil : hookedRecords [] = [] :=
  rfl

@[simp]
theorem hookedRecords_append (items others : List PendingRelease) :
    hookedRecords (items ++ others) = hookedRecords items ++ hookedRecords others := by
  simp [hookedRecords]

theorem hookedRecords_singleton (item : PendingRelease) :
    hookedRecords [item] = if item.hook.isSome then [item.record] else [] := by
  rcases item with ⟨ref, hook⟩
  cases hook with
  | none => rfl
  | some _ => rfl

theorem hookedRecords_sublist (items : List PendingRelease) :
    (hookedRecords items).Sublist (items.map PendingRelease.record) :=
  List.filter_sublist.map _

/--
Of what waits drains took up some items from the front, and ran their hooks;
other items were queued at the back.
-/
structure Scene.Proceeds
    (home : TrackerRef)
    (scene scene' : Scene)
    (taken added : List PendingRelease) :
    Prop where
  waiting : taken ++ scene'.waiting home = scene.waiting home ++ added
  deferrals :
    scene'.registry.deferrals = scene.registry.deferrals ++ added.map PendingRelease.record
  takeUps : scene'.registry.takeUps = scene.registry.takeUps ++ taken.map PendingRelease.record
  hookRuns : scene'.registry.hookRuns = scene.registry.hookRuns ++ hookedRecords taken
  fresh : ∀ item ∈ added, (scene.registry.record item.record).state = .live
  nodup : (added.map PendingRelease.record).Nodup
  closed :
    (scene.registry.tracker home).isOpen = false →
      added = [] ∧ (scene'.registry.tracker home).isOpen = false

variable {home : TrackerRef} {scene scene' : Scene}

namespace Scene.Proceeds

/-- Nothing happened to the queue. -/
theorem of_alike
    (waiting : scene'.waiting home = scene.waiting home)
    (alike : scene.registry.TellsAlike scene'.registry)
    (closed :
      (scene.registry.tracker home).isOpen = false →
        (scene'.registry.tracker home).isOpen = false) :
    scene.Proceeds home scene' [] [] where
  waiting := by rw [List.nil_append, List.append_nil, waiting]
  deferrals := alike.deferrals.trans (List.append_nil _).symm
  takeUps := alike.takeUps.trans (List.append_nil _).symm
  hookRuns := alike.hookRuns.trans (List.append_nil _).symm
  fresh := nofun
  nodup := List.nodup_nil
  closed := fun isClosed => ⟨rfl, closed isClosed⟩

/-- Records may change, and the tracker of the runtime as far as its queue is not concerned. -/
theorem of_updateTracker
    {start registry : Registry}
    {hand hand' : Nat}
    {batch batch' : List PendingRelease}
    {change : Tracker → Tracker}
    (held : (⟨start, hand, batch⟩ : Scene).Held home)
    (trackers : registry.trackers = start.trackers)
    (journal : registry.journal = start.journal)
    (waiting :
      batch' ++ (change (start.tracker home)).queue.items =
        batch ++ (start.tracker home).queue.items)
    (closed :
      (start.tracker home).isOpen = false → (change (start.tracker home)).isOpen = false) :
    (⟨start, hand, batch⟩ : Scene).Proceeds home
      ⟨registry.updateTracker home change, hand', batch'⟩ [] [] := by
  have there : home < registry.trackers.size := trackers ▸ held.there
  have same : registry.tracker home = start.tracker home := by
    rw [Registry.tracker, trackers, Registry.tracker]
  have after : (registry.updateTracker home change).tracker home = change (start.tracker home) :=
    (tracker_updateTracker_self there change).trans (congrArg change same)
  refine of_alike ?_ (.of_journal journal) fun isClosed => ?_
  · rw [Scene.waiting, after]
    exact waiting
  · rw [after]
    exact closed isClosed

theorem of_queues
    {added : List PendingRelease}
    (queues : scene.Queues home scene' added) :
    scene.Proceeds home scene' [] added where
  waiting := by
    rw [List.nil_append, Scene.waiting, queues.batch, queues.items, Scene.waiting,
      List.append_assoc]
  deferrals := queues.deferrals
  takeUps := queues.takeUps.trans (List.append_nil _).symm
  hookRuns := queues.hookRuns.trans (List.append_nil _).symm
  fresh := fun item member => (queues.fresh item member).1
  nodup := queues.nodup
  closed := fun isClosed =>
    ⟨queues.closed isClosed,
      (congrArg (fun books => books.2.2.1) (queues.defers.books home)).trans isClosed⟩

theorem of_extends (extends_ : scene.Extends home scene') :
    ∃ taken added, scene.Proceeds home scene' taken added := by
  rcases extends_ with ⟨added, queues⟩
  exact ⟨[], added, of_queues queues⟩

end Scene.Proceeds

theorem Deal.isOpen
    {item : PendingRelease}
    {registry registry' : Registry}
    (dealt : Deal home item registry registry') :
    (registry'.tracker home).isOpen = (registry.tracker home).isOpen := by
  have taken := (Defers.takeUp registry item).books home
  have told {registry registry' : Registry} (tells : registry.Tells Event.IsPlain registry') :
      (registry'.tracker home).isOpen = (registry.tracker home).isOpen := by
    rcases tells with ⟨_, rfl, -⟩
    rfl
  have same := congrArg (fun books => books.2.2.1) taken
  cases dealt with
  | pass tells _ => exact (told tells).trans same
  | settle tells _ change _ tells' =>
      refine ((told tells').trans ?_).trans ((told tells).trans same)
      exact read_updateTracker Tracker.isOpen _ home home fun _ => rfl

/-- What a move does to the queue. -/
theorem Move.proceeds
    (move : Move home scene scene')
    (held : scene.Held home) :
    ∃ taken added, scene.Proceeds home scene' taken added := by
  cases move with
  | enter registry _ _ event plain =>
      exact ⟨[], [], .of_alike rfl (.of_tells (.enter registry plain)) id⟩
  | subscribe => exact ⟨[], [], .of_alike rfl (.of_journal rfl) id⟩
  | register => exact ⟨[], [], .of_updateTracker held rfl rfl rfl id⟩
  | hold => exact ⟨[], [], .of_updateTracker held rfl rfl rfl id⟩
  | letGo registry hand batch tracker => exact Scene.Proceeds.of_extends (held.letGo tracker)
  | discardHook => exact Scene.Proceeds.of_extends held.discardHook
  | deferRelease registry hand batch ref hook =>
      have offered := held.offerRelease home ref
      exact Scene.Proceeds.of_extends (offered.trans offered.held.discardHook)
  | dropWrapper registry hand batch wrapper =>
      exact Scene.Proceeds.of_extends
        (held.dropWith Scene.Held.discardHook wrapper.tracker wrapper.record)
  | settleLive => exact ⟨[], [], .of_updateTracker held rfl rfl rfl id⟩
  | adjust registry hand batch change kept =>
      rcases kept (registry.tracker home) with ⟨isOpen, defers, changed, closes⟩
      refine ⟨[], [], .of_updateTracker held rfl rfl ?_ fun isClosed => ?_⟩
      · rw [changed]
      · rw [changed]
        refine Bool.eq_false_iff.mpr fun open_ => ?_
        cases isClosed.symm.trans (closes open_)
  | takeSnapshot registry hand =>
      exact ⟨[], [], .of_updateTracker held rfl rfl (List.append_nil _) id⟩
  | deal registry registry' hand item rest dealt =>
      rcases (dealt.takes held).1 with ⟨added, takes⟩
      refine ⟨[item], added, ?_⟩
      exact
        { waiting := by
            simp only [Scene.waiting, takes.items, List.cons_append, List.nil_append,
              List.append_assoc]
          deferrals := takes.deferrals
          takeUps := takes.takeUps
          hookRuns := by rw [takes.hookRuns, hookedRecords_singleton]
          fresh := takes.fresh
          nodup := takes.nodup
          closed := fun isClosed =>
            ⟨takes.closed isClosed, dealt.isOpen.trans isClosed⟩ }
  | requeueFront => exact ⟨[], [], .of_updateTracker held rfl rfl rfl id⟩

/-! ## Order -/

/--
What was queued is what drains took up, and then what waits; only a queue that
was given up for good may have lost the last items.
-/
structure Scene.Ordered (home : TrackerRef) (scene : Scene) : Prop where
  nodup : scene.registry.deferrals.Nodup
  order :
    ∃ lost,
      scene.registry.deferrals =
          scene.registry.takeUps ++ scene.waitingRecords home ++ lost ∧
        (lost = [] ∨ (scene.registry.tracker home).isOpen = false ∧ scene.waiting home = [])

theorem Scene.Ordered.of_proceeds
    {taken added : List PendingRelease}
    (before : scene.Ordered home)
    (unstranded : scene.Unstranded home)
    (proceeds : scene.Proceeds home scene' taken added) :
    scene'.Ordered home := by
  have moved := congrArg (List.map PendingRelease.record) proceeds.waiting
  simp only [List.map_append] at moved
  rcases before.order with ⟨lost, order, cause⟩
  refine ⟨?_, lost, ?_, ?_⟩
  · rw [proceeds.deferrals, List.nodup_append]
    refine ⟨before.nodup, proceeds.nodup, ?_⟩
    rintro ref early _ late rfl
    rcases List.mem_map.mp late with ⟨item, among, rfl⟩
    exact (unstranded.past _ (mem_deferrals.mp early)).2 (proceeds.fresh item among)
  · rw [proceeds.deferrals, proceeds.takeUps, order]
    have after : scene.waitingRecords home ++ added.map PendingRelease.record =
        taken.map PendingRelease.record ++ scene'.waitingRecords home :=
      moved.symm
    rcases cause with rfl | ⟨isClosed, -⟩
    · simp only [List.append_nil, List.append_assoc, after]
    · rw [(proceeds.closed isClosed).1, List.map_nil, List.append_nil] at after ⊢
      simp only [after, List.append_assoc]
  · refine cause.imp_right fun ⟨isClosed, empty⟩ => ⟨(proceeds.closed isClosed).2, ?_⟩
    have nothing := proceeds.waiting
    rw [(proceeds.closed isClosed).1, empty, List.append_nil] at nothing
    exact (List.append_eq_nil_iff.mp nothing).2

theorem Moves.ordered
    (moves : Moves home scene scene')
    (unstranded : scene.Unstranded home)
    (before : scene.Ordered home) :
    scene'.Ordered home := by
  induction moves with
  | refl => exact before
  | tail moves move ordered =>
      have unstranded' := Moves.unstranded moves unstranded
      rcases move.proceeds unstranded'.toHeld with ⟨taken, added, proceeds⟩
      exact ordered.of_proceeds unstranded' proceeds

/-- Drains run the hook of a record no more often than they take the record up. -/
theorem Moves.count_hookRuns
    (moves : Moves home scene scene')
    (held : scene.Held home)
    (ref : RecordRef) :
    scene'.registry.hookRuns.count ref + scene.registry.takeUps.count ref ≤
      scene.registry.hookRuns.count ref + scene'.registry.takeUps.count ref := by
  induction moves with
  | refl => exact le_rfl
  | tail moves move step =>
      rcases move.proceeds (Moves.held moves held) with ⟨taken, added, proceeds⟩
      have fewer := (hookedRecords_sublist taken).count_le ref
      rw [proceeds.hookRuns, proceeds.takeUps, List.count_append, List.count_append]
      omega

end Custody.Registry
