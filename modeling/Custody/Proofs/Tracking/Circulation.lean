import Custody.Proofs.Tracking.Order
import Mathlib.Algebra.Order.Group.Multiset
import Mathlib.Data.Multiset.Bind
import Mathlib.Tactic.Abel

/-!
# Clients that share a queue

Any number of clients push releases to one queue, take everything out of it, and
put batches back at its front.  The queue is locked for each of these, so that
what the clients do comes one after another, in any order.  Between them they may
hold any number of batches at once, and consume what is in them.

However they mix: what was pushed waits, is held or was consumed, once each; the
number that is kept beside the waiting items is theirs; and snapshots are numbered
upwards.  What waits can be told from what was done since the last snapshot: it is
the batches that were put back, the last one first, and then what was pushed, in
that order.
-/

namespace Custody.PendingQueue

variable {Client : Type}

/-! ## Dealings -/

/--
What a client does with the queue, or with a batch that it holds.  A snapshot
comes with its generation and the batch that the client gets.
-/
inductive Dealing (Client : Type) where
  | push (client : Client) (item : PendingRelease)
  | takeSnapshot (client : Client) (generation : Nat) (batch : List PendingRelease)
  | requeueFront (client : Client) (batch : List PendingRelease)
  | consume (client : Client) (item : PendingRelease)
  | regroup

namespace Dealing

/-- The item that is pushed, if any. -/
def pushed : Dealing Client → List PendingRelease
  | push _ item => [item]
  | _ => []

/-- The items that are put back. -/
def returned : Dealing Client → List PendingRelease
  | requeueFront _ batch => batch
  | _ => []

/-- The item that is consumed, if any. -/
def consumed : Dealing Client → List PendingRelease
  | consume _ item => [item]
  | _ => []

/-- The generation of the snapshot that is taken, if any. -/
def generation? : Dealing Client → Option Nat
  | takeSnapshot _ generation _ => some generation
  | _ => none

end Dealing

/-- The dealings of all clients, the newest first. -/
abbrev History (Client : Type) :=
  List (Dealing Client)

/-- What was pushed, the oldest first. -/
def pushed (history : History Client) : List PendingRelease :=
  history.reverse.flatMap Dealing.pushed

/-- What was put back, the newest batch first. -/
def returned (history : History Client) : List PendingRelease :=
  history.flatMap Dealing.returned

/-- What was consumed, the oldest first. -/
def consumed (history : History Client) : List PendingRelease :=
  history.reverse.flatMap Dealing.consumed

/-- The generations of the snapshots, the newest first. -/
def generations (history : History Client) : List Nat :=
  history.filterMap Dealing.generation?

/-- The dealings after the last snapshot. -/
def sinceSnapshot (history : History Client) : History Client :=
  history.takeWhile fun dealing => dealing.generation?.isNone

/-- What should wait: what was put back since the last snapshot, and then what was pushed. -/
def waiting (history : History Client) : List PendingRelease :=
  returned (sinceSnapshot history) ++ pushed (sinceSnapshot history)

section History

variable (dealing : Dealing Client) (earlier : History Client)

@[simp]
theorem pushed_cons : pushed (dealing :: earlier) = pushed earlier ++ dealing.pushed := by
  simp [pushed]

@[simp]
theorem consumed_cons : consumed (dealing :: earlier) = consumed earlier ++ dealing.consumed := by
  simp [consumed]

/-- Until the next snapshot what is put back goes before all that waits, what is pushed behind. -/
theorem waiting_append
    {meanwhile : History Client}
    (unbroken : ∀ dealing ∈ meanwhile, dealing.generation? = none) :
    waiting (meanwhile ++ earlier) =
      returned meanwhile ++ waiting earlier ++ pushed meanwhile := by
  have since : sinceSnapshot (meanwhile ++ earlier) = meanwhile ++ sinceSnapshot earlier := by
    rw [sinceSnapshot, List.takeWhile_append_of_pos fun dealing among => by
      rw [unbroken dealing among, Option.isNone_none], sinceSnapshot]
  simp [waiting, since, returned, pushed, List.append_assoc]

theorem waiting_cons (unbroken : dealing.generation? = none) :
    waiting (dealing :: earlier) = dealing.returned ++ waiting earlier ++ dealing.pushed := by
  have alone : waiting ([dealing] ++ earlier) =
      returned [dealing] ++ waiting earlier ++ pushed [dealing] :=
    waiting_append earlier fun _ among => List.mem_singleton.mp among ▸ unbroken
  simpa [returned, pushed] using alone

end History

/-! ## Steps and runs -/

/-- A queue, and the batches that clients took from it, each beside the client that holds it. -/
structure Circulation (Client : Type) where
  queue : PendingQueue PendingRelease
  out : Multiset (Client × List PendingRelease)

/-- All items of some batches. -/
def contents (out : Multiset (Client × List PendingRelease)) : Multiset PendingRelease :=
  out.bind fun holding => holding.2

@[simp]
theorem contents_cons
    (client : Client)
    (batch : List PendingRelease)
    (out : Multiset (Client × List PendingRelease)) :
    contents ((client, batch) ::ₘ out) = batch + contents out :=
  Multiset.cons_bind _ _ _

namespace Circulation

/-- Nothing waits, and nobody holds anything. -/
def empty : Circulation Client where
  queue := .empty
  out := 0

/--
One dealing.  A client puts back and consumes what it holds.  Clients may also
hand batches to each other, split them, join them and reorder them, as long as
the items stay the same.
-/
inductive Step : Circulation Client → Dealing Client → Circulation Client → Prop where
  | push
      (queue : PendingQueue PendingRelease)
      (out : Multiset (Client × List PendingRelease))
      (client : Client)
      (item : PendingRelease) :
      Step ⟨queue, out⟩ (.push client item) ⟨queue.push item, out⟩
  | takeSnapshot
      (queue : PendingQueue PendingRelease)
      (out : Multiset (Client × List PendingRelease))
      (client : Client) :
      Step ⟨queue, out⟩ (.takeSnapshot client queue.generation queue.takeSnapshot.1)
        ⟨queue.takeSnapshot.2, (client, queue.takeSnapshot.1) ::ₘ out⟩
  | requeueFront
      (queue : PendingQueue PendingRelease)
      (out : Multiset (Client × List PendingRelease))
      (client : Client)
      (batch : List PendingRelease) :
      Step ⟨queue, (client, batch) ::ₘ out⟩ (.requeueFront client batch)
        ⟨queue.requeueFront batch, out⟩
  | consume
      (queue : PendingQueue PendingRelease)
      (out : Multiset (Client × List PendingRelease))
      (client : Client)
      (item : PendingRelease)
      (rest : List PendingRelease) :
      Step ⟨queue, (client, item :: rest) ::ₘ out⟩ (.consume client item)
        ⟨queue, (client, rest) ::ₘ out⟩
  | regroup
      (queue : PendingQueue PendingRelease)
      {out out' : Multiset (Client × List PendingRelease)}
      (same : contents out' = contents out) :
      Step ⟨queue, out⟩ .regroup ⟨queue, out'⟩

/-- Any number of dealings of any clients, from a queue in which nothing waits. -/
inductive Run : History Client → Circulation Client → Prop where
  | empty : Run [] .empty
  | step
      {earlier : History Client}
      {circulation circulation' : Circulation Client}
      {dealing : Dealing Client}
      (before : Run earlier circulation)
      (step : Step circulation dealing circulation') :
      Run (dealing :: earlier) circulation'

variable {circulation circulation' : Circulation Client}
variable {dealing : Dealing Client} {history : History Client}

/-! ## The number of waiting items -/

theorem Step.isCounted
    (step : Step circulation dealing circulation')
    (counted : circulation.queue.IsCounted) :
    circulation'.queue.IsCounted := by
  cases step with
  | push _ _ _ item => exact counted.push item
  | takeSnapshot => exact counted.takeSnapshot
  | requeueFront _ _ _ batch => exact counted.requeueFront batch
  | consume => exact counted
  | regroup => exact counted

theorem Run.isCounted (run : Run history circulation) : circulation.queue.IsCounted := by
  induction run with
  | empty => exact isCounted_empty
  | step _ step counted => exact step.isCounted counted

/-! ## Where the items are -/

/-- What waits and what is out. -/
def total (circulation : Circulation Client) : Multiset PendingRelease :=
  circulation.queue.items + contents circulation.out

/-- Items come in by being pushed and leave by being consumed; else they only move. -/
theorem Step.total_eq (step : Step circulation dealing circulation') :
    circulation'.total + dealing.consumed = circulation.total + dealing.pushed := by
  cases step with
  | push queue out client item =>
      simp only [total, items_push, Dealing.consumed, Dealing.pushed, ← Multiset.coe_add,
        Multiset.coe_nil]
      abel
  | takeSnapshot queue out client =>
      simp only [total, items_takeSnapshot, contents_cons, Dealing.consumed, Dealing.pushed,
        Multiset.coe_nil, zero_add]
      rfl
  | requeueFront queue out client batch =>
      simp only [total, items_requeueFront, contents_cons, Dealing.consumed, Dealing.pushed,
        ← Multiset.coe_add, Multiset.coe_nil]
      abel
  | consume queue out client item rest =>
      have first : ((item :: rest : List PendingRelease) : Multiset PendingRelease) =
          rest + ([item] : List PendingRelease) := by
        rw [add_comm, Multiset.coe_add, List.singleton_append]
      simp only [total, contents_cons, Dealing.consumed, Dealing.pushed, first, Multiset.coe_nil]
      abel
  | regroup queue same => simp only [total, same, Dealing.consumed, Dealing.pushed]

theorem Run.total_add_consumed (run : Run history circulation) :
    circulation.total + consumed history = pushed history := by
  induction run with
  | empty => rfl
  | @step earlier circulation circulation' dealing _ step balance =>
      calc circulation'.total + ↑(consumed (dealing :: earlier))
          = circulation'.total + dealing.consumed + consumed earlier := by
            rw [consumed_cons, ← Multiset.coe_add]
            abel
        _ = circulation.total + consumed earlier + dealing.pushed := by
            rw [step.total_eq]
            abel
        _ = ↑(pushed (dealing :: earlier)) := by
            rw [balance, pushed_cons, Multiset.coe_add]

/-! ## What waits -/

theorem Step.items_eq
    (step : Step circulation dealing circulation')
    (items : circulation.queue.items = waiting history) :
    circulation'.queue.items = waiting (dealing :: history) := by
  have grown
      (unbroken : dealing.generation? = none)
      (after :
        circulation'.queue.items = dealing.returned ++ circulation.queue.items ++ dealing.pushed) :
      circulation'.queue.items = waiting (dealing :: history) := by
    rw [waiting_cons _ _ unbroken, after, items]
  cases step with
  | takeSnapshot => rfl
  | push => exact grown rfl rfl
  | requeueFront => exact grown rfl (List.append_nil _).symm
  | consume => exact grown rfl (List.append_nil _).symm
  | regroup => exact grown rfl (List.append_nil _).symm

theorem Run.items_eq (run : Run history circulation) :
    circulation.queue.items = waiting history := by
  induction run with
  | empty => rfl
  | step _ step items => exact step.items_eq items

/-! ## Generations -/

theorem Step.generations_eq
    (step : Step circulation dealing circulation')
    (numbered : generations history = (List.range circulation.queue.generation).reverse) :
    generations (dealing :: history) = (List.range circulation'.queue.generation).reverse := by
  cases step with
  | takeSnapshot queue out client =>
      change queue.generation :: generations history = (List.range (queue.generation + 1)).reverse
      rw [numbered, List.range_succ, List.reverse_append]
      rfl
  | push => exact numbered
  | requeueFront => exact numbered
  | consume => exact numbered
  | regroup => exact numbered

/-- Snapshots are numbered from zero, in the order in which they are taken. -/
theorem Run.generations_eq (run : Run history circulation) :
    generations history = (List.range circulation.queue.generation).reverse := by
  induction run with
  | empty => rfl
  | step _ step numbered => exact step.generations_eq numbered

theorem Run.lt_generation
    (run : Run history circulation)
    {generation : Nat}
    (among : generation ∈ generations history) :
    generation < circulation.queue.generation := by
  rw [run.generations_eq, List.mem_reverse] at among
  exact List.mem_range.mp among

/-! ## Snapshots along the way -/

/-- What was done before is a run as well. -/
theorem Run.before
    {later earlier : History Client}
    (run : Run (later ++ earlier) circulation) :
    ∃ circulation', Run earlier circulation' := by
  induction later generalizing circulation with
  | nil => exact ⟨circulation, run⟩
  | cons dealing later before =>
      cases run with
      | step run _ => exact before run

/-- Every snapshot got what waited, and a generation above those of the earlier ones. -/
theorem Run.snapshot
    {later earlier : History Client}
    {client : Client}
    {generation : Nat}
    {batch : List PendingRelease}
    (run : Run (later ++ .takeSnapshot client generation batch :: earlier) circulation) :
    batch = waiting earlier ∧ ∀ other ∈ generations earlier, other < generation := by
  rcases run.before with ⟨circulation', taken⟩
  cases taken with
  | step before step =>
      cases step with
      | takeSnapshot => exact ⟨before.items_eq, fun _ among => before.lt_generation among⟩

/-! ## Conservation -/

/-- What is true of a queue that clients share, and of the batches that are out. -/
structure Conserved (history : History Client) (circulation : Circulation Client) : Prop where
  /-- The number that is kept is that of the waiting items. -/
  counted : circulation.queue.count = circulation.queue.items.length
  hasPending_iff : circulation.queue.hasPending = true ↔ circulation.queue.items ≠ []
  /-- What a snapshot takes off the number was part of it. -/
  covered :
    circulation.queue.takeSnapshot.2.count + circulation.queue.takeSnapshot.1.length =
      circulation.queue.count
  /-- No more items are counted than were pushed, and one generation for each snapshot. -/
  bounded :
    circulation.queue.count ≤ (pushed history).length ∧
      circulation.queue.generation = (generations history).length
  /-- What was pushed waits, is out or was consumed. -/
  balanced :
    (circulation.queue.items : Multiset PendingRelease) + contents circulation.out +
        consumed history =
      pushed history
  /-- What was put back since the last snapshot waits before what was pushed since. -/
  items_eq : circulation.queue.items = waiting history
  /-- Every snapshot got all that waited, in that order, and a generation above all earlier ones. -/
  snapshot :
    ∀ later client generation batch earlier,
      history = later ++ .takeSnapshot client generation batch :: earlier →
        batch = waiting earlier ∧ ∀ other ∈ generations earlier, other < generation
  /-- A batch that was put back came first in the next snapshot, but for what was put back later. -/
  returned :
    ∀ later client generation batch meanwhile client' batch' earlier,
      history =
          later ++ .takeSnapshot client generation batch ::
            (meanwhile ++ .requeueFront client' batch' :: earlier) →
        (∀ dealing ∈ meanwhile, dealing.generation? = none) →
          batch = returned meanwhile ++ (batch' ++ waiting earlier) ++ pushed meanwhile
  /-- If any batch is put back now, the next snapshot starts with it. -/
  requeued :
    ∀ batch,
      (circulation.queue.requeueFront batch).takeSnapshot.1 = batch ++ circulation.queue.items

/--
Whatever clients do with a queue and with the batches that they take from it, in
whatever order they come: no item is lost or doubled, the number that is kept is
right, and snapshots are numbered upwards and get what waits in its order.
-/
theorem Run.conserved (run : Run history circulation) : circulation.Conserved history := by
  have counted : circulation.queue.count = circulation.queue.items.length := run.isCounted
  constructor
  case counted => exact counted
  case hasPending_iff =>
    rw [hasPending, decide_eq_true_iff, counted, List.length_pos_iff]
  case covered =>
    have enough : circulation.queue.items.length ≤ circulation.queue.count := counted.ge
    exact Nat.sub_add_cancel enough
  case bounded =>
    have sizes := congrArg Multiset.card run.total_add_consumed
    simp only [total, Multiset.card_add, Multiset.coe_card] at sizes
    have numbers := congrArg List.length run.generations_eq
    rw [List.length_reverse, List.length_range] at numbers
    exact ⟨by omega, numbers.symm⟩
  case balanced => exact run.total_add_consumed
  case items_eq => exact run.items_eq
  case snapshot =>
    rintro later client generation batch earlier rfl
    exact run.snapshot
  case returned =>
    rintro later client generation batch meanwhile client' batch' earlier rfl unbroken
    rw [run.snapshot.1, waiting_append _ unbroken, waiting_cons _ _ rfl]
    simp only [Dealing.returned, Dealing.pushed, List.append_nil]
  case requeued => exact fun batch => rfl

/--
Two clients that both push.  The first takes a snapshot and the second another, so
that two batches are out at once.  The second puts its batch back, and the first
does so after it consumed the first item; then the second takes everything.
-/
def relays : History Bool :=
  [ .push true ⟨4, none⟩,
    .takeSnapshot false 2 [⟨1, none⟩, ⟨2, none⟩, ⟨3, none⟩],
    .requeueFront true [⟨1, none⟩],
    .consume true ⟨0, some (.done 0)⟩,
    .requeueFront false [⟨2, none⟩],
    .push true ⟨3, none⟩,
    .takeSnapshot false 1 [⟨2, none⟩],
    .push false ⟨2, none⟩,
    .takeSnapshot true 0 [⟨0, some (.done 0)⟩, ⟨1, none⟩],
    .push false ⟨1, none⟩,
    .push true ⟨0, some (.done 0)⟩ ]

/-- What comes of it. -/
def relayed : Circulation Bool where
  queue := ⟨[⟨4, none⟩], 1, 3⟩
  out := {(false, [⟨1, none⟩, ⟨2, none⟩, ⟨3, none⟩])}

private theorem run_relayed : Run relays relayed := by
  have pushed :=
    (Run.empty.step (.push _ _ true ⟨0, some (.done 0)⟩)).step (.push _ _ false ⟨1, none⟩)
  have first := pushed.step (.takeSnapshot _ _ true)
  have second := (first.step (.push _ _ false ⟨2, none⟩)).step (.takeSnapshot _ _ false)
  have returned :=
    (second.step (.push _ _ true ⟨3, none⟩)).step (.requeueFront _ _ false [⟨2, none⟩])
  have consumed := returned.step (.consume _ _ true ⟨0, some (.done 0)⟩ [⟨1, none⟩])
  have third :=
    (consumed.step (.requeueFront _ _ true [⟨1, none⟩])).step (.takeSnapshot _ _ false)
  exact third.step (.push _ _ true ⟨4, none⟩)

/-- Of the five items one waits, three are out again, and one was consumed. -/
theorem conserved_relayed :
    Run relays relayed ∧ relayed.Conserved relays ∧
      relayed.queue.items.length + (contents relayed.out).card + (consumed relays).length =
        (pushed relays).length := by
  have conserved : relayed.Conserved relays := Run.conserved run_relayed
  refine ⟨run_relayed, conserved, ?_⟩
  simpa using congrArg Multiset.card conserved.balanced

/-! ## A runtime among the clients -/

theorem eq_of_items
    {queue queue' : PendingQueue PendingRelease}
    (items : queue'.items = queue.items)
    (generation : queue'.generation = queue.generation)
    (counted : queue.IsCounted)
    (counted' : queue'.IsCounted) :
    queue' = queue := by
  have count : queue'.count = queue.count :=
    counted'.trans ((congrArg List.length items).trans counted.symm)
  cases queue
  cases queue'
  simp_all

/-- A queue that only grew at the back comes about by pushing. -/
theorem Run.pushAll
    (client : Client)
    {queue queue' : PendingQueue PendingRelease}
    {out : Multiset (Client × List PendingRelease)}
    (added : List PendingRelease)
    (run : Run history ⟨queue, out⟩)
    (items : queue'.items = queue.items ++ added)
    (generation : queue'.generation = queue.generation)
    (counted : queue'.IsCounted) :
    ∃ later, Run (later ++ history) ⟨queue', out⟩ := by
  induction added generalizing queue history with
  | nil =>
      have same := eq_of_items (items.trans (List.append_nil _)) generation run.isCounted counted
      exact ⟨[], same ▸ run⟩
  | cons item added rest =>
      have grown : queue'.items = (queue.push item).items ++ added := by
        rw [items, items_push, List.append_assoc, List.singleton_append]
      rcases rest (run.step (.push queue out client item)) grown generation with ⟨later, pushed⟩
      exact ⟨later ++ [.push client item], by rwa [List.append_assoc]⟩

variable {home : TrackerRef} {scene scene' : Registry.Scene}
variable {client : Client} {others : Multiset (Client × List PendingRelease)}

/-- A batch in which nothing is left makes no difference. -/
theorem contents_cons_nil
    (client : Client)
    (others : Multiset (Client × List PendingRelease)) :
    contents ((client, []) ::ₘ others) = contents others :=
  (contents_cons client [] others).trans (zero_add _)

/-- What a move does to the queue and to the batch of a drain can be done by one client. -/
theorem Run.move
    (run : Run history
      ⟨(scene.registry.tracker home).queue, (client, scene.batch) ::ₘ others⟩)
    (held : scene.Held home)
    (move : Registry.Move home scene scene') :
    ∃ later, Run (later ++ history)
      ⟨(scene'.registry.tracker home).queue, (client, scene'.batch) ::ₘ others⟩ := by
  have counted := move.counted run.isCounted
  have grown (extends_ : scene.Extends home scene') :
      ∃ later, Run (later ++ history)
        ⟨(scene'.registry.tracker home).queue, (client, scene'.batch) ::ₘ others⟩ := by
    rcases extends_ with ⟨added, queues⟩
    rw [queues.batch]
    exact run.pushAll client added queues.items queues.generation counted
  have still
      (queue : (scene'.registry.tracker home).queue = (scene.registry.tracker home).queue)
      (batch : scene'.batch = scene.batch) :
      ∃ later, Run (later ++ history)
        ⟨(scene'.registry.tracker home).queue, (client, scene'.batch) ::ₘ others⟩ := by
    rw [queue, batch]
    exact ⟨[], run⟩
  cases move with
  | enter => exact still rfl rfl
  | subscribe => exact still rfl rfl
  | register =>
      exact still (Registry.read_updateTracker Tracker.queue _ home home fun _ => rfl) rfl
  | hold =>
      exact still (Registry.read_updateTracker Tracker.queue _ home home fun _ => rfl) rfl
  | letGo registry hand batch tracker => exact grown (held.letGo tracker)
  | discardHook => exact grown held.discardHook
  | deferRelease registry hand batch ref hook =>
      have offered := held.offerRelease home ref
      exact grown (offered.trans offered.held.discardHook)
  | dropWrapper registry hand batch wrapper =>
      exact grown (held.dropWith Registry.Scene.Held.discardHook wrapper.tracker wrapper.record)
  | settleLive =>
      exact still (Registry.read_updateTracker Tracker.queue _ home home fun _ => rfl) rfl
  | adjust registry hand batch change kept =>
      refine still (Registry.read_updateTracker Tracker.queue _ home home fun tracker => ?_) rfl
      rcases kept tracker with ⟨_, _, changed, -⟩
      rw [changed]
  | takeSnapshot registry hand =>
      have alone := run.step (.regroup _ (contents_cons_nil client others).symm)
      have taken := alone.step (.takeSnapshot _ _ client)
      rw [Registry.queue_updateQueue held.there]
      exact ⟨[_, _], taken⟩
  | deal registry registry' hand item rest dealt =>
      rcases (dealt.takes held).1 with ⟨added, takes⟩
      rcases (run.step (.consume _ _ client item rest)).pushAll client added takes.items
        takes.generation counted with ⟨later, pushed⟩
      exact ⟨later ++ [.consume client item], by rwa [List.append_assoc]⟩
  | requeueFront registry hand batch =>
      have returned := (run.step (.requeueFront _ _ client batch)).step
        (.regroup _ (contents_cons_nil client others))
      rw [Registry.queue_updateQueue held.there]
      exact ⟨[_, _], returned⟩

/--
Drains, hooks and callbacks included, deal with the queue as one client among
others, which may hold batches of their own meanwhile.
-/
theorem Run.moves
    (run : Run history
      ⟨(scene.registry.tracker home).queue, (client, scene.batch) ::ₘ others⟩)
    (held : scene.Held home)
    (moves : Registry.Moves home scene scene') :
    ∃ later, Run (later ++ history)
      ⟨(scene'.registry.tracker home).queue, (client, scene'.batch) ::ₘ others⟩ := by
  induction moves with
  | refl => exact ⟨[], run⟩
  | tail moves move dealt =>
      rcases dealt with ⟨later, dealt⟩
      rcases dealt.move (Registry.Moves.held moves held) move with ⟨last, dealt⟩
      exact ⟨last ++ later, by rwa [List.append_assoc]⟩

end Circulation

end Custody.PendingQueue
