import Custody.Proofs.Session.Tenure

/-!
# Drains never get stuck

A runtime is used in any way, with callbacks and hooks that may panic.  Between
two operations no drain is running, so none is ever refused for good.  One that
is asked for while another runs does nothing.  When a callback panics the drain
puts everything in order: the record in hand is detached if it still was
deferred, and the items behind it wait for the next drain.
-/

namespace Custody.Session

variable {session session' : Session} {hand : Nat} {disposed : List RecordRef}

/-! ## The record in hand -/

/--
What a drain leaves behind of the session in which a callback panicked while a
record was in hand: if it still was deferred it is detached and struck from the
books, and otherwise the records and the books are left as they were.
-/
structure LeavesBehind (ref : RecordRef) (last session' : Session) : Prop where
  record :
    ∀ other,
      session'.record other =
        if other = ref ∧ (last.record ref).state = .deferred then
          { last.record ref with state := .detached }
        else
          last.record other
  struck :
    (last.record ref).state = .deferred →
      ∀ handle, ref ∉ session'.registry.ownersOf session'.tracker handle
  kept :
    (last.record ref).state ≠ .deferred →
      ∀ handle,
        session'.registry.ownersOf session'.tracker handle =
          last.registry.ownersOf last.tracker handle

theorem leavesBehind_abandon
    (rest : List PendingRelease)
    (ref : RecordRef)
    (last : Session)
    (books :
      (((last.abandon ref).requeueFront rest).setDraining false).registry.Exact
        (((last.abandon ref).requeueFront rest).setDraining false).tracker) :
    LeavesBehind ref last (((last.abandon ref).requeueFront rest).setDraining false) := by
  have record (other : RecordRef) :
      (((last.abandon ref).requeueFront rest).setDraining false).record other =
        if other = ref ∧ (last.record ref).state = .deferred then
          { last.record ref with state := .detached }
        else
          last.record other := by
    change (last.abandon ref).record other = _
    rw [abandon]
    split
    · next deferred =>
        rw [record_quarantine deferred]
        exact if_congr (and_iff_left deferred).symm rfl rfl
    · next settled => rw [if_neg fun found => settled found.2]
  refine ⟨record, fun deferred handle listed => ?_, fun settled handle => ?_⟩
  · rw [books.listed, Registry.mem_ownersInOrder] at listed
    have detached := (record ref).trans (if_pos ⟨rfl, deferred⟩)
    have owns : ((((last.abandon ref).requeueFront rest).setDraining false).record
        ref).state.owns = true := listed.1
    rw [detached] at owns
    cases owns
  · rw [abandon, if_neg settled]
    exact congrArg (fun owners => Owners.of owners handle)
      (Registry.read_updateTracker Tracker.owners last.registry last.tracker last.tracker
        fun _ => rfl)

/-! ## Between two operations -/

theorem Tenure.idle
    {byHand : Prop}
    {config : Config}
    {hasTable : Bool}
    (tenure : Tenure byHand config hasTable session hand disposed) :
    session.finalizer.draining = false :=
  (Keeps.turns tenure.turns).draining.trans (idle_opened config hasTable)

/-- What a drain relies on when it starts: the books, the holders of the tracker and the flag. -/
structure Ready (session : Session) (hand : Nat) : Prop where
  books : session.registry.Exact session.tracker
  held : session.Held hand []
  idle : session.finalizer.draining = false

theorem Ready.of_leads
    {hand' : Nat}
    (before : session.Ready hand)
    (leads : session.Leads hand [] session' hand' []) :
    session'.Ready hand' where
  books := (Keeps.of_leads leads).exact before.books
  held := leads.held before.held
  idle := leads.draining.trans before.idle

theorem Tenure.ready
    {byHand : Prop}
    {config : Config}
    {hasTable : Bool}
    {within : Session}
    (tenure : Tenure byHand config hasTable session hand disposed)
    (underway : session.Underway within) :
    ∃ others, within.Ready others := by
  rcases tenure.held with ⟨others, -, held⟩
  have books := (Keeps.turns tenure.turns).exact (exact_opened config hasTable)
  have rule := @Underway.rule session others within fun hand session => session.Ready hand
  exact rule underway (fun _ _ ready => ⟨ready.books, ready.held, ready.idle⟩)
    (fun _ _ _ _ ready leads => ready.of_leads leads) ⟨books, held, tenure.idle⟩

/-- A drain that returns gets through the whole queue. -/
theorem Ready.drained
    (ready : session.Ready hand) :
    ∃ taken rest added,
      Drained taken rest added session session.collect.2 ∧
        ∀ count, session.collect.1 = .ok count → rest = [] := by
  rw [collect_eq_drain idles_idling ready.idle]
  exact drained_drain idles_idling session ready.held

/-- What a drain leaves behind when a callback panics out of it. -/
theorem Ready.unwound
    {panic : Panic}
    (ready : session.Ready hand)
    (panicked : session.collect = (.error (.panic panic), session')) :
    session'.Ready hand ∧
      ∃ taken rest added,
        Drained taken rest added session session' ∧
          (taken = session.queue.items ∧ rest = [] ∨
            ∃ done item last,
              taken = done ++ [item] ∧
                EndsAt idling session done item rest (.panicked panic) last ∧
                  LeavesBehind item.record last session') := by
  have leads := leads_collect hand session
  rw [panicked] at leads
  have ready' := ready.of_leads leads
  refine ⟨ready', ?_⟩
  rw [collect_eq_drain idles_idling ready.idle] at panicked
  cases unwinds_drain panicked with
  | @reporting log before last ran released reported =>
      rcases Drained.of_completed idles_idling ready.held ran with ⟨added, drained⟩
      have told := drained.of_reported log session.queue.generation
      rw [released, if_neg Bool.false_ne_true, reported] at told
      exact ⟨_, _, added, told.of_tells rfl (.refl _), .inl ⟨rfl, rfl⟩⟩
  | @dealing done rest item last endsAt =>
      rcases endsAt.drained idles_idling ready.held with ⟨added, drained⟩
      have leaves := leavesBehind_abandon rest item.record last ready'.books
      exact ⟨_, _, added, drained.of_tells rfl (.refl _),
        .inr ⟨done, item, last, rfl, endsAt, leaves⟩⟩

/-! ## Drains come to an end -/

/--
Whatever is done with a tracker that somebody holds, and whatever callbacks and
hooks do: between two operations no drain is running, and one that is asked for
while another runs returns nothing and changes nothing, so that the drains which
resolvers ask for make no difference.

Wherever a drain starts it takes up what waits from the front, all of it if it
returns.  If a callback panics out of it the flag is cleared.  Either the whole
queue was taken up, or the record in hand is detached and struck from the books
if it still was deferred, and otherwise left as it was with every other record;
the items behind it are in front of the queue with their hooks, followed by what
was deferred meanwhile; and that is what the next drain takes up.
-/
theorem collect_never_stuck
    {byHand : Prop}
    {config : Config}
    {hasTable : Bool}
    (tenure : Tenure byHand config hasTable session hand disposed) :
    session.finalizerState ≠ .draining ∧
      (∀ within : Session, within.finalizer.draining = true →
        within.collect = (.ok 0, within) ∧ within.collectThrottled = (.ok 0, within)) ∧
      ∀ within, session.Underway within →
        (∀ nested, Idles nested → within.collect = within.drain nested) ∧
          (∃ taken rest added,
            Drained taken rest added within within.collect.2 ∧
              ∀ count, within.collect.1 = .ok count → rest = []) ∧
          ∀ panic session', within.collect = (.error (.panic panic), session') →
            session'.finalizer.draining = false ∧
              ∃ taken rest added,
                Drained taken rest added within session' ∧
                  (taken = within.queue.items ∧ rest = [] ∨
                    ∃ done item last,
                      taken = done ++ [item] ∧
                        EndsAt idling within done item rest (.panicked panic) last ∧
                          LeavesBehind item.record last session') ∧
                  ∃ taken' rest' added',
                    Drained taken' rest' added' session' session'.collect.2 ∧
                      taken' ++ rest' = rest ++ added ∧
                        ∀ count, session'.collect.1 = .ok count → taken' = rest ++ added := by
  refine ⟨fun running => ?_, fun within draining => ?_, fun within underway => ?_⟩
  · rw [finalizerState, tenure.idle] at running
    simp only [Bool.false_eq_true, if_false] at running
    split at running
    · cases running
    · cases running
  · exact ⟨collect_of_draining within draining, collectThrottled_of_draining draining⟩
  · rcases tenure.ready underway with ⟨others, ready⟩
    refine ⟨fun nested idles => collect_eq_drain idles ready.idle, ready.drained,
      fun panic session' panicked => ?_⟩
    rcases ready.unwound panicked with ⟨ready', taken, rest, added, drained, inHand⟩
    rcases ready'.drained with ⟨taken', rest', added', drained', completes⟩
    have waiting : taken' ++ rest' = rest ++ added := drained'.split.symm.trans drained.items
    refine ⟨ready'.idle, taken, rest, added, drained, inHand, taken', rest', added', drained',
      waiting, fun count returned => ?_⟩
    rw [completes count returned, List.append_nil] at waiting
    exact waiting

/-- The callback panics; what the first drain did not get to is taken up by the second. -/
theorem collect_never_stuck_threatened :
    threatened.collect.1 = .error (.panic ⟨"no"⟩) ∧
      threatened.collect.2.finalizer.draining = false ∧
      ∃ taken rest added,
        Drained taken rest added threatened threatened.collect.2 ∧
          ∃ taken' rest' added',
            Drained taken' rest' added' threatened.collect.2 threatened.collect.2.collect.2 ∧
              taken' ++ rest' = rest ++ added := by
  have panicked : threatened.collect.1 = .error (.panic ⟨"no"⟩) := by
    decide +kernel
  rcases collect_never_stuck (@Tenure.threatened False) with ⟨-, -, drains⟩
  rcases (drains threatened .here).2.2 ⟨"no"⟩ threatened.collect.2 (Prod.ext panicked rfl) with
    ⟨idle, taken, rest, added, drained, -, taken', rest', added', drained', waiting, -⟩
  exact ⟨panicked, idle, taken, rest, added, drained, taken', rest', added', drained', waiting⟩

end Custody.Session
