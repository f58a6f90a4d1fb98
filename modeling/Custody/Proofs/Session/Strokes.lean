import Custody.Proofs.Finalizer.Handling
import Custody.Proofs.Session.Composition

/-!
# Strokes of work

Whatever a host asks of a runtime comes down to strokes of a few kinds: a record
is registered, released, given up or, at the end of the runtime, released with
all others; a drain runs; or notes are taken.  What each stroke keeps is kept by
every request, whether it succeeds, fails or panics.

Drains that a request starts report the error with which they end.  Only the host
itself can ask for a drain that returns it.
-/

namespace Custody

namespace Session

/-- One stroke of work. -/
inductive Stroke (session : Session) : Session → Prop where
  | note {session' : Session} (notes : session.Notes session')
      (evolves : session.interp.Evolves session'.interp) :
      session.Stroke session'
  | register {handle : Handle} {ref : RecordRef} {session' : Session}
      (registered : session.register handle = .ok (ref, session')) :
      session.Stroke session'
  | releaseNow (ref : RecordRef) : session.Stroke (session.releaseNow ref).2
  | detach (tracker : TrackerRef) (ref : RecordRef) :
      session.Stroke { session with registry := (session.registry.detach tracker ref).2 }
  | releaseAll : session.Stroke session.releaseAll.2
  | collectReporting : session.Stroke session.collectReporting.2

/-- Any number of strokes. -/
abbrev Strokes : Session → Session → Prop :=
  Relation.ReflTransGen Stroke

variable {session session' : Session}

namespace Strokes

theorem of_notes
    (notes : session.Notes session')
    (interp : session'.interp = session.interp) :
    session.Strokes session' :=
  .single (.note notes (interp ▸ .refl session.interp))

theorem of_registry
    {registry : Registry}
    (defers : session.registry.Defers Event.IsOfHook registry) :
    session.Strokes { session with registry } :=
  of_notes (.of_defers defers) rfl

theorem updateRegistry
    {change : Registry → Registry}
    (defers : session.registry.Defers Event.IsOfHook (change session.registry)) :
    session.Strokes (session.updateRegistry change) :=
  of_registry defers

/-- Only settings, subscriptions and trackers were changed. -/
theorem of_eq
    (tracker : session'.tracker = session.tracker)
    (interp : session'.interp = session.interp)
    (draining : session'.finalizer.draining = session.finalizer.draining)
    (released : session'.finalizer.released = session.finalizer.released)
    (errors : session'.finalizer.errors = session.finalizer.errors)
    (records : session'.registry.records = session.registry.records)
    (journal : session'.registry.journal = session.registry.journal) :
    session.Strokes session' :=
  of_notes (.of_eq tracker draining released errors records journal) interp

theorem reportFault
    (record : Option RecordRef)
    (error : BridgeError)
    (session : Session) :
    session.Strokes (session.reportFault record error).2 :=
  of_notes (Incidental.report (by simp) (by simp) record error session)
    (Spares.reportFault record error session).interp

theorem collectThrottled (session : Session) : session.Strokes session.collectThrottled.2 := by
  rw [Session.collectThrottled]
  split
  · exact .single .collectReporting
  · exact .refl

end Strokes

/-- Whatever requests are made of comes down to strokes. -/
instance : Pervasive Strokes where
  refl _ := .refl
  trans first second := Relation.ReflTransGen.trans first second
  useInterp _ evolves := .single (.note (.of_eq rfl rfl rfl rfl rfl rfl) evolves)
  defer defers := .of_registry defers
  ranHook _ session := .of_notes (.enter session (by simp) rfl) rfl
  waited session := .of_notes (.announce session _) rfl
  register registered := .single (.register registered)
  releaseNow ref _ := .single (.releaseNow ref)
  detach tracker ref _ := .single (.detach tracker ref)
  shutDown _ := .of_eq rfl rfl rfl rfl rfl rfl rfl
  close _ := .of_eq rfl rfl rfl rfl rfl rfl rfl
  releaseAll _ := .single .releaseAll
  collectReporting _ := .single .collectReporting
  act {action} isBasic session := by
    cases action with
    | push item => exact .of_eq rfl rfl rfl rfl rfl rfl rfl
    | takeSnapshot => exact .of_eq rfl rfl rfl rfl rfl rfl rfl
    | requeueFront items => exact .of_eq rfl rfl rfl rfl rfl rfl rfl
    | onCollect handler => exact .of_eq rfl rfl rfl rfl rfl rfl rfl
    | onError handler => exact .of_eq rfl rfl rfl rfl rfl rfl rfl
    | addResolver resolver => exact .of_eq rfl rfl rfl rfl rfl rfl rfl
    | unsubscribe id => exact .of_notes (.unsubscribe session id) rfl
    | setThreshold threshold => exact .of_eq rfl rfl rfl rfl rfl rfl rfl
    | setValidation validates => exact .of_eq rfl rfl rfl rfl rfl rfl rfl
    | setDeferral defers => exact .of_eq rfl rfl rfl rfl rfl rfl rfl
    | reportFault record error => exact .reportFault record error session
    | _ => exact isBasic.elim

/-- A turn comes down to strokes, or to a drain that the host asked for, or to the interpreter. -/
theorem Turn.strokes
    (turn : session.Turn session') :
    session.Strokes session' ∨
      session' = session.collect.2 ∨
        ∃ change, session' = session.updateInterp change := by
  cases turn with
  | request request isOwn =>
      by_cases asks : request = .act .collect
      · subst asks
        exact .inr (.inl rfl)
      · exact .inl (relates_perform asks)
  | useInterp change => exact .inr (.inr ⟨change, rfl⟩)
  | abandon => exact .inl (relates_abandoned session)

/-! ## Drains along a run -/

variable {config : Config} {hasTable : Bool} {kind : Session → Prop}

/-- No drain is running between turns. -/
theorem Turns.idle (run : (opened config hasTable).Turns session) :
    session.finalizer.draining = false :=
  (Keeps.turns run).draining.trans (idle_opened config hasTable)

/--
At some time a drain was started, by some request or in the course of one, in a
session of a certain kind.
-/
def Underwent
    (config : Config)
    (hasTable : Bool)
    (kind : Session → Prop)
    (session : Session) :
    Prop :=
  ∃ before within after,
    (opened config hasTable).Turns before ∧
      before.Turn after ∧
        before.Strokes within ∧
          kind within ∧
            within.collectReporting.2.Strokes after ∧
              after.Turns session

theorem Underwent.turn
    (underwent : Underwent config hasTable kind session)
    (turn : session.Turn session') :
    Underwent config hasTable kind session' := by
  rcases underwent with ⟨before, within, after, run, ran, strokes, drained, rest, turns⟩
  exact ⟨before, within, after, run, ran, strokes, drained, rest, turns.tail turn⟩

/-- What all strokes keep but certain drains is kept unless there was such a drain. -/
theorem Strokes.keeps_or
    {kept : Session → Prop}
    (each :
      ∀ {session session' : Session},
        session.Stroke session' →
          kept session →
            kept session' ∨ kind session ∧ session' = session.collectReporting.2)
    (strokes : session.Strokes session')
    (holds : kept session) :
    kept session' ∨
      ∃ within,
        session.Strokes within ∧ kind within ∧ within.collectReporting.2.Strokes session' := by
  induction strokes with
  | refl => exact .inl holds
  | @tail between session' first last step =>
      rcases step with holds' | ⟨within, strokes, drained, rest⟩
      · rcases each last holds' with holds'' | ⟨drained, rfl⟩
        · exact .inl holds''
        · exact .inr ⟨between, first, drained, .refl⟩
      · exact .inr ⟨within, strokes, drained, rest.tail last⟩

/-- The same for whole runs, which may contain drains that return their error. -/
theorem Turns.keeps_or
    {kept : Session → Prop}
    (each :
      ∀ {session session' : Session},
        session.Stroke session' →
          kept session →
            kept session' ∨ kind session ∧ session' = session.collectReporting.2)
    (asked :
      ∀ {session : Session},
        session.finalizer.draining = false →
          kept session →
            kept session.collect.2 ∨
              kind session ∧ session.collect.2 = session.collectReporting.2)
    (used :
      ∀ {session : Session} (change : Interpreter → Interpreter),
        kept session → kept (session.updateInterp change))
    (holds : kept (opened config hasTable))
    (run : (opened config hasTable).Turns session) :
    kept session ∨ Underwent config hasTable kind session := by
  induction run with
  | refl => exact .inl holds
  | @tail session session' run turn step =>
      rcases step with holds' | underwent
      · rcases turn.strokes with strokes | rfl | ⟨change, rfl⟩
        · refine (strokes.keeps_or each holds').imp_right fun drain => ?_
          rcases drain with ⟨within, first, drained, rest⟩
          exact ⟨session, within, session', run, turn, first, drained, rest, .refl⟩
        · refine (asked (Turns.idle run) holds').imp_right fun drain => ?_
          rcases drain with ⟨drained, same⟩
          exact ⟨session, session, session.collect.2, run, turn, .refl, drained, same ▸ .refl,
            .refl⟩
        · exact .inl (used change holds')
      · exact .inr (underwent.turn turn)

end Session

end Custody
