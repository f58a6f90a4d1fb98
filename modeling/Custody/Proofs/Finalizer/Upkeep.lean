import Custody.Proofs.Finalizer.Calm
import Custody.Proofs.Finalizer.Progress

/-!
# What drains leave true of an interpreter

A drain gives references back and, if it checks counts, lets resolvers adjust the
interpreter; hooks and handlers do not touch it.  So what is true of an
interpreter, and stays true when a reference is given back and when a subscribed
resolver adjusts it, is still true after a drain, however the drain ends.
-/

namespace Custody.Session

/-- What is true of an interpreter is true of it after a reference was given back. -/
def SurvivesReleases (kept : Interpreter → Prop) : Prop :=
  ∀ interp handle remaining interp',
    kept interp → interp.decref handle = .ok (remaining, interp') → kept interp'

/-- If resolvers are asked at all, each that is subscribed keeps a property. -/
def ResolversKeep (kept : Interpreter → Prop) (session : Session) : Prop :=
  session.finalizer.validates = true →
    ∀ entry ∈ session.finalizer.resolvers, entry.2.Keeps kept

/-- The interpreter has a property that every resolver which may be asked keeps. -/
structure Upkept (kept : Interpreter → Prop) (session : Session) : Prop where
  interp : kept session.interp
  resolvers : session.ResolversKeep kept

namespace Upkept

variable {kept : Interpreter → Prop} {session session' : Session} {ref : RecordRef}

theorem of_trims
    (upkept : session.Upkept kept)
    (trims : session.finalizer.Trims session'.finalizer)
    (interp : kept session'.interp) :
    session'.Upkept kept where
  interp := interp
  resolvers := by
    intro validates entry listed
    rw [trims.validates] at validates
    exact upkept.resolvers validates entry (trims.resolvers.subset listed)

theorem of_spares
    (upkept : session.Upkept kept)
    (spares : session.Spares session') :
    session'.Upkept kept := by
  apply upkept.of_trims spares.finalizer
  rw [spares.interp]
  exact upkept.interp

theorem setDraining
    (upkept : session.Upkept kept)
    (draining : Bool) :
    (session.setDraining draining).Upkept kept :=
  ⟨upkept.interp, upkept.resolvers⟩

theorem finish
    (upkept : session.Upkept kept)
    (log : List CollectedObject) :
    (session.finish log).Upkept kept :=
  ⟨upkept.interp, upkept.resolvers⟩

theorem quarantine
    (upkept : session.Upkept kept)
    (ref : RecordRef) :
    (session.quarantine ref).Upkept kept :=
  ⟨upkept.interp, upkept.resolvers⟩

theorem abandon
    (upkept : session.Upkept kept)
    (ref : RecordRef) :
    (session.abandon ref).Upkept kept := by
  rw [Session.abandon]
  split
  · exact upkept.quarantine ref
  · exact upkept

/-! ## One item -/

theorem of_check
    {nested : Session → Except Abort Nat × Session}
    {validates : Bool}
    {outcome : Except Panic (Option Mismatch)}
    (upkept : session.Upkept kept)
    (checked :
      (if validates then validate nested ref session else (.ok none, session)) =
        (outcome, session'))
    (idles : Idles nested)
    (asked : validates = true → session.finalizer.validates = true)
    (running : session.finalizer.draining = true) :
    session'.Upkept kept := by
  refine upkept.of_trims (Notifies.of_check checked idles running).finalizer ?_
  cases validates with
  | true =>
      have keeps := keeps_validate idles (upkept.resolvers (asked rfl)) ref running upkept.interp
      rw [if_pos rfl] at checked
      rwa [checked] at keeps
  | false =>
      cases checked
      exact upkept.interp

theorem of_referenceRun
    {validates : Bool}
    {generation : Nat}
    {result : ItemEnd × Session}
    (upkept : session.Upkept kept)
    (survives : SurvivesReleases kept)
    (run : ReferenceRun validates generation ref session result) :
    result.2.Upkept kept := by
  have quarantined : ((session.quarantine ref).enter (.fault (.dropFailed ref))).Upkept kept :=
    ⟨upkept.interp, upkept.resolvers⟩
  have dropped
      {remaining : Int}
      {interp : Interpreter}
      (gaveBack : session.interp.decref (session.record ref).handle = .ok (remaining, interp)) :
      ({ session with interp }.enter (.dropped ref)).Upkept kept :=
    ⟨survives _ _ _ _ upkept.interp gaveBack, upkept.resolvers⟩
  cases run with
  | bereft gone reported => exact quarantined.of_spares (.of_report reported)
  | unheard gone reported => exact quarantined.of_spares (.of_report reported)
  | exposed gaveBack checked =>
      have before := dropped gaveBack
      exact before.of_trims (Notifies.of_recheck checked).finalizer
        ((interp_of_recheck checked).symm ▸ before.interp)
  | released gaveBack checked =>
      have before := dropped gaveBack
      have after := before.of_trims (Notifies.of_recheck checked).finalizer
        ((interp_of_recheck checked).symm ▸ before.interp)
      exact ⟨after.interp, after.resolvers⟩

theorem drainItem
    {nested : Session → Except Abort Nat × Session}
    (upkept : session.Upkept kept)
    (survives : SurvivesReleases kept)
    (idles : Idles nested)
    {validates : Bool}
    (asked : validates = true → session.finalizer.validates = true)
    (generation : Nat)
    (item : PendingRelease)
    (draining : session.finalizer.draining = true) :
    (drainItem nested validates generation item session).2.Upkept kept := by
  have run := itemRun_drainItem nested validates generation item session
  generalize Session.drainItem nested validates generation item session = result at run ⊢
  cases run with
  | interrupted ran => exact upkept.of_spares (.of_hook ran)
  | passed ran settled => exact upkept.of_spares (.of_hook ran)
  | unresolved ran deferred checked =>
      have hooks := Spares.of_hook ran
      exact (upkept.of_spares hooks).of_check checked idles
        (fun checks => hooks.finalizer.validates.trans (asked checks))
        (hooks.toNotifies.draining draining)
  | stopped ran deferred checked =>
      have hooks := Spares.of_hook ran
      have after := (upkept.of_spares hooks).of_check checked idles
        (fun checks => hooks.finalizer.validates.trans (asked checks))
        (hooks.toNotifies.draining draining)
      exact ⟨after.interp, after.resolvers⟩
  | cleared ran deferred checked run =>
      have hooks := Spares.of_hook ran
      have after := (upkept.of_spares hooks).of_check checked idles
        (fun checks => hooks.finalizer.validates.trans (asked checks))
        (hooks.toNotifies.draining draining)
      exact after.of_referenceRun survives run

/-! ## Whole drains -/

/-- What releases and resolvers keep, every phase of a drain keeps. -/
theorem sustained
    {nested : Session → Except Abort Nat × Session}
    (survives : SurvivesReleases kept)
    (idles : Idles nested) :
    Sustained nested
      (fun validates _ session =>
        session.Upkept kept ∧ (validates = true → session.finalizer.validates = true))
      fun session => session.Upkept kept where
  items := fun validates =>
    { item := by
        intro session item rest generation running before
        have drained := before.1.drainItem survives idles before.2 generation item running
        have retains := retains_drainItem idles validates generation item session running
        have asked := (retains.concluded item.record).finalizer.validates
        refine ⟨?_, fun checks => asked.trans (before.2 checks)⟩
        generalize Session.drainItem nested validates generation item session = result at drained ⊢
        rcases result with ⟨_ | entry | mismatch | panic, session'⟩
        · exact drained
        · exact drained
        · exact drained
        · exact drained.abandon item.record
      requeueFront := fun before =>
        ⟨before.1.of_spares (Spares.requeueFront _ _), before.2⟩ }
  start := fun _ before => ⟨(before.setDraining true).of_spares (Spares.takeSnapshot _), id⟩
  finish := fun log before => ⟨before.1.finish log, before.2⟩
  countError := fun before =>
    ⟨before.1.of_spares (.updateFinalizer (.countError _)), before.2⟩
  reportCollected := by
    intro validates session log generation _ _ before
    have spares := Spares.reportCollected log.length generation session
    exact ⟨before.1.of_spares spares,
      fun checks => spares.finalizer.validates.trans (before.2 checks)⟩
  stop := fun before => before.1.setDraining false
  report := fun error before => before.of_spares (Spares.report none error _)

theorem collect
    (upkept : session.Upkept kept)
    (survives : SurvivesReleases kept) :
    session.collect.2.Upkept kept :=
  (sustained survives (idles_collectWithin 1)).collect upkept

theorem collectReporting
    (upkept : session.Upkept kept)
    (survives : SurvivesReleases kept) :
    session.collectReporting.2.Upkept kept :=
  (sustained survives (idles_collectWithin 1)).collectReporting upkept

/-- A drain that a registration starts keeps what releases and resolvers keep. -/
theorem collectThrottled
    (upkept : session.Upkept kept)
    (survives : SurvivesReleases kept) :
    session.collectThrottled.2.Upkept kept :=
  (sustained survives (idles_collectWithin 1)).collectThrottled upkept

end Upkept

end Custody.Session
