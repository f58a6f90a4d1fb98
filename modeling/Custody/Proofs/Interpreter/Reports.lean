import Custody.Proofs.Interpreter.Walks

/-!
# What a report says

The report of an exception is the reports of what caused it, one after another
with the first cause first, and its own.  The causes are those that are met on the
way from the exception along its causes, as long as there is one that is alive and
was not met before; the lines of a traceback are met on a way of the same kind.
So nothing is reported twice, and a circle is left where it closes.
-/

namespace Custody

/-! ## Trails -/

section Trails

variable {next : Handle → Option Handle} {start : Handle} {seen rest rest' : List Handle}

/--
What is met on the way from a start along links, as long as there is a link, and
it does not lead to what was seen before.
-/
inductive Trail (next : Handle → Option Handle) : List Handle → Handle → List Handle → Prop where
  | ends {seen : List Handle} {start : Handle}
      (done : ∀ other, next start = some other → other ∈ seen) :
      Trail next seen start []
  | goesOn {seen rest : List Handle} {start other : Handle}
      (links : next start = some other)
      (new : other ∉ seen)
      (later : Trail next (other :: seen) other rest) :
      Trail next seen start (other :: rest)

namespace Trail

/-- There is one trail only. -/
theorem unique
    (trail : Trail next seen start rest)
    (trail' : Trail next seen start rest') :
    rest' = rest := by
  induction trail generalizing rest' with
  | ends done =>
      cases trail' with
      | ends => rfl
      | goesOn links new => exact absurd (done _ links) new
  | goesOn links new _ step =>
      cases trail' with
      | ends done => exact absurd (done _ links) new
      | goesOn links' _ later =>
          obtain rfl := Option.some.inj (links.symm.trans links')
          rw [step later]

/-- Nothing on a trail was seen before, and nothing is met twice. -/
theorem nodup
    (trail : Trail next seen start rest) :
    rest.Nodup ∧ ∀ other ∈ rest, other ∉ seen := by
  induction trail with
  | ends => exact ⟨List.nodup_nil, List.forall_mem_nil _⟩
  | @goesOn seen rest start other links new later step =>
      rcases step with ⟨distinct, unseen⟩
      refine ⟨List.nodup_cons.mpr ⟨fun among => ?_, distinct⟩, ?_⟩
      · exact unseen other among List.mem_cons_self
      · refine List.forall_mem_cons.mpr ⟨new, fun further among old => ?_⟩
        exact unseen further among (List.mem_cons_of_mem _ old)

end Trail

end Trails

/-- A last text comes after the others, behind one more separator. -/
theorem intercalate_concat
    {texts : List String}
    (separator last : String)
    (nonempty : texts ≠ []) :
    separator.intercalate (texts ++ [last]) =
      separator.intercalate texts ++ separator ++ last := by
  induction texts with
  | nil => exact absurd rfl nonempty
  | cons text rest step =>
      cases rest with
      | nil =>
          rw [List.singleton_append, String.intercalate_cons_cons]
          simp
      | cons other rest =>
          rw [List.cons_append, List.cons_append, String.intercalate_cons_cons,
            String.intercalate_cons_cons, ← List.cons_append, step (List.cons_ne_nil _ _)]
          simp only [String.append_assoc]

namespace Heap

variable {heap : Heap} {handle next : Handle} {seen : List Handle} {bound : Nat} {text : String}

/-! ## Tracebacks -/

/-- The entry of a traceback that a handle names. -/
def tracebackAt? (heap : Heap) (handle : Handle) : Option TracebackInfo :=
  match heap.payload? handle with
  | some (.traceback info) => some info
  | _ => none

/-- The entry that an entry of a traceback is linked to, if it is one. -/
def nextEntry (heap : Heap) (handle : Handle) : Option Handle :=
  ((heap.tracebackAt? handle).bind TracebackInfo.next).filter fun next =>
    (heap.tracebackAt? next).isSome

/-- The frame that an entry of a traceback shows. -/
def frame? (heap : Heap) (handle : Handle) : Option Frame :=
  (heap.tracebackAt? handle).map TracebackInfo.frame

/-- The frames that are shown from an entry on, apart from those seen before. -/
def ShowsFrom
    (heap : Heap)
    (seen : List Handle)
    (handle : Handle)
    (frames : List Frame) :
    Prop :=
  ∃ rest,
    Trail heap.nextEntry (handle :: seen) handle rest ∧
      (handle :: rest).map heap.frame? = frames.map some

/-- The frames that a traceback shows, outermost call first; something else shows none. -/
def Shows (heap : Heap) (traceback : Handle) (frames : List Frame) : Prop :=
  match heap.tracebackAt? traceback with
  | none => frames = []
  | some _ => heap.ShowsFrom [] traceback frames

namespace ShowsFrom

variable {frame : Frame} {frames frames' : List Frame}

theorem last
    (shown : heap.frame? handle = some frame)
    (done : ∀ other, heap.nextEntry handle = some other → other ∈ handle :: seen) :
    heap.ShowsFrom seen handle [frame] :=
  ⟨[], .ends done, congrArg (fun first => [first]) shown⟩

theorem cons
    (shown : heap.frame? handle = some frame)
    (links : heap.nextEntry handle = some next)
    (new : next ∉ handle :: seen)
    (later : heap.ShowsFrom (handle :: seen) next frames) :
    heap.ShowsFrom seen handle (frame :: frames) := by
  rcases later with ⟨rest, trail, others⟩
  exact ⟨next :: rest, .goesOn links new trail, by rw [List.map_cons, shown, others, List.map_cons]⟩

theorem unique
    (shows : heap.ShowsFrom seen handle frames)
    (shows' : heap.ShowsFrom seen handle frames') :
    frames' = frames := by
  rcases shows with ⟨rest, trail, shown⟩
  rcases shows' with ⟨rest', trail', shown'⟩
  rw [trail.unique trail', shown] at shown'
  exact List.map_injective_iff.mpr (Option.some_injective _) shown'.symm

end ShowsFrom

/-- There is one list of frames only. -/
theorem Shows.unique
    {frames frames' : List Frame}
    (shows : heap.Shows handle frames)
    (shows' : heap.Shows handle frames') :
    frames' = frames := by
  cases found : heap.tracebackAt? handle with
  | none =>
      rw [Shows, found] at shows shows'
      exact shows'.trans shows.symm
  | some info =>
      rw [Shows, found] at shows shows'
      exact ShowsFrom.unique shows shows'

theorem payload?_of_tracebackAt?
    {info : TracebackInfo}
    (found : heap.tracebackAt? handle = some info) :
    heap.payload? handle = some (.traceback info) := by
  rw [tracebackAt?] at found
  split at found
  · next same => rw [same, Option.some.inj found]
  · cases found

end Heap

namespace Interpreter

variable {interp : Interpreter} {heap : Heap} {handle : Handle} {seen : List Handle}
variable {bound : Nat} {text : String}

/-- What was seen before, or is no entry, adds no lines. -/
theorem chainTextWithin_of_passed
    (passed : handle ∈ seen ∨ heap.tracebackAt? handle = none)
    (written : chainTextWithin heap bound seen handle = some text) :
    text = "" := by
  cases bound with
  | zero => cases written
  | succ bound =>
      rw [chainTextWithin] at written
      split at written
      · exact (Option.some.inj written).symm
      · next new =>
          split at written
          · next info found =>
              rcases passed with old | missing
              · exact absurd old new
              · rw [Heap.tracebackAt?, found] at missing
                cases missing
          · exact (Option.some.inj written).symm

/-- The lines from an entry on are those of the frames that are shown from it on. -/
theorem showsFrom_of_chainTextWithin
    {info : TracebackInfo}
    (found : heap.tracebackAt? handle = some info)
    (new : handle ∉ seen)
    (written : chainTextWithin heap bound seen handle = some text) :
    ∃ frames, heap.ShowsFrom seen handle frames ∧ text = String.join (frames.map frameText) := by
  induction bound generalizing seen handle info text with
  | zero => cases written
  | succ bound step =>
      have shown : heap.frame? handle = some info.frame := by
        rw [Heap.frame?, found, Option.map_some]
      have linked : heap.nextEntry handle =
          info.next.filter fun next => (heap.tracebackAt? next).isSome := by
        rw [Heap.nextEntry, found, Option.bind_some]
      have alone : frameText info.frame = String.join ([info.frame].map frameText) := by
        simp [String.join_cons]
      rw [chainTextWithin, if_neg new, Heap.payload?_of_tracebackAt? found] at written
      cases follows : info.next with
      | none =>
          simp only [follows, Option.some.injEq] at written
          refine ⟨_, .last shown fun other links => ?_, written.symm.trans alone⟩
          rw [linked, follows] at links
          cases links
      | some next =>
          simp only [follows, Option.map_eq_some_iff] at written
          rcases written with ⟨lines, written, rfl⟩
          rw [follows, Option.filter_some] at linked
          by_cases passed : next ∈ handle :: seen ∨ heap.tracebackAt? next = none
          · rw [chainTextWithin_of_passed passed written, String.append_empty]
            refine ⟨_, .last shown fun other links => ?_, alone⟩
            rw [linked] at links
            split at links
            · next isEntry =>
                rw [← Option.some.inj links]
                refine passed.resolve_right fun missing => ?_
                rw [missing] at isEntry
                cases isEntry
            · cases links
          · rw [not_or] at passed
            rcases Option.ne_none_iff_exists'.mp passed.2 with ⟨info', found'⟩
            rcases step found' passed.1 written with ⟨frames, later, rfl⟩
            refine ⟨info.frame :: frames, .cons shown ?_ passed.1 later, ?_⟩
            · rw [linked, found', Option.isSome_some, if_pos rfl]
            · rw [List.map_cons, String.join_cons]

/-- The text of a traceback is the lines of the frames that it shows. -/
theorem exists_shows (interp : Interpreter) (traceback : Handle) :
    ∃ frames,
      interp.heap.Shows traceback frames ∧
        interp.tracebackText traceback = String.join (frames.map frameText) := by
  have written : chainTextWithin interp.heap interp.heap.reach [] traceback =
      some (interp.tracebackText traceback) := chainTextWithin_eq le_rfl traceback
  cases found : interp.heap.tracebackAt? traceback with
  | none =>
      refine ⟨[], ?_, chainTextWithin_of_passed (.inr found) written⟩
      rw [Heap.Shows, found]
  | some info =>
      rcases showsFrom_of_chainTextWithin found List.not_mem_nil written with ⟨frames, shows, same⟩
      refine ⟨frames, ?_, same⟩
      rw [Heap.Shows, found]
      exact shows

theorem tracebackText_of_shows
    {frames : List Frame}
    (shows : interp.heap.Shows handle frames) :
    interp.tracebackText handle = String.join (frames.map frameText) := by
  rcases interp.exists_shows handle with ⟨frames', shows', same⟩
  rw [same, shows.unique shows']

/-! ## Causes -/

/-- The cause of an exception, if it is alive. -/
def liveCause (interp : Interpreter) (handle : Handle) : Option Handle :=
  (interp.heap.causeOf handle).filter interp.heap.isLive

/--
What is reported of one exception: the lines of the traceback that applies, if
one does, under a header, and then its type and message.  A traceback that is
given goes before the one that is attached to the exception.
-/
inductive Tells
    (interp : Interpreter)
    (type : Handle)
    (value traceback : Option Handle) :
    String → Prop where
  | untraced
      (none : (traceback <|> value.bind interp.heap.tracebackOf) = none) :
      Tells interp type value traceback (interp.summary type value ++ "\n")
  | traced {entry : Handle} {frames : List Frame}
      (applies : (traceback <|> value.bind interp.heap.tracebackOf) = some entry)
      (shows : interp.heap.Shows entry frames) :
      Tells interp type value traceback
        (tracebackHeader ++ String.join (frames.map frameText) ++
          interp.summary type value ++ "\n")

/-- What is reported of a cause: its own type and traceback. -/
def TellsCause (interp : Interpreter) (cause : Handle) (text : String) : Prop :=
  ∃ type, interp.typeOf cause = .ok type ∧ interp.Tells type (some cause) none text

/-- The causes that are reported before an exception. -/
def Causes (interp : Interpreter) (value : Option Handle) (causes : List Handle) : Prop :=
  match value with
  | none => causes = []
  | some first => Trail interp.liveCause [first] first causes

theorem Causes.unique
    {value : Option Handle}
    {causes causes' : List Handle}
    (follows : interp.Causes value causes)
    (follows' : interp.Causes value causes') :
    causes' = causes := by
  cases value with
  | none => exact Eq.trans follows' (Eq.symm follows)
  | some first => exact Trail.unique follows follows'

theorem Causes.nodup
    {value : Option Handle}
    {causes : List Handle}
    (follows : interp.Causes value causes) :
    (value.toList ++ causes).Nodup := by
  cases value with
  | none =>
      rw [show causes = [] from follows]
      exact List.nodup_nil
  | some first =>
      rcases Trail.nodup follows with ⟨distinct, new⟩
      exact List.nodup_cons.mpr ⟨fun among => new first among (List.mem_singleton_self _), distinct⟩

/-- A text is the reports of the causes of an exception not seen before, and its own. -/
def TellsFrom
    (interp : Interpreter)
    (seen : List Handle)
    (value : Handle)
    (own text : String) :
    Prop :=
  ∃ causes reports,
    Trail interp.liveCause seen value causes ∧
      List.Forall₂ interp.TellsCause causes reports ∧
        text = causeSeparator.intercalate (reports.reverse ++ [own])

namespace TellsFrom

variable {value cause : Handle} {own first : String}

theorem alone
    (done : ∀ other, interp.liveCause value = some other → other ∈ seen) :
    interp.TellsFrom seen value own own :=
  ⟨[], [], .ends done, .nil, by simp⟩

theorem cons
    (links : interp.liveCause value = some cause)
    (new : cause ∉ seen)
    (tells : interp.TellsCause cause first)
    (later : interp.TellsFrom (cause :: seen) cause first text) :
    interp.TellsFrom seen value own (text ++ causeSeparator ++ own) := by
  rcases later with ⟨causes, reports, trail, each, rfl⟩
  refine ⟨cause :: causes, first :: reports, .goesOn links new trail, .cons tells each, ?_⟩
  rw [List.reverse_cons, intercalate_concat causeSeparator own (List.append_ne_nil_of_right_ne_nil _
    (List.cons_ne_nil _ _))]

end TellsFrom

end Interpreter

end Custody
