import TemplateMachine.Proofs.Cutoff.Sink
import TemplateMachine.Proofs.Output.Simulation

/-!
# A writer that is cut off

A writer on a sink that takes everything beside the same writer on a sink that takes a number of
pieces only. They are the same but for their sinks until the limited sink refuses a piece. After
that they may stand at different columns and have written different amounts, but they still have the
same indentations and as many anchors, so that ending one of these succeeds or fails on both.
-/

namespace TemplateMachine

open Attempt

namespace Writer

/-- A writer that writes to another sink. -/
def onto (sink : Sink) : Writer → Writer
  | .indenting w => .indenting { w with sink := sink }
  | .verbatim w => .verbatim { w with sink := sink }

/-- Two writers with sinks that are apart. Of the layout the indentations are the same, and so is the
number of anchors. -/
structure Apart (limit : Nat) (full cut : Writer) : Prop where
  newline : full.layout.newline = cut.layout.newline
  indentation : full.layout.indentation = cut.layout.indentation
  anchors : full.layout.anchors.length = cut.layout.anchors.length
  sinks : full.sink.Apart limit cut.sink

/-- A writer on a boundless sink and one on a limited sink. In step they are the same otherwise. -/
def CutAt (limit : Nat) : Bool → Writer → Writer → Prop
  | true, full, cut => ∃ sink, cut = full.onto sink ∧ full.sink.InStep limit sink
  | false, full, cut => Apart limit full cut

variable {limit : Nat} {full cut : Writer}

/-- Offering something to the writer beyond the limit leaves the writers apart. -/
theorem Apart.offer_full (h : Apart limit full cut) {w : Writer} {text : String}
    (layout : w.layout = full.layout) (sink : w.sink = full.sink.offer text) : Apart limit w cut :=
  ⟨layout ▸ h.newline, layout ▸ h.indentation, layout ▸ h.anchors,
    sink ▸ h.sinks.offer_full text⟩

/-- Offering something to the writer at the limit leaves the writers apart. -/
theorem Apart.offer_cut (h : Apart limit full cut) {w : Writer} {text : String}
    (layout : w.layout = cut.layout) (sink : w.sink = cut.sink.offer text) : Apart limit full w :=
  ⟨layout ▸ h.newline, layout ▸ h.indentation, layout ▸ h.anchors,
    sink ▸ h.sinks.offer_cut text⟩

/-- Writers on either side of a limit fork alike. -/
theorem CutAt.fork {i : Bool} (h : CutAt limit i full cut) : full.fork = cut.fork := by
  cases i with
  | true =>
    obtain ⟨sink, rfl, -⟩ := h
    cases full <;> rfl
  | false =>
    have hnewline := Apart.newline h
    cases full <;> cases cut <;> simp_all [layout, Writer.fork]

/-- What comes of offering a text to sinks that are in step: either both take it, or one takes it
and the other one refuses it. -/
theorem offer_inStep {ω : Type} (view : ω → Writer) {full cut : Sink} (h : full.InStep limit cut)
    (text : String) {taken taken' refused refused' : Except WriterError Nat × ω}
    (hboth : (full.offer text).InStep limit (cut.offer text) →
      taken.1 = taken'.1 ∧ CutAt limit true (view taken.2) (view taken'.2))
    (hone : (full.offer text).Apart limit (cut.offer text) →
      CutAt limit false (view taken.2) (view refused'.2)) :
    (if full.accepts text then taken else refused).1 =
          (if cut.accepts text then taken' else refused').1 ∧
        CutAt limit true (view (if full.accepts text then taken else refused).2)
          (view (if cut.accepts text then taken' else refused').2) ∨
      CutAt limit false (view (if full.accepts text then taken else refused).2)
        (view (if cut.accepts text then taken' else refused').2) := by
  obtain ⟨hfull, ⟨hcut, hstep⟩ | ⟨hcut, hapart⟩⟩ := h.offer text
  · simp only [hfull, hcut, if_true]
    exact Or.inl (hboth hstep)
  · simp only [hfull, hcut, if_true, Bool.false_eq_true, if_false]
    exact Or.inr (hone hapart)

/-- Offering a text comes to the same, or the limited sink refuses it. -/
theorem coupled_put (limit : Nat) (text : String) :
    Coupled (fun i w w' => CutAt limit i (.indenting w) (.indenting w'))
      (IndentingWriter.put text) where
  inStep {w w'} h := by
    obtain ⟨sink, hw', hsinks⟩ := h
    obtain rfl := Writer.indenting.inj hw'
    rw [IndentingWriter.outcome_put, IndentingWriter.outcome_put]
    exact offer_inStep .indenting hsinks text (fun hstep => ⟨rfl, _, rfl, hstep⟩)
      fun hapart => ⟨rfl, rfl, rfl, hapart⟩
  left w' w h := by
    rw [IndentingWriter.outcome_put]
    split <;> exact Apart.offer_full h rfl rfl
  right w w' h := by
    rw [IndentingWriter.outcome_put]
    split <;> exact Apart.offer_cut h rfl rfl

/-- Offering the newline text comes to the same, or the limited sink refuses it. -/
theorem coupled_putNewline (limit : Nat) :
    Coupled (fun i w w' => CutAt limit i (.indenting w) (.indenting w'))
      IndentingWriter.putNewline where
  inStep {w w'} h := by
    obtain ⟨sink, hw', hsinks⟩ := h
    obtain rfl := Writer.indenting.inj hw'
    rw [IndentingWriter.outcome_putNewline, IndentingWriter.outcome_putNewline]
    exact offer_inStep .indenting hsinks w.newline (fun hstep => ⟨rfl, _, rfl, hstep⟩)
      fun hapart => ⟨rfl, rfl, rfl, hapart⟩
  left w' w h := by
    rw [IndentingWriter.outcome_putNewline]
    split <;> exact Apart.offer_full h rfl rfl
  right w w' h := by
    rw [IndentingWriter.outcome_putNewline]
    split <;> exact Apart.offer_cut h rfl rfl

/-- Offering a text verbatim comes to the same, or the limited sink refuses it. -/
theorem coupled_verbatim (limit : Nat) (text : String) :
    Coupled (fun i w w' => CutAt limit i (.verbatim w) (.verbatim w'))
      (VerbatimWriter.write text) where
  inStep {w w'} h := by
    obtain ⟨sink, hw', hsinks⟩ := h
    obtain rfl := Writer.verbatim.inj hw'
    rw [VerbatimWriter.outcome_write, VerbatimWriter.outcome_write]
    exact offer_inStep .verbatim hsinks text (fun hstep => ⟨rfl, _, rfl, hstep⟩)
      fun hapart => ⟨rfl, rfl, rfl, hapart⟩
  left w' w h := by
    rw [VerbatimWriter.outcome_write]
    split <;> exact Apart.offer_full h rfl rfl
  right w w' h := by
    rw [VerbatimWriter.outcome_write]
    split <;> exact Apart.offer_cut h rfl rfl

/-- Whatever an indenting writer writes comes to the same, or the limited sink refuses a part. -/
theorem writing_cutAt (limit : Nat) :
    IndentingWriter.Wrapping fun _ =>
      Coupled fun i w w' => CutAt limit i (.indenting w) (.indenting w') := by
  refine .coupled ?_ ?_ (coupled_put limit) (coupled_putNewline limit)
  · rintro w w' ⟨sink, hw', -⟩
    obtain rfl := Writer.indenting.inj hw'
    rfl
  · intro i w w' start start' h hsame
    cases i with
    | true =>
      obtain ⟨sink, hw', hsinks⟩ := h
      obtain rfl := Writer.indenting.inj hw'
      obtain rfl := hsame rfl
      exact ⟨sink, rfl, hsinks⟩
    | false =>
      obtain ⟨hnewline, hindentation, hanchors, hsinks⟩ := h
      exact ⟨hnewline, hindentation, hanchors, hsinks⟩

/-- Beginning an indentation leaves writers on either side of a limit so. -/
theorem CutAt.pushIndentation {i : Bool} (h : CutAt limit i full cut) (indent : String) :
    CutAt limit i (full.pushIndentation indent) (cut.pushIndentation indent) := by
  cases i with
  | true =>
    obtain ⟨sink, rfl, hsinks⟩ := h
    cases full <;> exact ⟨sink, rfl, hsinks⟩
  | false =>
    obtain ⟨hnewline, hindentation, hanchors, hsinks⟩ := h
    cases full <;> cases cut
    case indenting.indenting =>
      exact ⟨hnewline, congrArg (indent :: ·) hindentation, hanchors, hsinks⟩
    case verbatim.verbatim =>
      exact ⟨hnewline, congrArg ("" :: ·) hindentation, hanchors, hsinks⟩
    all_goals simp [layout] at hnewline

/-- Putting an anchor leaves writers on either side of a limit so. -/
theorem CutAt.pushAnchor {i : Bool} (h : CutAt limit i full cut) :
    CutAt limit i full.pushAnchor cut.pushAnchor := by
  cases i with
  | true =>
    obtain ⟨sink, rfl, hsinks⟩ := h
    cases full <;> exact ⟨sink, rfl, hsinks⟩
  | false =>
    obtain ⟨hnewline, hindentation, hanchors, hsinks⟩ := h
    cases full <;> cases cut
    case indenting.indenting =>
      exact ⟨hnewline, hindentation, congrArg (· + 1) hanchors, hsinks⟩
    case verbatim.verbatim =>
      exact ⟨hnewline, hindentation, by simpa [layout, Writer.pushAnchor] using hanchors, hsinks⟩
    all_goals simp [layout] at hnewline

/-- Ending an indentation does not depend on the sink. -/
theorem outcome_popIndentation_onto (w : Writer) (sink : Sink) :
    outcome popIndentation (w.onto sink) =
      ((outcome popIndentation w).1, (outcome popIndentation w).2.onto sink) := by
  cases w with
  | indenting w =>
    obtain ⟨_, _, _, indents, _, _, _, _⟩ := w
    cases indents <;> rfl
  | verbatim w =>
    obtain ⟨_, indents, _, _⟩ := w
    cases indents <;> rfl

/-- Ending an anchor does not depend on the sink. -/
theorem outcome_popAnchor_onto (w : Writer) (sink : Sink) :
    outcome popAnchor (w.onto sink) =
      ((outcome popAnchor w).1, (outcome popAnchor w).2.onto sink) := by
  cases w with
  | indenting w =>
    obtain ⟨_, _, _, _, anchors, _, _, _⟩ := w
    cases anchors <;> rfl
  | verbatim w =>
    obtain ⟨_, _, anchors, _⟩ := w
    cases anchors <;> rfl

/-- Ending an indentation fails on both sides of a limit or on neither. -/
theorem matched_popIndentation (limit : Nat) : Matched (CutAt limit) popIndentation := by
  intro i full cut h
  have hfull := outcome_popIndentation full
  cases i with
  | true =>
    obtain ⟨sink, rfl, hsinks⟩ := h
    rw [outcome_popIndentation_onto]
    refine ⟨rfl, sink, rfl, ?_⟩
    cases hopen : full.layout.indentation with
    | nil =>
      rw [hopen] at hfull
      rw [hfull]
      exact hsinks
    | cons indent rest =>
      rw [hopen] at hfull
      obtain ⟨w, hends, -, hsink⟩ := hfull
      rw [hends, hsink]
      exact hsinks
  | false =>
    have hcut := outcome_popIndentation cut
    obtain ⟨hnewline, hindentation, hanchors, hsinks⟩ := h
    rw [← hindentation] at hcut
    cases hopen : full.layout.indentation with
    | nil =>
      rw [hopen] at hfull hcut
      rw [hfull, hcut]
      exact ⟨rfl, hnewline, hindentation, hanchors, hsinks⟩
    | cons indent rest =>
      rw [hopen] at hfull hcut
      obtain ⟨w, hends, hlayout, hsink⟩ := hfull
      obtain ⟨w', hends', hlayout', hsink'⟩ := hcut
      rw [hends, hends']
      exact ⟨rfl, by simp [hlayout, hlayout', hnewline], by simp [hlayout, hlayout'],
        by simp [hlayout, hlayout', hanchors], by rw [hsink, hsink']; exact hsinks⟩

/-- Ending an anchor fails on both sides of a limit or on neither. -/
theorem matched_popAnchor (limit : Nat) : Matched (CutAt limit) popAnchor := by
  intro i full cut h
  have hfull := outcome_popAnchor full
  cases i with
  | true =>
    obtain ⟨sink, rfl, hsinks⟩ := h
    rw [outcome_popAnchor_onto]
    refine ⟨rfl, sink, rfl, ?_⟩
    cases hopen : full.layout.anchors with
    | nil =>
      rw [hopen] at hfull
      rw [hfull]
      exact hsinks
    | cons column rest =>
      rw [hopen] at hfull
      obtain ⟨w, hends, -, hsink⟩ := hfull
      rw [hends, hsink]
      exact hsinks
  | false =>
    have hcut := outcome_popAnchor cut
    obtain ⟨hnewline, hindentation, hanchors, hsinks⟩ := h
    cases hopen : full.layout.anchors with
    | nil =>
      have hopen' : cut.layout.anchors = [] := by
        rw [hopen] at hanchors
        exact List.length_eq_zero_iff.mp hanchors.symm
      rw [hopen] at hfull
      rw [hopen'] at hcut
      rw [hfull, hcut]
      exact ⟨rfl, hnewline, hindentation, hanchors, hsinks⟩
    | cons column rest =>
      obtain ⟨column', rest', hopen'⟩ : ∃ column' rest', cut.layout.anchors = column' :: rest' := by
        rw [hopen] at hanchors
        exact List.exists_cons_of_length_eq_add_one hanchors.symm
      rw [hopen, hopen'] at hanchors
      rw [hopen] at hfull
      rw [hopen'] at hcut
      obtain ⟨w, hends, hlayout, hsink⟩ := hfull
      obtain ⟨w', hends', hlayout', hsink'⟩ := hcut
      rw [hends, hends']
      exact ⟨rfl, by simp [hlayout, hlayout', hnewline], by simp [hlayout, hlayout', hindentation],
        by simpa [hlayout, hlayout'] using hanchors, by rw [hsink, hsink']; exact hsinks⟩

/-- A writer on a boundless sink and one on a limited sink simulate each other. -/
theorem simulation_cutAt (limit : Nat) : Simulation (CutAt limit) where
  fork := CutAt.fork
  write text := coupled_dispatch (fun _ _ _ => CutAt.fork) ((writing_cutAt limit).write text)
    (coupled_verbatim limit text)
  writeWrap wrap := coupled_dispatch (fun _ _ _ => CutAt.fork)
    ((writing_cutAt limit).writeWrap wrap) (coupled_pure 0)
  pushIndentation indent h := h.pushIndentation indent
  pushAnchor h := h.pushAnchor
  popIndentation := matched_popIndentation limit
  popAnchor := matched_popAnchor limit

/-- What reaches the limited sink of two writers is cut off at the limit. -/
theorem CutAt.cutOff {i : Bool} (h : CutAt limit i full cut) :
    full.sink.CutOff limit cut.sink := by
  cases i with
  | true =>
    obtain ⟨sink, rfl, hsinks⟩ := h
    cases full <;> exact hsinks.cutOff
  | false => exact (Apart.sinks h).cutOff

end Writer

end TemplateMachine
