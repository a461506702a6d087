import TemplateMachine.Proofs.Output.Attempt

/-!
# The layout of a writer

What a writer goes by when it writes: its newline text and line width, and the indentations and
anchors in force. Writing leaves all of this alone; only beginning and ending an indentation or an
anchor changes it, each by one entry.

The verbatim writer counts its indentations and anchors. Here they are the empty texts and the zero
columns that it gives back.
-/

namespace TemplateMachine

open Attempt

/-- The newline text and the line width of a writer, and its indentations and anchors with the
innermost first. The verbatim writer has no newline text. -/
structure Layout where
  newline : Option String
  lineWidth : Option Nat
  indentation : List String
  anchors : List Nat

namespace Writer

/-- The layout of a writer. -/
def layout : Writer → Layout
  | .indenting w => ⟨some w.newline, w.lineWidth, w.indents, w.anchors⟩
  | .verbatim w => ⟨none, none, List.replicate w.indents "", List.replicate w.anchors 0⟩

/-- An operation is run on whichever writer is there. -/
@[simp] theorem outcome_dispatch_indenting {α : Type} (indenting : Attempt IndentingWriter α)
    (verbatim : Attempt VerbatimWriter α) (w : IndentingWriter) :
    outcome (dispatch indenting verbatim) (.indenting w) =
      ((outcome indenting w).1, .indenting (outcome indenting w).2) := rfl

/-- An operation is run on whichever writer is there. -/
@[simp] theorem outcome_dispatch_verbatim {α : Type} (indenting : Attempt IndentingWriter α)
    (verbatim : Attempt VerbatimWriter α) (w : VerbatimWriter) :
    outcome (dispatch indenting verbatim) (.verbatim w) =
      ((outcome verbatim w).1, .verbatim (outcome verbatim w).2) := rfl

/-- An operation keeps what it keeps for either sort of writer. -/
theorem keeps_dispatch {α : Type} {I : Writer → Prop}
    {indenting : Attempt IndentingWriter α} {verbatim : Attempt VerbatimWriter α}
    (hindenting : Keeps (fun w => I (.indenting w)) indenting)
    (hverbatim : Keeps (fun w => I (.verbatim w)) verbatim) :
    Keeps I (dispatch indenting verbatim) := by
  intro w hw
  cases w with
  | indenting w => exact hindenting w hw
  | verbatim w => exact hverbatim w hw

/-- An operation that leaves the layout alone. -/
def KeepsLayout {α : Type} (operation : Attempt Writer α) : Prop :=
  ∀ layout, Keeps (fun w : Writer => w.layout = layout) operation

/-- Whatever writes leaves the layout of an indenting writer alone. -/
theorem writing_keepsLayout (layout : Layout) :
    IndentingWriter.Wrapping fun _ => Keeps fun w => (indenting w).layout = layout := by
  refine .keeps (fun text w hw => ?_) (fun w hw => ?_) fun _ _ hw => hw
  · rw [IndentingWriter.outcome_put]
    split <;> exact hw
  · rw [IndentingWriter.outcome_putNewline]
    split <;> exact hw

/-- Wrapping a line leaves the layout alone. -/
theorem keepsLayout_writeWrap (wrap : Option String) : KeepsLayout (writeWrap wrap) :=
  fun layout => keeps_dispatch ((writing_keepsLayout layout).writeWrap wrap) (keeps_pure 0)

/-- Writing leaves the layout alone. -/
theorem keepsLayout_write (text : String) : KeepsLayout (write text) := by
  refine fun layout => keeps_dispatch ((writing_keepsLayout layout).write text) fun w hw => ?_
  rw [VerbatimWriter.outcome_write]
  split <;> exact hw

/-- Writing after a wrap leaves the layout alone. -/
theorem keepsLayout_writeWrapped (text : String) (wrap : Option String) :
    KeepsLayout (writeWrapped text wrap) := by
  refine fun layout => (keepsLayout_writeWrap wrap layout).bind fun n => ?_
  exact (keepsLayout_write text layout).bind fun m => keeps_pure (n + m)

/-- Beginning an indentation adds one to the layout. -/
theorem layout_pushIndentation (w : Writer) (indent : String) :
    ∃ text, (w.pushIndentation indent).layout =
      { w.layout with indentation := text :: w.layout.indentation } := by
  cases w with
  | indenting w => exact ⟨indent, rfl⟩
  | verbatim w => exact ⟨"", rfl⟩

/-- Putting an anchor adds one to the layout. -/
theorem layout_pushAnchor (w : Writer) :
    ∃ column, w.pushAnchor.layout = { w.layout with anchors := column :: w.layout.anchors } := by
  cases w with
  | indenting w => exact ⟨w.column, rfl⟩
  | verbatim w => exact ⟨0, rfl⟩

/-- Ending an indentation takes the innermost one from the layout and leaves the sink alone. It fails
if there is none, which leaves the writer alone. -/
theorem outcome_popIndentation (w : Writer) :
    match w.layout.indentation with
    | indent :: rest => ∃ v, outcome popIndentation w = (.ok indent, v) ∧
        v.layout = { w.layout with indentation := rest } ∧ v.sink = w.sink
    | [] => outcome popIndentation w = (.error .noIndentation, w) := by
  cases w with
  | indenting w =>
    have hpop := IndentingWriter.outcome_popIndentation w
    cases hindents : w.indents with
    | nil => simp [layout, hindents, popIndentation, hpop]
    | cons indent rest =>
      simp only [layout, hindents, popIndentation, outcome_dispatch_indenting, hpop]
      exact ⟨_, rfl, rfl, rfl⟩
  | verbatim w =>
    have hpop := VerbatimWriter.outcome_popIndentation w
    cases hindents : w.indents with
    | zero => simp [layout, hindents, popIndentation, hpop]
    | succ n =>
      simp only [layout, hindents, popIndentation, outcome_dispatch_verbatim, hpop,
        List.replicate_succ]
      exact ⟨_, rfl, rfl, rfl⟩

/-- Ending an anchor takes the innermost one from the layout and leaves the sink alone. It fails if
there is none, which leaves the writer alone. -/
theorem outcome_popAnchor (w : Writer) :
    match w.layout.anchors with
    | column :: rest => ∃ v, outcome popAnchor w = (.ok column, v) ∧
        v.layout = { w.layout with anchors := rest } ∧ v.sink = w.sink
    | [] => outcome popAnchor w = (.error .noAnchor, w) := by
  cases w with
  | indenting w =>
    have hpop := IndentingWriter.outcome_popAnchor w
    cases hanchors : w.anchors with
    | nil => simp [layout, hanchors, popAnchor, hpop]
    | cons column rest =>
      simp only [layout, hanchors, popAnchor, outcome_dispatch_indenting, hpop]
      exact ⟨_, rfl, rfl, rfl⟩
  | verbatim w =>
    have hpop := VerbatimWriter.outcome_popAnchor w
    cases hanchors : w.anchors with
    | zero => simp [layout, hanchors, popAnchor, hpop]
    | succ n =>
      simp only [layout, hanchors, popAnchor, outcome_dispatch_verbatim, hpop,
        List.replicate_succ]
      exact ⟨_, rfl, rfl, rfl⟩

/-- Beginning an indentation leaves the sink alone. -/
theorem sink_pushIndentation (w : Writer) (indent : String) :
    (w.pushIndentation indent).sink = w.sink := by
  cases w <;> rfl

/-- Putting an anchor leaves the sink alone. -/
theorem sink_pushAnchor (w : Writer) : w.pushAnchor.sink = w.sink := by
  cases w <;> rfl

/-- Ending an indentation leaves the sink alone. -/
theorem sink_popIndentation (w : Writer) : (outcome popIndentation w).2.sink = w.sink := by
  have hpop := w.outcome_popIndentation
  split at hpop
  · obtain ⟨v, hends, -, hsink⟩ := hpop
    rw [hends]
    exact hsink
  · rw [hpop]

/-- Ending an anchor leaves the sink alone. -/
theorem sink_popAnchor (w : Writer) : (outcome popAnchor w).2.sink = w.sink := by
  have hpop := w.outcome_popAnchor
  split at hpop
  · obtain ⟨v, hends, -, hsink⟩ := hpop
    rw [hends]
    exact hsink
  · rw [hpop]

end Writer

end TemplateMachine
