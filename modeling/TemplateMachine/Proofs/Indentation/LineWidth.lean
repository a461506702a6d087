import TemplateMachine.Proofs.Indentation.Disabled

/-!
# The line width

The indenting writer looks at its line width in one place, where a line may be wrapped, and a line is
wrapped with a wrap text only. A render that never sets the wrap option is therefore the same for
every line width and for none, and so is a render without indentation, whose writer has none.

A wrap text can come from the wrap option alone: a row on the operand stack in which no instruction
set that option yields a row of texts without it. A writer of a render to text has no line width at
all, so that it is the same whichever writer it is forked from.
-/

namespace TemplateMachine

open Attempt

/-- What a render must not come across if it is to be the same for every line width: an instruction
that sets the wrap option. -/
def Exclusions.wrapping : Exclusions where
  problem _ := False
  instr instr := instr = .storeOption WriteOption.wrap.index
  text _ := False

namespace Writer

/-- Two writers that are the same but for their line widths. -/
def Resized (w w' : Writer) : Prop :=
  ∃ width, w' = w.setLineWidth width

namespace Resized

variable {w w' : Writer}

/-- Writers that are the same but for their line widths fork alike, as no line width is passed on. -/
theorem fork_eq (h : Resized w w') : w'.fork = w.fork := by
  obtain ⟨width, rfl⟩ := h
  cases w <;> rfl

/-- Writers that are the same but for their line widths have the same text. -/
theorem text (h : Resized w w') : w'.text = w.text := by
  obtain ⟨width, rfl⟩ := h
  cases w <;> rfl

/-- A change that passes the line width on leaves writers the same but for it. -/
theorem map (h : Resized w w') {change : Writer → Writer}
    (blind : ∀ w width, change (w.setLineWidth width) = (change w).setLineWidth width) :
    Resized (change w) (change w') := by
  obtain ⟨width, rfl⟩ := h
  exact ⟨width, blind w width⟩

end Resized

/-- An operation that does the same whatever the line width agrees on writers that differ in it. -/
theorem agrees_resized {α : Type} {operation : Attempt Writer α}
    (blind : ∀ w width, outcome operation (w.setLineWidth width) =
      ((outcome operation w).1, (outcome operation w).2.setLineWidth width)) :
    Agrees False Resized operation := by
  rintro w w' ⟨width, rfl⟩
  rw [blind]
  exact Or.inr ⟨rfl, width, rfl⟩

/-- Whatever an indenting writer writes without wrapping comes to the same for every line width. -/
theorem writing_resized :
    IndentingWriter.Writing fun _ =>
      Agrees False fun w w' => Resized (.indenting w) (.indenting w') := by
  refine .agrees ?_ ?_ (fun text => ?_) ?_
  · rintro w w' ⟨width, hw'⟩
    obtain rfl := Writer.indenting.inj hw'
    rfl
  · rintro w w' atLineStart ⟨width, hw'⟩
    obtain rfl := Writer.indenting.inj hw'
    exact ⟨width, rfl⟩
  · rintro w w' ⟨width, hw'⟩
    obtain rfl := Writer.indenting.inj hw'
    rw [IndentingWriter.outcome_put, IndentingWriter.outcome_put]
    split <;> exact Or.inr ⟨rfl, width, rfl⟩
  · rintro w w' ⟨width, hw'⟩
    obtain rfl := Writer.indenting.inj hw'
    rw [IndentingWriter.outcome_putNewline, IndentingWriter.outcome_putNewline]
    split <;> exact Or.inr ⟨rfl, width, rfl⟩

/-- Writers that are the same but for their line widths stay so until the wrap option is set. -/
theorem bisimulation_resized : Exclusions.wrapping.Bisimulation Resized where
  index := by
    rintro w _ ⟨width, rfl⟩
    cases w <;> rfl
  text := Resized.text
  fork {w w'} h := by
    rw [h.fork_eq]
    exact ⟨none, by cases w <;> rfl⟩
  write {text} _ := by
    refine agrees_dispatch (fun _ _ => Resized.fork_eq) (writing_resized.write text) ?_
    rintro w w' ⟨width, hw'⟩
    obtain rfl := Writer.verbatim.inj hw'
    exact Or.inr ⟨rfl, width, rfl⟩
  writeWrap {wrap} allowed := by
    obtain rfl := allowed rfl
    refine agrees_resized fun w width => ?_
    cases w with
    | indenting w => simp [writeWrap, setLineWidth, IndentingWriter.outcome_writeWrap_none]
    | verbatim w => rfl
  pushIndentation _ indent w w' h := h.map fun w _ => by cases w <;> rfl
  popIndentation := by
    refine agrees_resized fun w width => ?_
    cases w with
    | indenting w =>
      obtain ⟨_, _, _, indents, _, _, _, _⟩ := w
      cases indents <;> rfl
    | verbatim w => rfl
  pushAnchor _ w w' h := h.map fun w _ => by cases w <;> rfl
  popAnchor _ := by
    refine agrees_resized fun w width => ?_
    cases w with
    | indenting w =>
      obtain ⟨_, _, _, _, anchors, _, _, _⟩ := w
      cases anchors <;> rfl
    | verbatim w => rfl

end Writer

namespace RenderSettings

variable {settings : RenderSettings} {sink : Sink} {width other : Option Nat}

/-- The writers of a render for two line widths are the same otherwise. -/
theorem resized_writer : Writer.Resized ({ settings with lineWidth := width }.writer sink)
    ({ settings with lineWidth := other }.writer sink) := by
  refine ⟨other, ?_⟩
  unfold writer
  dsimp only
  split <;> rfl

/-- Without indentation the writer of a render has no line width. -/
theorem writer_lineWidth (verbatim : settings.indent = false) :
    { settings with lineWidth := other }.writer sink =
      { settings with lineWidth := width }.writer sink := by
  simp [writer, verbatim]

end RenderSettings

/-- A render is the same for every line width and for none, on every sink, if it is without
indentation or comes to no instruction that sets the wrap option, for one of these widths: it ends
for all of them or for none, with the same output, events and messages. -/
theorem Instance.render_lineWidth (inst : Instance) (catalog : Catalog) (settings : RenderSettings)
    (sink : Sink) (withEvents : Bool) (fuel : Nat) (width other : Option Nat)
    (unwrapped : settings.indent = false ∨ ∀ instr ∈ (inst.execute catalog
      { settings with lineWidth := width } sink withEvents fuel).2.instrs,
      instr ≠ .storeOption WriteOption.wrap.index) :
    (inst.render catalog { settings with lineWidth := other } sink withEvents fuel).map
        Rendering.contents =
      (inst.render catalog { settings with lineWidth := width } sink withEvents fuel).map
        Rendering.contents := by
  have hsame : RenderSettings.setting { settings with lineWidth := other } catalog inst =
      RenderSettings.setting { settings with lineWidth := width } catalog inst := rfl
  rcases unwrapped with verbatim | unwrapped
  · rw [Instance.render, Instance.render, Instance.execute, Instance.execute, hsame,
      RenderSettings.writer_lineWidth verbatim]
  · have hunmet : ¬Exclusions.wrapping.Met (inst.execute catalog
        { settings with lineWidth := width } sink withEvents fuel).2 := by
      rintro (⟨message, -, hnever⟩ | ⟨instr, mem, hwraps⟩)
      · exact hnever
      · exact unwrapped instr mem hwraps
    obtain ⟨hresult, hfinish⟩ := inst.execute_accord Writer.bisimulation_resized catalog hsame
      RenderSettings.resized_writer (fun _ _ => id) hunmet
    exact map_contents_render_eq hresult (hfinish.mono fun _ _ h => h.text)

/-- A template that writes two texts, the second one after a wrap. -/
def wrappedTemplate : Template :=
  { Template.blank "wrapped" with
    program := [.writeStr 0, .loadStr 1, .options, .loadStr 2, .storeOption 4, .writeOpt]
    pool := ["long", "line", "\n"] }

/-- An instance of it. -/
def wrappedInstance : Instance := .ofTemplate wrappedTemplate ⟨0⟩

/-- Without indentation it is rendered on one line for every line width, and so is a template that
does not set the wrap option with indentation. With indentation, a line width that is too small has
the line wrapped. -/
theorem wrapped_render_lineWidth :
    (wrappedInstance.render ⟨[]⟩
        { RenderSettings.standard with indent := false, lineWidth := some 3 } .boundless true
        40).map Rendering.contents =
      (wrappedInstance.render ⟨[]⟩
        { RenderSettings.standard with indent := false, lineWidth := none } .boundless true
        40).map Rendering.contents ∧
    (unlaidInstance.render ⟨[]⟩ { RenderSettings.standard with lineWidth := some 3 } .boundless true
        40).map Rendering.contents =
      (unlaidInstance.render ⟨[]⟩ { RenderSettings.standard with lineWidth := none } .boundless true
        40).map Rendering.contents ∧
    (unlaidInstance.render ⟨[]⟩ { RenderSettings.standard with lineWidth := none } .boundless true
        40).map Rendering.text = some "a\nbtrue, c\n" ∧
    (wrappedInstance.render ⟨[]⟩ { RenderSettings.standard with lineWidth := some 3 } .boundless true
        40).map Rendering.text = some "long\nline" := by
  refine ⟨wrappedInstance.render_lineWidth ⟨[]⟩ { RenderSettings.standard with indent := false }
    .boundless true 40 none (some 3) (Or.inl rfl), unlaidInstance.render_lineWidth ⟨[]⟩ .standard
    .boundless true 40 none (some 3) (Or.inr ?_), ?_, ?_⟩
  all_goals decide +kernel

end TemplateMachine
