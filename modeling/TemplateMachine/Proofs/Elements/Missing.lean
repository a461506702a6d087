import TemplateMachine.Proofs.Elements.Texts
import TemplateMachine.Proofs.Elements.Verbatim

/-!
# A missing value alone and in a list

A missing value is written as the replacement text, by the renderer for texts. In a list the
replacement text takes the place of the missing element, which is then written like any other text
value, and so by way of the proxy for texts. This is the same if there is no such proxy. If what the
proxy puts there is a scalar value, it is the same exactly if that value has the text that the
replacement has.

Only lists without a proxy of their own are looked at.
-/

namespace TemplateMachine

open Attempt Render

/-- Two computations that come to the same count and the same text wherever they are started. -/
def Render.OutputsAlike (action other : Render Nat) : Prop :=
  ∀ s, (outcome action s).1 = (outcome other s).1 ∧
    (outcome action s).2.writer.text = (outcome other s).2.writer.text

section Machine

variable {setting : Setting} {frame : Frame} {options : OptionRow String}

/-- A missing value is written as the replacement text, which no proxy sees. -/
theorem writeValue_none {null : String} (hnull : options.null = some null) (fuel : Nat) :
    writeValue setting (fuel + 1) frame .none options =
      writeScalar setting frame (.string null) options := by
  rw [writeValue, hnull]
  rfl

/-- A list of a missing element is written as a text value with the replacement text. -/
theorem writeValue_list_none (listed : (frame.group setting).proxy? .list = none) {null : String}
    (hnull : options.null = some null) (fuel : Nat) :
    writeValue setting (fuel + 3) frame (.list [.none]) options =
      writeValue setting (fuel + 1) frame (.string null) options := by
  have hlist : frame.standIn setting (.list [.none]) = .list [.none] :=
    Frame.standIn_eq_self listed
  have hitem : (if Value.none.isNone then options.null.map Value.string else some Value.none) =
      some (.string null) := by
    rw [hnull]
    rfl
  rw [writeValue, hlist]
  change writeItems setting (fuel + 2) frame [.none] options 0 false = _
  rw [writeItems_cons, hitem]
  dsimp only
  simp only [separate_false, pure_bind, writeItems, Nat.zero_add, bind_pure]

/-- If a proxy puts a scalar value in the place of a text, that value is written. -/
theorem writeValue_string {text : String}
    (scalar : (frame.standIn setting (.string text)).isScalar = true) (fuel : Nat) :
    writeValue setting (fuel + 1) frame (.string text) options =
      writeScalar setting frame (frame.standIn setting (.string text)) options := by
  rw [writeValue]
  dsimp only [Value.isNone]
  generalize frame.standIn setting (.string text) = value at scalar ⊢
  cases value <;> first | rfl | cases scalar

/-- On a fresh verbatim writer a scalar is written as its text. -/
theorem text_writeScalar_start (value : Value) :
    (outcome (writeScalar setting frame value options)
      (.start (.verbatim (.ofSink .boundless)) false)).2.writer.text =
        frame.scalarText setting value options.format := by
  let s : RenderState := .start (.verbatim (.ofSink .boundless)) false
  obtain ⟨n, t, hends, hadds⟩ := @adds_emit frame _ _ s _ rfl
    (Writer.outcome_writeWrapped_verbatim (frame.scalarText setting value options.format)
      options.wrap (.ofSink .boundless))
  obtain ⟨-, hquiet⟩ := hadds.takesAll Sink.takesAll_boundless
  obtain ⟨htext, -⟩ := hadds.added hquiet
  rw [writeScalar, hends, htext]
  exact String.empty_append

/-- Scalar values are written alike exactly if they have the same text. -/
theorem outputsAlike_writeScalar_iff (value other : Value) :
    (writeScalar setting frame value options).OutputsAlike
        (writeScalar setting frame other options) ↔
      frame.scalarText setting value options.format =
        frame.scalarText setting other options.format := by
  constructor
  · intro alike
    rw [← text_writeScalar_start value, ← text_writeScalar_start other]
    exact (alike _).2
  · intro same
    rw [writeScalar, writeScalar, same]
    exact fun s => ⟨rfl, rfl⟩

end Machine

/-- To write a missing value is to write the replacement text by the renderer for texts, and to write
a list of it is to write that text as a value. Both are the same if there is no proxy for texts. If
such a proxy puts a scalar value in the place of the text, the two come to the same count and the same
text exactly if the value and the replacement have the same text. -/
theorem writeValue_none_outputsAlike_iff {setting : Setting} {frame : Frame}
    (listed : (frame.group setting).proxy? .list = none) {options : OptionRow String}
    {null : String} (replaced : options.null = some null) (fuel : Nat) :
    let once := writeValue setting (fuel + 1) frame .none options
    let inList := writeValue setting (fuel + 3) frame (.list [.none]) options
    let standIn := frame.standIn setting (.string null)
    once = writeScalar setting frame (.string null) options ∧
    inList = writeValue setting (fuel + 1) frame (.string null) options ∧
    ((frame.group setting).proxy? .string = none → inList = once) ∧
    (standIn.isScalar = true → (inList.OutputsAlike once ↔
      frame.scalarText setting standIn options.format =
        frame.scalarText setting (.string null) options.format)) := by
  intro once inList standIn
  have honce : once = writeScalar setting frame (.string null) options :=
    writeValue_none replaced fuel
  have hlist : inList = writeValue setting (fuel + 1) frame (.string null) options :=
    writeValue_list_none listed replaced fuel
  refine ⟨honce, hlist, fun unproxied => ?_, fun scalar => ?_⟩
  · have hself : frame.standIn setting (.string null) = .string null :=
      Frame.standIn_eq_self unproxied
    have hscalar : (frame.standIn setting (.string null)).isScalar = true := by
      rw [hself]
      rfl
    rw [hlist, honce, writeValue_string hscalar, hself]
  · rw [hlist, honce, writeValue_string scalar]
    exact outputsAlike_writeScalar_iff _ _

/-- A frame in a group that puts a mark before every text, and what stays the same there. -/
def markFrame : Frame × Setting :=
  (.root (.ofTemplate (Template.blank "mark") ⟨0⟩),
    ⟨⟨[{ Group.empty ⟨0⟩ with
      proxy? := fun kind =>
        if kind = .string then some fun value => .string ("#" ++ value.display) else none }]⟩,
      "en", 200⟩)

/-- The options of a write that only replaces missing values. -/
def dashed : OptionRow String :=
  { OptionRow.empty with null := some "-" }

/-- A missing value comes out as a dash alone and as a marked dash in a list. -/
theorem marked_in_list :
    ¬(writeValue markFrame.2 3 markFrame.1 (.list [.none]) dashed).OutputsAlike
        (writeValue markFrame.2 1 markFrame.1 .none dashed) ∧
      markFrame.1.scalarText markFrame.2 (.string "-") none = "-" ∧
      markFrame.1.scalarText markFrame.2 (markFrame.1.standIn markFrame.2 (.string "-")) none =
        "#-" := by
  obtain ⟨-, -, -, hiff⟩ :=
    @writeValue_none_outputsAlike_iff markFrame.2 markFrame.1 rfl dashed "-" rfl 0
  have halone : markFrame.1.scalarText markFrame.2 (.string "-") none = "-" := by
    decide +kernel
  have hmarked : markFrame.1.scalarText markFrame.2
      (markFrame.1.standIn markFrame.2 (.string "-")) none = "#-" := by
    decide +kernel
  refine ⟨fun alike => ?_, halone, hmarked⟩
  have hsame := (hiff rfl).mp alike
  rw [show dashed.format = none from rfl, halone, hmarked] at hsame
  exact absurd hsame (by decide)

end TemplateMachine
