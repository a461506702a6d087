import TemplateMachine.Proofs.Elements.Texts
import TemplateMachine.Proofs.Elements.Verbatim
import TemplateMachine.Proofs.Newline.Sequence

/-!
# Lists of scalar values

A separator stands before an element once something was written. On the verbatim writer something was
written as soon as the text of an element is not empty, so the texts that are empty and come first
are passed over, and from the first one that is not empty there is a separator between any two texts,
the empty ones among them.

The group has no proxies, so that the elements have texts. A sink that takes everything is not asked
for: whatever the sink, the output is as it should be unless a refusal is reported.
-/

namespace TemplateMachine

/-- Texts with a separator between any two of them are joined by it. -/
theorem join_intersperse (separator : String) (texts : List String) :
    String.join (texts.intersperse separator) = separator.intercalate texts := by
  induction texts with
  | nil => rfl
  | cons first rest ih =>
    cases rest with
    | nil => simp [String.join_cons]
    | cons next rest =>
      rw [List.intersperse_cons_cons, String.join_cons, String.join_cons, ih,
        String.intercalate_cons_cons, String.append_assoc]

/-- If empty texts do not show, texts with separators are joined without the empty ones at the
start. -/
theorem join_separated (separator : String) (texts : List String) :
    String.join (separated separator (· != "") false texts) =
      separator.intercalate (texts.dropWhile (· == "")) := by
  induction texts with
  | nil => rfl
  | cons text rest ih =>
    by_cases hidden : text = ""
    · subst hidden
      rw [List.dropWhile_cons_of_pos (by rfl), ← ih, separated]
      exact (String.join_cons).trans String.empty_append
    · rw [List.dropWhile_cons_of_neg (by simpa using hidden),
        separated_eq_intersperse separator rest (by simpa using hidden), join_intersperse]

/-- The separator is written before an element once something was written. -/
theorem adds_separate (frame : Frame) (options : OptionRow String) (seen : Bool) {s : RenderState}
    {w : VerbatimWriter} (verbatim : s.writer = .verbatim w) :
    ∃ n t, Render.outcome (separate frame options seen) s = (some n, t) ∧
      s.Adds (if seen then options.separator.getD "" else "") n t := by
  rcases separate_eq_or frame options seen with ⟨hnothing, hempty⟩ | hwrites
  · rw [hnothing, hempty]
    exact ⟨0, s, rfl, .nil verbatim⟩
  · rw [hwrites]
    exact adds_emit frame verbatim rfl

/-- Texts are written with the separator before each one that comes after something was written. -/
theorem adds_writeTexts (frame : Frame) (options : OptionRow String) (texts : List String)
    (count : Nat) (seen : Bool) {s : RenderState} {w : VerbatimWriter}
    (verbatim : s.writer = .verbatim w) :
    ∃ n t, Render.outcome (writeTexts frame options texts count seen) s = (some (count + n), t) ∧
      s.Adds (String.join (separated (options.separator.getD "") (· != "") seen texts)) n t := by
  induction texts generalizing s w count seen with
  | nil => exact ⟨0, s, rfl, .nil verbatim⟩
  | cons text rest ih =>
    obtain ⟨n, t, hseparator, hfirst⟩ := adds_separate frame options seen verbatim
    obtain ⟨v, hv⟩ := hfirst.verbatim
    obtain ⟨m, u, htext, hsecond⟩ := adds_emit frame hv
      (Writer.outcome_writeWrapped_verbatim text options.wrap v)
    obtain ⟨x, hx⟩ := hsecond.verbatim
    obtain ⟨k, r, hrest, hthird⟩ := ih (count + n + m) (seen || 0 < m) hx
    have hseen (quiet : u.messages = t.messages) : decide (0 < m) = (text != "") := by
      obtain ⟨-, rfl⟩ := hsecond.added quiet
      by_cases hidden : text = "" <;> simp [hidden, Nat.pos_iff_ne_zero]
    let separator := options.separator.getD ""
    have hwhole : s.Adds
        (((if seen then separator else "") ++ text) ++
          String.join (separated separator (· != "") (seen || text != "") rest)) (n + m + k) r := by
      refine (hfirst.append hsecond fun _ => rfl).append hthird fun quiet => ?_
      rw [hseen (hfirst.messages_eq hsecond quiet).2]
    refine ⟨n + m + k, r, ?_, ?_⟩
    · rw [writeTexts, Render.outcome_bind, hseparator]
      dsimp only
      rw [Render.outcome_bind, htext]
      dsimp only
      rw [hrest, Nat.add_assoc, Nat.add_assoc, Nat.add_assoc]
    · have hjoin : String.join (separated separator (· != "") seen (text :: rest)) =
          ((if seen then separator else "") ++ text) ++
            String.join (separated separator (· != "") (seen || text != "") rest) := by
        cases seen <;> simp [separated, String.join_cons, String.append_assoc]
      rw [hjoin]
      exact hwhole

/-- A list of scalar values that is written on the verbatim writer comes out as the texts of its
elements, without the empty ones at the start, joined by the separator, and their characters are
counted, unless a refusal is reported. A sink that takes everything refuses nothing. -/
theorem writeValue_scalars_verbatim {setting : Setting} {frame : Frame}
    (unproxied : (frame.group setting).Unproxied) {items : List Value}
    (scalars : ∀ item ∈ items, item.isScalar = true) (options : OptionRow String) {s : RenderState}
    {w : VerbatimWriter} (verbatim : s.writer = .verbatim w) (fuel : Nat) :
    ∃ n t, Render.outcome
        (writeValue setting (fuel + items.length + 2) frame (.list items) options) s =
      (some n, t) ∧
      (w.sink.TakesAll → t.messages = s.messages) ∧
      (t.messages = s.messages →
        let written := (options.separator.getD "").intercalate
          ((frame.elementTexts setting options items).dropWhile (· == ""))
        t.writer.text = s.writer.text ++ written ∧ n = written.length) := by
  obtain ⟨n, t, hends, hadds⟩ := adds_writeTexts frame options
    (frame.elementTexts setting options items) 0 false verbatim
  rw [join_separated] at hadds
  refine ⟨n, t, ?_, fun htakes => ?_, hadds.added⟩
  · rw [writeValue_scalars unproxied scalars, hends, Nat.zero_add]
  · rw [← show s.writer.sink = w.sink by rw [verbatim]; rfl] at htakes
    exact (hadds.takesAll htakes).2

/-- A frame in a group that renders truth values by putting the format before them, and what stays the
same there. -/
def tableFrame : Frame × Setting :=
  (.root (.ofTemplate (Template.blank "table") ⟨0⟩),
    ⟨⟨[{ Group.empty ⟨0⟩ with
      renderer? := fun kind =>
        if kind = .bool then some fun value format _ => format.getD "" ++ value.display
        else none }]⟩, "en", 200⟩)

/-- The cells of a row, of which the first one is empty and the second one is missing. -/
def rowItems : List Value :=
  [.string "", .none, .string "a", .string "", .bool true]

/-- The options for writing the row. -/
def rowOptions : OptionRow String :=
  { OptionRow.empty with format := some "!", null := some "-", separator := some ", " }

/-- The row begins with the text in place of the missing cell, and its empty cell in the middle stands
between two separators. -/
theorem row_writeValue : ∃ n t,
    Render.outcome (writeValue tableFrame.2 7 tableFrame.1 (.list rowItems) rowOptions)
      (.start (.verbatim (.ofSink .boundless)) false) = (some n, t) ∧
    t.messages = [] ∧ t.writer.text = "-, a, , !true" ∧ n = 13 := by
  have scalars : ∀ item ∈ rowItems, item.isScalar = true := by decide
  obtain ⟨n, t, hends, hquiet, htext⟩ :=
    @writeValue_scalars_verbatim tableFrame.2 tableFrame.1 (fun _ => rfl) rowItems scalars rowOptions
      (.start (.verbatim (.ofSink .boundless)) false) (.ofSink .boundless) rfl 0
  have hmessages : t.messages = [] := hquiet Sink.takesAll_boundless
  have hwritten : ((rowOptions.separator.getD "").intercalate
      ((tableFrame.1.elementTexts tableFrame.2 rowOptions rowItems).dropWhile (· == ""))) =
        "-, a, , !true" := by
    decide +kernel
  obtain ⟨htext, hcount⟩ := htext hmessages
  rw [hwritten] at htext hcount
  exact ⟨n, t, hends, hmessages, htext, hcount⟩

end TemplateMachine
