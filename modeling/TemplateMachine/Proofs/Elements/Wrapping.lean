import TemplateMachine.Proofs.Elements.Texts
import TemplateMachine.Proofs.Newline.Separator
import TemplateMachine.Proofs.Output.Lines

/-!
# Lists over several lines

A list of texts that is written with a newline as its wrap text is broken before an element exactly if
the line has reached the line width there, after the separator. Without the breaks and the margins
that follow them, it is what is written without a wrap text. So lines that begin with such a break are
filled up greedily: whatever stands before the last element of such a line is shorter than the line
width.

Neither the texts nor the separator have newlines or carriage returns, and no text is empty. The
group has no renderers and no proxies, and the sink takes everything.
-/

namespace TemplateMachine

open IndentingWriter

/-- An element that is about to be written: the separator before it, the writer after that separator,
and the text of the element. -/
structure Turn where
  separator : String
  writer : IndentingWriter
  text : String

namespace Turn

/-- Whether the line is broken before the element: the writer is not at the start of a line and has
reached the line width, if there is one. -/
def breaks (width : Option Nat) (turn : Turn) : Bool :=
  turn.writer.reaches width

/-- What is written of the separator and the element: after the separator a newline and the margin if
the line is broken, and a margin before the text if the element begins a line. -/
def written (width : Option Nat) (turn : Turn) : String :=
  turn.separator ++
    ((if turn.breaks width then "\n" ++ turn.writer.marginText else "") ++
      turn.writer.lineText turn.text)

end Turn

/-- The turns of texts that are written one after the other. The first one has a separator before it
only if something was written. -/
def IndentingWriter.turns (w : IndentingWriter) (wrap : Option String) (separator : String) :
    (seen : Bool) → List String → List Turn
  | _, [] => []
  | seen, text :: rest =>
    let between := if seen then separator else ""
    let here := w.afterText between
    ⟨between, here, text⟩ :: ((here.afterWrap wrap).afterText text).turns wrap separator true rest

/-- There is a turn for each text. -/
theorem IndentingWriter.map_text_turns (w : IndentingWriter) (wrap : Option String)
    (separator : String) (seen : Bool) (texts : List String) :
    (w.turns wrap separator seen texts).map Turn.text = texts := by
  induction texts generalizing w seen with
  | nil => rfl
  | cons text rest ih => rw [turns, List.map_cons, ih]

/-- A text that has something to be written, all of it on one line. -/
def Visible (text : String) : Prop :=
  text ≠ "" ∧ Unbroken text

namespace IndentingWriter

/-- Writing nothing leaves the writer as it is. -/
@[simp] theorem afterText_empty (w : IndentingWriter) : w.afterText "" = w := rfl

/-- The writer can go on with the elements: its sink takes everything, it ends lines by newlines, and
it is not at the start of a line once something was written. -/
structure Ready (seen : Bool) (w : IndentingWriter) : Prop where
  takesAll : w.sink.TakesAll
  newline : w.newline = "\n"
  started : seen = true → w.atLineStart = false

namespace Ready

variable {seen : Bool} {w : IndentingWriter} (ready : w.Ready seen)

include ready

/-- The separator, if there is one, goes on with the line. -/
theorem adds_between {separator : String} (unbroken : Unbroken separator) :
    let between := if seen then separator else ""
    Adds w between (w.column + between.length) (w.afterText between) ∧
      (w.afterText between).atLineStart = w.atLineStart := by
  cases seen with
  | false => exact ⟨.nil ready.takesAll, rfl⟩
  | true =>
    have hstart := ready.started rfl
    obtain ⟨-, hadds, hstart'⟩ := adds_afterText ready.takesAll unbroken
    rw [lineText_of_started hstart] at hadds
    exact ⟨hadds, by rw [if_pos rfl, hstart', hstart, Bool.false_and]⟩

/-- After the separator the writer can go on with the same element. -/
theorem afterBetween {separator : String} (unbroken : Unbroken separator) :
    (w.afterText (if seen then separator else "")).Ready seen := by
  obtain ⟨hadds, hstart⟩ := ready.adds_between unbroken
  exact ⟨hadds.takesAll, hadds.newline.trans ready.newline, fun h => hstart.trans (ready.started h)⟩

/-- The element is written, and the writer can go on with the next one. -/
theorem adds_element {wrap : Option String} (single : ∀ text ∈ wrap, text = "\n") {text : String}
    (visible : Visible text) :
    Adds w (w.wrapText wrap ++ w.lineText text) (w.wrapColumn wrap + (w.lineText text).length)
        ((w.afterWrap wrap).afterText text) ∧
      ((w.afterWrap wrap).afterText text).Ready true := by
  obtain ⟨hsome, unbroken⟩ := visible
  obtain ⟨-, hadds, hstart⟩ := adds_writeWrapped ready.takesAll ready.newline single unbroken
  refine ⟨hadds, hadds.takesAll, hadds.newline.trans ready.newline, fun _ => ?_⟩
  rw [hstart, beq_eq_false_iff_ne.mpr hsome, Bool.and_false]

/-- The separator and the element are written as the turn says. -/
theorem adds_turn {separator : String} (unbroken : Unbroken separator) {wrap : Option String}
    (single : ∀ text ∈ wrap, text = "\n") {text : String} (visible : Visible text) :
    let between := if seen then separator else ""
    let here := w.afterText between
    let there := (here.afterWrap wrap).afterText text
    Adds w (Turn.written (w.wrapWidth wrap) ⟨between, here, text⟩)
        (here.wrapColumn wrap + (here.lineText text).length) there ∧
      there.Ready true := by
  intro between here there
  obtain ⟨hbetween, -⟩ := ready.adds_between unbroken
  obtain ⟨helement, hnext⟩ := (ready.afterBetween unbroken).adds_element single visible
  refine ⟨?_, hnext⟩
  rw [← hbetween.wrapWidth]
  exact hbetween.append helement

end Ready

section Turns

variable {w v : IndentingWriter} {seen : Bool} {wrap : Option String} {separator : String}
  {texts : List String} (unbroken : Unbroken separator) (single : ∀ text ∈ wrap, text = "\n")
  (visible : ∀ text ∈ texts, Visible text)

include unbroken single visible

/-- After some of the turns the writer has written what they say, and the other ones follow. -/
theorem Ready.exists_of_turns_eq (ready : w.Ready seen) {earlier later : List Turn}
    (split : w.turns wrap separator seen texts = earlier ++ later) :
    ∃ seen' v column rest, later = turns v wrap separator seen' rest ∧ v.Ready seen' ∧
      (∀ text ∈ rest, Visible text) ∧
      Adds w (String.join (earlier.map (Turn.written (w.wrapWidth wrap)))) column v := by
  induction earlier generalizing w seen texts with
  | nil => exact ⟨seen, w, w.column, texts, split.symm, ready, visible, .nil ready.takesAll⟩
  | cons turn earlier ih =>
    cases texts with
    | nil => cases split
    | cons text rest =>
      obtain ⟨htext, hrest⟩ := List.forall_mem_cons.mp visible
      obtain ⟨hturn, hsplit⟩ := List.cons.inj split
      obtain ⟨hadds, hnext⟩ := ready.adds_turn unbroken single htext
      obtain ⟨seen', v, column, others, hlater, hready, hothers, hv⟩ := ih hrest hnext hsplit
      rw [hadds.wrapWidth] at hv
      rw [List.map_cons, String.join_cons, ← hturn]
      exact ⟨seen', v, column, others, hlater, hready, hothers, hadds.append hv⟩

/-- Without the breaks, the turns write what they do if there is no wrap text. -/
theorem Ready.map_written_none (ready : w.Ready seen) (ready' : v.Ready seen)
    (margin : v.marginText = w.marginText) (start : v.atLineStart = w.atLineStart) :
    (v.turns none separator seen texts).map (Turn.written none) =
      (w.turns wrap separator seen texts).map (Turn.written none) := by
  induction texts generalizing w v seen with
  | nil => rfl
  | cons text rest ih =>
    obtain ⟨htext, hrest⟩ := List.forall_mem_cons.mp visible
    obtain ⟨hw, hwstart⟩ := ready.adds_between unbroken
    obtain ⟨hv, hvstart⟩ := ready'.adds_between unbroken
    obtain ⟨hwturn, hwnext⟩ := ready.adds_turn unbroken single htext
    have hnone : ∀ text ∈ (none : Option String), text = "\n" := by simp
    obtain ⟨hvturn, hvnext⟩ := ready'.adds_turn unbroken hnone htext
    have hmargin := hvturn.marginText.trans (margin.trans hwturn.marginText.symm)
    have hstart := (hvnext.started rfl).trans (hwnext.started rfl).symm
    rw [turns, turns, List.map_cons, List.map_cons, ih hrest hwnext hvnext hmargin hstart]
    congr 1
    simp only [Turn.written, Turn.breaks, reaches, lineText, hw.marginText, hv.marginText, hwstart,
      hvstart, margin, start]

/-- As long as the line is not broken, the column tells how much was written since. -/
theorem Ready.column_of_turns_eq (ready : w.Ready true) {middle later : List Turn} {last : Turn}
    (split : w.turns wrap separator true texts = middle ++ last :: later)
    (kept : ∀ turn ∈ middle, turn.breaks (w.wrapWidth wrap) = false) :
    last.writer.atLineStart = false ∧ last.writer.column =
      w.column + (String.join (middle.map (Turn.written none)) ++ last.separator).length := by
  induction middle generalizing w texts with
  | nil =>
    cases texts with
    | nil => cases split
    | cons text rest =>
      obtain ⟨rfl, -⟩ := List.cons.inj split
      obtain ⟨hbetween, hstart⟩ := ready.adds_between unbroken
      refine ⟨hstart.trans (ready.started rfl), ?_⟩
      rw [hbetween.column]
      simp
  | cons turn middle ih =>
    cases texts with
    | nil => cases split
    | cons text rest =>
      obtain ⟨htext, hrest⟩ := List.forall_mem_cons.mp visible
      obtain ⟨rfl, hsplit⟩ := List.cons.inj split
      obtain ⟨hshort, hmiddle⟩ := List.forall_mem_cons.mp kept
      obtain ⟨hbetween, hstart⟩ := ready.adds_between unbroken
      obtain ⟨hturn, hnext⟩ := ready.adds_turn unbroken single htext
      rw [← hturn.wrapWidth] at hmiddle
      obtain ⟨hlast, hcolumn⟩ := ih hrest hnext hsplit hmiddle
      refine ⟨hlast, ?_⟩
      simp only [↓reduceIte] at hbetween hturn hcolumn hshort ⊢
      have hkept : (w.afterText separator).wrapColumn wrap = (w.afterText separator).column := by
        rw [wrapColumn, hbetween.wrapWidth]
        exact if_neg (by simpa [Turn.breaks] using hshort)
      have hwritten : Turn.written none ⟨separator, w.afterText separator, text⟩ =
          separator ++ (w.afterText separator).lineText text :=
        congrArg (separator ++ ·) String.empty_append
      rw [hcolumn, hturn.column, hkept, hbetween.column, List.map_cons, String.join_cons, hwritten]
      simp only [String.length_append]
      omega

/-- What stands before the last element of a line that begins with a break is shorter than the line
width. -/
theorem Ready.length_lt_of_breaks (ready : w.Ready seen) {first last : Turn}
    {middle others : List Turn}
    (split : w.turns wrap separator seen texts = first :: (middle ++ last :: others)) {width : Nat}
    (lineWidth : w.wrapWidth wrap = some width) (broken : first.breaks (some width) = true)
    (kept : ∀ turn ∈ middle ++ [last], turn.breaks (some width) = false) :
    (w.marginText ++ first.text ++ String.join (middle.map (Turn.written none)) ++
      last.separator).length < width := by
  cases texts with
  | nil => cases split
  | cons text rest =>
    obtain ⟨htext, hrest⟩ := List.forall_mem_cons.mp visible
    obtain ⟨hfirst, hsplit⟩ := List.cons.inj split
    obtain ⟨hmiddle, hlast⟩ := List.forall_mem_append.mp kept
    obtain ⟨hbetween, -⟩ := ready.adds_between unbroken
    obtain ⟨hturn, hnext⟩ := ready.adds_turn unbroken single htext
    rw [← lineWidth, ← hturn.wrapWidth] at hmiddle
    obtain ⟨hstart, hcolumn⟩ := hnext.column_of_turns_eq unbroken single hrest hsplit hmiddle
    have hshort : last.writer.column < width := by
      simpa [Turn.breaks, reaches, hstart] using hlast
    rw [← hfirst] at broken ⊢
    -- The break leaves the writer after the margin, and the element does not begin another one.
    have hline : (w.afterText (if seen then separator else "")).lineText text = text :=
      lineText_of_started (by simpa using (Bool.and_eq_true_iff.mp broken).1) text
    have hmargin : (w.afterText (if seen then separator else "")).wrapColumn wrap =
        w.marginText.length := by
      rw [wrapColumn, hbetween.wrapWidth, lineWidth, hbetween.marginText]
      exact if_pos broken
    rw [hcolumn, hturn.column, hline, hmargin] at hshort
    simp only [String.length_append] at hshort ⊢
    omega

/-- The turns of elements fill lines. Each one comes when everything is written that the turns before
it and its separator write, with the margin as it was. If more than one element stands on a line that
begins with a break, what stands there before the last one is shorter than the line width. -/
structure FillLines (w : IndentingWriter) (width : Nat) (turns : List Turn) : Prop where
  before {earlier later : List Turn} {turn : Turn} (split : turns = earlier ++ turn :: later) :
    turn.writer.sink.text = w.sink.text ++
      String.join (earlier.map (Turn.written (some width))) ++ turn.separator
  margin {turn : Turn} (mem : turn ∈ turns) : turn.writer.marginText = w.marginText
  filled {earlier middle later : List Turn} {first last : Turn}
    (split : turns = earlier ++ first :: (middle ++ last :: later))
    (broken : first.breaks (some width) = true)
    (kept : ∀ turn ∈ middle ++ [last], turn.breaks (some width) = false) :
    (w.marginText ++ first.text ++ String.join (middle.map (Turn.written none)) ++
      last.separator).length < width

/-- The turns of texts fill lines. -/
theorem Ready.fillLines (ready : w.Ready seen) {width : Nat}
    (lineWidth : w.wrapWidth wrap = some width) :
    FillLines w width (w.turns wrap separator seen texts) := by
  -- Before any turn, the writer has written what the earlier turns say and can go on from there.
  have hturn {earlier later : List Turn} {turn : Turn}
      (split : w.turns wrap separator seen texts = earlier ++ turn :: later) :
      turn.writer.sink.text = w.sink.text ++
          String.join (earlier.map (Turn.written (some width))) ++ turn.separator ∧
        turn.writer.marginText = w.marginText := by
    obtain ⟨seen', u, column, rest, hlater, hu, hrest, hadds⟩ :=
      ready.exists_of_turns_eq unbroken single visible split
    cases rest with
    | nil => cases hlater
    | cons text others =>
      obtain ⟨rfl, -⟩ := List.cons.inj hlater
      obtain ⟨hbetween, -⟩ := hu.adds_between unbroken
      rw [lineWidth] at hadds
      exact ⟨by rw [hbetween.text, hadds.text], hbetween.marginText.trans hadds.marginText⟩
  refine ⟨fun split => (hturn split).1, fun mem => ?_, fun split broken kept => ?_⟩
  · obtain ⟨earlier, later, split⟩ := List.append_of_mem mem
    exact (hturn split).2
  · obtain ⟨seen', u, column, rest, hlater, hu, hrest, hadds⟩ :=
      ready.exists_of_turns_eq unbroken single visible split
    rw [← hadds.marginText]
    exact hu.length_lt_of_breaks unbroken single hrest hlater.symm
      ((hadds.wrapWidth wrap).trans lineWidth) broken kept

end Turns

end IndentingWriter

section Machine

variable {frame : Frame} {options : OptionRow String}

/-- The separator is written before an element once something was written. -/
theorem outcome_separate_indenting (unbroken : Unbroken (options.separator.getD "")) (seen : Bool)
    {s : RenderState} {w : IndentingWriter} (indenting : s.writer = .indenting w)
    (htakes : w.sink.TakesAll) :
    ∃ n, Render.outcome (separate frame options seen) s = (some n, { s with
      writer := .indenting (w.afterText (if seen then options.separator.getD "" else "")) }) := by
  have hbetween : Unbroken (if seen then options.separator.getD "" else "") := by
    cases seen with
    | false => exact ⟨List.not_mem_nil, List.not_mem_nil⟩
    | true => exact unbroken
  rcases separate_eq_or frame options seen with ⟨hnothing, hempty⟩ | hwrites
  · refine ⟨0, ?_⟩
    rw [hnothing, hempty, afterText_empty, ← indenting]
    rfl
  · obtain ⟨hends, -⟩ := adds_afterText htakes hbetween
    refine ⟨(w.lineText (if seen then options.separator.getD "" else "")).length, ?_⟩
    rw [hwrites, Render.outcome_emit, indenting, Writer.writeSeparator, Writer.write,
      Writer.outcome_dispatch_indenting, hends]

/-- Texts are written as their turns say. -/
theorem outcome_writeTexts_indenting (unbroken : Unbroken (options.separator.getD ""))
    (single : ∀ text ∈ options.wrap, text = "\n") {texts : List String}
    (visible : ∀ text ∈ texts, Visible text) (count : Nat) {seen : Bool} {s : RenderState}
    {w : IndentingWriter} (indenting : s.writer = .indenting w) (ready : w.Ready seen) :
    ∃ n v, Render.outcome (writeTexts frame options texts count seen) s =
        (some n, { s with writer := .indenting v }) ∧
      v.sink.text = w.sink.text ++ String.join
        ((w.turns options.wrap (options.separator.getD "") seen texts).map
          (Turn.written (w.wrapWidth options.wrap))) := by
  induction texts generalizing s w count seen with
  | nil =>
    have hnothing : s = { s with writer := .indenting w } := by rw [← indenting]
    exact ⟨count, w, congrArg (some count, ·) hnothing, String.append_empty.symm⟩
  | cons text rest ih =>
    obtain ⟨htext, hrest⟩ := List.forall_mem_cons.mp visible
    obtain ⟨n, hseparator⟩ := @outcome_separate_indenting frame _ unbroken seen _ _ indenting
      ready.takesAll
    obtain ⟨hturn, hnext⟩ := ready.adds_turn unbroken single htext
    let here := w.afterText (if seen then options.separator.getD "" else "")
    let there := (here.afterWrap options.wrap).afterText text
    let written := here.wrapText options.wrap ++ here.lineText text
    have hwrite : Render.outcome (Render.emit frame (Writer.writeWrapped text options.wrap))
        { s with writer := .indenting here } =
          (some written.length, { s with writer := .indenting there }) := by
      have hhere := ready.afterBetween unbroken
      obtain ⟨hends, -⟩ := adds_writeWrapped hhere.takesAll hhere.newline single htext.2
      rw [Render.outcome_emit, hends]
    have hseen : (seen || decide (0 < written.length)) = true := by
      have hsome : written ≠ "" := fun hnone =>
        htext.1 (String.append_eq_empty_iff.mp (String.append_eq_empty_iff.mp hnone).2).2
      simp [Nat.pos_iff_ne_zero, hsome]
    obtain ⟨m, v, hgoes, hv⟩ := @ih hrest (count + n + written.length) true
      { s with writer := .indenting there } there rfl hnext
    refine ⟨m, v, ?_, ?_⟩
    · rw [writeTexts, Render.outcome_bind, hseparator]
      dsimp only
      rw [Render.outcome_bind, hwrite]
      dsimp only
      rw [hseen, hgoes]
    · rw [turns, List.map_cons, String.join_cons, hv, hturn.text, hturn.wrapWidth,
        String.append_assoc]

end Machine

/-- Text values have their texts in a group without renderers. -/
theorem elementTexts_string {setting : Setting} {frame : Frame} (bare : (frame.group setting).Bare)
    (options : OptionRow String) (texts : List String) :
    frame.elementTexts setting options (texts.map .string) = texts := by
  have htext (text : String) : frame.scalarText setting (.string text) options.format = text := by
    rw [Frame.scalarText, bare.renderer?]
    rfl
  have hpresent : Value.present? options.null ∘ Value.string = some ∘ Value.string := rfl
  rw [Frame.elementTexts, List.filterMap_map, hpresent, List.filterMap_eq_map, List.map_map]
  simp [Function.comp_def, htext]

/-- A list of texts is written with a newline as its wrap text, and without a wrap text. With it, the
line is broken before an element exactly if the writer, which has written everything before the
element and the separator, is not at the start of a line and has reached the line width; nothing else
is added to what is written without it. If more than one element stands on a line that begins with
such a break, what stands there before the last one is shorter than the line width. -/
theorem writeValue_list_wrapped {setting : Setting} {frame : Frame}
    (bare : (frame.group setting).Bare) {options : OptionRow String}
    (wraps : options.wrap = some "\n") (unbroken : Unbroken (options.separator.getD ""))
    {texts : List String} (visible : ∀ text ∈ texts, Visible text) {s : RenderState}
    {w : IndentingWriter} (indenting : s.writer = .indenting w) (takesAll : w.sink.TakesAll)
    (newline : w.newline = "\n") {width : Nat} (lineWidth : w.lineWidth = some width) (fuel : Nat) :
    let write (options : OptionRow String) := Render.outcome
      (writeValue setting (fuel + texts.length + 2) frame (.list (texts.map .string)) options) s
    let turns := w.turns (some "\n") (options.separator.getD "") false texts
    ∃ n v n' v',
      write options = (some n, { s with writer := .indenting v }) ∧
      write { options with wrap := none } = (some n', { s with writer := .indenting v' }) ∧
      v.sink.text = w.sink.text ++ String.join (turns.map (Turn.written (some width))) ∧
      v'.sink.text = w.sink.text ++ String.join (turns.map (Turn.written none)) ∧
      turns.map Turn.text = texts ∧ FillLines w width turns := by
  intro write turns
  have hnone : ∀ text ∈ (none : Option String), text = "\n" := by simp
  have hsingle : ∀ text ∈ some "\n", text = "\n" := by simp
  have hunproxied : (frame.group setting).Unproxied := bare.proxy?
  have hscalars : ∀ item ∈ texts.map Value.string, item.isScalar = true := by
    simp [Value.isScalar]
  have hready : w.Ready false := ⟨takesAll, newline, by simp⟩
  have hwidth : w.wrapWidth (some "\n") = some width := lineWidth
  have hvalue (options : OptionRow String) :
      write options = Render.outcome (writeTexts frame options texts 0 false) s := by
    have hwrites := writeValue_scalars hunproxied hscalars fuel options
    rw [List.length_map, elementTexts_string bare] at hwrites
    exact congrArg (Render.outcome · s) hwrites
  obtain ⟨n, v, hends, hv⟩ := @outcome_writeTexts_indenting frame options unbroken
    (wraps ▸ hsingle) texts visible 0 false s w indenting hready
  obtain ⟨n', v', hends', hv'⟩ := @outcome_writeTexts_indenting frame { options with wrap := none }
    unbroken hnone texts visible 0 false s w indenting hready
  rw [wraps, hwidth] at hv
  have hsame := hready.map_written_none unbroken hsingle visible hready rfl rfl
  exact ⟨n, v, n', v', (hvalue _).trans hends, (hvalue _).trans hends', hv, hsame ▸ hv',
    w.map_text_turns _ _ _ _, hready.fillLines unbroken hsingle visible hwidth⟩

/-- A frame in a group without anything. -/
def proseFrame : Frame :=
  .root (.ofTemplate (Template.blank "prose") ⟨0⟩)

/-- A writer at the start of a line that is indented and then padded up to the anchor, with room for
nine characters. -/
def proseWriter : IndentingWriter :=
  { IndentingWriter.ofSink .boundless "\n" with
    lineWidth := some 9
    indents := ["> "]
    anchors := [4] }

/-- The options for writing prose. -/
def proseOptions : OptionRow String :=
  { OptionRow.empty with separator := some ",", wrap := some "\n" }

/-- Four words fill two lines of a margin and two words each; the comma before the break stays on the
first line. -/
theorem prose_writeValue : ∃ n v n' v',
    Render.outcome (writeValue ⟨⟨[]⟩, "en", 200⟩ 6 proseFrame
        (.list (["ab", "cd", "ef", "gh"].map .string)) proseOptions)
      (.start (.indenting proseWriter) false) =
        (some n, { RenderState.start (.indenting proseWriter) false with writer := .indenting v }) ∧
    Render.outcome (writeValue ⟨⟨[]⟩, "en", 200⟩ 6 proseFrame
        (.list (["ab", "cd", "ef", "gh"].map .string)) { proseOptions with wrap := none })
      (.start (.indenting proseWriter) false) =
        (some n', { RenderState.start (.indenting proseWriter) false with writer := .indenting v' }) ∧
    v.sink.text = ">   ab,cd,\n>   ef,gh" ∧ v'.sink.text = ">   ab,cd,ef,gh" := by
  have bare : (proseFrame.group ⟨⟨[]⟩, "en", 200⟩).Bare := ⟨fun _ => rfl, fun _ => rfl⟩
  have visible : ∀ text ∈ ["ab", "cd", "ef", "gh"], Visible text := by
    unfold Visible Unbroken
    decide
  have unbroken : Unbroken (proseOptions.separator.getD "") := by
    unfold Unbroken
    decide
  obtain ⟨n, v, n', v', hends, hends', hv, hv', -⟩ :=
    @writeValue_list_wrapped ⟨⟨[]⟩, "en", 200⟩ proseFrame bare proseOptions rfl unbroken
      ["ab", "cd", "ef", "gh"] visible (.start (.indenting proseWriter) false) proseWriter rfl
      Sink.takesAll_boundless rfl 9 rfl 0
  exact ⟨n, v, n', v', hends, hends', hv.trans (by decide +kernel), hv'.trans (by decide +kernel)⟩

end TemplateMachine
