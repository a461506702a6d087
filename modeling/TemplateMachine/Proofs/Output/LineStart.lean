import TemplateMachine.Proofs.Output.Accounts
import TemplateMachine.Proofs.Output.Segments

/-!
# Where a line starts

The indenting writer notes whether a line starts, and it counts columns. On a sink that takes everything
the two agree on every line that a text began: its start is noted exactly as long as the column is zero.
On a line that a wrap text began no start is noted, although the column is zero if the margin is empty.

A wrap text is not written where a start is noted, nor before the column has reached the line width. If
the line width is zero, nothing keeps it from being written at the beginning of a line that a wrap text
began, and an empty line comes of it.
-/

namespace TemplateMachine

open Attempt

/-- Whether a wrap text began the line that a writer is on after the call, given whether one began the
line that it is on before. -/
def TextCall.wrapBegins (w : IndentingWriter) (wrapped : Bool) : TextCall → Bool
  | .write text | .writeSeparator text => wrapped && '\n' ∉ text.toList
  | .writeWrap wrap => wrapped || '\n' ∈ w.wrapping wrap
  | .writeWrapped text wrap => (wrapped || '\n' ∈ w.wrapping wrap) && '\n' ∉ text.toList

namespace IndentingWriter

/-- The sink of the writer takes everything, and the writer notes the start of a line exactly if it is at
the first column of a line that no wrap text began. -/
structure Notes (w : IndentingWriter) (wrapped : Bool) : Prop where
  takesAll : w.sink.TakesAll
  start_iff : w.atLineStart = true ↔ w.column = 0 ∧ wrapped = false

/-- The characters of a wrap text without newlines stay on the line. -/
theorem wrapPieces_of_unbroken (margin : List Piece) {chars : List Char} (single : '\n' ∉ chars) :
    wrapPieces margin chars = ((visibleChars chars).map String.singleton).map .text := by
  induction chars with
  | nil => rfl
  | cons c rest ih =>
    obtain ⟨hc, hrest⟩ : '\n' ≠ c ∧ '\n' ∉ rest := by simpa using single
    have hpieces : wrapPieces margin (c :: rest) =
        wrapCharPieces margin c ++ wrapPieces margin rest := List.flatMap_cons
    rw [hpieces, ih hrest]
    by_cases dropped : c = '\r'
    · simp [wrapCharPieces, visibleChars, dropped]
    · simp [wrapCharPieces, visibleChars, dropped, Ne.symm hc]

namespace Notes

variable {w : IndentingWriter} {wrapped : Bool}

/-- A character of a text leaves the first column, unless it ends the line. -/
theorem char (h : Notes w wrapped) (c : Char) :
    Notes ((w.offerAll (charPieces w.margin w.atLineStart c)).noting (startAfter w.atLineStart c))
      (wrapped && c ≠ '\n') := by
  refine ⟨(takesAll_offerAll h.takesAll _).1, ?_⟩
  unfold charPieces startAfter
  split
  · rename_i dropped
    simpa [dropped, noting, offerAll] using h.start_iff
  split
  · rename_i ends
    have hcolumn := (adds_offer h.takesAll .newline).2.column
    simpa [ends, noting, offerAll] using hcolumn
  · rename_i stays
    generalize (if w.atLineStart then w.margin else []) = before
    have htakes := (takesAll_offerAll h.takesAll before).1
    obtain ⟨haccepts, hadds⟩ := adds_offer htakes (.text (String.singleton c))
    rw [offerAll_append w (taken_eq h.takesAll before), offerAll, if_pos haccepts]
    have hcolumn := hadds.column
    simp [stays, noting, offerAll, hcolumn]

/-- Characters of a text leave the first column as well, unless the last line that they end is the one
that the writer is on. -/
theorem text (h : Notes w wrapped) (chars : List Char) :
    Notes ((w.offerAll (textPieces w.margin w.atLineStart chars)).noting
      (chars.foldl startAfter w.atLineStart)) (wrapped && '\n' ∉ chars) := by
  induction chars generalizing w wrapped with
  | nil => simpa [textPieces, offerAll] using h
  | cons c rest ih =>
    have hrest := ih (h.char c)
    have hlines : (wrapped && '\n' ∉ c :: rest : Bool) = ((wrapped && c ≠ '\n') && '\n' ∉ rest) := by
      by_cases ends : c = '\n' <;> simp [ends, eq_comm]
    rw [margin_noting_offerAll, offerAll_noting, noting_noting, ← hlines] at hrest
    rw [textPieces, offerAll_append w (taken_eq h.takesAll _), List.foldl_cons]
    exact hrest

/-- Characters of a wrap text on a line that has begun. -/
theorem wrap (h : Notes w wrapped) {chars : List Char} (begun : w.atLineStart = true → chars = []) :
    Notes ((w.offerAll (wrapPieces w.margin chars)).noting w.atLineStart)
      (wrapped || '\n' ∈ chars) := by
  refine ⟨(takesAll_offerAll h.takesAll _).1, ?_⟩
  by_cases breaks : '\n' ∈ chars
  · have hstart : w.atLineStart = false := by
      by_contra start
      simp [begun (by simpa using start)] at breaks
    simp [noting, breaks, hstart]
  · have hcolumn := (adds_offerAll_texts h.takesAll ((visibleChars chars).map String.singleton)).column
    rw [← wrapPieces_of_unbroken w.margin breaks] at hcolumn
    have hnote : w.atLineStart = true ↔
        (w.offerAll (wrapPieces w.margin chars)).column = 0 ∧ wrapped = false := by
      rw [hcolumn]
      constructor
      · intro start
        obtain rfl := begun start
        exact h.start_iff.mp start
      · rintro ⟨hzero, hwrapped⟩
        exact h.start_iff.mpr ⟨Nat.eq_zero_of_add_eq_zero_right hzero, hwrapped⟩
    simpa [noting, breaks] using hnote

/-- Wrapping the line keeps to the notes. -/
theorem writeWrap (h : Notes w wrapped) (wrap : Option String) :
    Notes ((w.offerAll (wrapPieces w.margin (w.wrapping wrap))).noting w.atLineStart)
      (wrapped || '\n' ∈ w.wrapping wrap) := by
  refine h.wrap fun start => ?_
  unfold wrapping
  cases w.lineWidth with
  | none => rfl
  | some width => cases wrap <;> simp [start]

/-- A call that writes keeps to the notes. -/
theorem attempt (h : Notes w wrapped) {call : TextCall} {result : Except WriterError Nat}
    {v : IndentingWriter} (ends : outcome call.attempt (.indenting w) = (result, .indenting v)) :
    Notes v (call.wrapBegins w wrapped) := by
  obtain ⟨operation, hoffers, hends⟩ := call.exists_offers w
  rw [ends, hoffers.outcome_eq h.takesAll] at hends
  obtain ⟨-, rfl⟩ : _ ∧ v = (w.offerAll (call.pieces w)).noting (call.starts w) := by
    simpa using hends
  cases call with
  | write text => exact h.text text.toList
  | writeSeparator text => exact h.text text.toList
  | writeWrap wrap => exact h.writeWrap wrap
  | writeWrapped text wrap =>
    have htext := (h.writeWrap wrap).text text.toList
    rw [margin_noting_offerAll, offerAll_noting, noting_noting] at htext
    rw [TextCall.pieces, offerAll_append w (taken_eq h.takesAll _)]
    exact htext

/-- A call that changes the layout keeps to the notes. -/
theorem layout (h : Notes w wrapped) {call : LayoutCall} {v : IndentingWriter}
    (ends : call.after (.indenting w) = .indenting v) : Notes v wrapped := by
  obtain ⟨u, hafter, -, hsink, -, hcolumn, hstart⟩ := call.after_indenting w
  obtain rfl := Writer.indenting.inj (hafter.symm.trans ends)
  refine ⟨hsink ▸ h.takesAll, ?_⟩
  rw [hstart, hcolumn]
  exact h.start_iff

end Notes

/-- The indenting writers that come of calls on a fresh one whose sink takes everything, with whether a
wrap text began the line that the writer is on. -/
inductive Running (newline : String) : IndentingWriter → Bool → Prop
  | fresh {sink : Sink} (takesAll : sink.TakesAll) : Running newline (.ofSink sink newline) false
  | text {w v : IndentingWriter} {wrapped : Bool} {result : Except WriterError Nat}
    (call : TextCall) (before : Running newline w wrapped)
    (ends : outcome call.attempt (.indenting w) = (result, .indenting v)) :
    Running newline v (call.wrapBegins w wrapped)
  | layout {w v : IndentingWriter} {wrapped : Bool} (call : LayoutCall)
    (before : Running newline w wrapped) (ends : call.after (.indenting w) = .indenting v) :
    Running newline v wrapped

/-- Whatever was called on it, a writer notes the start of a line exactly if it is at the first column of a
line that no wrap text began. -/
theorem Running.notes {newline : String} {w : IndentingWriter} {wrapped : Bool}
    (running : Running newline w wrapped) : Notes w wrapped := by
  induction running with
  | fresh takesAll => exact ⟨takesAll, by simp [ofSink]⟩
  | text call before ends ih => exact ih.attempt ends
  | layout call before ends ih => exact ih.layout ends

/-- What characters of a wrap text are written as. -/
def wrapOutput (w : IndentingWriter) (chars : List Char) : String :=
  Piece.joined w.newline (wrapPieces w.margin chars)

/-- What wrap texts are written as stays the same when pieces are offered. -/
theorem wrapOutput_noting_offerAll (w : IndentingWriter) (pieces : List Piece) (start : Bool)
    (chars : List Char) :
    ((w.offerAll pieces).noting start).wrapOutput chars = w.wrapOutput chars := by
  simp [wrapOutput]

/-- Wrapping the line succeeds and adds what is needed of the wrap text. -/
theorem outcome_writeWrap_eq {w : IndentingWriter} (takesAll : w.sink.TakesAll)
    (wrap : Option String) :
    outcome (writeWrap wrap) w = (.ok (w.wrapOutput (w.wrapping wrap)).length, w.afterWrap wrap) ∧
      w.afterWrap wrap =
        (w.offerAll (wrapPieces w.margin (w.wrapping wrap))).noting w.atLineStart ∧
      (w.afterWrap wrap).sink.text = w.sink.text ++ w.wrapOutput (w.wrapping wrap) := by
  have hends := Offers.outcome_eq takesAll (w.offers_writeWrap wrap)
  have htext := (takesAll_offerAll takesAll (wrapPieces w.margin (w.wrapping wrap))).2
  rw [Nat.zero_add] at hends
  rw [afterWrap, hends]
  exact ⟨rfl, rfl, htext⟩

/-- A wrap text is needed where the line has reached the line width. -/
theorem wrapping_some (w : IndentingWriter) (text : String) :
    w.wrapping (some text) = if w.reaches w.lineWidth then text.toList else [] := by
  unfold wrapping reaches
  cases w.lineWidth with
  | none => simp
  | some width =>
    cases w.atLineStart with
    | true => simp
    | false => by_cases short : w.column < width <;> simp [short, Nat.not_le.mpr, Nat.not_lt.mp]

/-- At its first column a line has reached the line width only if that is zero and no start is noted. -/
theorem reaches_of_column {w : IndentingWriter} (column : w.column = 0) :
    w.reaches w.lineWidth = true ↔ w.lineWidth = some 0 ∧ w.atLineStart = false := by
  unfold reaches
  cases w.lineWidth with
  | none => simp
  | some width => simp [column, and_comm]

/-- After a newline is wrapped at, the line has reached the line width only if that is zero and no start
was noted before. -/
theorem reaches_afterWrap {w : IndentingWriter} (takesAll : w.sink.TakesAll)
    (bare : w.margin = []) :
    (w.afterWrap (some "\n")).reaches (w.afterWrap (some "\n")).lineWidth = true ↔
      w.lineWidth = some 0 ∧ w.atLineStart = false := by
  obtain ⟨-, hafter, -⟩ := outcome_writeWrap_eq takesAll (some "\n")
  rw [wrapping_some] at hafter
  by_cases long : w.reaches w.lineWidth = true
  · rw [if_pos long, bare] at hafter
    have hcolumn : (w.afterWrap (some "\n")).column = 0 := by
      have hnewline := (adds_offer takesAll .newline).2.column
      simpa [hafter, wrapPieces, wrapCharPieces, offerAll, noting] using hnewline
    have hwidth : (w.afterWrap (some "\n")).lineWidth = w.lineWidth := by
      rw [hafter]
      exact w.lineWidth_offerAll _
    rw [reaches_of_column hcolumn, hwidth, hafter]
    rfl
  · rw [if_neg long] at hafter
    rw [show w.afterWrap (some "\n") = w from hafter]
    refine iff_of_false long ?_
    rintro ⟨hzero, hstart⟩
    exact long (by simp [reaches, hzero, hstart])

/-- If nothing begins a line, a newline is wrapped at where the line has reached the line width, and a
second time only if that is zero and no start was noted. -/
theorem text_afterWrap_afterWrap {w : IndentingWriter} (takesAll : w.sink.TakesAll)
    (bare : w.margin = []) :
    (w.afterWrap (some "\n")).sink.text =
        w.sink.text ++ (if w.reaches w.lineWidth then w.newline else "") ∧
      ((w.afterWrap (some "\n")).afterWrap (some "\n")).sink.text =
        (w.afterWrap (some "\n")).sink.text ++
          (if w.lineWidth = some 0 ∧ w.atLineStart = false then w.newline else "") := by
  have hreaches := reaches_afterWrap takesAll bare
  have hnewline : w.wrapOutput ['\n'] = w.newline := by
    simp [wrapOutput, wrapPieces, wrapCharPieces, bare, Piece.joined, Piece.content]
  obtain ⟨-, hafter, htext⟩ := outcome_writeWrap_eq takesAll (some "\n")
  have htakes : (w.afterWrap (some "\n")).sink.TakesAll := hafter ▸ (takesAll_offerAll takesAll _).1
  have hsame (chars : List Char) : (w.afterWrap (some "\n")).wrapOutput chars = w.wrapOutput chars := by
    rw [hafter, wrapOutput_noting_offerAll]
  obtain ⟨-, -, htext'⟩ := outcome_writeWrap_eq htakes (some "\n")
  rw [hsame] at htext'
  constructor
  · rw [htext, wrapping_some]
    split
    · exact congrArg _ hnewline
    · rfl
  · rw [htext', wrapping_some]
    simp only [hreaches]
    split
    · exact congrArg _ hnewline
    · rfl

/-- Whatever was called on an indenting writer whose sink takes everything: it notes the start of a line
exactly if it is at the first column of a line that no wrap text began. At the first column a wrap text
adds nothing, unless the line width is zero, a wrap text began the line, and it comes to anything at all.
And if nothing begins a line, wrapping twice at a newline writes the second newline, so that an empty
line comes of it, exactly if the line width is zero and the line was begun by characters or by a wrap
text. -/
theorem Running.writeWrap_at_start {newline : String} {w : IndentingWriter} {wrapped : Bool}
    (running : Running newline w wrapped) (wrap : Option String) :
    (w.atLineStart = true ↔ w.column = 0 ∧ wrapped = false) ∧
      (∃ n, outcome (writeWrap wrap) w = (.ok n, w.afterWrap wrap)) ∧
      (w.column = 0 → ((w.afterWrap wrap).sink.text = w.sink.text ↔
        (w.lineWidth = some 0 → wrapped = true → ∀ text ∈ wrap, w.wrapOutput text.toList = ""))) ∧
      (w.indents = [] → w.anchors = [] →
        (w.afterWrap (some "\n")).sink.text =
            w.sink.text ++ (if w.reaches w.lineWidth then w.newline else "") ∧
          ((w.afterWrap (some "\n")).afterWrap (some "\n")).sink.text =
            (w.afterWrap (some "\n")).sink.text ++
              (if w.lineWidth = some 0 ∧ (w.column ≠ 0 ∨ wrapped = true) then w.newline
                else "")) := by
  obtain ⟨htakes, hstart⟩ := running.notes
  have hbegun : w.atLineStart = false ↔ w.column ≠ 0 ∨ wrapped = true := by
    rw [← Bool.not_eq_true, hstart, not_and_or, Bool.not_eq_false]
  obtain ⟨hends, -, htext⟩ := outcome_writeWrap_eq htakes wrap
  refine ⟨hstart, ⟨_, hends⟩, fun column => ?_, fun indents anchors => ?_⟩
  · rw [htext, String.append_eq_left_iff]
    cases wrap with
    | none => simp [wrapping, wrapOutput, wrapPieces]
    | some text =>
      have hlong : w.reaches w.lineWidth = true ↔ w.lineWidth = some 0 ∧ wrapped = true := by
        rw [reaches_of_column column, hbegun, or_iff_right (by simpa using column)]
      rw [wrapping_some]
      split
      · rename_i long
        simp [hlong.mp long]
      · rename_i short
        rw [hlong, not_and] at short
        exact iff_of_true rfl fun zero broken => absurd broken (short zero)
  · have hbare : w.margin = [] := by simp [margin, padding, indents, anchors]
    simpa only [hbegun] using text_afterWrap_afterWrap htakes hbare

/-- A line of one character is wrapped at a newline, with the line width zero. -/
def emptied : IndentingWriter :=
  (({ ofSink .boundless "\r\n" with lineWidth := some 0 } : IndentingWriter).afterText "a").afterWrap
    (some "\n")

/-- The writer is at the first column of a line that the wrap text began, without a note of its start. -/
theorem running_emptied : Running "\r\n" emptied true := by
  have hfresh : Running "\r\n" (ofSink .boundless "\r\n") false := .fresh Sink.takesAll_boundless
  have hnarrow := Running.layout (.setLineWidth (some 0)) hfresh rfl
  have htext := Running.text (.write "a") hnarrow rfl
  exact Running.text (.writeWrap (some "\n")) htext rfl

/-- Wrapping at a newline once more makes an empty line. -/
theorem emptied_writeWrap_at_start :
    Running "\r\n" emptied true ∧ emptied.column = 0 ∧ emptied.atLineStart = false ∧
      emptied.sink.text = "a\r\n" ∧
      (emptied.afterWrap (some "\n")).sink.text ≠ emptied.sink.text ∧
      (emptied.afterWrap (some "\n")).sink.text = "a\r\n\r\n" := by
  obtain ⟨hstart, -, hzero, htwice⟩ := running_emptied.writeWrap_at_start (some "\n")
  have htext : emptied.sink.text = "a\r\n" := by decide +kernel
  have hagain : (emptied.afterWrap (some "\n")).sink.text = "a\r\n\r\n" := by decide +kernel
  have hcolumn : emptied.column = 0 := rfl
  refine ⟨running_emptied, hcolumn, ?_, htext, ?_, hagain⟩
  · simpa using hstart
  · rw [Ne, hzero hcolumn]
    intro nothing
    exact absurd (nothing rfl rfl "\n" rfl) (by decide +kernel)

end IndentingWriter

end TemplateMachine
