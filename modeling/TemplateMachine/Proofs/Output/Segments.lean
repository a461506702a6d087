import TemplateMachine.Proofs.Newline.Translation
import TemplateMachine.Proofs.Output.Lines

/-!
# Writing line by line

The indenting writer takes a text character by character and notes whether a line starts. What comes
of it can be said line by line: the text is freed of carriage returns and cut at its newlines; a
segment that begins a line comes after the margin, unless it is empty; and the segments are joined by
the newline text. The margin and the note are all that one character leaves to the next, so a text
can be written in parts.

The first segment begins a line if the writer notes that one starts. The column does not tell: after
a wrap text it may be zero without such a note.
-/

namespace TemplateMachine

open Attempt

/-- The parts of a text between its newlines, without carriage returns. -/
def segments (text : String) : List String :=
  ((visibleChars text.toList).splitOn '\n').map String.ofList

/-- What a segment is written as, given the margin and whether the segment begins a line. -/
def segmentLine (margin : String) (begins : Bool) (segment : String) : String :=
  if begins ∧ segment ≠ "" then margin ++ segment else segment

/-- What segments are written as, given the margin and whether the first one begins a line. The others
do. -/
def segmentLines (margin : String) (start : Bool) : List String → List String
  | [] => []
  | first :: rest => segmentLine margin start first :: rest.map (segmentLine margin true)

/-- A character at the front of the first segment comes after the margin, if a line starts, and the
rest of the segment goes on with the line. -/
theorem segmentLines_cons_append (margin : String) (start : Bool) (c : Char) (first : String)
    (rest : List String) :
    segmentLines margin start ((String.singleton c ++ first) :: rest) =
      ((if start then margin else "") ++ String.singleton c ++ first) ::
        rest.map (segmentLine margin true) := by
  have hsome : String.singleton c ++ first ≠ "" := by simp
  cases start with
  | false => simp [segmentLines, segmentLine]
  | true =>
    rw [segmentLines, segmentLine, if_pos ⟨rfl, hsome⟩, if_pos rfl, String.append_assoc]

/-- The text that pieces stand for, given the newline text. -/
def Piece.joined (newline : String) (pieces : List Piece) : String :=
  String.join (pieces.map (content newline))

@[simp] theorem Piece.joined_nil (newline : String) : joined newline [] = "" := rfl

@[simp] theorem Piece.joined_append (newline : String) (before after : List Piece) :
    joined newline (before ++ after) = joined newline before ++ joined newline after := by
  simp [joined, String.join_append]

/-- A text is written as its segments, joined by the newline text. -/
theorem joined_textPieces (newline : String) (margin : List Piece) (start : Bool)
    (chars : List Char) :
    Piece.joined newline (textPieces margin start chars) =
      newline.intercalate (segmentLines (Piece.joined newline margin) start
        (((visibleChars chars).splitOn '\n').map String.ofList)) := by
  induction chars generalizing start with
  | nil => simp [textPieces, visibleChars, segmentLines, segmentLine]
  | cons c rest ih =>
    rw [textPieces, Piece.joined_append, ih]
    by_cases dropped : c = '\r'
    · simp [dropped, charPieces, startAfter, visibleChars]
    have hvisible : visibleChars (c :: rest) = c :: visibleChars rest := by
      simp [visibleChars, dropped]
    obtain ⟨first, others, hsplit⟩ :=
      List.exists_cons_of_ne_nil (List.splitOn_ne_nil '\n' (visibleChars rest))
    rw [hvisible, List.splitOn_cons_eq_if_modifyHead, hsplit]
    by_cases ends : c = '\n'
    · -- The segment before the newline is empty, and the one after it begins a line.
      simp [ends, charPieces, startAfter, Piece.joined, Piece.content, segmentLines, segmentLine]
    · have hchar : Piece.joined newline (charPieces margin start c) =
          (if start then Piece.joined newline margin else "") ++ String.singleton c := by
        cases start <;> simp [charPieces, dropped, ends, Piece.joined, Piece.content]
      have hfirst : String.ofList (c :: first) = String.singleton c ++ String.ofList first := by
        rw [← String.toList_inj]
        simp
      rw [hchar]
      simp only [startAfter, dropped, ends, decide_false, if_false, beq_iff_eq, List.modifyHead_cons,
        List.map_cons, hfirst, segmentLines_cons_append, String.intercalate_cons_append]
      rfl

namespace IndentingWriter

/-- A sink that takes everything has taken the text of the pieces, and goes on taking everything. -/
theorem takesAll_offerAll {w : IndentingWriter} (takesAll : w.sink.TakesAll) (pieces : List Piece) :
    (w.offerAll pieces).sink.TakesAll ∧
      (w.offerAll pieces).sink.text = w.sink.text ++ Piece.joined w.newline pieces := by
  induction pieces generalizing w with
  | nil => exact ⟨takesAll, String.append_empty.symm⟩
  | cons piece rest ih =>
    obtain ⟨haccepts, hadds⟩ := adds_offer takesAll piece
    obtain ⟨hrest, htext⟩ := ih hadds.takesAll
    rw [offerAll, if_pos haccepts]
    refine ⟨hrest, ?_⟩
    rw [htext, hadds.text, hadds.newline, String.append_assoc]
    simp [Piece.joined, String.join_cons]

/-- Counting from a number is counting from nothing and adding the number. -/
theorem writeChars_add (count n : Nat) (chars : List Char) :
    writeChars (count + n) chars = (do
      let m ← writeChars n chars
      pure (count + m)) := by
  induction chars generalizing n with
  | nil => rw [writeChars, writeChars, pure_bind]
  | cons c rest ih =>
    rw [writeChars, writeChars, bind_assoc]
    refine congrArg _ (funext fun k => ?_)
    rw [Nat.add_assoc, ih]

/-- To write characters is to write the first ones and then the other ones. -/
theorem writeChars_append (count : Nat) (before after : List Char) :
    writeChars count (before ++ after) = (do
      let n ← writeChars count before
      writeChars n after) := by
  induction before generalizing count with
  | nil => rw [List.nil_append, writeChars, pure_bind]
  | cons c rest ih =>
    rw [List.cons_append, writeChars, writeChars, bind_assoc]
    exact congrArg _ (funext fun n => ih (count + n))

/-- To write a text is to write its parts, whatever the sink takes of it. -/
theorem write_append (text next : String) :
    write (text ++ next) = (do
      let n ← write text
      let m ← write next
      pure (n + m)) := by
  rw [write, write, String.toList_append, writeChars_append]
  refine congrArg _ (funext fun n => ?_)
  exact writeChars_add n 0 next.toList

/-- What the margin is made up of. -/
theorem joined_margin (w : IndentingWriter) : Piece.joined w.newline w.margin = w.marginText := by
  obtain ⟨texts, hmargin, hjoin⟩ := w.exists_margin_eq
  rw [hmargin, Piece.joined, List.map_map, ← hjoin]
  exact congrArg String.join (List.map_id texts)

/-- On a sink that takes everything, a text comes out as its segments, which are free of carriage
returns and joined by the newline text. A segment that is not empty comes after the margin if it
begins a line: the first one if a line starts where the writer is, the other ones in any case. The
number returned is that of the characters that come out. To write another text after that one leaves
the writer as writing both at once does, and the numbers add up. -/
theorem write_segments {w : IndentingWriter} (takesAll : w.sink.TakesAll) (text next : String) :
    let emitted := w.newline.intercalate (segmentLines w.marginText w.atLineStart (segments text))
    ∃ v, outcome (write text) w = (.ok emitted.length, v) ∧
      v.sink.text = w.sink.text ++ emitted ∧
      ∃ n u, outcome (write next) v = (.ok n, u) ∧
        outcome (write (text ++ next)) w = (.ok (emitted.length + n), u) := by
  intro emitted
  let pieces := textPieces w.margin w.atLineStart text.toList
  have hjoined : Piece.joined w.newline pieces = emitted := by
    rw [joined_textPieces, joined_margin]
    rfl
  have hcount : 0 + Piece.count w.newline pieces = emitted.length := by
    rw [Nat.zero_add, ← hjoined]
    rfl
  obtain ⟨hrest, htext⟩ := takesAll_offerAll takesAll pieces
  have hends := Offers.outcome_eq takesAll (w.offers_write text)
  have hrest' : ((w.offerAll pieces).noting
      (text.toList.foldl startAfter w.atLineStart)).sink.TakesAll := hrest
  have hnext := Offers.outcome_eq hrest' (offers_write _ next)
  rw [hcount] at hends
  rw [hjoined] at htext
  refine ⟨_, hends, htext, _, _, hnext, ?_⟩
  rw [write_append, outcome_bind, hends]
  dsimp only
  rw [outcome_bind, hnext]
  rfl

/-- A writer in the middle of a line whose lines are quoted and then padded up to the anchor. -/
def quotingWriter : IndentingWriter :=
  { ofSink .boundless "\r\n" with
    indents := ["> "]
    anchors := [4]
    column := 3
    atLineStart := false }

/-- The line goes on without a margin, the empty lines have none, and the text written afterwards
begins a line. -/
theorem quoting_write_segments :
    (quotingWriter.sink.TakesAll ∧
      ∃ v, outcome (write "b\r\n\n c\n") quotingWriter = (.ok 13, v) ∧
        v.sink.text = "b\r\n\r\n>    c\r\n" ∧
        ∃ n u, outcome (write "d") v = (.ok n, u) ∧
          outcome (write "b\r\n\n c\nd") quotingWriter = (.ok (13 + n), u)) ∧
      (outcome (write "b\r\n\n c\nd") quotingWriter).2.sink.text =
        "b\r\n\r\n>    c\r\n>   d" := by
  have htakes : quotingWriter.sink.TakesAll := Sink.takesAll_boundless
  obtain ⟨v, hends, htext, hnext⟩ := write_segments htakes "b\r\n\n c\n" "d"
  have hemitted : quotingWriter.newline.intercalate (segmentLines quotingWriter.marginText
      quotingWriter.atLineStart (segments "b\r\n\n c\n")) = "b\r\n\r\n>    c\r\n" := by
    decide +kernel
  rw [hemitted] at hends htext hnext
  exact ⟨⟨htakes, v, hends, htext, hnext⟩, by decide +kernel⟩

end IndentingWriter

end TemplateMachine
