import Mathlib.Data.List.DropRight
import TemplateMachine.Proofs.Output.Calls

/-!
# What an indenting writer accounts for

Whatever is called on an indenting writer, and whatever its sink refuses on the way, the index is
the number of characters that the sink took, and the column is the number of those it took since it
last took the newline text. A call that returns a number has made the sink take as many characters;
a call that writes and fails has changed neither the indentations nor the anchors nor the line
width.

Reading the index and forking leave a writer as it is, so they are not among the calls here. The rule
of a sink depends on how many pieces it was offered. The pieces that a run offers follow from the
calls and from what was refused before, so this leaves the sink free to refuse any of them.
-/

namespace TemplateMachine

open Attempt

/-- A call that changes the layout and writes nothing. -/
inductive LayoutCall where
  | pushIndentation (indent : String)
  | popIndentation
  | pushAnchor
  | popAnchor
  | setLineWidth (width : Option Nat)

/-- The writer after the call, which may have failed. -/
def LayoutCall.after : LayoutCall → Writer → Writer
  | .pushIndentation indent, w => w.pushIndentation indent
  | .popIndentation, w => (outcome Writer.popIndentation w).2
  | .pushAnchor, w => w.pushAnchor
  | .popAnchor, w => (outcome Writer.popAnchor w).2
  | .setLineWidth width, w => w.setLineWidth width

/-- On an indenting writer the call leaves everything alone that has to do with what was written. -/
theorem LayoutCall.after_indenting (call : LayoutCall) (w : IndentingWriter) :
    ∃ v, call.after (.indenting w) = .indenting v ∧
      v.newline = w.newline ∧ v.sink = w.sink ∧ v.index = w.index ∧ v.column = w.column ∧
      v.atLineStart = w.atLineStart := by
  cases call with
  | pushIndentation indent => exact ⟨_, rfl, rfl, rfl, rfl, rfl, rfl⟩
  | pushAnchor => exact ⟨_, rfl, rfl, rfl, rfl, rfl, rfl⟩
  | setLineWidth width => exact ⟨_, rfl, rfl, rfl, rfl, rfl, rfl⟩
  | popIndentation =>
    refine ⟨(outcome IndentingWriter.popIndentation w).2, rfl, ?_⟩
    rw [IndentingWriter.outcome_popIndentation]
    split <;> exact ⟨rfl, rfl, rfl, rfl, rfl⟩
  | popAnchor =>
    refine ⟨(outcome IndentingWriter.popAnchor w).2, rfl, ?_⟩
    rw [IndentingWriter.outcome_popAnchor]
    split <;> exact ⟨rfl, rfl, rfl, rfl, rfl⟩

namespace IndentingWriter

/-- The indenting writers that come of calls on a fresh one, with the pieces that the sink took. The
newline text and the rule of the sink are given. -/
inductive Reached (admits : (offered taken : Nat) → String → Bool) (newline : String) :
    IndentingWriter → List Piece → Prop
  | fresh : Reached admits newline (.ofSink (.ofRule admits) newline) []
  | text {w v : IndentingWriter} {pieces : List Piece} {result : Except WriterError Nat}
    (call : TextCall) (before : Reached admits newline w pieces)
    (ends : outcome call.attempt (.indenting w) = (result, .indenting v)) :
    Reached admits newline v (pieces ++ w.taken (call.pieces w))
  | layout {w v : IndentingWriter} {pieces : List Piece} (call : LayoutCall)
    (before : Reached admits newline w pieces)
    (ends : call.after (.indenting w) = .indenting v) : Reached admits newline v pieces

/-- The writer has a newline text and accounts for pieces that its sink took. -/
structure Accounts (newline : String) (w : IndentingWriter) (pieces : List Piece) : Prop where
  newlineText : w.newline = newline
  log : w.sink.log.reverse = pieces.map (Piece.content newline)
  index : w.index = Piece.count newline pieces
  column : w.column = Piece.count newline (pieces.rtakeWhile (· ≠ .newline))

namespace Accounts

variable {newline : String} {w v : IndentingWriter} {pieces : List Piece}

/-- The text of the sink is made up of the pieces. -/
theorem text (h : Accounts newline w pieces) :
    w.sink.text = String.join (pieces.map (Piece.content newline)) :=
  congrArg String.join h.log

/-- What a writer accounts for depends on its newline text, its sink and its counts only. -/
theorem congr (h : Accounts newline w pieces) (hnewline : v.newline = w.newline)
    (hsink : v.sink = w.sink) (hindex : v.index = w.index) (hcolumn : v.column = w.column) :
    Accounts newline v pieces where
  newlineText := hnewline.trans h.newlineText
  log := hsink ▸ h.log
  index := hindex.trans h.index
  column := hcolumn.trans h.column

/-- A piece that is taken is accounted for. -/
theorem offer (h : Accounts newline w pieces) {piece : Piece} (takes : w.takes piece = true) :
    Accounts newline (w.offer piece) (pieces ++ [piece]) := by
  obtain ⟨rfl, hlog, hindex, hcolumn⟩ := h
  have haccepts : w.sink.accepts (piece.content w.newline) = true := takes
  refine ⟨?_, ?_, ?_, ?_⟩
  · simp [IndentingWriter.offer, takes]
  · simp [IndentingWriter.offer, takes, Sink.offer, haccepts, hlog]
  · simp [IndentingWriter.offer, takes, hindex]
  · cases piece with
    | text content => simp [IndentingWriter.offer, takes, hcolumn, Piece.content, Nat.add_comm]
    | newline => simp [IndentingWriter.offer, takes]

/-- A piece that is refused leaves the accounts as they were. -/
theorem offer_of_refused (h : Accounts newline w pieces) {piece : Piece}
    (refused : w.takes piece = false) : Accounts newline (w.offer piece) pieces := by
  obtain ⟨rfl, hlog, hindex, hcolumn⟩ := h
  have haccepts : w.sink.accepts (piece.content w.newline) = false := refused
  constructor <;> simp [IndentingWriter.offer, refused, Sink.offer, haccepts, hlog, hindex, hcolumn]

/-- The pieces that are taken before one is refused are accounted for. -/
theorem offerAll (h : Accounts newline w pieces) (offered : List Piece) :
    Accounts newline (w.offerAll offered) (pieces ++ w.taken offered) := by
  induction offered generalizing w pieces with
  | nil => simpa [IndentingWriter.offerAll, taken] using h
  | cons piece rest ih =>
    cases htakes : w.takes piece with
    | true => simpa [IndentingWriter.offerAll, taken, htakes] using ih (h.offer htakes)
    | false => simpa [IndentingWriter.offerAll, taken, htakes] using h.offer_of_refused htakes

/-- A call that writes accounts for the pieces that are taken. -/
theorem attempt (h : Accounts newline w pieces) {call : TextCall}
    {result : Except WriterError Nat}
    (ends : outcome call.attempt (.indenting w) = (result, .indenting v)) :
    Accounts newline v (pieces ++ w.taken (call.pieces w)) := by
  obtain ⟨start, hends⟩ := call.outcome_attempt w
  obtain ⟨-, rfl⟩ : _ ∧ (w.offerAll (call.pieces w)).noting start = v := by
    simpa using hends.symm.trans ends
  exact (h.offerAll (call.pieces w)).congr rfl rfl rfl rfl

/-- A call that changes the layout accounts for nothing more. -/
theorem layout (h : Accounts newline w pieces) {call : LayoutCall}
    (ends : call.after (.indenting w) = .indenting v) : Accounts newline v pieces := by
  obtain ⟨u, hafter, hnewline, hsink, hindex, hcolumn, -⟩ := call.after_indenting w
  obtain rfl := Writer.indenting.inj (hafter.symm.trans ends)
  exact h.congr hnewline hsink hindex hcolumn

end Accounts

variable {admits : (offered taken : Nat) → String → Bool} {newline : String} {w : IndentingWriter}
  {pieces : List Piece}

/-- Whatever was called on it, a writer accounts for the pieces that its sink took. -/
theorem Reached.accounted (h : Reached admits newline w pieces) : Accounts newline w pieces := by
  induction h with
  | fresh => exact ⟨rfl, rfl, rfl, rfl⟩
  | text call before ends ih => exact ih.attempt ends
  | layout call before ends ih => exact ih.layout ends

/-- A call that writes adds to the text of the sink as many characters as it returns, or it fails and
leaves the indentations, the anchors and the line width as they were. -/
theorem Accounts.outcome_attempt (h : Accounts newline w pieces) (call : TextCall) :
    ∃ result v, outcome call.attempt (.indenting w) = (result, .indenting v) ∧
      match result with
      | .ok n => ∃ added, v.sink.text = w.sink.text ++ added ∧ added.length = n
      | .error _ => v.indents = w.indents ∧ v.anchors = w.anchors ∧ v.lineWidth = w.lineWidth := by
  obtain ⟨start, hends⟩ := call.outcome_attempt w
  refine ⟨_, _, hends, ?_⟩
  split
  · rename_i n hresult
    split at hresult
    · rename_i hall
      obtain rfl := Except.ok.inj hresult
      refine ⟨String.join ((call.pieces w).map (Piece.content newline)), ?_, ?_⟩
      · rw [(h.attempt hends).text, h.text, hall, List.map_append, String.join_append]
      · rw [← h.newlineText, Piece.count]
    · cases hresult
  · exact ⟨w.indents_offerAll _, w.anchors_offerAll _, w.lineWidth_offerAll _⟩

/-- Whatever is called on an indenting writer, and whichever pieces its sink refuses: the sink has
taken the pieces that are accounted for, the index is the number of their characters, the column is
the number of characters since the last newline text among them, a call that writes returns how many
characters it made the sink take, and one that fails leaves the layout alone. -/
theorem Reached.accounts (h : Reached admits newline w pieces) :
    w.sink.log.reverse = pieces.map (Piece.content newline) ∧
      w.index = w.sink.text.length ∧
      w.column = Piece.count newline (pieces.rtakeWhile (· ≠ .newline)) ∧
      ∀ call : TextCall, ∃ result v,
        outcome call.attempt (.indenting w) = (result, .indenting v) ∧
          match result with
          | .ok n => ∃ added, v.sink.text = w.sink.text ++ added ∧ added.length = n
          | .error _ =>
            v.indents = w.indents ∧ v.anchors = w.anchors ∧ v.lineWidth = w.lineWidth := by
  have haccounted := h.accounted
  refine ⟨haccounted.log, ?_, haccounted.column, haccounted.outcome_attempt⟩
  rw [haccounted.text, haccounted.index, Piece.count]

/-- Two lines are written with an indentation to a sink that takes four pieces. It refuses the first
character of the second line, after the indentation of that line. -/
def cutShort : IndentingWriter :=
  (outcome (write "a\nbc") ((ofSink (.limited 4) "\r\n").pushIndentation "  ")).2

/-- The sink has taken two indentations, one character and the newline text. -/
theorem reached_cutShort :
    Reached (Sink.limited 4).admits "\r\n" cutShort
      [.text "  ", .text "a", .newline, .text "  "] := by
  have htaken : ((ofSink (.limited 4) "\r\n").pushIndentation "  ").taken
      ((TextCall.write "a\nbc").pieces ((ofSink (.limited 4) "\r\n").pushIndentation "  ")) =
        [.text "  ", .text "a", .newline, .text "  "] := by
    decide +kernel
  have hindented : Reached (Sink.limited 4).admits "\r\n"
      ((ofSink (.limited 4) "\r\n").pushIndentation "  ") [] :=
    .layout (.pushIndentation "  ") .fresh rfl
  exact htaken ▸ .text (.write "a\nbc") hindented rfl

/-- The writer that was cut short stands at the third column, after seven characters. -/
theorem cutShort_accounts :
    Reached (Sink.limited 4).admits "\r\n" cutShort
        [.text "  ", .text "a", .newline, .text "  "] ∧
      cutShort.sink.text = "  a\r\n  " ∧ cutShort.index = 7 ∧ cutShort.column = 2 ∧
      ∀ call : TextCall, ∃ result v,
        outcome call.attempt (.indenting cutShort) = (result, .indenting v) ∧
          match result with
          | .ok n => ∃ added, v.sink.text = cutShort.sink.text ++ added ∧ added.length = n
          | .error _ => v.indents = cutShort.indents ∧ v.anchors = cutShort.anchors ∧
              v.lineWidth = cutShort.lineWidth := by
  obtain ⟨hlog, hindex, hcolumn, hcall⟩ := Reached.accounts reached_cutShort
  have htext : cutShort.sink.text = "  a\r\n  " := by
    rw [Sink.text, hlog]
    decide
  refine ⟨reached_cutShort, htext, ?_, hcolumn.trans (by decide), hcall⟩
  rw [hindex, htext]
  decide

end IndentingWriter

end TemplateMachine
