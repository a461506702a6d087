import TemplateMachine.Proofs.Output.Pieces

/-!
# The pieces of every call

Which pieces each call on an indenting writer offers. A character of a text is one piece, a newline
character is the newline text, and a carriage return is nothing. In a text the margin comes before
the first character of a line, so that empty lines have none; in a wrap text it comes right after
every newline.
-/

namespace TemplateMachine

open Attempt

/-- What a character is written as, given what begins a line and whether one starts. -/
def charPieces (margin : List Piece) (start : Bool) (c : Char) : List Piece :=
  if c = '\r' then []
  else if c = '\n' then [.newline]
  else (if start then margin else []) ++ [.text (String.singleton c)]

/-- Whether a line starts after a character. -/
def startAfter (start : Bool) (c : Char) : Bool :=
  if c = '\r' then start else c = '\n'

/-- What characters are written as, given what begins a line and whether one starts. -/
def textPieces (margin : List Piece) : Bool → List Char → List Piece
  | _, [] => []
  | start, c :: rest => charPieces margin start c ++ textPieces margin (startAfter start c) rest

/-- What a character of a wrap text is written as, given what begins a line. -/
def wrapCharPieces (margin : List Piece) (c : Char) : List Piece :=
  if c = '\r' then []
  else if c = '\n' then .newline :: margin
  else [.text (String.singleton c)]

/-- What the characters of a wrap text are written as, given what begins a line. -/
def wrapPieces (margin : List Piece) (chars : List Char) : List Piece :=
  chars.flatMap (wrapCharPieces margin)

namespace IndentingWriter

/-- What is written between the indentations and the rest of a line: spaces up to the current anchor
if it lies further. -/
def padding (w : IndentingWriter) : List Piece :=
  match w.anchors with
  | anchor :: _ =>
    if (String.join w.indents.reverse).length < anchor then
      [.text (String.ofList
        (List.replicate (anchor - (String.join w.indents.reverse).length) ' '))]
    else []
  | [] => []

/-- What begins a line: the indentations, outermost first, and the padding. -/
def margin (w : IndentingWriter) : List Piece :=
  w.indents.reverse.map .text ++ w.padding

/-- The characters of the wrap text that are written now: none unless the line has reached the line
width. -/
def wrapping (w : IndentingWriter) (wrap : Option String) : List Char :=
  match w.lineWidth, wrap with
  | some width, some wrap => if w.atLineStart || w.column < width then [] else wrap.toList
  | _, _ => []

/-- Offering pieces leaves the margin alone, and so does noting where a line starts. -/
@[simp] theorem margin_noting_offerAll (w : IndentingWriter) (pieces : List Piece) (start : Bool) :
    ((w.offerAll pieces).noting start).margin = w.margin := by
  simp [margin, padding, noting]

variable (w : IndentingWriter)

/-- Indenting a line offers the margin. -/
theorem offers_indentLine : Offers w 0 indentLine w.margin w.atLineStart := by
  refine offers_get_bind ((offers_putAll w w.indents.reverse).bind ?_)
  rw [Piece.count_map_text, Nat.zero_add]
  unfold padding
  cases w.anchors with
  | nil => exact offers_pure rfl
  | cons anchor outer =>
    dsimp only
    split
    · exact (offers_put _ _).add _
    · exact offers_pure rfl

/-- A character of a wrap text offers its pieces. -/
theorem offers_wrapChar (c : Char) :
    Offers w 0 (wrapChar c) (wrapCharPieces w.margin c) w.atLineStart := by
  unfold wrapChar wrapCharPieces
  split
  · exact offers_pure rfl
  split
  · refine (offers_putNewline w).bind ?_
    have hmargin := offers_indentLine ((w.offerAll [.newline]).noting w.atLineStart)
    rw [margin_noting_offerAll] at hmargin
    rw [Nat.zero_add]
    exact hmargin.add _
  · exact offers_put w _

/-- The characters of a wrap text offer their pieces. -/
theorem offers_wrapChars (count : Nat) (chars : List Char) :
    Offers w count (wrapChars count chars) (wrapPieces w.margin chars) w.atLineStart := by
  induction chars generalizing w count with
  | nil => exact offers_pure rfl
  | cons c rest ih =>
    have hrest := ih ((w.offerAll (wrapCharPieces w.margin c)).noting w.atLineStart)
    rw [margin_noting_offerAll] at hrest
    exact (offers_wrapChar w c).bind (hrest _)

/-- Wrapping a line offers the wrap text if it is needed. -/
theorem offers_writeWrap (wrap : Option String) :
    Offers w 0 (writeWrap wrap) (wrapPieces w.margin (w.wrapping wrap)) w.atLineStart := by
  refine offers_get_bind ?_
  unfold wrapping
  cases w.lineWidth with
  | none => exact offers_pure rfl
  | some width =>
    cases wrap with
    | none => exact offers_pure rfl
    | some wrap =>
      change Offers _ _ (if _ then _ else _) (wrapPieces _ (if _ then _ else _)) _
      split
      · exact offers_pure rfl
      · exact offers_wrapChars w 0 wrap.toList

/-- A character of a text offers its pieces, after the margin if it begins a line. -/
theorem offers_writeChar (c : Char) :
    Offers w 0 (writeChar c) (charPieces w.margin w.atLineStart c) (startAfter w.atLineStart c) := by
  unfold writeChar charPieces startAfter
  split
  · exact offers_pure rfl
  split
  · rename_i ends
    rw [decide_eq_true ends]
    exact (offers_putNewline w).bind (offers_start_bind (offers_pure (Nat.zero_add _)))
  · rename_i stays
    rw [decide_eq_false stays]
    refine offers_get_bind ?_
    cases hstart : w.atLineStart with
    | true =>
      have hmargin := offers_indentLine w
      have hchar := offers_put ((w.offerAll w.margin).noting false) (String.singleton c)
      refine hmargin.bind (offers_start_bind ?_)
      rw [Nat.zero_add]
      exact hchar.add _
    | false =>
      have hchar := offers_put w (String.singleton c)
      rw [hstart] at hchar
      exact hchar

/-- The characters of a text offer their pieces. -/
theorem offers_writeChars (count : Nat) (chars : List Char) :
    Offers w count (writeChars count chars) (textPieces w.margin w.atLineStart chars)
      (chars.foldl startAfter w.atLineStart) := by
  induction chars generalizing w count with
  | nil => exact offers_pure rfl
  | cons c rest ih =>
    have hrest := ih ((w.offerAll (charPieces w.margin w.atLineStart c)).noting
      (startAfter w.atLineStart c))
    rw [margin_noting_offerAll] at hrest
    exact (offers_writeChar w c).bind (hrest _)

/-- A text offers the pieces of its characters. -/
theorem offers_write (text : String) :
    Offers w 0 (write text) (textPieces w.margin w.atLineStart text.toList)
      (text.toList.foldl startAfter w.atLineStart) :=
  offers_writeChars w 0 text.toList

/-- Writing a text after wrapping the line offers the pieces of the wrap text, if it is needed, and
then those of the text. -/
theorem offers_writeWrapped (text : String) (wrap : Option String) :
    Offers w 0
      (writeWrap wrap >>= fun n => write text >>= fun m => pure (n + m))
      (wrapPieces w.margin (w.wrapping wrap) ++
        textPieces w.margin w.atLineStart text.toList)
      (text.toList.foldl startAfter w.atLineStart) := by
  have htext := offers_write
    ((w.offerAll (wrapPieces w.margin (w.wrapping wrap))).noting w.atLineStart) text
  rw [margin_noting_offerAll] at htext
  refine (offers_writeWrap w wrap).bind ?_
  rw [Nat.zero_add]
  exact htext.add _

end IndentingWriter

/-- A call that writes. -/
inductive TextCall where
  | write (text : String)
  | writeWrapped (text : String) (wrap : Option String)
  | writeWrap (wrap : Option String)
  | writeSeparator (text : String)

namespace TextCall

/-- What the call does to a writer. -/
def attempt : TextCall → Attempt Writer Nat
  | .write text => Writer.write text
  | .writeWrapped text wrap => Writer.writeWrapped text wrap
  | .writeWrap wrap => Writer.writeWrap wrap
  | .writeSeparator text => Writer.writeSeparator text

/-- The pieces that the call offers to the sink of a writer. -/
def pieces (w : IndentingWriter) : TextCall → List Piece
  | .write text | .writeSeparator text => textPieces w.margin w.atLineStart text.toList
  | .writeWrapped text wrap =>
    wrapPieces w.margin (w.wrapping wrap) ++ textPieces w.margin w.atLineStart text.toList
  | .writeWrap wrap => wrapPieces w.margin (w.wrapping wrap)

/-- Whether a line starts on a writer after the call, if the sink takes all of its pieces. -/
def starts (w : IndentingWriter) : TextCall → Bool
  | .write text | .writeSeparator text | .writeWrapped text _ =>
    text.toList.foldl startAfter w.atLineStart
  | .writeWrap _ => w.atLineStart

/-- On an indenting writer the call comes to offering its pieces. -/
theorem exists_offers (call : TextCall) (w : IndentingWriter) :
    ∃ operation, w.Offers 0 operation (call.pieces w) (call.starts w) ∧
      outcome call.attempt (.indenting w) =
        ((outcome operation w).1, .indenting (outcome operation w).2) := by
  cases call with
  | write text => exact ⟨_, w.offers_write text, rfl⟩
  | writeSeparator text => exact ⟨_, w.offers_write text, rfl⟩
  | writeWrap wrap => exact ⟨_, w.offers_writeWrap wrap, rfl⟩
  | writeWrapped text wrap =>
    refine ⟨_, w.offers_writeWrapped text wrap, ?_⟩
    rw [attempt, Writer.writeWrapped, Writer.writeWrap, outcome_bind, outcome_bind,
      Writer.outcome_dispatch_indenting]
    rcases outcome (IndentingWriter.writeWrap wrap) w with ⟨error | n, v⟩
    · rfl
    · dsimp only
      rw [Writer.write, outcome_bind, outcome_bind, Writer.outcome_dispatch_indenting]
      rcases outcome (IndentingWriter.write text) v with ⟨error | m, u⟩ <;> rfl

/-- The call succeeds exactly if the sink takes all of its pieces, and returns how many characters
they have. Whatever the sink takes, the writer has offered the pieces up to the first one that is
refused. -/
theorem outcome_attempt (call : TextCall) (w : IndentingWriter) :
    ∃ start, outcome call.attempt (.indenting w) =
      (if w.taken (call.pieces w) = call.pieces w then
          .ok (Piece.count w.newline (call.pieces w))
        else .error .refused,
        .indenting ((w.offerAll (call.pieces w)).noting start)) := by
  obtain ⟨operation, hoffers, hends⟩ := call.exists_offers w
  rw [hends]
  by_cases hall : w.taken (call.pieces w) = call.pieces w
  · rw [hoffers.taken hall, if_pos hall, Nat.zero_add]
    exact ⟨call.starts w, rfl⟩
  · obtain ⟨start', hrefused⟩ := hoffers.refused hall
    rw [hrefused, if_neg hall]
    exact ⟨start', rfl⟩

end TextCall

end TemplateMachine
