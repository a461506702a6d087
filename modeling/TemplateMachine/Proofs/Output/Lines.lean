import TemplateMachine.Proofs.Output.Calls
import TemplateMachine.Proofs.Output.Counting

/-!
# Staying on the line

What an indenting writer on a sink that takes everything makes of a text without newlines and
carriage returns: it comes after the margin if it begins a line, and the column goes up by all that is
added. A line that has reached the line width can be broken by a newline before such a text; the
margin of the next line then comes at once, and the column is its length.

Wrap texts other than a single newline are not looked into.
-/

namespace TemplateMachine

open Attempt

/-- A text that has neither newlines nor carriage returns. -/
def Unbroken (text : String) : Prop :=
  '\n' ∉ text.toList ∧ '\r' ∉ text.toList

/-- Characters that stay on the line are one piece each. -/
theorem textPieces_false (margin : List Piece) {chars : List Char} (single : '\n' ∉ chars)
    (clean : '\r' ∉ chars) :
    textPieces margin false chars = (chars.map String.singleton).map .text := by
  induction chars with
  | nil => rfl
  | cons c rest ih =>
    simp only [List.mem_cons, not_or] at single clean
    obtain ⟨hc, hrest⟩ := single
    obtain ⟨hc', hrest'⟩ := clean
    simp [textPieces, charPieces, startAfter, Ne.symm hc, Ne.symm hc', ih hrest hrest']

/-- No line starts after characters that stay on the line. -/
theorem foldl_startAfter {chars : List Char} (single : '\n' ∉ chars) (clean : '\r' ∉ chars)
    (start : Bool) : chars.foldl startAfter start = (start && chars.isEmpty) := by
  induction chars generalizing start with
  | nil => simp
  | cons c rest ih =>
    simp only [List.mem_cons, not_or] at single clean
    obtain ⟨hc, hrest⟩ := single
    obtain ⟨hc', hrest'⟩ := clean
    simp [startAfter, Ne.symm hc, Ne.symm hc', ih hrest hrest']

namespace IndentingWriter

/-- What begins a line: the indentations, outermost first, and spaces up to the current anchor. -/
def marginText (w : IndentingWriter) : String :=
  let indentation := String.join w.indents.reverse
  indentation ++ String.ofList (List.replicate (w.anchors.headD 0 - indentation.length) ' ')

/-- What a text without newlines adds to the line: itself, after the margin if it begins the line. -/
def lineText (w : IndentingWriter) (text : String) : String :=
  (if w.atLineStart && text != "" then w.marginText else "") ++ text

/-- A text that does not begin the line has no margin. -/
theorem lineText_of_started {w : IndentingWriter} (started : w.atLineStart = false) (text : String) :
    w.lineText text = text := by
  rw [lineText, started, Bool.false_and, if_neg Bool.false_ne_true, String.empty_append]

/-- Whether the line has reached a line width, if there is one. A line that starts has not. -/
def reaches (w : IndentingWriter) : (width : Option Nat) → Bool
  | some width => !w.atLineStart && width ≤ w.column
  | none => false

/-- The line width at which a wrap text is written. -/
def wrapWidth (w : IndentingWriter) (wrap : Option String) : Option Nat :=
  wrap.bind fun _ => w.lineWidth

/-- What is written to break the line if it has reached the line width: a newline and the margin. -/
def wrapText (w : IndentingWriter) (wrap : Option String) : String :=
  if w.reaches (w.wrapWidth wrap) then "\n" ++ w.marginText else ""

/-- The column after the line is broken if it has reached the line width. -/
def wrapColumn (w : IndentingWriter) (wrap : Option String) : Nat :=
  if w.reaches (w.wrapWidth wrap) then w.marginText.length else w.column

/-- The writer after a text is written. -/
def afterText (w : IndentingWriter) (text : String) : IndentingWriter :=
  (outcome (write text) w).2

/-- The writer after the line is wrapped if need be. -/
def afterWrap (w : IndentingWriter) (wrap : Option String) : IndentingWriter :=
  (outcome (writeWrap wrap) w).2

/-- What becomes of a writer that takes everything when a text is added to its output and the writer
comes to a column. -/
structure Adds (w : IndentingWriter) (added : String) (column : Nat) (v : IndentingWriter) : Prop where
  takesAll : v.sink.TakesAll
  layout : (Writer.indenting v).layout = (Writer.indenting w).layout
  text : v.sink.text = w.sink.text ++ added
  column : v.column = column

namespace Adds

variable {w v u : IndentingWriter} {first second : String} {column column' : Nat}

/-- Nothing is added. -/
theorem nil (htakes : w.sink.TakesAll) : Adds w "" w.column w :=
  ⟨htakes, rfl, String.append_empty.symm, rfl⟩

/-- What is added in two goes is added. -/
theorem append (h : Adds w first column v) (h' : Adds v second column' u) :
    Adds w (first ++ second) column' u where
  takesAll := h'.takesAll
  layout := h'.layout.trans h.layout
  text := by rw [h'.text, h.text, String.append_assoc]
  column := h'.column

/-- What was added does not depend on whether a line starts. -/
theorem noting (h : Adds w first column v) (start : Bool) : Adds w first column (v.noting start) :=
  ⟨h.takesAll, h.layout, h.text, h.column⟩

/-- The newline text stays as it is. -/
theorem newline (h : Adds w first column v) : v.newline = w.newline :=
  Option.some.inj (congrArg Layout.newline h.layout)

/-- The margin stays as it is. -/
theorem marginText (h : Adds w first column v) : v.marginText = w.marginText := by
  have hindents : v.indents = w.indents := congrArg Layout.indentation h.layout
  have hanchors : v.anchors = w.anchors := congrArg Layout.anchors h.layout
  rw [IndentingWriter.marginText, hindents, hanchors]
  rfl

/-- The line width stays as it is. -/
theorem wrapWidth (h : Adds w first column v) (wrap : Option String) :
    v.wrapWidth wrap = w.wrapWidth wrap := by
  have hwidth : v.lineWidth = w.lineWidth := congrArg Layout.lineWidth h.layout
  rw [IndentingWriter.wrapWidth, hwidth]
  rfl

end Adds

section TakesAll

variable {w : IndentingWriter} (htakes : w.sink.TakesAll)

include htakes

/-- On a sink that takes everything a piece is added. -/
theorem adds_offer (piece : Piece) :
    w.takes piece = true ∧ Adds w (piece.content w.newline)
      (match piece with
        | .text content => w.column + content.length
        | .newline => 0) (w.offer piece) := by
  have haccepts : w.takes piece = true := htakes.accepts _
  refine ⟨haccepts, ?_⟩
  unfold offer
  rw [if_pos haccepts]
  exact ⟨htakes.offer _, rfl, htakes.text_offer _, rfl⟩

/-- A sink that takes everything takes all pieces. -/
theorem taken_eq (pieces : List Piece) : w.taken pieces = pieces := by
  induction pieces generalizing w with
  | nil => rfl
  | cons piece rest ih =>
    obtain ⟨haccepts, hadds⟩ := adds_offer htakes piece
    rw [taken, if_pos haccepts, ih hadds.takesAll]

/-- What offers pieces to a sink that takes everything succeeds. -/
theorem Offers.outcome_eq {before : Nat} {operation : Attempt IndentingWriter Nat}
    {pieces : List Piece} {start : Bool} (h : Offers w before operation pieces start) :
    outcome operation w =
      (.ok (before + Piece.count w.newline pieces), (w.offerAll pieces).noting start) :=
  h.taken (taken_eq htakes pieces)

/-- Texts that stay on the line are added one after the other. -/
theorem adds_offerAll_texts (texts : List String) :
    Adds w (String.join texts) (w.column + (String.join texts).length)
      (w.offerAll (texts.map .text)) := by
  induction texts generalizing w with
  | nil => exact .nil htakes
  | cons text rest ih =>
    obtain ⟨haccepts, hadds⟩ := adds_offer htakes (.text text)
    have hrest := ih hadds.takesAll
    rw [hadds.column] at hrest
    rw [List.map_cons, offerAll, if_pos haccepts, String.join_cons, String.length_append,
      ← Nat.add_assoc]
    exact hadds.append hrest

end TakesAll

/-- The margin is made up of texts that stay on the line. -/
theorem exists_margin_eq (w : IndentingWriter) :
    ∃ texts, w.margin = texts.map .text ∧ String.join texts = w.marginText := by
  unfold margin padding marginText
  generalize hjoin : String.join w.indents.reverse = indentation
  cases w.anchors with
  | nil => exact ⟨w.indents.reverse, by simp, by simp [hjoin]⟩
  | cons anchor outer =>
    dsimp only [List.headD_cons]
    split
    · refine ⟨w.indents.reverse ++
        [String.ofList (List.replicate (anchor - indentation.length) ' ')], by simp, ?_⟩
      rw [String.join_append, hjoin, String.join_cons, String.join_nil, String.append_empty]
    · rename_i near
      refine ⟨w.indents.reverse, by simp, ?_⟩
      rw [hjoin, Nat.sub_eq_zero_of_le (Nat.le_of_not_lt near)]
      exact String.append_empty.symm

/-- The pieces of a text without newlines stay on the line. -/
theorem exists_textPieces_eq (w : IndentingWriter) {text : String} (unbroken : Unbroken text) :
    ∃ texts, textPieces w.margin w.atLineStart text.toList = texts.map .text ∧
      String.join texts = w.lineText text := by
  obtain ⟨before, hmargin, hjoin⟩ := w.exists_margin_eq
  obtain ⟨single, clean⟩ := unbroken
  have htext : String.join (text.toList.map String.singleton) = text := by
    rw [← String.toList_inj, String.toList_join, List.flatMap_map]
    simp only [String.toList_singleton, List.flatMap_singleton']
  by_cases begins : (w.atLineStart && text != "") = true
  · refine ⟨before ++ text.toList.map String.singleton, ?_, ?_⟩
    · obtain ⟨hstart, hsome⟩ : w.atLineStart = true ∧ text ≠ "" := by simpa using begins
      obtain ⟨c, rest, hchars⟩ : ∃ c rest, text.toList = c :: rest :=
        List.exists_cons_of_ne_nil (by simpa using hsome)
      rw [hchars] at single clean ⊢
      have hrest := textPieces_false w.margin (List.not_mem_of_not_mem_cons single)
        (List.not_mem_of_not_mem_cons clean)
      simp only [List.mem_cons, not_or] at single clean
      simp [textPieces, charPieces, startAfter, hstart, hmargin, Ne.symm single.1, Ne.symm clean.1,
        ← hrest]
    · rw [String.join_append, hjoin, htext, lineText, if_pos begins]
  · refine ⟨text.toList.map String.singleton, ?_, ?_⟩
    · cases hstart : w.atLineStart with
      | false => exact textPieces_false w.margin single clean
      | true =>
        obtain rfl : text = "" := by simpa [hstart] using begins
        rfl
    · rw [htext, lineText, if_neg begins, String.empty_append]

variable {w : IndentingWriter} (htakes : w.sink.TakesAll)

include htakes

/-- A text without newlines is added to the line, after the margin if it begins the line. -/
theorem adds_afterText {text : String} (unbroken : Unbroken text) :
    outcome (write text) w = (.ok (w.lineText text).length, w.afterText text) ∧
      Adds w (w.lineText text) (w.column + (w.lineText text).length) (w.afterText text) ∧
      (w.afterText text).atLineStart = (w.atLineStart && text == "") := by
  obtain ⟨texts, hpieces, hjoin⟩ := w.exists_textPieces_eq unbroken
  have hends := Offers.outcome_eq htakes (w.offers_write text)
  have hadds := adds_offerAll_texts htakes texts
  rw [hpieces, foldl_startAfter unbroken.1 unbroken.2, Nat.zero_add, Piece.count_map_text, hjoin]
    at hends
  rw [hjoin] at hadds
  have hempty : text.toList.isEmpty = (text == "") := by
    rw [Bool.eq_iff_iff]
    simp
  rw [afterText, hends]
  exact ⟨rfl, hadds.noting _, congrArg (w.atLineStart && ·) hempty⟩

omit htakes in
/-- A line that has not reached the line width is left as it is. -/
theorem outcome_writeWrap_of_short {wrap : Option String}
    (short : w.reaches (w.wrapWidth wrap) = false) : outcome (writeWrap wrap) w = (.ok 0, w) := by
  rw [writeWrap, outcome_get_bind]
  cases hwidth : w.lineWidth with
  | none => rfl
  | some width =>
    cases wrap with
    | none => rfl
    | some wrap =>
      have hshort : w.atLineStart = true ∨ w.column < width := by
        simpa [wrapWidth, hwidth, reaches, Decidable.or_iff_not_imp_left] using short
      dsimp only
      rw [if_pos (by simpa using hshort)]
      rfl

omit htakes in
/-- Where a line is wrapped, the newline of the wrap text is written. -/
theorem wrapping_of_long {wrap : Option String} (single : ∀ text ∈ wrap, text = "\n")
    (long : w.reaches (w.wrapWidth wrap) = true) : w.wrapping wrap = ['\n'] := by
  obtain ⟨text, rfl⟩ : ∃ text, wrap = some text := by
    cases wrap <;> simp [wrapWidth, reaches] at long ⊢
  obtain rfl := single text rfl
  unfold wrapping
  cases hwidth : w.lineWidth with
  | none => simp [wrapWidth, hwidth, reaches] at long
  | some width =>
    obtain ⟨hstart, hcolumn⟩ : w.atLineStart = false ∧ width ≤ w.column := by
      simpa [wrapWidth, hwidth, reaches] using long
    simp [hstart, hcolumn]

/-- A line that has reached the line width is broken, and the next one begins with the margin. Any
other line is left as it is. -/
theorem adds_afterWrap (newline : w.newline = "\n") {wrap : Option String}
    (single : ∀ text ∈ wrap, text = "\n") :
    outcome (writeWrap wrap) w = (.ok (w.wrapText wrap).length, w.afterWrap wrap) ∧
      Adds w (w.wrapText wrap) (w.wrapColumn wrap) (w.afterWrap wrap) ∧
      (w.afterWrap wrap).atLineStart = w.atLineStart := by
  cases hreaches : w.reaches (w.wrapWidth wrap) with
  | false =>
    have hends := outcome_writeWrap_of_short hreaches
    rw [afterWrap, hends, wrapText, wrapColumn, hreaches]
    exact ⟨rfl, .nil htakes, rfl⟩
  | true =>
    obtain ⟨texts, hmargin, hjoin⟩ := w.exists_margin_eq
    have hpieces : wrapPieces w.margin (w.wrapping wrap) = .newline :: texts.map .text := by
      rw [wrapping_of_long single hreaches, ← hmargin]
      simp [wrapPieces, wrapCharPieces]
    have hcount : Piece.count w.newline (.newline :: texts.map .text) =
        ("\n" ++ w.marginText).length := by
      rw [Piece.count_cons, Piece.count_map_text, hjoin, Piece.content, newline,
        String.length_append]
    obtain ⟨haccepts, hbreak⟩ := adds_offer htakes .newline
    have hadds := hbreak.append (adds_offerAll_texts hbreak.takesAll texts)
    rw [hjoin, hbreak.column, Nat.zero_add, Piece.content, newline] at hadds
    have hends := Offers.outcome_eq htakes (w.offers_writeWrap wrap)
    rw [hpieces, hcount, Nat.zero_add, offerAll, if_pos haccepts] at hends
    rw [afterWrap, hends, wrapText, wrapColumn, hreaches]
    exact ⟨rfl, hadds.noting _, rfl⟩

/-- A text without newlines is written after the line was broken if need be. -/
theorem adds_writeWrapped (newline : w.newline = "\n") {wrap : Option String}
    (single : ∀ text ∈ wrap, text = "\n") {text : String} (unbroken : Unbroken text) :
    outcome (Writer.writeWrapped text wrap) (.indenting w) =
        (.ok (w.wrapText wrap ++ w.lineText text).length,
          .indenting ((w.afterWrap wrap).afterText text)) ∧
      Adds w (w.wrapText wrap ++ w.lineText text)
        (w.wrapColumn wrap + (w.lineText text).length) ((w.afterWrap wrap).afterText text) ∧
      ((w.afterWrap wrap).afterText text).atLineStart = (w.atLineStart && text == "") := by
  obtain ⟨hwrap, hfirst, hstart⟩ := adds_afterWrap htakes newline single
  obtain ⟨hwrite, hsecond, hstart'⟩ := adds_afterText hfirst.takesAll unbroken
  have hline : (w.afterWrap wrap).lineText text = w.lineText text := by
    rw [lineText, hstart, hfirst.marginText]
    rfl
  rw [hline] at hwrite hsecond
  rw [hfirst.column] at hsecond
  rw [hstart] at hstart'
  refine ⟨?_, hfirst.append hsecond, hstart'⟩
  rw [Writer.writeWrapped, Writer.writeWrap, outcome_bind, Writer.outcome_dispatch_indenting, hwrap]
  dsimp only
  rw [Writer.write, outcome_bind, Writer.outcome_dispatch_indenting, hwrite]
  dsimp only
  rw [String.length_append]
  rfl

end IndentingWriter

end TemplateMachine
