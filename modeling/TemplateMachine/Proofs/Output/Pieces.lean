import TemplateMachine.Proofs.Output.Layout

/-!
# The pieces of an output

An indenting writer offers its output to the sink piece by piece: texts that stay on the line, among
them indentations and padding, and the newline text. Which pieces these are can be read off the
writer and off what it is to write; the sink has no say in it. The sink takes the pieces from the
front until it refuses one, and there the writer stops. So all that an operation does is to offer a
list of pieces, whatever the sink.

Only the note of whether a line starts depends on more than the pieces that were taken: a line counts
as begun once all of its margin was taken, be its first character refused or not.
-/

namespace TemplateMachine

open Attempt

/-- What a writer offers to its sink at once: a text that stays on the line, or the newline text. -/
inductive Piece where
  | text (content : String)
  | newline
deriving DecidableEq

namespace Piece

/-- The text that a piece stands for, given the newline text. -/
def content (newline : String) : Piece → String
  | .text content => content
  | .newline => newline

/-- How many characters pieces have. -/
def count (newline : String) (pieces : List Piece) : Nat :=
  (String.join (pieces.map (content newline))).length

variable {newline : String}

@[simp] theorem count_nil : count newline [] = 0 := rfl

@[simp] theorem count_cons (piece : Piece) (pieces : List Piece) :
    count newline (piece :: pieces) = (piece.content newline).length + count newline pieces := by
  simp [count, String.join_cons]

@[simp] theorem count_append (before after : List Piece) :
    count newline (before ++ after) = count newline before + count newline after := by
  simp [count, String.join_append]

/-- Texts have their own characters, whatever the newline text. -/
theorem count_map_text (texts : List String) :
    count newline (texts.map .text) = (String.join texts).length := by
  simp [count, Function.comp_def, content]

end Piece

namespace IndentingWriter

/-- The writer with a note of whether a line starts. -/
def noting (w : IndentingWriter) (start : Bool) : IndentingWriter :=
  { w with atLineStart := start }

/-- Whether the sink takes a piece that is offered now. -/
def takes (w : IndentingWriter) (piece : Piece) : Bool :=
  w.sink.accepts (piece.content w.newline)

/-- The writer after a piece is offered. -/
def offer (w : IndentingWriter) (piece : Piece) : IndentingWriter :=
  if w.takes piece then
    { w with
      sink := w.sink.offer (piece.content w.newline)
      index := w.index + (piece.content w.newline).length
      column :=
        match piece with
        | .text content => w.column + content.length
        | .newline => 0 }
  else { w with sink := w.sink.offer (piece.content w.newline) }

/-- The pieces that the sink takes if they are offered one after the other until it refuses one. -/
def taken : IndentingWriter → List Piece → List Piece
  | _, [] => []
  | w, piece :: rest => if w.takes piece then piece :: taken (w.offer piece) rest else []

/-- The writer after pieces are offered one after the other until the sink refuses one. -/
def offerAll : IndentingWriter → List Piece → IndentingWriter
  | w, [] => w
  | w, piece :: rest => if w.takes piece then offerAll (w.offer piece) rest else w.offer piece

section offerAll

variable (w : IndentingWriter)

/-- Offering a piece leaves the layout alone. -/
theorem layout_offer (piece : Piece) :
    (Writer.indenting (w.offer piece)).layout = (Writer.indenting w).layout := by
  unfold offer
  split <;> rfl

/-- Offering pieces leaves the layout alone. -/
theorem layout_offerAll (pieces : List Piece) :
    (Writer.indenting (w.offerAll pieces)).layout = (Writer.indenting w).layout := by
  induction pieces generalizing w with
  | nil => rfl
  | cons piece rest ih =>
    rw [offerAll]
    split
    · rw [ih, layout_offer]
    · exact layout_offer w piece

theorem newline_offer (piece : Piece) : (w.offer piece).newline = w.newline :=
  Option.some.inj (congrArg Layout.newline (w.layout_offer piece))

@[simp] theorem newline_offerAll (pieces : List Piece) : (w.offerAll pieces).newline = w.newline :=
  Option.some.inj (congrArg Layout.newline (w.layout_offerAll pieces))

@[simp] theorem indents_offerAll (pieces : List Piece) : (w.offerAll pieces).indents = w.indents :=
  congrArg Layout.indentation (w.layout_offerAll pieces)

@[simp] theorem anchors_offerAll (pieces : List Piece) : (w.offerAll pieces).anchors = w.anchors :=
  congrArg Layout.anchors (w.layout_offerAll pieces)

@[simp] theorem lineWidth_offerAll (pieces : List Piece) :
    (w.offerAll pieces).lineWidth = w.lineWidth :=
  congrArg Layout.lineWidth (w.layout_offerAll pieces)

@[simp] theorem newline_noting (start : Bool) : (w.noting start).newline = w.newline := rfl

@[simp] theorem noting_noting (start start' : Bool) :
    (w.noting start).noting start' = w.noting start' := rfl

/-- A note that is there already changes nothing. -/
@[simp] theorem noting_atLineStart : w.noting w.atLineStart = w := rfl

/-- What is offered does not depend on whether a line starts. -/
theorem offer_noting (piece : Piece) (start : Bool) :
    (w.noting start).offer piece = (w.offer piece).noting start := by
  by_cases htakes : w.takes piece <;>
    simp [offer, noting, takes] at htakes ⊢ <;> simp [htakes]

/-- What is taken does not depend on whether a line starts. -/
@[simp] theorem taken_noting (pieces : List Piece) (start : Bool) :
    (w.noting start).taken pieces = w.taken pieces := by
  induction pieces generalizing w with
  | nil => rfl
  | cons piece rest ih =>
    rw [taken, taken, offer_noting, ih]
    rfl

/-- What comes of offering pieces does not depend on whether a line starts. -/
@[simp] theorem offerAll_noting (pieces : List Piece) (start : Bool) :
    (w.noting start).offerAll pieces = (w.offerAll pieces).noting start := by
  induction pieces generalizing w with
  | nil => rfl
  | cons piece rest ih =>
    rw [offerAll, offerAll, offer_noting, ih]
    by_cases htakes : w.takes piece <;>
      simp [takes, noting] at htakes ⊢ <;> simp [htakes]

/-- Offering a piece leaves the note of whether a line starts. -/
@[simp] theorem atLineStart_offer (piece : Piece) :
    (w.offer piece).atLineStart = w.atLineStart := by
  unfold offer
  split <;> rfl

/-- Offering pieces leaves the note of whether a line starts. -/
@[simp] theorem atLineStart_offerAll (pieces : List Piece) :
    (w.offerAll pieces).atLineStart = w.atLineStart := by
  induction pieces generalizing w with
  | nil => rfl
  | cons piece rest ih =>
    rw [offerAll]
    split
    · rw [ih, atLineStart_offer]
    · exact w.atLineStart_offer piece

/-- Noting anew what was noted before pieces were offered changes nothing. -/
theorem noting_offerAll_self (pieces : List Piece) :
    (w.offerAll pieces).noting w.atLineStart = w.offerAll pieces := by
  rw [← w.atLineStart_offerAll pieces, noting_atLineStart]

/-- Offering one piece is offering it. -/
theorem offerAll_singleton (piece : Piece) : w.offerAll [piece] = w.offer piece := by
  rw [offerAll]
  split <;> rfl

/-- One piece is taken or not. -/
theorem taken_singleton (piece : Piece) :
    w.taken [piece] = if w.takes piece then [piece] else [] := rfl

/-- More pieces are offered only if the first ones are taken, and all of them are taken if both parts
are. -/
theorem taken_append_eq_iff (first second : List Piece) :
    w.taken (first ++ second) = first ++ second ↔
      w.taken first = first ∧ (w.offerAll first).taken second = second := by
  induction first generalizing w with
  | nil => simp [taken, offerAll]
  | cons piece rest ih => by_cases htakes : w.takes piece <;> simp [taken, offerAll, htakes, ih]

/-- If the first pieces are taken, the other ones are offered after them. -/
theorem offerAll_append {first : List Piece} (all : w.taken first = first) (second : List Piece) :
    w.offerAll (first ++ second) = (w.offerAll first).offerAll second := by
  induction first generalizing w with
  | nil => rfl
  | cons piece rest ih =>
    by_cases htakes : w.takes piece
    · have hrest : (w.offer piece).taken rest = rest := by simpa [taken, htakes] using all
      simpa [offerAll, htakes] using ih (w.offer piece) hrest
    · simp [taken, htakes] at all

/-- If one of the first pieces is refused, the other ones are not offered. -/
theorem offerAll_append_of_refused {first : List Piece} (refused : w.taken first ≠ first)
    (second : List Piece) : w.offerAll (first ++ second) = w.offerAll first := by
  induction first generalizing w with
  | nil => simp [taken] at refused
  | cons piece rest ih =>
    by_cases htakes : w.takes piece
    · have hrest : (w.offer piece).taken rest ≠ rest := by simpa [taken, htakes] using refused
      simpa [offerAll, htakes] using ih (w.offer piece) hrest
    · simp [offerAll, htakes]

/-- The pieces that are taken come first among those that are offered. -/
theorem taken_prefix (pieces : List Piece) : w.taken pieces <+: pieces := by
  induction pieces generalizing w with
  | nil => exact List.nil_prefix
  | cons piece rest ih =>
    rw [taken]
    split
    · exact (List.prefix_cons_inj piece).mpr (ih _)
    · exact List.nil_prefix

/-- A piece that is taken comes last in the log of the sink. -/
theorem log_offer (piece : Piece) :
    (w.offer piece).sink.log.reverse =
      w.sink.log.reverse ++ if w.takes piece then [piece.content w.newline] else [] := by
  have haccepts : w.takes piece = w.sink.accepts (piece.content w.newline) := rfl
  unfold offer
  split <;> simp_all [Sink.offer]

/-- The pieces that are taken come last in the log of the sink. -/
theorem log_offerAll (pieces : List Piece) :
    (w.offerAll pieces).sink.log.reverse =
      w.sink.log.reverse ++ (w.taken pieces).map (Piece.content w.newline) := by
  induction pieces generalizing w with
  | nil => simp [offerAll, taken]
  | cons piece rest ih =>
    rw [offerAll, taken]
    split
    · rename_i takes
      rw [ih, log_offer, newline_offer, if_pos takes]
      simp
    · rename_i refused
      rw [log_offer, if_neg refused]
      rfl

end offerAll

/-- An operation that goes on from a count offers pieces one after the other. If the sink takes them
all, their characters are added to the count, and the operation says whether a line starts. If the
sink refuses one, the operation fails there. -/
structure Offers (w : IndentingWriter) (before : Nat) (operation : Attempt IndentingWriter Nat)
    (pieces : List Piece) (start : Bool) : Prop where
  taken : w.taken pieces = pieces → outcome operation w =
    (.ok (before + Piece.count w.newline pieces), (w.offerAll pieces).noting start)
  refused : w.taken pieces ≠ pieces → ∃ start', outcome operation w =
    (.error .refused, (w.offerAll pieces).noting start')

section Offers

variable {w : IndentingWriter} {before : Nat} {start mid : Bool} {pieces first second : List Piece}
  {operation : Attempt IndentingWriter Nat}

/-- Returning the count so far offers nothing. -/
theorem offers_pure {count : Nat} (same : before = count) :
    Offers w before (pure count) [] w.atLineStart where
  taken _ := by rw [same]; rfl
  refused h := absurd rfl h

/-- One after the other, operations offer the pieces of the one and then those of the other. -/
theorem Offers.bind {f : Nat → Attempt IndentingWriter Nat} (h : Offers w 0 operation first mid)
    (hf : Offers ((w.offerAll first).noting mid) (before + Piece.count w.newline first)
      (f (Piece.count w.newline first)) second start) :
    Offers w before (operation >>= f) (first ++ second) start := by
  by_cases hfirst : w.taken first = first
  · have hends := h.taken hfirst
    obtain ⟨htaken, hrefused⟩ := hf
    rw [taken_noting, offerAll_noting] at htaken hrefused
    rw [Nat.zero_add] at hends
    refine ⟨fun all => ?_, fun refused => ?_⟩
    · obtain ⟨-, hsecond⟩ := (w.taken_append_eq_iff first second).mp all
      rw [outcome_bind, hends, offerAll_append w hfirst]
      simpa [Nat.add_assoc] using htaken hsecond
    · have hsecond : (w.offerAll first).taken second ≠ second :=
        fun hsecond => refused ((w.taken_append_eq_iff first second).mpr ⟨hfirst, hsecond⟩)
      rw [outcome_bind, hends, offerAll_append w hfirst]
      exact hrefused hsecond
  · obtain ⟨start', hends⟩ := h.refused hfirst
    refine ⟨fun all => absurd ((w.taken_append_eq_iff first second).mp all).1 hfirst, fun _ => ?_⟩
    rw [outcome_bind, hends, offerAll_append_of_refused w hfirst]
    exact ⟨start', rfl⟩

/-- Adding to the count offers nothing more. -/
theorem Offers.add (h : Offers w 0 operation pieces start) (count : Nat) :
    Offers w count (operation >>= fun n => pure (count + n)) pieces start := by
  have hadd : Offers w count (operation >>= fun n => pure (count + n)) (pieces ++ []) start :=
    h.bind (offers_pure rfl)
  rwa [List.append_nil] at hadd

/-- Looking at the writer offers nothing. -/
theorem offers_get_bind {f : IndentingWriter → Attempt IndentingWriter Nat}
    (h : Offers w before (f w) pieces start) : Offers w before (get >>= f) pieces start :=
  ⟨h.taken, h.refused⟩

/-- Noting where a line starts offers nothing. -/
theorem offers_start_bind {f : PUnit → Attempt IndentingWriter Nat}
    (h : Offers (w.noting mid) before (f ⟨⟩) pieces start) :
    Offers w before ((modify fun w => { w with atLineStart := mid }) >>= f) pieces start := by
  obtain ⟨htaken, hrefused⟩ := h
  rw [taken_noting, offerAll_noting] at htaken hrefused
  exact ⟨htaken, hrefused⟩

/-- An operation that offers one piece and leaves it at that. -/
theorem offers_piece {piece : Piece} (ends : outcome operation w =
    (if w.takes piece then .ok (piece.content w.newline).length else .error .refused,
      w.offer piece)) : Offers w 0 operation [piece] w.atLineStart := by
  have hnote : (w.offer piece).noting w.atLineStart = w.offer piece := by
    rw [← w.atLineStart_offer piece, noting_atLineStart]
  cases htakes : w.takes piece with
  | true =>
    rw [htakes, if_pos rfl] at ends
    refine ⟨fun _ => ?_, fun h => ?_⟩
    · simpa [offerAll, htakes, hnote] using ends
    · simp [IndentingWriter.taken, htakes] at h
  | false =>
    rw [htakes, if_neg Bool.false_ne_true] at ends
    refine ⟨fun h => ?_, fun _ => ⟨w.atLineStart, ?_⟩⟩
    · simp [IndentingWriter.taken, htakes] at h
    · simpa [offerAll, htakes, hnote] using ends

end Offers

variable (w : IndentingWriter)

/-- Offering a text that stays on the line is offering it as a piece. -/
theorem outcome_put_eq_offer (text : String) :
    outcome (put text) w =
      (if w.takes (.text text) then .ok text.length else .error .refused, w.offer (.text text)) := by
  rw [outcome_put]
  by_cases haccepts : w.sink.accepts text <;> simp [takes, offer, Piece.content, haccepts]

/-- Offering the newline text is offering it as a piece. -/
theorem outcome_putNewline_eq_offer :
    outcome putNewline w =
      (if w.takes .newline then .ok w.newline.length else .error .refused, w.offer .newline) := by
  rw [outcome_putNewline]
  by_cases haccepts : w.sink.accepts w.newline <;> simp [takes, offer, Piece.content, haccepts]

/-- A text that stays on the line is one piece. -/
theorem offers_put (text : String) : Offers w 0 (put text) [.text text] w.atLineStart :=
  offers_piece (w.outcome_put_eq_offer text)

/-- The newline text is one piece. -/
theorem offers_putNewline : Offers w 0 putNewline [.newline] w.atLineStart :=
  offers_piece w.outcome_putNewline_eq_offer

/-- Texts that stay on the line are one piece each. -/
theorem offers_putAll (texts : List String) :
    Offers w 0 (putAll texts) (texts.map .text) w.atLineStart := by
  induction texts generalizing w with
  | nil => exact offers_pure rfl
  | cons text rest ih =>
    refine (offers_put w text).bind ?_
    rw [Nat.zero_add]
    exact (ih _).add _

end IndentingWriter

end TemplateMachine
