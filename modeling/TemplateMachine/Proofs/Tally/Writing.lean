import TemplateMachine.Proofs.Output.Calls

/-!
# What writing counts

An operation that writes returns how many characters it wrote. If it succeeds, this is how far the
index of the writer has moved, and also by how many characters the text of its sink has grown, on
every sink and with every layout. Both are gauges: numbers that can be read off a writer and that
grow by what is counted when a text or the newline text is taken.

Operations that fail are left out. What they have written before counts for the index and not for
the caller.
-/

namespace TemplateMachine

variable {ω α : Type}

namespace Attempt

/-- An operation that goes on from a count and returns a count, if it succeeds. The difference is how
much a number grows that is read off the writer. -/
def Tallies (gauge : ω → Nat) (before : Nat) (operation : Attempt ω Nat) : Prop :=
  ∀ w after v, outcome operation w = (.ok after, v) → gauge v + before = gauge w + after

/-- A change of the writer that a number does not depend on. -/
def Spares (gauge : ω → Nat) (operation : Attempt ω α) : Prop :=
  ∀ w, gauge (outcome operation w).2 = gauge w

section Tallies

variable {gauge : ω → Nat} {before : Nat}

/-- Returning the count so far writes nothing. -/
theorem tallies_pure {count : Nat} (same : before = count) : Tallies gauge before (pure count) := by
  rintro w _ _ ⟨⟩
  rw [same]

/-- What is counted by the parts of a sequence adds up. -/
theorem Tallies.bind {operation : Attempt ω Nat} {f : Nat → Attempt ω Nat}
    (h : Tallies gauge 0 operation) (hf : ∀ n, Tallies gauge (before + n) (f n)) :
    Tallies gauge before (operation >>= f) := by
  intro w after v ends
  rw [outcome_bind] at ends
  rcases hfirst : outcome operation w with ⟨error | n, u⟩ <;> rw [hfirst] at ends
  · cases ends
  · have hn := h w n u hfirst
    have hlast := hf n u after v ends
    omega

end Tallies

end Attempt

open Attempt

namespace IndentingWriter

/-- A number that grows by the length of a text and of the newline text when these are taken, and
that does not depend on whether a line starts. -/
structure Gauge (gauge : IndentingWriter → Nat) : Prop where
  put (text : String) : Tallies gauge 0 (put text)
  putNewline : Tallies gauge 0 putNewline
  start (w : IndentingWriter) (atLineStart : Bool) :
    gauge { w with atLineStart := atLineStart } = gauge w

namespace Gauge

variable {gauge : IndentingWriter → Nat} (h : Gauge gauge)

include h

/-- A piece that is taken is counted. -/
theorem offer {w : IndentingWriter} {piece : Piece} (takes : w.takes piece = true) :
    gauge (w.offer piece) = gauge w + (piece.content w.newline).length := by
  cases piece with
  | text content =>
    have hends := w.outcome_put_eq_offer content
    rw [takes, if_pos rfl] at hends
    exact h.put content w _ _ hends
  | newline =>
    have hends := w.outcome_putNewline_eq_offer
    rw [takes, if_pos rfl] at hends
    exact h.putNewline w _ _ hends

/-- Pieces that are all taken are counted. -/
theorem offerAll {w : IndentingWriter} {pieces : List Piece} (all : w.taken pieces = pieces) :
    gauge (w.offerAll pieces) = gauge w + Piece.count w.newline pieces := by
  induction pieces generalizing w with
  | nil => rfl
  | cons piece rest ih =>
    cases htakes : w.takes piece with
    | true =>
      have hrest : (w.offer piece).taken rest = rest := by simpa [taken, htakes] using all
      have hfirst := h.offer htakes
      have hnewline : (w.offer piece).newline = w.newline := w.newline_offer piece
      rw [IndentingWriter.offerAll, if_pos htakes, ih hrest, hfirst, hnewline, Piece.count_cons]
      omega
    | false => simp [taken, htakes] at all

/-- An operation that offers pieces counts those, if it succeeds. -/
theorem tallies {before : Nat} {operation : Attempt IndentingWriter Nat}
    (offers : ∀ w, ∃ pieces start, Offers w before operation pieces start) :
    Tallies gauge before operation := by
  intro w after v ends
  obtain ⟨pieces, start, htaken, hrefused⟩ := offers w
  by_cases all : w.taken pieces = pieces
  · obtain ⟨hafter, rfl⟩ := Prod.mk.inj ((htaken all).symm.trans ends)
    have hpieces := h.offerAll all
    have hnote : gauge ((w.offerAll pieces).noting start) = gauge (w.offerAll pieces) :=
      h.start (w.offerAll pieces) start
    have hcount := Except.ok.inj hafter
    omega
  · obtain ⟨start', hends⟩ := hrefused all
    cases hends.symm.trans ends

/-- Wrapping a line is counted. -/
theorem writeWrap (wrap : Option String) : Tallies gauge 0 (writeWrap wrap) :=
  h.tallies fun w => ⟨_, _, w.offers_writeWrap wrap⟩

/-- Writing a text is counted. -/
theorem write (text : String) : Tallies gauge 0 (write text) :=
  h.tallies fun w => ⟨_, _, w.offers_write text⟩

end Gauge

/-- The index of a writer is a gauge. -/
theorem gauge_index : Gauge fun w => w.index where
  put text w after v ends := by
    rw [outcome_put] at ends
    split at ends
    · obtain ⟨⟩ := ends
      rfl
    · cases ends
  putNewline w after v ends := by
    rw [outcome_putNewline] at ends
    split at ends
    · obtain ⟨⟩ := ends
      rfl
    · cases ends
  start _ _ := rfl

/-- The number of characters that the sink of a writer took is a gauge. -/
theorem gauge_length : Gauge fun w => w.sink.text.length where
  put text w after v ends := by
    rw [outcome_put] at ends
    split at ends
    · rename_i taken
      obtain ⟨⟩ := ends
      simp [Sink.text_offer taken]
    · cases ends
  putNewline w after v ends := by
    rw [outcome_putNewline] at ends
    split at ends
    · rename_i taken
      obtain ⟨⟩ := ends
      simp [Sink.text_offer taken]
    · cases ends
  start _ _ := rfl

end IndentingWriter

namespace Writer

/-- A number that grows by what is counted when something is written, and that nothing else changes
which is done to a writer. -/
structure Gauge (gauge : Writer → Nat) : Prop where
  write (text : String) : Tallies gauge 0 (write text)
  writeWrap (wrap : Option String) : Tallies gauge 0 (writeWrap wrap)
  pushIndentation (indent : String) (w : Writer) : gauge (w.pushIndentation indent) = gauge w
  popIndentation : Spares gauge popIndentation
  pushAnchor (w : Writer) : gauge w.pushAnchor = gauge w
  popAnchor : Spares gauge popAnchor

/-- Writing after a wrap is counted with the wrap. -/
theorem Gauge.writeWrapped {gauge : Writer → Nat} (h : Gauge gauge) (text : String)
    (wrap : Option String) : Tallies gauge 0 (writeWrapped text wrap) :=
  (h.writeWrap wrap).bind fun n => (h.write text).bind fun m => tallies_pure (by omega)

/-- What either sort of writer counts is counted. -/
theorem tallies_dispatch {gauge : Writer → Nat} {before : Nat}
    {indenting : Attempt IndentingWriter Nat} {verbatim : Attempt VerbatimWriter Nat}
    (hindenting : Tallies (fun w => gauge (.indenting w)) before indenting)
    (hverbatim : Tallies (fun w => gauge (.verbatim w)) before verbatim) :
    Tallies gauge before (dispatch indenting verbatim) := by
  intro w after v ends
  cases w with
  | indenting w =>
    rw [outcome_dispatch_indenting] at ends
    obtain ⟨hresult, rfl⟩ := Prod.mk.inj ends
    exact hindenting w after _ (Prod.ext hresult rfl)
  | verbatim w =>
    rw [outcome_dispatch_verbatim] at ends
    obtain ⟨hresult, rfl⟩ := Prod.mk.inj ends
    exact hverbatim w after _ (Prod.ext hresult rfl)

/-- What is a gauge of an indenting writer and of what a verbatim writer writes is a gauge, if the
layout has no part in it. -/
theorem gauge_of {gauge : Writer → Nat}
    (hindenting : IndentingWriter.Gauge fun w => gauge (.indenting w))
    (hverbatim : ∀ text, Tallies (fun w => gauge (.verbatim w)) 0 (VerbatimWriter.write text))
    (indenting_layout : ∀ w indents anchors,
      gauge (.indenting { w with indents := indents, anchors := anchors }) = gauge (.indenting w))
    (verbatim_layout : ∀ w indents anchors,
      gauge (.verbatim { w with indents := indents, anchors := anchors }) = gauge (.verbatim w)) :
    Gauge gauge where
  write text := tallies_dispatch (hindenting.write text) (hverbatim text)
  writeWrap wrap := tallies_dispatch (hindenting.writeWrap wrap) (tallies_pure rfl)
  pushIndentation indent w := by
    cases w with
    | indenting w => exact indenting_layout w _ _
    | verbatim w => exact verbatim_layout w _ _
  popIndentation w := by
    cases w with
    | indenting w =>
      rw [popIndentation, outcome_dispatch_indenting, IndentingWriter.outcome_popIndentation]
      split
      · exact indenting_layout w _ _
      · rfl
    | verbatim w =>
      rw [popIndentation, outcome_dispatch_verbatim, VerbatimWriter.outcome_popIndentation]
      split
      · exact verbatim_layout w _ _
      · rfl
  pushAnchor w := by
    cases w with
    | indenting w => exact indenting_layout w _ _
    | verbatim w => exact verbatim_layout w _ _
  popAnchor w := by
    cases w with
    | indenting w =>
      rw [popAnchor, outcome_dispatch_indenting, IndentingWriter.outcome_popAnchor]
      split
      · exact indenting_layout w _ _
      · rfl
    | verbatim w =>
      rw [popAnchor, outcome_dispatch_verbatim, VerbatimWriter.outcome_popAnchor]
      split
      · exact verbatim_layout w _ _
      · rfl

/-- The index of a writer is a gauge. -/
theorem gauge_index : Gauge index := by
  refine gauge_of IndentingWriter.gauge_index (fun text w after v ends => ?_)
    (fun _ _ _ => rfl) fun _ _ _ => rfl
  rw [VerbatimWriter.outcome_write] at ends
  split at ends
  · obtain ⟨⟩ := ends
    rfl
  · cases ends

/-- The number of characters that the sink of a writer took is a gauge. -/
theorem gauge_length : Gauge fun w => w.text.length := by
  refine gauge_of IndentingWriter.gauge_length (fun text w after v ends => ?_)
    (fun _ _ _ => rfl) fun _ _ _ => rfl
  rw [VerbatimWriter.outcome_write] at ends
  split at ends
  · rename_i taken
    obtain ⟨⟩ := ends
    simp [Writer.text, Writer.sink, Sink.text_offer taken]
  · cases ends

end Writer

end TemplateMachine
