import TemplateMachine.Proofs.Output.Layout

/-!
# Counting what is written

On a sink that refuses nothing a writer has counted every character of its text, and whatever is
done to the writer, its count never goes back. On such a sink nothing but an unpaired indentation or
anchor can fail.

On other sinks the count is of the characters that were taken, which is not shown here.
-/

namespace TemplateMachine

open Attempt

/-- The sink takes whatever it is offered. -/
def Sink.TakesAll (sink : Sink) : Prop :=
  ∀ offered taken text, sink.admits offered taken text = true

namespace Sink.TakesAll

variable {sink : Sink} (h : sink.TakesAll)

include h

/-- A sink that takes everything takes a text that is offered now. -/
theorem accepts (text : String) : sink.accepts text = true :=
  h sink.offered sink.taken text

/-- A sink that takes everything goes on doing so. -/
theorem offer (text : String) : (sink.offer text).TakesAll := by
  unfold Sink.offer
  split <;> exact h

/-- What is offered comes last. -/
theorem text_offer (text : String) : (sink.offer text).text = sink.text ++ text :=
  Sink.text_offer (h.accepts text)

end Sink.TakesAll

/-- A boundless sink takes everything. -/
theorem Sink.takesAll_boundless : Sink.boundless.TakesAll :=
  fun _ _ _ => rfl

/-- The sink of a fresh writer takes everything. -/
theorem Writer.takesAll_fork (w : Writer) : w.fork.sink.TakesAll := by
  cases w <;> exact Sink.takesAll_boundless

/-- A sink that takes everything and holds as many characters as were counted, at least a number of
them. -/
structure Sink.Counted (least : Nat) (sink : Sink) (count : Nat) : Prop where
  takesAll : sink.TakesAll
  length : sink.text.length = count
  least : least ≤ count

/-- What is offered is counted in addition to what was counted before. -/
theorem Sink.Counted.offer {least count : Nat} {sink : Sink} (h : sink.Counted least count)
    (text : String) : (sink.offer text).Counted least (count + text.length) where
  takesAll := h.takesAll.offer text
  length := by rw [h.takesAll.text_offer, String.length_append, h.length]
  least := Nat.le_add_right_of_le h.least

/-- Whatever writes keeps the count of an indenting writer. -/
theorem IndentingWriter.writing_counted (least : Nat) :
    Wrapping fun _ => Keeps fun w => w.sink.Counted least w.index := by
  refine .keeps (fun text w hw => ?_) (fun w hw => ?_) fun w atLineStart hw => hw
  · rw [outcome_put, if_pos (hw.takesAll.accepts text)]
    exact hw.offer text
  · rw [outcome_putNewline, if_pos (hw.takesAll.accepts w.newline)]
    exact hw.offer w.newline

namespace Writer

/-- The sink of the writer takes everything and holds the characters that the writer counted, at
least a number of them. -/
def Counts (least : Nat) (w : Writer) : Prop :=
  w.sink.Counted least w.index

/-- A writer that counted its text has counted as much as it has. -/
theorem Counts.start {least : Nat} {w : Writer} (h : Counts least w) : Counts w.index w :=
  ⟨h.takesAll, h.length, Nat.le_refl _⟩

/-- Beginning an indentation writes nothing. -/
theorem Counts.pushIndentation {least : Nat} {w : Writer} (h : Counts least w) (indent : String) :
    Counts least (w.pushIndentation indent) := by
  cases w <;> exact h

/-- Putting an anchor writes nothing. -/
theorem Counts.pushAnchor {least : Nat} {w : Writer} (h : Counts least w) :
    Counts least w.pushAnchor := by
  cases w <;> exact h

variable (least : Nat)

/-- Writing keeps the count. -/
theorem counts_write (text : String) : Keeps (Counts least) (write text) := by
  refine keeps_dispatch ((IndentingWriter.writing_counted least).write text) fun w hw => ?_
  have htakes : w.sink.TakesAll := hw.takesAll
  rw [VerbatimWriter.outcome_write, if_pos (htakes.accepts text)]
  exact Sink.Counted.offer hw text

/-- Wrapping a line keeps the count. -/
theorem counts_writeWrap (wrap : Option String) : Keeps (Counts least) (writeWrap wrap) :=
  keeps_dispatch ((IndentingWriter.writing_counted least).writeWrap wrap) (keeps_pure 0)

/-- Ending an indentation keeps the count. -/
theorem counts_popIndentation : Keeps (Counts least) popIndentation := by
  refine keeps_dispatch (fun w hw => ?_) fun w hw => ?_
  · rw [IndentingWriter.outcome_popIndentation]
    split <;> exact hw
  · rw [VerbatimWriter.outcome_popIndentation]
    split <;> exact hw

/-- Ending an anchor keeps the count. -/
theorem counts_popAnchor : Keeps (Counts least) popAnchor := by
  refine keeps_dispatch (fun w hw => ?_) fun w hw => ?_
  · rw [IndentingWriter.outcome_popAnchor]
    split <;> exact hw
  · rw [VerbatimWriter.outcome_popAnchor]
    split <;> exact hw

end Writer

end TemplateMachine
