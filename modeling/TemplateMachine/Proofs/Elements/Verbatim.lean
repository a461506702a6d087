import TemplateMachine.Proofs.Output.Counting
import TemplateMachine.Proofs.Render.Computation

/-!
# Texts on the verbatim writer

The verbatim writer offers a text to its sink as a whole and wraps no line. Either the sink takes the
text, or the refusal is reported and nothing is counted. So if something was written in several goes
and no refusal was reported, the output is made up of all the texts.

Once a refusal has been reported, nothing is said about the output.
-/

namespace TemplateMachine

/-- The verbatim writer offers a text as a whole. -/
theorem Writer.outcome_write_verbatim (text : String) (w : VerbatimWriter) :
    (Writer.write text).outcome (.verbatim w) =
      if w.sink.accepts text then
        (.ok text.length, .verbatim { w with
          sink := w.sink.offer text
          index := w.index + text.length })
      else (.error .refused, .verbatim { w with sink := w.sink.offer text }) := by
  rw [write, outcome_dispatch_verbatim, VerbatimWriter.outcome_write]
  split <;> rfl

/-- The verbatim writer wraps no line. -/
theorem Writer.outcome_writeWrapped_verbatim (text : String) (wrap : Option String)
    (w : VerbatimWriter) :
    (Writer.writeWrapped text wrap).outcome (.verbatim w) =
      (Writer.write text).outcome (.verbatim w) := by
  rw [writeWrapped, Attempt.outcome_bind]
  change (Writer.write text >>= fun m => pure (0 + m)).outcome (.verbatim w) = _
  simp only [Nat.zero_add, bind_pure]

/-- What becomes of a state with a verbatim writer when something is written that has a text and so
many characters are counted: the text is added and its characters are counted, unless a refusal is
reported. A sink that takes everything refuses nothing. -/
structure RenderState.Adds (text : String) (s : RenderState) (n : Nat) (t : RenderState) : Prop where
  verbatim : ∃ w, t.writer = .verbatim w
  reports : ∃ refusals, t.messages = refusals ++ s.messages
  added : t.messages = s.messages → t.writer.text = s.writer.text ++ text ∧ n = text.length
  takesAll : s.writer.sink.TakesAll → t.writer.sink.TakesAll ∧ t.messages = s.messages

namespace RenderState.Adds

variable {first second : String} {s t u : RenderState} {n m : Nat} {w : VerbatimWriter}

/-- Nothing is written. -/
theorem nil (verbatim : s.writer = .verbatim w) : Adds "" s 0 s where
  verbatim := ⟨w, verbatim⟩
  reports := ⟨[], rfl⟩
  added _ := ⟨String.append_empty.symm, rfl⟩
  takesAll htakes := ⟨htakes, rfl⟩

/-- If no refusal is reported in two goes, none is reported in either. -/
theorem messages_eq (h : Adds first s n t) (h' : Adds second t m u)
    (quiet : u.messages = s.messages) : t.messages = s.messages ∧ u.messages = t.messages := by
  obtain ⟨refusals, hfirst⟩ := h.reports
  obtain ⟨later, hsecond⟩ := h'.reports
  rw [hsecond, hfirst, ← List.append_assoc] at quiet
  obtain ⟨rfl, rfl⟩ := List.append_eq_nil_iff.mp (List.append_left_eq_self.mp quiet)
  exact ⟨hfirst, hsecond⟩

/-- What is written in two goes is written. What the second one writes matters only if no refusal is
reported in the first one. -/
theorem append (h : Adds first s n t) {other : String} (h' : Adds other t m u)
    (same : t.messages = s.messages → other = second) : Adds (first ++ second) s (n + m) u where
  verbatim := h'.verbatim
  reports := by
    obtain ⟨refusals, hfirst⟩ := h.reports
    obtain ⟨later, hsecond⟩ := h'.reports
    exact ⟨later ++ refusals, by rw [hsecond, hfirst, List.append_assoc]⟩
  added quiet := by
    obtain ⟨hfirst, hsecond⟩ := messages_eq h h' quiet
    obtain ⟨htext, rfl⟩ := h.added hfirst
    obtain ⟨htext', rfl⟩ := h'.added hsecond
    rw [htext', htext, same hfirst, String.append_assoc, String.length_append]
    exact ⟨rfl, rfl⟩
  takesAll htakes := by
    obtain ⟨hfirst, hquiet⟩ := h.takesAll htakes
    obtain ⟨hsecond, hquiet'⟩ := h'.takesAll hfirst
    exact ⟨hsecond, hquiet'.trans hquiet⟩

end RenderState.Adds

/-- A text is written to a verbatim writer, or its refusal is reported. -/
theorem adds_emit (frame : Frame) {operation : Attempt Writer Nat} {text : String} {s : RenderState}
    {w : VerbatimWriter} (verbatim : s.writer = .verbatim w)
    (writes : operation.outcome (.verbatim w) = (Writer.write text).outcome (.verbatim w)) :
    ∃ n t, Render.outcome (Render.emit frame operation) s = (some n, t) ∧ s.Adds text n t := by
  rw [Render.outcome_emit, verbatim, writes, Writer.outcome_write_verbatim]
  cases haccepts : w.sink.accepts text with
  | true =>
    refine ⟨_, _, rfl, ⟨_, rfl⟩, ⟨[], rfl⟩, fun _ => ⟨?_, rfl⟩, fun htakes => ⟨?_, rfl⟩⟩
    · rw [verbatim]
      exact Sink.text_offer haccepts
    · rw [verbatim] at htakes
      exact Sink.TakesAll.offer htakes text
  | false =>
    refine ⟨_, _, rfl, ⟨_, rfl⟩, ⟨[_], rfl⟩, fun quiet => ?_, fun htakes => ?_⟩
    · simp at quiet
    · rw [verbatim] at htakes
      have htaken : w.sink.accepts text = true := Sink.TakesAll.accepts htakes text
      simp [htaken] at haccepts

end TemplateMachine
