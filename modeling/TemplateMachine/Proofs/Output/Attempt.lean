import TemplateMachine.Output.Writer

/-!
# Laws of attempts

What an operation on a writer comes to, started with a writer: its result, which may be an error,
and the writer afterwards. The indenting writer does all that it does to its sink by two
operations, offering a text that stays on the line and offering the newline text. What holds of
these two and passes on to what is put together from them therefore holds of everything that writes.

Nothing is said here about how many characters are written, or which.
-/

namespace TemplateMachine

variable {ω α β : Type}

namespace Attempt

/-- The result of an operation on a writer and the writer afterwards. -/
def outcome (operation : Attempt ω α) (w : ω) : Except WriterError α × ω :=
  operation.run.run w

/-- A sequence goes on with the writer that its first part leaves, unless that fails. -/
theorem outcome_bind (operation : Attempt ω α) (f : α → Attempt ω β) (w : ω) :
    outcome (operation >>= f) w =
      match outcome operation w with
      | (.ok a, w) => outcome (f a) w
      | (.error error, w) => (.error error, w) := by
  unfold outcome
  simp only [ExceptT.run_bind, StateT.run_bind]
  rcases (ExceptT.run operation).run w with ⟨_ | _, _⟩ <;> rfl

/-- An operation that looks at the writer first is what it does with that writer. -/
theorem outcome_get_bind (f : ω → Attempt ω β) (w : ω) : outcome (get >>= f) w = outcome (f w) w :=
  rfl

/-- A property of writers survives an operation. -/
def Keeps (I : ω → Prop) (operation : Attempt ω α) : Prop :=
  ∀ w, I w → I (outcome operation w).2

section Keeps

variable {I : ω → Prop} {operation : Attempt ω α}

/-- A pure operation keeps everything. -/
theorem keeps_pure (a : α) : Keeps I (pure a : Attempt ω α) :=
  fun _ => id

/-- A sequence keeps what its parts keep. -/
theorem Keeps.bind (h : Keeps I operation) {f : α → Attempt ω β} (hf : ∀ a, Keeps I (f a)) :
    Keeps I (operation >>= f) := by
  intro w hw
  have hfirst := h w hw
  rw [outcome_bind]
  rcases hends : outcome operation w with ⟨error | a, v⟩ <;> rw [hends] at hfirst
  · exact hfirst
  · exact hf a v hfirst

/-- An operation that looks at the writer keeps what it keeps whatever it sees. -/
theorem keeps_get_bind {f : ω → Attempt ω β} (hf : ∀ w, Keeps I (f w)) : Keeps I (get >>= f) :=
  fun w hw => hf w w hw

/-- A change of the writer keeps what survives it. -/
theorem keeps_modify {f : ω → ω} (hf : ∀ w, I w → I (f w)) :
    Keeps I (modify f : Attempt ω Unit) :=
  hf

end Keeps

end Attempt

namespace IndentingWriter

open Attempt

/-- A text that stays on the line is counted if the sink takes it. -/
theorem outcome_put (text : String) (w : IndentingWriter) :
    outcome (put text) w =
      if w.sink.accepts text then
        (.ok text.length, { w with
          sink := w.sink.offer text
          index := w.index + text.length
          column := w.column + text.length })
      else (.error .refused, { w with sink := w.sink.offer text }) := by
  rw [put, outcome_get_bind]
  dsimp only
  split <;> rfl

/-- The newline text is counted and ends the line if the sink takes it. -/
theorem outcome_putNewline (w : IndentingWriter) :
    outcome putNewline w =
      if w.sink.accepts w.newline then
        (.ok w.newline.length, { w with
          sink := w.sink.offer w.newline
          index := w.index + w.newline.length
          column := 0 })
      else (.error .refused, { w with sink := w.sink.offer w.newline }) := by
  rw [putNewline, outcome_get_bind]
  dsimp only
  split <;> rfl

/-- The innermost indentation is taken away if there is one. -/
theorem outcome_popIndentation (w : IndentingWriter) :
    outcome popIndentation w =
      match w.indents with
      | indent :: rest => (.ok indent, { w with indents := rest })
      | [] => (.error .noIndentation, w) := by
  rw [popIndentation, outcome_get_bind]
  cases w.indents <;> rfl

/-- The innermost anchor is taken away if there is one. -/
theorem outcome_popAnchor (w : IndentingWriter) :
    outcome popAnchor w =
      match w.anchors with
      | anchor :: rest => (.ok anchor, { w with anchors := rest })
      | [] => (.error .noAnchor, w) := by
  rw [popAnchor, outcome_get_bind]
  cases w.anchors <;> rfl

/-- A property of operations that holds of offering a text and of offering the newline text, and of
what is put together from these by looking at anything but the sink and the line width and by noting
where a line starts. -/
structure Writing (C : (α : Type) → Attempt IndentingWriter α → Prop) : Prop where
  pure {α : Type} (a : α) : C α (pure a)
  bind {α β : Type} {operation : Attempt IndentingWriter α} {f : α → Attempt IndentingWriter β}
    (h : C α operation) (hf : ∀ a, C β (f a)) : C β (operation >>= f)
  look {α : Type} {f : IndentingWriter → Attempt IndentingWriter α}
    (blind : ∀ w sink lineWidth, f { w with sink := sink, lineWidth := lineWidth } = f w)
    (hf : ∀ w, C α (f w)) : C α (get >>= f)
  start (atLineStart : Bool) : C PUnit (modify fun w => { w with atLineStart := atLineStart })
  put (text : String) : C Nat (put text)
  putNewline : C Nat putNewline

/-- A property of operations that also holds of what is put together by looking at the line width. -/
structure Wrapping (C : (α : Type) → Attempt IndentingWriter α → Prop) : Prop extends Writing C where
  lookWidth {α : Type} {f : IndentingWriter → Attempt IndentingWriter α}
    (blind : ∀ w sink, f { w with sink := sink } = f w) (hf : ∀ w, C α (f w)) : C α (get >>= f)

/-- What the two ways of offering keep is kept by everything that writes or wraps. -/
theorem Wrapping.keeps {I : IndentingWriter → Prop}
    (hput : ∀ text, Keeps I (IndentingWriter.put text))
    (hnewline : Keeps I IndentingWriter.putNewline)
    (hstart : ∀ w atLineStart, I w → I { w with atLineStart := atLineStart }) :
    Wrapping fun _ operation => Keeps I operation where
  pure := keeps_pure
  bind h hf := h.bind hf
  look _ := keeps_get_bind
  lookWidth _ := keeps_get_bind
  start atLineStart := keeps_modify fun w => hstart w atLineStart
  put := hput
  putNewline := hnewline

namespace Writing

variable {C : (α : Type) → Attempt IndentingWriter α → Prop} (h : Writing C)

include h

/-- Offering several texts is writing. -/
theorem putAll (texts : List String) : C Nat (putAll texts) := by
  induction texts with
  | nil => exact h.pure 0
  | cons text rest ih => exact h.bind (h.put text) fun n => h.bind ih fun m => h.pure (n + m)

/-- Indenting a line is writing. -/
theorem indentLine : C Nat indentLine := by
  refine h.look (fun _ _ _ => rfl) fun w => h.bind (h.putAll _) fun n => ?_
  split
  · split
    · exact h.bind (h.put _) fun m => h.pure (n + m)
    · exact h.pure n
  · exact h.pure n

/-- Passing on a character of a wrap text is writing. -/
theorem wrapChar (c : Char) : C Nat (wrapChar c) := by
  unfold IndentingWriter.wrapChar
  split
  · exact h.pure 0
  split
  · exact h.bind h.putNewline fun n => h.bind h.indentLine fun m => h.pure (n + m)
  · exact h.put _

/-- Passing on the characters of a wrap text is writing. -/
theorem wrapChars (count : Nat) (chars : List Char) : C Nat (wrapChars count chars) := by
  induction chars generalizing count with
  | nil => exact h.pure count
  | cons c rest ih => exact h.bind (h.wrapChar c) fun n => ih (count + n)

/-- Passing on a character is writing. -/
theorem writeChar (c : Char) : C Nat (writeChar c) := by
  unfold IndentingWriter.writeChar
  split
  · exact h.pure 0
  split
  · exact h.bind h.putNewline fun n => h.bind (h.start true) fun _ => h.pure n
  · refine h.look (fun _ _ _ => rfl) fun w => ?_
    split
    · refine h.bind h.indentLine fun n => h.bind (h.start false) fun _ => ?_
      exact h.bind (h.put _) fun m => h.pure (n + m)
    · exact h.put _

/-- Passing on characters is writing. -/
theorem writeChars (count : Nat) (chars : List Char) : C Nat (writeChars count chars) := by
  induction chars generalizing count with
  | nil => exact h.pure count
  | cons c rest ih => exact h.bind (h.writeChar c) fun n => ih (count + n)

/-- Writing a text is writing. -/
theorem write (text : String) : C Nat (write text) :=
  h.writeChars 0 text.toList

end Writing

/-- Wrapping a line is writing once the line width has been looked at. -/
theorem Wrapping.writeWrap {C : (α : Type) → Attempt IndentingWriter α → Prop} (h : Wrapping C)
    (wrap : Option String) : C Nat (writeWrap wrap) := by
  refine h.lookWidth (fun _ _ => rfl) fun w => ?_
  split
  · split
    · exact h.pure 0
    · exact h.wrapChars 0 _
  · exact h.pure 0

end IndentingWriter

namespace VerbatimWriter

/-- A text is counted if the sink takes it. -/
theorem outcome_write (text : String) (w : VerbatimWriter) :
    Attempt.outcome (write text) w =
      if w.sink.accepts text then
        (.ok text.length, { w with
          sink := w.sink.offer text
          index := w.index + text.length })
      else (.error .refused, { w with sink := w.sink.offer text }) := by
  rw [write, Attempt.outcome_get_bind]
  dsimp only
  split <;> rfl

/-- An indentation is taken away if there is one. -/
theorem outcome_popIndentation (w : VerbatimWriter) :
    Attempt.outcome popIndentation w =
      match w.indents with
      | n + 1 => (.ok "", { w with indents := n })
      | 0 => (.error .noIndentation, w) := by
  rw [popIndentation, Attempt.outcome_get_bind]
  cases w.indents <;> rfl

/-- An anchor is taken away if there is one. -/
theorem outcome_popAnchor (w : VerbatimWriter) :
    Attempt.outcome popAnchor w =
      match w.anchors with
      | n + 1 => (.ok 0, { w with anchors := n })
      | 0 => (.error .noAnchor, w) := by
  rw [popAnchor, Attempt.outcome_get_bind]
  cases w.anchors <;> rfl

end VerbatimWriter

end TemplateMachine
