import TemplateMachine.Proofs.Newline.Translation
import TemplateMachine.Proofs.Output.Counting

/-!
# What a text is written as

On a sink that takes everything, writing succeeds, and what it comes to depends on the layout of the
writer. Where nothing is indented or anchored, a text is written as its translation. Elsewhere
indentation comes in addition, but a text still counts as nothing exactly if its translation is
empty, and a text is written the same with or without its carriage returns.

Where lines are wrapped is not looked into: no wrap text is written here.
-/

namespace TemplateMachine

open Attempt

namespace IndentingWriter

/-- Carriage returns are not written. -/
theorem writeChars_visibleChars (count : Nat) (chars : List Char) :
    writeChars count chars = writeChars count (visibleChars chars) := by
  induction chars generalizing count with
  | nil => rfl
  | cons c rest ih =>
    by_cases dropped : c = '\r'
    · rw [writeChars, writeChar, if_pos dropped, pure_bind, ih]
      simp [visibleChars, dropped]
    · have hkept : visibleChars (c :: rest) = c :: visibleChars rest := by
        simp [visibleChars, dropped]
      rw [hkept, writeChars, writeChars]
      exact congrArg _ (funext fun n => ih (count + n))

/-- Texts that differ in carriage returns only are written the same. -/
theorem write_eq_of_visibleChars {text other : String}
    (same : visibleChars text.toList = visibleChars other.toList) : write text = write other := by
  rw [write, write, writeChars_visibleChars, same, ← writeChars_visibleChars]

/-- Without a wrap text no line is wrapped. -/
theorem outcome_writeWrap_none (w : IndentingWriter) : outcome (writeWrap none) w = (.ok 0, w) := by
  rw [writeWrap, outcome_get_bind]
  cases w.lineWidth <;> rfl

/-- The writer begins its lines with nothing. -/
def Unindented (w : IndentingWriter) : Prop :=
  w.indents = [] ∧ w.anchors = []

/-- An operation that writes succeeds on a sink that takes everything, and leaves a sink that does so
and the layout as it was. -/
def Succeeds {α : Type} (operation : Attempt IndentingWriter α) : Prop :=
  ∀ w : IndentingWriter, w.sink.TakesAll → ∃ a v, outcome operation w = (.ok a, v) ∧
    v.sink.TakesAll ∧ (Writer.indenting v).layout = (Writer.indenting w).layout

/-- Whatever writes succeeds on a sink that takes everything. -/
theorem writing_succeeds : Wrapping fun _ operation => Succeeds operation where
  pure a := fun w htakes => ⟨a, w, rfl, htakes, rfl⟩
  bind {_ _ operation f} h hf := by
    intro w htakes
    obtain ⟨a, v, hends, hv, hlayout⟩ := h w htakes
    obtain ⟨b, u, hends', hu, hlayout'⟩ := hf a v hv
    refine ⟨b, u, ?_, hu, hlayout'.trans hlayout⟩
    rw [outcome_bind, hends]
    exact hends'
  look _ hf := fun w htakes => hf w w htakes
  lookWidth _ hf := fun w htakes => hf w w htakes
  start atLineStart := fun w htakes => ⟨_, _, rfl, htakes, rfl⟩
  put text := by
    intro w htakes
    rw [outcome_put, if_pos (htakes.accepts text)]
    exact ⟨_, _, rfl, htakes.offer text, rfl⟩
  putNewline := by
    intro w htakes
    rw [outcome_putNewline, if_pos (htakes.accepts w.newline)]
    exact ⟨_, _, rfl, htakes.offer w.newline, rfl⟩

/-- A line that begins with nothing is indented without doing anything. -/
theorem Unindented.outcome_indentLine {w : IndentingWriter} (h : w.Unindented) :
    outcome indentLine w = (.ok 0, w) := by
  obtain ⟨hindents, hanchors⟩ := h
  rw [indentLine, outcome_get_bind, hindents, hanchors]
  rfl

/-- What becomes of a writer that takes everything when characters are written and so many are
counted. -/
structure Writes (chars : List Char) (w : IndentingWriter) (n : Nat) (v : IndentingWriter) :
    Prop where
  takesAll : v.sink.TakesAll
  layout : (Writer.indenting v).layout = (Writer.indenting w).layout
  count : n = 0 ↔ translateChars w.newline.toList chars = []
  text : w.Unindented →
    v.sink.text = w.sink.text ++ String.ofList (translateChars w.newline.toList chars)

namespace Writes

variable {before after : List Char} {w v u : IndentingWriter} {n m : Nat}

/-- Nothing is written. -/
theorem nil (htakes : w.sink.TakesAll) : Writes [] w 0 w :=
  ⟨htakes, rfl, by simp, by simp⟩

/-- What is written in two goes is written. -/
theorem append (first : Writes before w n v) (second : Writes after v m u) :
    Writes (before ++ after) w (n + m) u := by
  obtain ⟨hnewline, -, hindents, hanchors⟩ : v.newline = w.newline ∧ v.lineWidth = w.lineWidth ∧
      v.indents = w.indents ∧ v.anchors = w.anchors := by
    simpa [Writer.layout] using first.layout
  refine ⟨second.takesAll, second.layout.trans first.layout, ?_, fun unindented => ?_⟩
  · have hfirst := first.count
    have hsecond := second.count
    rw [hnewline] at hsecond
    rw [translateChars_append, List.append_eq_nil_iff, ← hfirst, ← hsecond]
    omega
  · have hv : v.Unindented := ⟨hindents.trans unindented.1, hanchors.trans unindented.2⟩
    rw [second.text hv, first.text unindented, hnewline, translateChars_append, String.ofList_append,
      String.append_assoc]

end Writes

/-- A character that stays on the line is offered to the sink. -/
theorem writes_put {c : Char} (kept : c ≠ '\r') (stays : c ≠ '\n') {w : IndentingWriter}
    (htakes : w.sink.TakesAll) :
    ∃ v, outcome (put (String.singleton c)) w = (.ok 1, v) ∧ Writes [c] w 1 v := by
  let v : IndentingWriter := { w with
    sink := w.sink.offer (String.singleton c)
    index := w.index + 1
    column := w.column + 1 }
  have hput : outcome (put (String.singleton c)) w = (.ok 1, v) := by
    rw [outcome_put, if_pos (htakes.accepts _)]
    simp [v]
  have htext : v.sink.text = w.sink.text ++ String.singleton c := htakes.text_offer _
  exact ⟨v, hput, {
    takesAll := htakes.offer _
    layout := rfl
    count := by simp [translateChar, kept, stays]
    text := fun _ => by
      rw [htext, String.singleton_eq_ofList]
      simp [translateChar, kept, stays] }⟩

/-- A character is written as its translation, after the indentation of the line if it begins one. -/
theorem writes_writeChar (c : Char) {w : IndentingWriter} (htakes : w.sink.TakesAll) :
    ∃ n v, outcome (writeChar c) w = (.ok n, v) ∧ Writes [c] w n v := by
  unfold writeChar
  by_cases dropped : c = '\r'
  · rw [if_pos dropped]
    exact ⟨0, w, rfl, htakes, rfl, by simp [translateChar, dropped], by simp [translateChar, dropped]⟩
  rw [if_neg dropped]
  by_cases ends : c = '\n'
  · rw [if_pos ends, outcome_bind, outcome_putNewline, if_pos (htakes.accepts w.newline)]
    refine ⟨_, _, rfl, htakes.offer _, rfl, ?_, fun _ => ?_⟩
    · simp [translateChar, ends]
    · exact (htakes.text_offer w.newline).trans (by simp [translateChar, ends])
  rw [if_neg ends, outcome_get_bind]
  split
  · obtain ⟨n, v, hends, hv, hlayout⟩ := writing_succeeds.indentLine w htakes
    obtain ⟨u, hput, hwrites⟩ := writes_put dropped ends (w := { v with atLineStart := false }) hv
    refine ⟨n + 1, u, ?_, hwrites.takesAll, hwrites.layout.trans hlayout, ?_, fun unindented => ?_⟩
    · rw [outcome_bind, hends]
      change outcome (put _ >>= _) { v with atLineStart := false } = _
      rw [outcome_bind, hput]
      rfl
    · simp [translateChar, dropped, ends]
    · obtain ⟨-, rfl⟩ : (.ok n : Except WriterError Nat) = .ok 0 ∧ v = w := by
        simpa using hends.symm.trans unindented.outcome_indentLine
      exact hwrites.text unindented
  · exact ⟨1, writes_put dropped ends htakes⟩

/-- Characters are written as their translation, apart from indentation. -/
theorem writes_writeChars (count : Nat) (chars : List Char) {w : IndentingWriter}
    (htakes : w.sink.TakesAll) :
    ∃ n v, outcome (writeChars count chars) w = (.ok (count + n), v) ∧ Writes chars w n v := by
  induction chars generalizing count w with
  | nil => exact ⟨0, w, rfl, .nil htakes⟩
  | cons c rest ih =>
    obtain ⟨n, v, hends, hfirst⟩ := writes_writeChar c htakes
    obtain ⟨m, u, hends', hsecond⟩ := ih (count + n) hfirst.takesAll
    refine ⟨n + m, u, ?_, hfirst.append hsecond⟩
    rw [writeChars, outcome_bind, hends, ← Nat.add_assoc]
    exact hends'

end IndentingWriter

namespace Writer

/-- What a text is written as where nothing is indented. -/
def translate (w : Writer) (text : String) : String :=
  match w.layout.newline with
  | some newline => String.ofList (translateChars newline.toList text.toList)
  | none => text

/-- The writer after a text is written to it. -/
def writeTo (w : Writer) (text : String) : Writer :=
  (outcome (write text) w).2

/-- The writer after texts are written to it one after the other. -/
def writeAll (w : Writer) (texts : List String) : Writer :=
  texts.foldl writeTo w

/-- What becomes of a writer that takes everything when a text is written and so many characters are
counted: the text counts as nothing exactly if its translation is empty, and where nothing is
indented the translation is what is written. -/
structure Writes (text : String) (w : Writer) (n : Nat) (v : Writer) : Prop where
  takesAll : v.sink.TakesAll
  layout : v.layout = w.layout
  count : n = 0 ↔ w.translate text = ""
  text : w.layout.indentation = [] → w.layout.anchors = [] → v.text = w.text ++ w.translate text

/-- Something is counted exactly if the translation of the text is not empty. -/
theorem Writes.decide_pos {text : String} {w v : Writer} {n : Nat} (h : Writes text w n v) :
    decide (0 < n) = (w.translate text != "") := by
  have hcount := h.count
  by_cases hidden : w.translate text = ""
  · simp [hidden, hcount.mpr hidden]
  · simp [hidden, Nat.pos_of_ne_zero (mt hcount.mp hidden)]

/-- On a sink that takes everything writing succeeds. -/
theorem writes_writeTo (text : String) {w : Writer} (htakes : w.sink.TakesAll) :
    ∃ n, outcome (write text) w = (.ok n, w.writeTo text) ∧ Writes text w n (w.writeTo text) := by
  have hlayout : (w.writeTo text).layout = w.layout := keepsLayout_write text w.layout w rfl
  cases w with
  | indenting w =>
    obtain ⟨n, v, hends, hwrites⟩ := IndentingWriter.writes_writeChars 0 text.toList htakes
    rw [Nat.zero_add, ← IndentingWriter.write] at hends
    have hwrite : (indenting w).writeTo text = .indenting v := by simp [writeTo, write, hends]
    refine ⟨n, by simp [write, hends, hwrite], ?_⟩
    rw [hwrite] at hlayout ⊢
    exact {
      takesAll := hwrites.takesAll
      layout := hlayout
      count := by simpa [translate, Writer.layout] using hwrites.count
      text := fun hindents hanchors => hwrites.text ⟨hindents, hanchors⟩ }
  | verbatim w =>
    have htakes : w.sink.TakesAll := htakes
    have hends := VerbatimWriter.outcome_write text w
    rw [if_pos (htakes.accepts text)] at hends
    have hwrite : (verbatim w).writeTo text = .verbatim { w with
        sink := w.sink.offer text
        index := w.index + text.length } := by
      simp [writeTo, write, hends]
    refine ⟨text.length, by simp [write, hends, hwrite], ?_⟩
    rw [hwrite] at hlayout ⊢
    exact {
      takesAll := htakes.offer text
      layout := hlayout
      count := by simp [translate, Writer.layout]
      text := fun _ _ => htakes.text_offer text }

/-- Without a wrap text a text is written without wrapping the line. -/
theorem outcome_writeWrapped_none {text : String} {w v : Writer} {n : Nat}
    (hends : outcome (write text) w = (.ok n, v)) :
    outcome (writeWrapped text none) w = (.ok n, v) := by
  have hwrap : outcome (writeWrap none) w = (.ok 0, w) := by
    cases w with
    | indenting w => simp [writeWrap, IndentingWriter.outcome_writeWrap_none]
    | verbatim w => rfl
  rw [writeWrapped, outcome_bind, hwrap]
  dsimp only
  rw [outcome_bind, hends]
  dsimp only
  rw [Nat.zero_add]
  rfl

/-- A fresh writer of the same sort makes its translation of a text. -/
theorem text_writeTo_fork (w : Writer) (text : String) :
    (w.fork.writeTo text).text = w.translate text := by
  obtain ⟨n, -, hwrites⟩ := writes_writeTo text w.takesAll_fork
  have htext := hwrites.text (by cases w <;> rfl) (by cases w <;> rfl)
  have hempty : w.fork.text = "" := by
    cases w <;> rfl
  have htranslate : w.fork.translate text = w.translate text := by
    cases w <;> rfl
  rw [htext, hempty, htranslate, String.empty_append]

/-- Whether it makes no difference to a text that its newlines are translated before it is
written. -/
def Settles (w : Writer) (text : String) : Prop :=
  ∀ newline, w.layout.newline = some newline →
    '\n' ∉ text.toList ∨ visibleChars newline.toList = ['\n']

/-- A text that is settled is written as its translation is, whatever the indentation. -/
theorem Settles.writeTo_translate {w : Writer} {text : String} (settled : w.Settles text) :
    w.writeTo (w.translate text) = w.writeTo text := by
  cases w with
  | verbatim w => rfl
  | indenting w =>
    have hsame : visibleChars (translateChars w.newline.toList text.toList) =
        visibleChars text.toList := by
      rcases settled w.newline rfl with single | plain
      · rw [translateChars_of_notMem single]
        simp [visibleChars]
      · exact visibleChars_translateChars plain
    have hwrite : IndentingWriter.write ((indenting w).translate text) =
        IndentingWriter.write text :=
      IndentingWriter.write_eq_of_visibleChars (by simpa [translate, layout] using hsame)
    simp [writeTo, write, hwrite]

end Writer

end TemplateMachine
