import TemplateMachine.Output.Sink

/-!
# Writers

A writer passes text on to a sink and counts the characters that the sink takes. The indenting
writer begins every line with the indentations in force and with spaces up to the current anchor,
writes its own newline text, drops carriage returns and can wrap lines that have become too long.
The verbatim writer passes text on as it is. A writer whose sink refuses a piece stops there and
keeps the counts of what was taken.
-/

namespace TemplateMachine

/-- Why a writer could not do something. -/
inductive WriterError where
  | refused
  | noIndentation
  | noAnchor
deriving DecidableEq, Repr

/-- The wording of a writer error. -/
def WriterError.message : WriterError → String
  | .refused => "failed to write output"
  | .noIndentation => "pop of empty indentation stack"
  | .noAnchor => "pop of empty anchor stack"

/-- An operation on a writer that may fail; what it did before it failed stays done. -/
abbrev Attempt (ω α : Type) := ExceptT WriterError (StateM ω) α

/-- The indenting writer. Indentations and anchors are stacks with the innermost first. -/
structure IndentingWriter where
  sink : Sink
  newline : String
  lineWidth : Option Nat
  indents : List String
  anchors : List Nat
  index : Nat
  column : Nat
  atLineStart : Bool

namespace IndentingWriter

/-- A fresh writer with a newline text. -/
def ofSink (sink : Sink) (newline : String) : IndentingWriter where
  sink := sink
  newline := newline
  lineWidth := none
  indents := []
  anchors := []
  index := 0
  column := 0
  atLineStart := true

/-- Offer a text that stays on the line. -/
def put (text : String) : Attempt IndentingWriter Nat := do
  let w ← get
  let accepted := w.sink.accepts text
  let count := text.length
  if accepted then
    set { w with
      sink := w.sink.offer text
      index := w.index + count
      column := w.column + count }
    pure count
  else
    set { w with sink := w.sink.offer text }
    throw .refused

/-- Offer the newline text. -/
def putNewline : Attempt IndentingWriter Nat := do
  let w ← get
  let accepted := w.sink.accepts w.newline
  let count := w.newline.length
  if accepted then
    set { w with
      sink := w.sink.offer w.newline
      index := w.index + count
      column := 0 }
    pure count
  else
    set { w with sink := w.sink.offer w.newline }
    throw .refused

/-- Offer texts one after the other. -/
def putAll : List String → Attempt IndentingWriter Nat
  | [] => pure 0
  | text :: rest => do
    let n ← put text
    let m ← putAll rest
    pure (n + m)

/-- Offer every indentation, outermost first, and spaces up to the anchor if it lies further. -/
def indentLine : Attempt IndentingWriter Nat := do
  let w ← get
  let n ← putAll w.indents.reverse
  match w.anchors with
  | anchor :: _ =>
    if n < anchor then do
      let m ← put (String.ofList (List.replicate (anchor - n) ' '))
      pure (n + m)
    else pure n
  | [] => pure n

/-- Write a character, indenting the line that it begins. -/
def writeChar (c : Char) : Attempt IndentingWriter Nat := do
  if c = '\r' then pure 0
  else if c = '\n' then
    let n ← putNewline
    modify fun w => { w with atLineStart := true }
    pure n
  else if (← get).atLineStart then
    let n ← indentLine
    modify fun w => { w with atLineStart := false }
    let m ← put (String.singleton c)
    pure (n + m)
  else put (String.singleton c)

/-- Write characters, given the count of what was written before them. -/
def writeChars (count : Nat) : List Char → Attempt IndentingWriter Nat
  | [] => pure count
  | c :: rest => do
    let n ← writeChar c
    writeChars (count + n) rest

/-- Write a text. -/
def write (text : String) : Attempt IndentingWriter Nat :=
  writeChars 0 text.toList

/-- Write a character of a wrap text. A line that a wrap begins is indented at once. -/
def wrapChar (c : Char) : Attempt IndentingWriter Nat := do
  if c = '\r' then pure 0
  else if c = '\n' then
    let n ← putNewline
    let m ← indentLine
    pure (n + m)
  else put (String.singleton c)

/-- Write the characters of a wrap text, given the count of what was written before them. -/
def wrapChars (count : Nat) : List Char → Attempt IndentingWriter Nat
  | [] => pure count
  | c :: rest => do
    let n ← wrapChar c
    wrapChars (count + n) rest

/-- Write the wrap text if the line has reached the line width. -/
def writeWrap (wrap : Option String) : Attempt IndentingWriter Nat := do
  let w ← get
  match w.lineWidth, wrap with
  | some width, some wrap =>
    if w.atLineStart || w.column < width then pure 0 else wrapChars 0 wrap.toList
  | _, _ => pure 0

/-- The writer with one more indentation. -/
def pushIndentation (w : IndentingWriter) (indent : String) : IndentingWriter :=
  { w with indents := indent :: w.indents }

/-- Take away the innermost indentation. -/
def popIndentation : Attempt IndentingWriter String := do
  let w ← get
  match w.indents with
  | indent :: rest =>
    set { w with indents := rest }
    pure indent
  | [] => throw .noIndentation

/-- The writer with an anchor at the current column. -/
def pushAnchor (w : IndentingWriter) : IndentingWriter :=
  { w with anchors := w.column :: w.anchors }

/-- Take away the innermost anchor. -/
def popAnchor : Attempt IndentingWriter Nat := do
  let w ← get
  match w.anchors with
  | anchor :: rest =>
    set { w with anchors := rest }
    pure anchor
  | [] => throw .noAnchor

end IndentingWriter

/-- The verbatim writer. It only counts the indentations and anchors in force. -/
structure VerbatimWriter where
  sink : Sink
  indents : Nat
  anchors : Nat
  index : Nat

namespace VerbatimWriter

/-- A fresh writer. -/
def ofSink (sink : Sink) : VerbatimWriter :=
  ⟨sink, 0, 0, 0⟩

/-- Write a text. -/
def write (text : String) : Attempt VerbatimWriter Nat := do
  let w ← get
  let accepted := w.sink.accepts text
  let count := text.length
  if accepted then
    set { w with sink := w.sink.offer text, index := w.index + count }
    pure count
  else
    set { w with sink := w.sink.offer text }
    throw .refused

/-- Take away the innermost indentation, which is always empty. -/
def popIndentation : Attempt VerbatimWriter String := do
  let w ← get
  match w.indents with
  | n + 1 =>
    set { w with indents := n }
    pure ""
  | 0 => throw .noIndentation

/-- Take away the innermost anchor, which is always at column zero. -/
def popAnchor : Attempt VerbatimWriter Nat := do
  let w ← get
  match w.anchors with
  | n + 1 =>
    set { w with anchors := n }
    pure 0
  | 0 => throw .noAnchor

end VerbatimWriter

/-- A writer of either sort. -/
inductive Writer where
  | indenting (w : IndentingWriter)
  | verbatim (w : VerbatimWriter)

namespace Writer

/-- Run an operation on whichever writer is there. -/
def dispatch {α : Type} (indenting : Attempt IndentingWriter α) (verbatim : Attempt VerbatimWriter α) :
    Attempt Writer α := fun w =>
  match w with
  | .indenting w =>
    let (result, w) := indenting.run.run w
    (result, .indenting w)
  | .verbatim w =>
    let (result, w) := verbatim.run.run w
    (result, .verbatim w)

/-- Write a text and return how many characters were written. -/
def write (text : String) : Attempt Writer Nat :=
  dispatch (IndentingWriter.write text) (VerbatimWriter.write text)

/-- Write the wrap text if the line has reached the line width. -/
def writeWrap (wrap : Option String) : Attempt Writer Nat :=
  dispatch (IndentingWriter.writeWrap wrap) (pure 0)

/-- Write a text after wrapping the line if need be. -/
def writeWrapped (text : String) (wrap : Option String) : Attempt Writer Nat := do
  let n ← writeWrap wrap
  let m ← write text
  pure (n + m)

/-- Write what stands between the elements of a value. -/
def writeSeparator (text : String) : Attempt Writer Nat :=
  write text

/-- Take away the innermost indentation. -/
def popIndentation : Attempt Writer String :=
  dispatch IndentingWriter.popIndentation VerbatimWriter.popIndentation

/-- Take away the innermost anchor. -/
def popAnchor : Attempt Writer Nat :=
  dispatch IndentingWriter.popAnchor VerbatimWriter.popAnchor

/-- The writer with one more indentation. -/
def pushIndentation (indent : String) : Writer → Writer
  | .indenting w => .indenting (w.pushIndentation indent)
  | .verbatim w => .verbatim { w with indents := w.indents + 1 }

/-- The writer with an anchor at the current column. -/
def pushAnchor : Writer → Writer
  | .indenting w => .indenting w.pushAnchor
  | .verbatim w => .verbatim { w with anchors := w.anchors + 1 }

/-- The writer with a line width; the verbatim writer has none. -/
def setLineWidth (width : Option Nat) : Writer → Writer
  | .indenting w => .indenting { w with lineWidth := width }
  | .verbatim w => .verbatim w

/-- The number of characters written. -/
def index : Writer → Nat
  | .indenting w => w.index
  | .verbatim w => w.index

/-- The sink that the writer writes to. -/
def sink : Writer → Sink
  | .indenting w => w.sink
  | .verbatim w => w.sink

/-- A fresh writer of the same sort, with the same newline text, that writes to a text of its own.
It does not wrap. -/
def fork : Writer → Writer
  | .indenting w => .indenting (.ofSink .boundless w.newline)
  | .verbatim _ => .verbatim (.ofSink .boundless)

/-- Everything that has reached the sink. -/
def text (w : Writer) : String :=
  w.sink.text

end Writer

end TemplateMachine
