import TemplateMachine.Render.Operation

/-!
# The machine

Running a template in a frame: its unset arguments get their defaults, then its program runs with an
operand stack of its own. Writing an instance runs the template of the instance in a child frame,
so that running and writing call each other. Options, eager defaults and conversions to text are
rendered to texts of their own and record no events.

Programs may loop and templates may invoke each other without end, so every step uses up fuel. A run
that is out of fuel has no result but keeps the state in which it stopped; a fault is a result and
only abandons the template in which it happens.

A render leaves a trail of what it did: the templates that it began, the instructions that it came
to, and the templates that a fault abandoned. Nothing is decided by the trail.
-/

namespace TemplateMachine

/-- What produced a part of the output: a whole template or one write. -/
inductive EventKind where
  | template
  | expr
deriving DecidableEq, Repr

/-- The name of a kind of event. -/
def EventKind.name : EventKind → String
  | .template => "Template"
  | .expr => "Expr"

/-- A part of the output, by character positions, and the template that produced it. -/
structure Event where
  kind : EventKind
  template : String
  start : Nat
  stop : Nat
deriving DecidableEq, Repr

/-- How far a frame has come: the next instruction, the operands, the characters counted in total
and since the last newline instruction, and the executed instructions with the last one first. -/
structure Cursor where
  ip : Nat
  stack : Stack
  count : Nat
  sinceNewline : Nat
  executed : List Instr

namespace Cursor

/-- The start of a program. -/
def start : Cursor := ⟨0, [], 0, 0, []⟩

/-- The cursor at the next instruction. -/
def next (cursor : Cursor) (instr : Instr) : Cursor :=
  { cursor with ip := cursor.ip + 1, executed := instr :: cursor.executed }

/-- The cursor with a number of written characters counted. -/
def counted (cursor : Cursor) (n : Nat) : Cursor :=
  { cursor with count := cursor.count + n, sinceNewline := cursor.sinceNewline + n }

/-- Whether a newline instruction writes a newline here: after a newline or the start of an
indentation, or if something was counted since the last one. -/
def wantsNewline (cursor : Cursor) : Bool :=
  match cursor.executed with
  | .newline :: _ => true
  | .indent _ :: _ => true
  | _ => 0 < cursor.sinceNewline

end Cursor

/-- Something that a render did in a frame: begin its template, come to an instruction, or abandon
the template at an instruction because of a fault. -/
inductive Deed where
  | begun
  | reached (cursor : Cursor) (instr : Instr)
  | abandoned (cursor : Cursor) (fault : Fault)

/-- A deed, the frame in which it was done, and how many texts of their own were being rendered to
one inside the other: none if the frame writes to the output itself. -/
structure Mark where
  aside : Nat
  frame : Frame
  deed : Deed

/-- The writer, the events if they are wanted, the messages, the number of texts of their own that
are being rendered to, and the trail of marks. Events, messages and marks are kept with the newest
first. -/
structure RenderState where
  writer : Writer
  events : Option (List Event)
  messages : List Message
  aside : Nat
  trail : List Mark

/-- The state in which a render starts. -/
def RenderState.start (writer : Writer) (withEvents : Bool) : RenderState where
  writer := writer
  events := if withEvents then some [] else none
  messages := []
  aside := 0
  trail := []

/-- A computation on the state of a render. It has no result if it is out of fuel. -/
abbrev Render (α : Type) := OptionT (StateM RenderState) α

namespace Render

/-- Report problems at the current instruction of a frame. -/
def report (frame : Frame) (problems : List Problem) : Render Unit :=
  modify fun s => { s with messages := (problems.map frame.message).reverse ++ s.messages }

/-- Try an operation on the writer. -/
def attempt {α : Type} (operation : Attempt Writer α) : Render (Except WriterError α) := do
  let s ← get
  let (result, writer) := operation.run.run s.writer
  set { s with writer := writer }
  pure result

/-- Write, reporting a failure. What was not written counts as no characters. -/
def emit (frame : Frame) (operation : Attempt Writer Nat) : Render Nat := do
  match ← attempt operation with
  | .ok n => pure n
  | .error error =>
    report frame [.ioError error]
    pure 0

/-- Record a part of the output that ends here, if events are wanted. -/
def record (frame : Frame) (kind : EventKind) (start : Nat) : Render Unit :=
  modify fun s => { s with
    events := s.events.map fun events =>
      ⟨kind, frame.running.name, start, s.writer.index⟩ :: events }

/-- Leave a mark of a deed in a frame. -/
def mark (frame : Frame) (deed : Deed) : Render Unit :=
  modify fun s => { s with trail := ⟨s.aside, frame, deed⟩ :: s.trail }

/-- The number of characters written so far. -/
def position : Render Nat := do
  let s ← get
  pure s.writer.index

/-- Render to a text of its own, with a fresh writer of the same sort. Problems are reported as
usual and no events are recorded. -/
def aside (inner : Render Nat) : Render String := do
  let s ← get
  set { s with writer := s.writer.fork, events := none, aside := s.aside + 1 }
  let _ ← inner
  let t ← get
  set { t with writer := s.writer, events := s.events, aside := s.aside }
  pure t.writer.text

/-- Whether a template invoked by the frame would be nested too deeply, which is reported. -/
def tooDeep (setting : Setting) (frame : Frame) : Render Bool := do
  if setting.maxDepth < frame.depth + 1 then
    report frame [.stackOverflow setting.maxDepth]
    pure true
  else pure false

/-- Write a scalar value by the renderer for its kind. -/
def writeScalar (setting : Setting) (frame : Frame) (value : Value) (options : OptionRow String) :
    Render Nat :=
  emit frame (Writer.writeWrapped (frame.scalarText setting value options.format) options.wrap)

/-- Begin an indentation. -/
def pushIndentation (indent : String) : Render Unit :=
  modify fun s => { s with writer := s.writer.pushIndentation indent }

/-- Put an anchor at the current column. -/
def pushAnchor : Render Unit :=
  modify fun s => { s with writer := s.writer.pushAnchor }

end Render

/-- A step of a program: it may end in a fault, and what it did before stays done. -/
abbrev Step (α : Type) := ExceptT Fault (OptionT (StateM RenderState)) α

/-- Render without a fault as a step of a program. -/
def Render.asStep {α : Type} (action : Render α) : Step α :=
  ExceptT.lift action

/-- A value or the fault that there is none, as a step of a program. -/
def Step.ofExcept {α : Type} (result : Except Fault α) : Step α :=
  ExceptT.mk (pure result)

/-- An operation on the writer whose failure is a fault. -/
def Step.require {α : Type} (operation : Attempt Writer α) : Step α :=
  ExceptT.mk do
    match ← Render.attempt operation with
    | .ok a => pure (.ok a)
    | .error error => pure (.error (.writer error))

open Render

mutual

/-- Run the template of a frame and return the number of characters counted. A fault is reported and
counts as no characters. -/
def exec (setting : Setting) : Nat → Frame → Render Nat
  | 0, _ => failure
  | fuel + 1, frame => do
    mark frame .begun
    let frame ← giveDefaults setting fuel frame frame.template.args
    let start ← position
    let count ← run setting fuel frame .start
    record frame .template start
    pure count

/-- Run the program of a frame from a cursor to its end or to a fault. -/
def run (setting : Setting) : Nat → Frame → Cursor → Render Nat
  | 0, _, _ => failure
  | fuel + 1, frame, cursor =>
    match frame.template.program[cursor.ip]? with
    | none => pure cursor.count
    | some instr => do
      let here := { frame with ip := cursor.ip }
      mark here (.reached cursor instr)
      match ← (step setting fuel here cursor instr).run with
      | .ok cursor => run setting fuel frame cursor
      | .error fault =>
        mark here (.abandoned cursor fault)
        report here [.internalError fault]
        pure 0

/-- Execute one instruction. -/
def step (setting : Setting) : Nat → Frame → Cursor → Instr → Step Cursor
  | 0, _, _, _ => ExceptT.lift failure
  | fuel + 1, frame, cursor, instr =>
    let template := frame.template
    let next := cursor.next instr
    match instr with
    | .write => do
      let (value, stack) ← Step.ofExcept cursor.stack.pop
      let start ← position.asStep
      let n ← (writeValue setting fuel frame value .empty).asStep
      (record frame .expr start).asStep
      pure { next.counted n with stack := stack }
    | .writeOpt => do
      let (options, stack) ← Step.ofExcept cursor.stack.popOptions
      let (value, stack) ← Step.ofExcept stack.pop
      let start ← position.asStep
      let n ← writeWith setting fuel frame value options
      (record frame .expr start).asStep
      pure { next.counted n with stack := stack }
    | .writeStr index => do
      let text ← Step.ofExcept (template.text index)
      let n ← (emit frame (Writer.write text)).asStep
      pure (next.counted n)
    | .writeLocal index => do
      let value ← Step.ofExcept (frame.running.readSlot index)
      let n ← (writeValue setting fuel frame value .empty).asStep
      pure (next.counted n)
    | .toStr => do
      let (value, stack) ← Step.ofExcept cursor.stack.pop
      match value with
      | .none => pure { next with stack := stack.push .none }
      | .string text => pure { next with stack := stack.push (.string text) }
      | value =>
        let text ← (toText setting fuel frame value).asStep
        pure { next with stack := stack.push (.string text) }
    | .indent index => do
      let text ← Step.ofExcept (template.text index)
      (pushIndentation text).asStep
      pure next
    | .dedent => do
      let _ ← Step.require Writer.popIndentation
      pure next
    | .newline => do
      let n ← if cursor.wantsNewline then (emit frame (Writer.write "\n")).asStep else pure 0
      pure { next with count := cursor.count + n, sinceNewline := 0 }
    | .br target => do
      let target ← Step.ofExcept (template.jumpTarget target)
      pure { next with ip := target }
    | .brf target => do
      let target ← Step.ofExcept (template.jumpTarget target)
      let (value, stack) ← Step.ofExcept cursor.stack.pop
      pure { next with ip := if value.isTruthy then next.ip else target, stack := stack }
    | instr => do
      let (stack, problems) ← Step.ofExcept (frame.operate setting cursor.stack instr)
      (report frame problems).asStep
      pure { next with stack := stack }

/-- Write a value with options that are first rendered to texts. -/
def writeWith (setting : Setting) : Nat → Frame → Value → OptionRow Value → Step Nat
  | 0, _, _, _ => ExceptT.lift failure
  | fuel + 1, frame, value, options => do
    let texts ← (optionTexts setting fuel frame options).asStep
    match texts.anchor with
    | some _ =>
      pushAnchor.asStep
      let n ← (writeValue setting fuel frame value texts).asStep
      let _ ← Step.require Writer.popAnchor
      pure n
    | none => (writeValue setting fuel frame value texts).asStep

/-- The options of a write rendered to texts, in slot order. -/
def optionTexts (setting : Setting) : Nat → Frame → OptionRow Value → Render (OptionRow String)
  | 0, _, _ => failure
  | fuel + 1, frame, options => do
    let anchor ← optionText setting fuel frame options.anchor
    let format ← optionText setting fuel frame options.format
    let null ← optionText setting fuel frame options.null
    let separator ← optionText setting fuel frame options.separator
    let wrap ← optionText setting fuel frame options.wrap
    pure ⟨anchor, format, null, separator, wrap⟩

/-- An option of a write rendered to text, if it is set. -/
def optionText (setting : Setting) : Nat → Frame → Option Value → Render (Option String)
  | 0, _, _ => failure
  | _ + 1, _, none => pure none
  | fuel + 1, frame, some value => do
    let text ← toText setting fuel frame value
    pure (some text)

/-- Write a value: a missing one as the replacement text if there is one, an instance by running its
template, a collection element by element, and all else as a scalar. A proxy for the kind of the
value takes its place first. -/
def writeValue (setting : Setting) : Nat → Frame → Value → OptionRow String → Render Nat
  | 0, _, _, _ => failure
  | fuel + 1, frame, value, options =>
    if value.isNone then
      match options.null with
      | some null => writeScalar setting frame (.string null) options
      | none => pure 0
    else
      match frame.standIn setting value with
      | .template inst => do
        if ← tooDeep setting frame then pure 0
        else
          let n ← emit frame (Writer.writeWrap options.wrap)
          let m ← exec setting fuel (frame.child inst)
          pure (n + m)
      | .list items => writeItems setting fuel frame items options 0 false
      | .map entries =>
        let items := Value.elements (frame.group setting).iterateMapValues (.map entries)
        writeItems setting fuel frame items options 0 false
      | value => writeScalar setting frame value options

/-- Write the elements of a collection, given the characters counted and whether an element before
them has written any. A separator stands before an element once something was written. -/
def writeItems (setting : Setting) :
    Nat → Frame → List Value → OptionRow String → Nat → Bool → Render Nat
  | 0, _, _, _, _, _ => failure
  | _ + 1, _, [], _, count, _ => pure count
  | fuel + 1, frame, item :: rest, options, count, seen => do
    let item? := if item.isNone then options.null.map Value.string else some item
    match item? with
    | none => writeItems setting fuel frame rest options count seen
    | some item =>
      let n ← match options.separator with
        | some separator =>
          if seen then emit frame (Writer.writeSeparator separator) else pure 0
        | none => pure 0
      let m ← writeValue setting fuel frame item options
      writeItems setting fuel frame rest options (count + n + m) (seen || 0 < m)

/-- A value rendered to text. -/
def toText (setting : Setting) : Nat → Frame → Value → Render String
  | 0, _, _ => failure
  | fuel + 1, frame, value => aside (writeValue setting fuel frame value .empty)

/-- A frame with its unset arguments given their defaults, in the order of the arguments. -/
def giveDefaults (setting : Setting) : Nat → Frame → List FormalArg → Render Frame
  | 0, _, _ => failure
  | _ + 1, frame, [] => pure frame
  | fuel + 1, frame, arg :: rest => do
    match arg.default?, frame.running.locals[arg.slot]? with
    | some default, some none =>
      let value ← defaultValue setting fuel frame default
      giveDefaults setting fuel
        { frame with running := frame.running.setSlot arg.slot value } rest
    | _, _ => giveDefaults setting fuel frame rest

/-- The value of a default in the frame that starts. -/
def defaultValue (setting : Setting) : Nat → Frame → DefaultValue → Render Value
  | 0, _, _ => failure
  | _ + 1, _, .literal value => pure value
  | fuel + 1, frame, .template template eager => do
    let inst := Instance.ofTemplate template frame.running.group
    if eager then
      if ← tooDeep setting frame then pure (.string "")
      else
        let text ← aside (exec setting fuel (frame.child inst))
        pure (.string text)
    else pure (.template inst)

end

end TemplateMachine
