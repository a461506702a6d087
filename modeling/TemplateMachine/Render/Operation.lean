import TemplateMachine.Render.Mapping
import TemplateMachine.Render.Stack
import TemplateMachine.Text.Blank

/-!
# Operations

The instructions that only work on the operand stack: loading, constructing, mapping and computing.
They read the frame, may report problems, and never touch the writer. Instructions that write, that
jump, or that render a value to text are left to the machine; here they do nothing.
-/

namespace TemplateMachine

/-- A stack with the problems found on the way to it, or a fault. -/
abbrev Outcome := Except Fault (Reported Stack)

namespace Template

/-- A pooled text. -/
def text (template : Template) (index : Nat) : Except Fault String :=
  match template.pool[index]? with
  | some text => pure text
  | none => throw (.textOutOfRange index)

/-- The instruction that a jump goes to, which may be the end of the program. -/
def jumpTarget (template : Template) (index : Nat) : Except Fault Nat :=
  if template.program.length < index then throw (.targetOutOfRange index) else pure index

end Template

/-- The value in a slot of an instance; an unset slot has no value. -/
def Instance.readSlot (inst : Instance) (index : Nat) : Except Fault Value :=
  match inst.locals[index]? with
  | some slot => pure (slot.getD .none)
  | none => throw (.slotOutOfRange index)

namespace Stack

/-- The stack with a value pushed that was found without problems. -/
def pushed (stack : Stack) (value : Value) : Outcome :=
  pure (stack.push value, [])

/-- The stack with a value pushed and the problems found with it. -/
def pushReported (stack : Stack) (result : Reported Value) : Outcome :=
  pure (stack.push result.1, result.2)

/-- The stack with the top value replaced by a function of it. -/
def mapTop (stack : Stack) (f : Value → Value) : Outcome := do
  let (value, stack) ← stack.pop
  stack.pushed (f value)

/-- The stack with the two top values replaced by the truth of a connective on them. -/
def combineTop (stack : Stack) (f : Bool → Bool → Bool) : Outcome := do
  let (right, stack) ← stack.pop
  let (left, stack) ← stack.pop
  stack.pushed (.bool (f left.isTruthy right.isTruthy))

/-- The stack with an instance pushed: one that was found and given its arguments, or a blank one
and the problem that none was found. -/
def pushInstance (stack : Stack) (found : Option Instance) (give : Instance → Reported Instance)
    (blank : Instance) (missing : Problem) : Outcome :=
  match found with
  | some inst =>
    let (inst, problems) := give inst
    pure (stack.push (.template inst), problems)
  | none => pure (stack.push (.template blank), [missing])

end Stack

/-- The number of characters of a value that should be a text. -/
def textLength : Value → Reported Value
  | .none => (.ofCount 0, [])
  | .string text => (.ofCount text.length, [])
  | other => (.ofCount 0, [.typeMismatch "strlen" other.kind])

/-- A value that should be a text without the blanks at its ends. -/
def trimmedValue : Value → Reported Value
  | .none => (.none, [])
  | .string text => (.string (trimBlanks text), [])
  | other => (other, [.typeMismatch "trim" other.kind])

namespace Frame

/-- What an instruction does to the operand stack in a frame. -/
def operate (frame : Frame) (setting : Setting) (stack : Stack) (instr : Instr) : Outcome :=
  let template := frame.template
  let mapValues := (frame.group setting).iterateMapValues
  match instr with
  | .loadStr index => do
    let text ← template.text index
    stack.pushed (.string text)
  | .loadAttr index => do
    let name ← template.text index
    match frame.attribute? setting name with
    | some value => stack.pushed value
    | none => stack.pushReported (.none, [.noSuchAttribute name])
  | .loadLocal index => do
    let value ← frame.running.readSlot index
    stack.pushed value
  | .loadProp index => do
    let name ← template.text index
    let (owner, stack) ← stack.pop
    stack.pushReported (frame.property setting owner name)
  | .loadPropInd => do
    let (key, stack) ← stack.pop
    let (owner, stack) ← stack.pop
    stack.pushReported (frame.property setting owner key.display)
  | .storeOption index => do
    let (value, stack) ← stack.pop
    let (row, stack) ← stack.popOptions
    match WriteOption.ofIndex? index with
    | some option => pure (.options (row.set option value) :: stack, [])
    | none => pure (.options row :: stack, [.invalidOptionValue index])
  | .storeArg index => do
    let name ← template.text index
    let (value, stack) ← stack.pop
    let (entries, stack) ← stack.popArguments
    pure (.arguments (Entries.insert name value entries) :: stack, [])
  | .newNamed index count => do
    let name ← template.text index
    let (values, stack) ← stack.popN count
    stack.pushInstance (frame.instanceOf? setting name) (·.givePositional values)
      (frame.blankInstance name) (.noSuchTemplate name)
  | .newInd count => do
    let (values, stack) ← stack.popN count
    let (key, stack) ← stack.pop
    let name := key.display
    stack.pushInstance (frame.instanceOf? setting name) (·.givePositional values)
      (frame.blankInstance name) (.noSuchTemplate name)
  | .newBoxArgs index => do
    let name ← template.text index
    let (entries, stack) ← stack.popArguments
    stack.pushInstance (frame.instanceOf? setting name) (·.giveNamed entries)
      (frame.blankInstance name) (.noSuchTemplate name)
  | .superNew index count => do
    let name ← template.text index
    let (values, stack) ← stack.popN count
    stack.pushInstance (frame.superInstanceOf? setting name) (·.givePositional values)
      (frame.blankInstance name) (.noImportedTemplate name)
  | .superNewBoxArgs index => do
    let name ← template.text index
    let (entries, stack) ← stack.popArguments
    stack.pushInstance (frame.superInstanceOf? setting name) (·.giveNamed entries)
      (frame.blankInstance name) (.noImportedTemplate name)
  | .map => do
    let (value, stack) ← stack.pop
    let prototype ← value.toInstance
    let (value, stack) ← stack.pop
    stack.pushReported (prototype.rotateOver [] mapValues value)
  | .rotMap count => do
    let (values, stack) ← stack.popN count
    let prototypes ← values.mapM Value.toInstance
    match prototypes with
    | [] => throw .noPrototype
    | first :: others =>
      let (value, stack) ← stack.pop
      stack.pushReported (first.rotateOver others mapValues value)
  | .zipMap count => do
    let (value, stack) ← stack.pop
    let prototype ← value.toInstance
    let (values, stack) ← stack.popN count
    stack.pushReported (prototype.zipOver mapValues values)
  | .options => pure (.options .empty :: stack, [])
  | .args => pure (.arguments [] :: stack, [])
  | .passThru index => do
    let name ← template.text index
    let (entries, stack) ← stack.popArguments
    let (entries, problems) := frame.passThrough setting name entries
    pure (.arguments entries :: stack, problems)
  | .list => stack.pushed (.list [])
  | .add => do
    let (value, stack) ← stack.pop
    let (items, stack) ← stack.popList
    stack.pushed (.list (Value.appendTo mapValues items value))
  | .first => stack.mapTop (·.first mapValues)
  | .last => stack.mapTop (·.last mapValues)
  | .rest => stack.mapTop (·.rest mapValues)
  | .trunc => stack.mapTop (·.trunc mapValues)
  | .strip => stack.mapTop (·.strip mapValues)
  | .reverse => stack.mapTop (·.reverse mapValues)
  | .length => stack.mapTop fun value => .ofCount value.size
  | .strlen => do
    let (value, stack) ← stack.pop
    stack.pushReported (textLength value)
  | .trim => do
    let (value, stack) ← stack.pop
    stack.pushReported (trimmedValue value)
  | .negate => stack.mapTop fun value => .bool !value.isTruthy
  | .disjoin => stack.combineTop (· || ·)
  | .conjoin => stack.combineTop (· && ·)
  | .pop => do
    let (_, stack) ← stack.pop
    pure (stack, [])
  | .pushNull => stack.pushed .none
  | .pushTrue => stack.pushed (.bool true)
  | .pushFalse => stack.pushed (.bool false)
  | _ => pure (stack, [])

end Frame

end TemplateMachine
