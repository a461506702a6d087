import TemplateMachine.Render.Problem
import TemplateMachine.Render.WriteOption

/-!
# The operand stack

The operands of a program: values, rows of options that are being filled, and named arguments that
are being filled. Taking what is not there is a fault.
-/

namespace TemplateMachine

/-- An operand. -/
inductive Operand where
  | value (value : Value)
  | options (row : OptionRow Value)
  | arguments (entries : Entries Value)

/-- The operands with the top one first. -/
abbrev Stack := List Operand

/-- What an operand is called in a fault. -/
def Operand.found : Operand → Found
  | .value content => .value content.kind
  | .options _ => .options
  | .arguments _ => .arguments

namespace Stack

/-- The stack with a value on top. -/
def push (stack : Stack) (value : Value) : Stack :=
  .value value :: stack

/-- The value on top and the stack beneath it. -/
def pop : Stack → Except Fault (Value × Stack)
  | .value value :: rest => pure (value, rest)
  | other :: _ => throw (.mismatch .value other.found)
  | [] => throw .underflow

/-- A number of values from the top, put before `later` in the order in which they were pushed, and
the stack beneath them. -/
def popMany : Nat → List Value → Stack → Except Fault (List Value × Stack)
  | 0, later, stack => pure (later, stack)
  | count + 1, later, stack => do
    let (value, stack) ← stack.pop
    popMany count (value :: later) stack

/-- A number of values from the top in the order in which they were pushed. -/
def popN (stack : Stack) (count : Nat) : Except Fault (List Value × Stack) :=
  popMany count [] stack

/-- The options on top and the stack beneath them. -/
def popOptions : Stack → Except Fault (OptionRow Value × Stack)
  | .options row :: rest => pure (row, rest)
  | other :: _ => throw (.mismatch .options other.found)
  | [] => throw .underflow

/-- The named arguments on top and the stack beneath them. -/
def popArguments : Stack → Except Fault (Entries Value × Stack)
  | .arguments entries :: rest => pure (entries, rest)
  | other :: _ => throw (.mismatch .arguments other.found)
  | [] => throw .underflow

/-- The list on top and the stack beneath it. -/
def popList : Stack → Except Fault (List Value × Stack)
  | .value (.list items) :: rest => pure (items, rest)
  | .value other :: _ => throw (.mismatch .list (.value other.kind))
  | other :: _ => throw (.mismatch .value other.found)
  | [] => throw .underflow

end Stack

/-- The instance that a value is. -/
def Value.toInstance : Value → Except Fault Instance
  | .template inst => pure inst
  | other => throw (.mismatch .template (.value other.kind))

end TemplateMachine
