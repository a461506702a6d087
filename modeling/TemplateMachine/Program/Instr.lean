/-!
# Instructions

The instruction set of compiled templates. An operand is an index into the text pool of the
template, an argument slot, a render option, a count of values, or the address of an instruction.
Each instruction has a one-byte code, a mnemonic and a list of operands; code and operands together
determine it.
-/

namespace TemplateMachine

/-- The target of a jump that has not been set: the greatest word of 64 bits. -/
def unsetTarget : Nat := 0xffffffffffffffff

/-- What an operand refers to. -/
inductive OperandKind where
  | text
  | slot
  | count
  | option
  | address
deriving DecidableEq, Repr

/-- One instruction of a program. -/
inductive Instr where
  /-- Push a pooled text. -/
  | loadStr (pool : Nat)
  /-- Push an attribute found through the scope. -/
  | loadAttr (pool : Nat)
  /-- Push an argument slot. -/
  | loadLocal (slot : Nat)
  /-- Replace the top value by one of its properties. -/
  | loadProp (pool : Nat)
  /-- Pop a key and replace the value beneath it by that property. -/
  | loadPropInd
  /-- Pop a value into the options on top of the stack. -/
  | storeOption (option : Nat)
  /-- Pop a value into the named arguments on top of the stack. -/
  | storeArg (pool : Nat)
  /-- Make an instance of a named template from values on the stack. -/
  | newNamed (pool : Nat) (count : Nat)
  /-- Make an instance of the template named by the value beneath its arguments. -/
  | newInd (count : Nat)
  /-- Pop named arguments and make an instance of a named template. -/
  | newBoxArgs (pool : Nat)
  /-- Make an instance of the imported template of a name. -/
  | superNew (pool : Nat) (count : Nat)
  /-- Make an instance of the imported template from named arguments. -/
  | superNewBoxArgs (pool : Nat)
  /-- Pop a value and write it. -/
  | write
  /-- Pop options and a value and write the value with them. -/
  | writeOpt
  /-- Apply a template to the elements of a value. -/
  | map
  /-- Apply templates in turn to the elements of a value. -/
  | rotMap (count : Nat)
  /-- Apply a template to the elements of several values side by side. -/
  | zipMap (count : Nat)
  /-- Go on at an instruction. -/
  | br (target : Nat)
  /-- Pop a value and go on at an instruction if the value counts as false. -/
  | brf (target : Nat)
  /-- Push empty options. -/
  | options
  /-- Push empty named arguments. -/
  | args
  /-- Fill the named arguments on top of the stack from the scope. -/
  | passThru (pool : Nat)
  /-- Push an empty list. -/
  | list
  /-- Pop a value and append it to the list on top of the stack. -/
  | add
  /-- Render the top value to text. -/
  | toStr
  /-- Take the first element. -/
  | first
  /-- Take the last element. -/
  | last
  /-- Drop the first element. -/
  | rest
  /-- Drop the last element. -/
  | trunc
  /-- Drop the elements without a value. -/
  | strip
  /-- Remove blanks from both ends of a text. -/
  | trim
  /-- Count the elements. -/
  | length
  /-- Count the characters of a text. -/
  | strlen
  /-- Reverse the elements. -/
  | reverse
  /-- Replace the top value by its negated truth. -/
  | negate
  /-- Replace two values by whether one of them is true. -/
  | disjoin
  /-- Replace two values by whether both are true. -/
  | conjoin
  /-- Begin an indentation. -/
  | indent (pool : Nat)
  /-- End the innermost indentation. -/
  | dedent
  /-- Write a newline unless it would make a second blank line. -/
  | newline
  /-- Do nothing. -/
  | noop
  /-- Drop the top value. -/
  | pop
  /-- Push no value. -/
  | pushNull
  /-- Push true. -/
  | pushTrue
  /-- Push false. -/
  | pushFalse
  /-- Write a pooled text. -/
  | writeStr (pool : Nat)
  /-- Write an argument slot. -/
  | writeLocal (slot : Nat)
deriving DecidableEq, Repr, Inhabited

namespace Instr

/-- The byte that stands for the instruction in an encoded program. -/
def opcode : Instr → UInt8
  | .loadStr _ => 1
  | .loadAttr _ => 2
  | .loadLocal _ => 3
  | .loadProp _ => 4
  | .loadPropInd => 5
  | .storeOption _ => 6
  | .storeArg _ => 7
  | .newNamed _ _ => 8
  | .newInd _ => 9
  | .newBoxArgs _ => 10
  | .superNew _ _ => 11
  | .superNewBoxArgs _ => 12
  | .write => 13
  | .writeOpt => 14
  | .map => 15
  | .rotMap _ => 16
  | .zipMap _ => 17
  | .br _ => 18
  | .brf _ => 19
  | .options => 20
  | .args => 21
  | .passThru _ => 22
  | .list => 24
  | .add => 25
  | .toStr => 26
  | .first => 27
  | .last => 28
  | .rest => 29
  | .trunc => 30
  | .strip => 31
  | .trim => 32
  | .length => 33
  | .strlen => 34
  | .reverse => 35
  | .negate => 36
  | .disjoin => 37
  | .conjoin => 38
  | .indent _ => 39
  | .dedent => 40
  | .newline => 41
  | .noop => 42
  | .pop => 43
  | .pushNull => 44
  | .pushTrue => 45
  | .pushFalse => 46
  | .writeStr _ => 47
  | .writeLocal _ => 48

/-- The word that stands for the instruction in a listing. -/
def mnemonic : Instr → String
  | .loadStr _ => "load_str"
  | .loadAttr _ => "load_attr"
  | .loadLocal _ => "load_local"
  | .loadProp _ => "load_prop"
  | .loadPropInd => "load_prop_ind"
  | .storeOption _ => "store_option"
  | .storeArg _ => "store_arg"
  | .newNamed _ _ => "new"
  | .newInd _ => "new_ind"
  | .newBoxArgs _ => "new_box_args"
  | .superNew _ _ => "super_new"
  | .superNewBoxArgs _ => "super_new_box_args"
  | .write => "write"
  | .writeOpt => "write_opt"
  | .map => "map"
  | .rotMap _ => "rot_map"
  | .zipMap _ => "zip_map"
  | .br _ => "br"
  | .brf _ => "brf"
  | .options => "options"
  | .args => "args"
  | .passThru _ => "passthru"
  | .list => "list"
  | .add => "add"
  | .toStr => "tostr"
  | .first => "first"
  | .last => "last"
  | .rest => "rest"
  | .trunc => "trunc"
  | .strip => "strip"
  | .trim => "trim"
  | .length => "length"
  | .strlen => "strlen"
  | .reverse => "reverse"
  | .negate => "not"
  | .disjoin => "or"
  | .conjoin => "and"
  | .indent _ => "indent"
  | .dedent => "dedent"
  | .newline => "newline"
  | .noop => "noop"
  | .pop => "pop"
  | .pushNull => "null"
  | .pushTrue => "true"
  | .pushFalse => "false"
  | .writeStr _ => "write_str"
  | .writeLocal _ => "write_local"

/-- The operands in order, each with what it refers to. -/
def operands : Instr → List (OperandKind × Nat)
  | .loadStr a => [(.text, a)]
  | .loadAttr a => [(.text, a)]
  | .loadLocal a => [(.slot, a)]
  | .loadProp a => [(.text, a)]
  | .storeOption a => [(.option, a)]
  | .storeArg a => [(.text, a)]
  | .newNamed a b => [(.text, a), (.count, b)]
  | .newInd a => [(.count, a)]
  | .newBoxArgs a => [(.text, a)]
  | .superNew a b => [(.text, a), (.count, b)]
  | .superNewBoxArgs a => [(.text, a)]
  | .rotMap a => [(.count, a)]
  | .zipMap a => [(.count, a)]
  | .br a => [(.address, a)]
  | .brf a => [(.address, a)]
  | .passThru a => [(.text, a)]
  | .indent a => [(.text, a)]
  | .writeStr a => [(.text, a)]
  | .writeLocal a => [(.slot, a)]
  | _ => []

/-- The instruction with a given code and operands. Operands that are missing are zero. -/
def ofParts? (code : UInt8) (operands : List Nat) : Option Instr :=
  let a := operands.getD 0 0
  let b := operands.getD 1 0
  match code with
  | 1 => some (.loadStr a)
  | 2 => some (.loadAttr a)
  | 3 => some (.loadLocal a)
  | 4 => some (.loadProp a)
  | 5 => some .loadPropInd
  | 6 => some (.storeOption a)
  | 7 => some (.storeArg a)
  | 8 => some (.newNamed a b)
  | 9 => some (.newInd a)
  | 10 => some (.newBoxArgs a)
  | 11 => some (.superNew a b)
  | 12 => some (.superNewBoxArgs a)
  | 13 => some .write
  | 14 => some .writeOpt
  | 15 => some .map
  | 16 => some (.rotMap a)
  | 17 => some (.zipMap a)
  | 18 => some (.br a)
  | 19 => some (.brf a)
  | 20 => some .options
  | 21 => some .args
  | 22 => some (.passThru a)
  | 24 => some .list
  | 25 => some .add
  | 26 => some .toStr
  | 27 => some .first
  | 28 => some .last
  | 29 => some .rest
  | 30 => some .trunc
  | 31 => some .strip
  | 32 => some .trim
  | 33 => some .length
  | 34 => some .strlen
  | 35 => some .reverse
  | 36 => some .negate
  | 37 => some .disjoin
  | 38 => some .conjoin
  | 39 => some (.indent a)
  | 40 => some .dedent
  | 41 => some .newline
  | 42 => some .noop
  | 43 => some .pop
  | 44 => some .pushNull
  | 45 => some .pushTrue
  | 46 => some .pushFalse
  | 47 => some (.writeStr a)
  | 48 => some (.writeLocal a)
  | _ => none

/-- Code and operands together determine an instruction. -/
theorem ofParts?_opcode (instr : Instr) :
    ofParts? instr.opcode (instr.operands.map Prod.snd) = some instr := by
  cases instr <;> rfl

/-- An instruction has no operand, or one, or a text and a count. -/
theorem operands_shape (instr : Instr) : instr.operands = [] ∨
    (∃ operand, instr.operands = [operand]) ∨
    ∃ index count, instr.operands = [(.text, index), (.count, count)] := by
  cases instr <;> simp [operands]

/-- The number of operands that a code takes. -/
def arity? (code : UInt8) : Option Nat :=
  (ofParts? code []).map fun instr => instr.operands.length

/-- The code of an instruction takes as many operands as the instruction has. -/
@[simp] theorem arity?_opcode (instr : Instr) :
    arity? instr.opcode = some instr.operands.length := by
  cases instr <;> rfl

/-- The number of bytes of an encoded operand. -/
def operandSize : Nat := 2

/-- The number of bytes of the encoded instruction. -/
def size (instr : Instr) : Nat :=
  1 + instr.operands.length * operandSize

/-- The target of a jump. -/
def target? : Instr → Option Nat
  | .br target => some target
  | .brf target => some target
  | _ => none

/-- The instruction with the target of a jump changed; other instructions stay as they are. -/
def withTarget (target : Nat) : Instr → Instr
  | .br _ => .br target
  | .brf _ => .brf target
  | other => other

/-- Changing the target of a jump keeps its code. -/
@[simp] theorem opcode_withTarget (target : Nat) (instr : Instr) :
    (instr.withTarget target).opcode = instr.opcode := by
  cases instr <;> rfl

/-- Changing the target of a jump keeps its size. -/
@[simp] theorem size_withTarget (target : Nat) (instr : Instr) :
    (instr.withTarget target).size = instr.size := by
  cases instr <;> rfl

/-- The mnemonic followed by the operands. -/
def text (instr : Instr) : String :=
  match instr.operands with
  | [] => instr.mnemonic
  | operands => instr.mnemonic ++ " " ++ ", ".intercalate (operands.map fun x => toString x.2)

end Instr

end TemplateMachine
