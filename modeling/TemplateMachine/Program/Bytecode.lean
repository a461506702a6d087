import TemplateMachine.Program.Instr

/-!
# Bytecode

The byte form of a program: each instruction is its code followed by its operands, each operand two
bytes with the high one first. A jump targets an instruction by its index in memory and by its byte
address in the encoded form; the end of the program is a target as well.

Encoding fails on the first operand in program order that does not fit. Decoding first scans all
bytes into instructions, keeps the addresses at which these begin, and looks at the targets of jumps
only when that succeeds.
-/

namespace TemplateMachine

/-- Why a program has no byte form, or bytes are no program. -/
inductive BytecodeError where
  | targetOutOfRange (target index : Nat)
  | operandTooLarge (operand index : Nat)
  | unknownOpcode (opcode : UInt8) (address : Nat)
  | truncatedOperand (mnemonic : String) (address : Nat)
  | targetInsideInstruction (address : Nat)
deriving DecidableEq, Repr

/-- The wording of a bytecode error. -/
def BytecodeError.message : BytecodeError → String
  | .targetOutOfRange target index =>
    s!"jump target {target} of instruction {index} is out of range"
  | .operandTooLarge operand index =>
    s!"operand {operand} of instruction {index} does not fit in {Instr.operandSize} bytes"
  | .unknownOpcode opcode address =>
    s!"invalid opcode {opcode.toNat} at byte {address}"
  | .truncatedOperand mnemonic address =>
    "truncated operand for `" ++ mnemonic ++ s!"` at byte {address}"
  | .targetInsideInstruction address =>
    s!"jump to byte {address} is not on an instruction boundary"

namespace Bytecode

/-- The byte addresses of the instructions of a program that begins at an address, and of its
end. -/
def addresses (address : Nat) : List Instr → List Nat
  | [] => [address]
  | instr :: rest => address :: addresses (address + instr.size) rest

/-- The two bytes of an operand, if it is small enough. -/
def operandBytes? (operand : Nat) : Option (List UInt8) :=
  if operand < 65536 then some [UInt8.ofNat (operand / 256), UInt8.ofNat (operand % 256)] else none

/-- The bytes of one operand of the instruction at `index`, given the addresses of the program. -/
def encodeOperand (addresses : List Nat) (index : Nat) :
    OperandKind × Nat → Except BytecodeError (List UInt8)
  | (kind, operand) => do
    let number ← match kind with
      | .address =>
        match addresses[operand]? with
        | some address => pure address
        | none => throw (.targetOutOfRange operand index)
      | _ => pure operand
    match operandBytes? number with
    | some bytes => pure bytes
    | none => throw (.operandTooLarge number index)

/-- The bytes of a list of operands. -/
def encodeOperands (addresses : List Nat) (index : Nat) :
    List (OperandKind × Nat) → Except BytecodeError (List UInt8)
  | [] => pure []
  | operand :: rest => do
    let bytes ← encodeOperand addresses index operand
    let more ← encodeOperands addresses index rest
    pure (bytes ++ more)

/-- The bytes of the instructions from `index` on. -/
def encodeFrom (addresses : List Nat) (index : Nat) :
    List Instr → Except BytecodeError (List UInt8)
  | [] => pure []
  | instr :: rest => do
    let bytes ← encodeOperands addresses index instr.operands
    let more ← encodeFrom addresses (index + 1) rest
    pure (instr.opcode :: (bytes ++ more))

/-- The bytes of a program. -/
def encode (program : List Instr) : Except BytecodeError (List UInt8) :=
  encodeFrom (addresses 0 program) 0 program

/-- The number that two bytes stand for. -/
def joinBytes (high low : UInt8) : Nat :=
  high.toNat * 256 + low.toNat

/-- The instruction that a code stands for with its operands, at an address. -/
def readInstr (code : UInt8) (operands : List Nat) (address : Nat) : Except BytecodeError Instr :=
  match Instr.ofParts? code operands with
  | some instr => pure instr
  | none => throw (.unknownOpcode code address)

/-- The instructions that bytes stand for, with byte addresses for targets, and the addresses at
which they were found, the one behind them at the end. The first byte has the given address. -/
def scan (address : Nat) : List UInt8 → Except BytecodeError (List Instr × List Nat)
  | [] => pure ([], [address])
  | code :: rest =>
    match Instr.arity? code, rest with
    | none, _ => throw (.unknownOpcode code address)
    | some 0, rest => do
      let instr ← readInstr code [] address
      let (more, positions) ← scan (address + 1) rest
      pure (instr :: more, address :: positions)
    | some 1, high :: low :: rest => do
      let instr ← readInstr code [joinBytes high low] address
      let (more, positions) ← scan (address + 3) rest
      pure (instr :: more, address :: positions)
    | some 2, high :: low :: high' :: low' :: rest => do
      let instr ← readInstr code [joinBytes high low, joinBytes high' low'] address
      let (more, positions) ← scan (address + 5) rest
      pure (instr :: more, address :: positions)
    | some _, _ =>
      let mnemonic := (Instr.ofParts? code []).elim "?" Instr.mnemonic
      throw (.truncatedOperand mnemonic address)

/-- An instruction with the byte address of a jump replaced by the index of the instruction
there. -/
def resolveTarget (addresses : List Nat) (instr : Instr) : Except BytecodeError Instr :=
  match instr.target? with
  | none => pure instr
  | some address =>
    match addresses.idxOf? address with
    | some index => pure (instr.withTarget index)
    | none => throw (.targetInsideInstruction address)

/-- Every instruction with its target resolved, or the error of the first that has none. -/
def resolveTargets (addresses : List Nat) : List Instr → Except BytecodeError (List Instr)
  | [] => pure []
  | instr :: rest => do
    let head ← resolveTarget addresses instr
    let more ← resolveTargets addresses rest
    pure (head :: more)

/-- The program that bytes stand for. -/
def decode (bytes : List UInt8) : Except BytecodeError (List Instr) := do
  let (program, positions) ← scan 0 bytes
  resolveTargets positions program

end Bytecode

end TemplateMachine
