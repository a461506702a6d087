import TemplateMachine.Proofs.Program.FirstOperand
import TemplateMachine.Proofs.Program.RoundTrip

/-!
# What is no program

Which programs have no byte form and which bytes stand for no program, and what is said about them.
The limit of an operand is that of two bytes, where the operand of a jump is the address of its
target. Every byte string is made of whole instructions up to its end or up to a byte where no whole
instruction begins; only what has no such byte is looked through for jumps into the inside of an
instruction.
-/

namespace TemplateMachine

namespace Bytecode

/-- The address of the instruction at an index, or of the end: the sum of the sizes of the
instructions before it. -/
def byteAddress (program : List Instr) (index : Nat) : Nat :=
  (program.take index).foldr (fun instr address => instr.size + address) 0

/-- The first instruction is at the beginning. -/
@[simp] theorem byteAddress_zero (program : List Instr) : byteAddress program 0 = 0 := by
  simp [byteAddress]

/-- Later instructions are behind the first one. -/
@[simp] theorem byteAddress_cons_succ (instr : Instr) (rest : List Instr) (index : Nat) :
    byteAddress (instr :: rest) (index + 1) = instr.size + byteAddress rest index := by
  simp [byteAddress]

/-- The table of addresses has the address of each instruction and that of the end. -/
theorem getElem?_addresses (start : Nat) (program : List Instr) (index : Nat) :
    (addresses start program)[index]? =
      if index ≤ program.length then some (start + byteAddress program index) else none := by
  induction program generalizing start index with
  | nil => cases index <;> simp [addresses]
  | cons instr rest ih =>
    cases index with
    | zero => simp [addresses]
    | succ index => simp [addresses, ih, Nat.add_assoc]

/-- A number is in the table of addresses exactly if it is the address of an instruction or of the
end. -/
theorem mem_addresses_iff {address : Nat} {program : List Instr} :
    address ∈ addresses 0 program ↔
      ∃ index ≤ program.length, byteAddress program index = address := by
  simp only [List.mem_iff_getElem?, getElem?_addresses, Nat.zero_add, Option.ite_none_right_eq_some,
    Option.some.injEq]

/-- An operand of a program can be written in two bytes: the target of a jump if it is the index of
an instruction or of the end, and its address is small enough, and any other operand if it is small
enough itself. -/
def Encodable (program : List Instr) : OperandKind × Nat → Prop
  | (.address, target) => target ≤ program.length ∧ byteAddress program target ≤ 65535
  | (_, operand) => operand ≤ 65535

/-- What is said about an operand, of the instruction at an index, that cannot be written: that
there is no such target, or which number is too large. -/
def unencodable (program : List Instr) (index : Nat) : OperandKind × Nat → BytecodeError
  | (.address, target) =>
    if target ≤ program.length then .operandTooLarge (byteAddress program target) index
    else .targetOutOfRange target index
  | (_, operand) => .operandTooLarge operand index

/-- An operand is written or refused. -/
theorem encodeOperand_eq_error_iff {program : List Instr} {index : Nat}
    {operand : OperandKind × Nat} {error : BytecodeError} :
    encodeOperand (addresses 0 program) index operand = .error error ↔
      ¬ Encodable program operand ∧ error = unencodable program index operand := by
  have hlimit (number : Nat) : number < 65536 ↔ number ≤ 65535 := by omega
  obtain ⟨kind, operand⟩ := operand
  cases kind with
  | address =>
    by_cases hindex : operand ≤ program.length
    · by_cases hsmall : byteAddress program operand ≤ 65535
      · simp [encodeOperand, getElem?_addresses, operandBytes?, Encodable, hindex, hlimit, hsmall]
      · simp [encodeOperand, getElem?_addresses, operandBytes?, Encodable, unencodable, hindex,
          hlimit, hsmall, eq_comm (a := error)]
    · simp [encodeOperand, getElem?_addresses, Encodable, unencodable, hindex, bind_eq_error_iff,
        eq_comm (a := error)]
  | _ =>
    by_cases hsmall : operand ≤ 65535
    · simp [encodeOperand, operandBytes?, Encodable, hlimit, hsmall]
    · simp [encodeOperand, operandBytes?, Encodable, unencodable, hlimit, hsmall,
        eq_comm (a := error)]

/-- An operand is written exactly if it can be. -/
theorem exists_encodeOperand_iff {program : List Instr} {index : Nat}
    {operand : OperandKind × Nat} :
    (∃ bytes, encodeOperand (addresses 0 program) index operand = .ok bytes) ↔
      Encodable program operand := by
  rw [exists_eq_ok_iff]
  simp [encodeOperand_eq_error_iff]

/-- Operands are refused exactly if one of them is, with what is said about the first one. -/
theorem encodeOperands_eq_error_iff {program : List Instr} {index : Nat}
    {operands : List (OperandKind × Nat)} {error : BytecodeError} :
    encodeOperands (addresses 0 program) index operands = .error error ↔
      ∃ operand, FirstAmong (¬ Encodable program ·) operands operand ∧
        error = unencodable program index operand := by
  induction operands with
  | nil => simp [encodeOperands, not_firstAmong_nil]
  | cons operand rest ih =>
    simp only [encodeOperands, map₂_eq_error_iff, encodeOperand_eq_error_iff,
      exists_encodeOperand_iff, ih, exists_firstAmong_cons_iff, not_not]

/-- Operands are written exactly if all of them can be. -/
theorem exists_encodeOperands_iff {program : List Instr} {index : Nat}
    {operands : List (OperandKind × Nat)} :
    (∃ bytes, encodeOperands (addresses 0 program) index operands = .ok bytes) ↔
      ∀ operand ∈ operands, Encodable program operand := by
  have hfirst : (∃ operand, FirstAmong (¬ Encodable program ·) operands operand) ↔ _ :=
    exists_firstAmong_iff
  rw [exists_eq_ok_iff]
  simp only [ne_eq, encodeOperands_eq_error_iff]
  grind

/-- The instructions from an index on are refused exactly if one of their operands is, with what is
said about the first one. -/
theorem encodeFrom_eq_error_iff {program : List Instr} {start : Nat} {instrs : List Instr}
    {error : BytecodeError} :
    encodeFrom (addresses 0 program) start instrs = .error error ↔
      ∃ index instr operand, FirstOperand (¬ Encodable program ·) instrs index instr operand ∧
        error = unencodable program (start + index) operand := by
  induction instrs generalizing start with
  | nil => simp [encodeFrom, not_firstOperand_nil]
  | cons instr rest ih =>
    simp only [encodeFrom, map₂_eq_error_iff, encodeOperands_eq_error_iff,
      exists_encodeOperands_iff, ih, exists_firstOperand_cons_iff, not_not, Nat.add_zero,
      Nat.add_assoc, Nat.add_comm 1]

/-- A program is refused exactly if one of its operands is, with what is said about the first
one. -/
theorem encode_eq_error_iff {program : List Instr} {error : BytecodeError} :
    encode program = .error error ↔
      ∃ index instr operand, FirstOperand (¬ Encodable program ·) program index instr operand ∧
        error = unencodable program index operand := by
  simp only [encode, encodeFrom_eq_error_iff, Nat.zero_add]

/-- A program is encoded exactly if all of its operands can be. -/
theorem exists_encode_iff {program : List Instr} :
    (∃ bytes, encode program = .ok bytes) ↔
      ∀ instr ∈ program, ∀ operand ∈ instr.operands, Encodable program operand := by
  have hfirst : (∃ index instr operand,
      FirstOperand (¬ Encodable program ·) program index instr operand) ↔ _ :=
    exists_firstOperand_iff
  rw [exists_eq_ok_iff]
  simp only [ne_eq, encode_eq_error_iff]
  grind

/-- Bytes are whole instructions, one after the other. -/
def Whole (bytes : List UInt8) (located : List Instr) : Prop :=
  (∀ instr ∈ located, instr.Fits) ∧ located.flatMap Instr.rawBytes = bytes

/-- Behind some bytes no instruction begins: there is a byte that is no code, or a code with fewer
bytes behind it than its operands take up. What is said about it names the address of that byte. -/
inductive BrokenOff (address : Nat) : List UInt8 → BytecodeError → Prop where
  | unknownOpcode {code : UInt8} {rest : List UInt8}
    (unknown : ∀ instr : Instr, instr.opcode ≠ code) :
    BrokenOff address (code :: rest) (.unknownOpcode code address)
  | truncatedOperand {instr : Instr} {rest : List UInt8}
    (short : rest.length < instr.operands.length * Instr.operandSize) :
    BrokenOff address (instr.opcode :: rest) (.truncatedOperand instr.mnemonic address)

end Bytecode

namespace Instr

/-- The code of an instruction leads to its mnemonic. -/
theorem mnemonic_of_opcode (instr : Instr) :
    (ofParts? instr.opcode []).elim "?" mnemonic = instr.mnemonic := by
  cases instr <;> rfl

/-- The bytes of an instruction are as many as its size says. -/
theorem length_rawBytes (instr : Instr) : instr.rawBytes.length = instr.size := by
  rcases instr.operands_cases with h | ⟨a, h⟩ | ⟨a, b, h⟩ <;>
    simp [rawBytes, size, operandSize, Bytecode.splitBytes, h]

/-- A code that takes operands is the code of an instruction with as many. -/
theorem exists_opcode_of_arity? {code : UInt8} {count : Nat} (takes : arity? code = some count) :
    ∃ instr : Instr, instr.opcode = code ∧ instr.operands.length = count := by
  obtain ⟨instr, -, hopcode, hnumbers⟩ :=
    @ofParts?_spec code (List.replicate count 0) (by simpa using takes)
  exact ⟨instr, hopcode, by simpa using congrArg List.length hnumbers⟩

/-- A byte stands for no instruction exactly if it is the code of none. -/
theorem arity?_eq_none_iff {code : UInt8} :
    arity? code = none ↔ ∀ instr : Instr, instr.opcode ≠ code := by
  constructor
  · rintro unknown instr rfl
    simp at unknown
  · intro unknown
    cases takes : arity? code with
    | none => rfl
    | some count =>
      obtain ⟨instr, hopcode, -⟩ := exists_opcode_of_arity? takes
      exact absurd hopcode (unknown instr)

end Instr

namespace Bytecode

/-- Scanning stops with an error where no instruction begins. -/
theorem BrokenOff.scan_eq_error {address : Nat} {bytes : List UInt8} {error : BytecodeError}
    (broken : BrokenOff address bytes error) : scan address bytes = .error error := by
  cases broken with
  | unknownOpcode unknown => simp [scan, Instr.arity?_eq_none_iff.mpr unknown]
  | @truncatedOperand instr rest short =>
    have harity := instr.arity?_opcode
    have hmnemonic := instr.mnemonic_of_opcode
    rcases instr.operands_cases with hnone | ⟨a, hone⟩ | ⟨a, b, htwo⟩
    · simp [hnone] at short
    · rcases rest with _ | ⟨high, _ | ⟨low, rest⟩⟩
      · simp [scan, harity, hone, hmnemonic]
      · simp [scan, harity, hone, hmnemonic]
      · simp only [hone, Instr.operandSize, List.length_cons, List.length_nil] at short
        omega
    · rcases rest with _ | ⟨high, _ | ⟨low, _ | ⟨high', _ | ⟨low', rest⟩⟩⟩⟩
      · simp [scan, harity, htwo, hmnemonic]
      · simp [scan, harity, htwo, hmnemonic]
      · simp [scan, harity, htwo, hmnemonic]
      · simp [scan, harity, htwo, hmnemonic]
      · simp only [htwo, Instr.operandSize, List.length_cons, List.length_nil] at short
        omega

/-- Enough bytes begin with those of as many operands as are asked for. -/
theorem exists_operands {count : Nat} {bytes : List UInt8}
    (enough : count * Instr.operandSize ≤ bytes.length) :
    ∃ (numbers : List Nat) (rest : List UInt8), numbers.length = count ∧
      (∀ number ∈ numbers, number < 65536) ∧ bytes = numbers.flatMap splitBytes ++ rest := by
  induction count generalizing bytes with
  | zero => exact ⟨[], bytes, rfl, by simp, rfl⟩
  | succ count ih =>
    unfold Instr.operandSize at enough ih
    rcases bytes with _ | ⟨high, _ | ⟨low, more⟩⟩
    · simp at enough
    · simp only [List.length_singleton] at enough
      omega
    · have hmore : count * 2 ≤ more.length := by
        simp only [List.length_cons] at enough
        omega
      obtain ⟨numbers, rest, rfl, hsmall, rfl⟩ := ih hmore
      exact ⟨joinBytes high low :: numbers, rest, rfl,
        List.forall_mem_cons.mpr ⟨joinBytes_lt high low, hsmall⟩, by simp [splitBytes_joinBytes]⟩

/-- Bytes begin with a whole instruction, unless there are none or no instruction begins there. -/
theorem begins_cases (address : Nat) (bytes : List UInt8) :
    bytes = [] ∨ (∃ error, BrokenOff address bytes error) ∨
      ∃ (instr : Instr) (rest : List UInt8), instr.Fits ∧ bytes = instr.rawBytes ++ rest := by
  cases bytes with
  | nil => exact .inl rfl
  | cons code rest =>
    refine .inr ?_
    cases takes : Instr.arity? code with
    | none => exact .inl ⟨_, .unknownOpcode (Instr.arity?_eq_none_iff.mp takes)⟩
    | some count =>
      obtain ⟨shape, rfl, rfl⟩ := Instr.exists_opcode_of_arity? takes
      by_cases short : rest.length < shape.operands.length * Instr.operandSize
      · exact .inl ⟨_, .truncatedOperand short⟩
      · obtain ⟨numbers, rest, hcount, hsmall, rfl⟩ := exists_operands (Nat.le_of_not_lt short)
        obtain ⟨instr, -, hfits, hraw, -⟩ := Instr.exists_of_arity? (hcount ▸ takes) hsmall
        exact .inr ⟨instr, rest, hfits, by rw [hraw, List.cons_append]⟩

/-- Whole instructions, one after the other, and another one before them. -/
theorem Whole.cons {instr : Instr} {bytes : List UInt8} {located : List Instr} (fits : instr.Fits)
    (whole : Whole bytes located) : Whole (instr.rawBytes ++ bytes) (instr :: located) := by
  obtain ⟨hfits, rfl⟩ := whole
  exact ⟨List.forall_mem_cons.mpr ⟨fits, hfits⟩, List.flatMap_cons⟩

/-- Every byte string is made of whole instructions up to its end, or up to a byte where no
instruction begins. -/
theorem whole_or_brokenOff (address : Nat) (bytes : List UInt8) :
    (∃ located, Whole bytes located) ∨
      ∃ (before rest : List UInt8) (located : List Instr) (error : BytecodeError),
        bytes = before ++ rest ∧ Whole before located ∧
          BrokenOff (address + before.length) rest error := by
  induction hlength : bytes.length using Nat.strongRecOn generalizing address bytes with
  | ind length ih =>
    rcases begins_cases address bytes with rfl | ⟨error, broken⟩ | ⟨instr, rest, fits, rfl⟩
    · exact .inl ⟨[], by simp, rfl⟩
    · exact .inr ⟨[], bytes, [], error, rfl, ⟨by simp, rfl⟩, broken⟩
    · have hshorter : rest.length < length := by
        rw [← hlength, List.length_append, Instr.length_rawBytes, Instr.size]
        omega
      rcases ih _ hshorter (address + instr.rawBytes.length) rest rfl with
        ⟨located, whole⟩ | ⟨before, rest, located, error, rfl, whole, broken⟩
      · exact .inl ⟨_, whole.cons fits⟩
      · refine .inr ⟨instr.rawBytes ++ before, rest, _, error, by simp, whole.cons fits, ?_⟩
        rwa [List.length_append, ← Nat.add_assoc]

/-- Scanning goes through whole instructions and stops behind them if there is an error. -/
theorem Whole.scan_eq_error {before : List UInt8} {located : List Instr}
    (whole : Whole before located) {address : Nat} {rest : List UInt8} {error : BytecodeError}
    (stopped : scan (address + before.length) rest = .error error) :
    scan address (before ++ rest) = .error error := by
  obtain ⟨fits, rfl⟩ := whole
  induction located generalizing address with
  | nil => exact stopped
  | cons instr located ih =>
    obtain ⟨hinstr, hlocated⟩ := List.forall_mem_cons.mp fits
    rw [List.flatMap_cons, List.length_append, Instr.length_rawBytes, ← Nat.add_assoc] at stopped
    rw [List.flatMap_cons, List.append_assoc, scan_rawBytes_append hinstr]
    exact bind_eq_error_iff.mpr (.inl (ih hlocated stopped))

/-- The target of a jump is no address of an instruction, nor that of the end. -/
def Stray (located : List Instr) (instr : Instr) : Prop :=
  ∃ address, instr.target? = some address ∧
    ∀ index ≤ located.length, byteAddress located index ≠ address

/-- An instruction is refused if its target is stray. -/
theorem resolveTarget_eq_error_iff {located : List Instr} {instr : Instr} {error : BytecodeError} :
    resolveTarget (addresses 0 located) instr = .error error ↔
      Stray located instr ∧ ∃ address, instr.target? = some address ∧
        error = .targetInsideInstruction address := by
  cases htarget : instr.target? with
  | none => simp [resolveTarget, Stray, htarget]
  | some address =>
    have hstray : (∀ index ≤ located.length, byteAddress located index ≠ address) ↔
        (addresses 0 located).idxOf? address = none := by
      rw [List.idxOf?_eq_none_iff, mem_addresses_iff]
      simp only [not_exists, not_and, ne_eq]
    simp only [resolveTarget, Stray, htarget, Option.some.injEq, exists_eq_left', hstray]
    cases (addresses 0 located).idxOf? address <;> simp [eq_comm (a := error)]

/-- An instruction is kept exactly if its target is not stray. -/
theorem exists_resolveTarget_iff {located : List Instr} {instr : Instr} :
    (∃ resolved, resolveTarget (addresses 0 located) instr = .ok resolved) ↔
      ¬ Stray located instr := by
  rw [exists_eq_ok_iff]
  simp only [ne_eq, resolveTarget_eq_error_iff, not_and, not_exists]
  constructor
  · rintro kept ⟨address, htarget, hstray⟩
    exact kept _ ⟨address, htarget, hstray⟩ address htarget rfl
  · exact fun kept _ stray => absurd stray kept

/-- Instructions are refused exactly if one of them has a stray target, with what is said about the
first one. -/
theorem resolveTargets_eq_error_iff {located instrs : List Instr} {error : BytecodeError} :
    resolveTargets (addresses 0 located) instrs = .error error ↔
      ∃ instr, FirstAmong (Stray located) instrs instr ∧ ∃ address, instr.target? = some address ∧
        error = .targetInsideInstruction address := by
  induction instrs with
  | nil => simp [resolveTargets, not_firstAmong_nil]
  | cons instr rest ih =>
    simp only [resolveTargets, map₂_eq_error_iff, resolveTarget_eq_error_iff,
      exists_resolveTarget_iff, ih, exists_firstAmong_cons_iff]

/-- Bytes are refused exactly if behind some whole instructions no other one begins, or if all of
them are whole instructions and a target is stray; the error is that of the first such byte or the
first such jump. -/
theorem decode_eq_error_iff {bytes : List UInt8} {error : BytecodeError} :
    decode bytes = .error error ↔
      (∃ before rest located, bytes = before ++ rest ∧ Whole before located ∧
        BrokenOff before.length rest error) ∨
      ∃ located, Whole bytes located ∧ ∃ jump, FirstAmong (Stray located) located jump ∧
        ∃ address, jump.target? = some address ∧ error = .targetInsideInstruction address := by
  have hbroken {before rest : List UInt8} {located : List Instr} {error : BytecodeError}
      (whole : Whole before located) (broken : BrokenOff before.length rest error) :
      scan 0 (before ++ rest) = .error error :=
    whole.scan_eq_error (by rw [Nat.zero_add]; exact broken.scan_eq_error)
  rw [decode, bind_eq_error_iff]
  refine or_congr ⟨fun stopped => ?_, ?_⟩ ?_
  · rcases whole_or_brokenOff 0 bytes with
      ⟨located, whole⟩ | ⟨before, rest, located, other, rfl, whole, broken⟩
    · rw [scan_eq_ok_iff.mpr ⟨whole, rfl⟩] at stopped
      cases stopped
    · rw [Nat.zero_add] at broken
      obtain rfl : other = error := Except.error.inj ((hbroken whole broken).symm.trans stopped)
      exact ⟨before, rest, located, rfl, whole, broken⟩
  · rintro ⟨before, rest, located, rfl, whole, broken⟩
    exact hbroken whole broken
  · simp only [Prod.exists, scan_eq_ok_iff, and_assoc, exists_and_left, exists_eq_left,
      resolveTargets_eq_error_iff, Whole]

/-- A program is encoded exactly if each operand that is no target is at most 65535 and each target
is the index of an instruction or of the end with an address of at most 65535; if it is not, the
error is about the first operand that fails this, in the first instruction that has one. Decoding
reports a byte that is no code, or operands that are cut off, where whole instructions come before;
a jump is only complained about if all bytes are whole instructions, and then it is the first one
whose target is neither the address of an instruction nor that of the end. -/
theorem encode_decode_eq_error_iff (program : List Instr) (bytes : List UInt8) :
    ((∃ encoded, encode program = .ok encoded) ↔
      ∀ instr ∈ program, ∀ operand ∈ instr.operands, Encodable program operand) ∧
    (∀ error, encode program = .error error ↔
      ∃ index instr operand, FirstOperand (¬ Encodable program ·) program index instr operand ∧
        error = unencodable program index operand) ∧
    ∀ error, decode bytes = .error error ↔
      (∃ before rest located, bytes = before ++ rest ∧ Whole before located ∧
        BrokenOff before.length rest error) ∨
      ∃ located, Whole bytes located ∧ ∃ jump, FirstAmong (Stray located) located jump ∧
        ∃ address, jump.target? = some address ∧ error = .targetInsideInstruction address :=
  ⟨exists_encode_iff, fun _ => encode_eq_error_iff, fun _ => decode_eq_error_iff⟩

/-- A byte that is no code is reported although a jump before it goes into its own operand. -/
example : decode [18, 0, 1, 23] = .error (.unknownOpcode 23 3) ∧
    decode [18, 0, 1, 13] = .error (.targetInsideInstruction 1) := by decide

end Bytecode

end TemplateMachine
