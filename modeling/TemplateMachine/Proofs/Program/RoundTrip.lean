import Mathlib.Data.List.Forall2
import Mathlib.Data.List.Pairwise
import TemplateMachine.Program.Bytecode
import TemplateMachine.Proofs.Except

/-!
# Encoding and decoding are inverse

A program and its bytes determine each other. Between the two stands the located program, in which
every jump carries the byte address of its target: its bytes can be written down instruction by
instruction, and scanning reads exactly these bytes back and finds each instruction at the address
that the encoder has for it. What is left is the step between indices and addresses, where the table
of addresses grows strictly and so holds no address twice.

Which error is reported when there is no other side is not the subject here.
-/

namespace TemplateMachine

namespace Bytecode

/-- The two bytes of a number, the high one first. -/
def splitBytes (number : Nat) : List UInt8 :=
  [UInt8.ofNat (number / 256), UInt8.ofNat (number % 256)]

/-- A number below the limit is read back from its two bytes. -/
theorem joinBytes_ofNat {number : Nat} (small : number < 65536) :
    joinBytes (UInt8.ofNat (number / 256)) (UInt8.ofNat (number % 256)) = number := by
  have hhigh : number / 256 < 256 := by omega
  have hlow : number % 256 < 256 := Nat.mod_lt _ (by decide)
  unfold joinBytes
  rw [UInt8.toNat_ofNat_of_lt' hhigh, UInt8.toNat_ofNat_of_lt' hlow]
  omega

/-- Two bytes stand for a number below the limit. -/
theorem joinBytes_lt (high low : UInt8) : joinBytes high low < 65536 := by
  have hhigh := high.toNat_lt
  have hlow := low.toNat_lt
  unfold joinBytes
  omega

/-- Two bytes are those of the number that they stand for. -/
theorem splitBytes_joinBytes (high low : UInt8) : splitBytes (joinBytes high low) = [high, low] := by
  have hlow := low.toNat_lt
  have hdiv : joinBytes high low / 256 = high.toNat := by unfold joinBytes; omega
  have hmod : joinBytes high low % 256 = low.toNat := by unfold joinBytes; omega
  simp [splitBytes, hdiv, hmod]

/-- An operand has bytes exactly if it is below the limit. -/
theorem operandBytes?_eq_some_iff {operand : Nat} {bytes : List UInt8} :
    operandBytes? operand = some bytes ↔ operand < 65536 ∧ splitBytes operand = bytes := by
  unfold operandBytes? splitBytes
  by_cases small : operand < 65536 <;> simp [small]

/-- The number that is written for an operand: the address of a target, and else the operand. -/
def Written (addresses : List Nat) : OperandKind × Nat → Nat → Prop
  | (.address, operand), number => addresses[operand]? = some number
  | (_, operand), number => operand = number

/-- An operand is encoded exactly if the number written for it exists and is below the limit. -/
theorem encodeOperand_eq_ok_iff {addresses : List Nat} {index : Nat} {operand : OperandKind × Nat}
    {bytes : List UInt8} :
    encodeOperand addresses index operand = .ok bytes ↔
      ∃ number, Written addresses operand number ∧ number < 65536 ∧ splitBytes number = bytes := by
  obtain ⟨kind, operand⟩ := operand
  simp only [← operandBytes?_eq_some_iff]
  cases kind with
  | address =>
    cases found : addresses[operand]? with
    | none => simp [encodeOperand, found, Written, bind_eq_ok_iff]
    | some address =>
      simp only [encodeOperand, found, Written, pure_bind, Option.some.injEq, exists_eq_left']
      cases operandBytes? address <;> simp
  | _ =>
    simp only [encodeOperand, Written, pure_bind, exists_eq_left']
    cases operandBytes? operand <;> simp

/-- Operands are encoded exactly if the numbers written for them exist and are below the limit. -/
theorem encodeOperands_eq_ok_iff {addresses : List Nat} {index : Nat}
    {operands : List (OperandKind × Nat)} {bytes : List UInt8} :
    encodeOperands addresses index operands = .ok bytes ↔
      ∃ numbers, List.Forall₂ (Written addresses) operands numbers ∧
        (∀ number ∈ numbers, number < 65536) ∧ numbers.flatMap splitBytes = bytes := by
  induction operands generalizing bytes with
  | nil => simp [encodeOperands]
  | cons operand rest ih =>
    simp only [encodeOperands, bind_eq_ok_iff, encodeOperand_eq_ok_iff, ih, pure_eq_ok_iff,
      List.forall₂_cons_left_iff]
    constructor
    · rintro ⟨_, ⟨number, hwritten, hsmall, rfl⟩, _, ⟨numbers, hrest, hrestSmall, rfl⟩, rfl⟩
      exact ⟨number :: numbers, ⟨number, numbers, hwritten, hrest, rfl⟩,
        List.forall_mem_cons.mpr ⟨hsmall, hrestSmall⟩, List.flatMap_cons⟩
    · rintro ⟨_, ⟨number, numbers, hwritten, hrest, rfl⟩, hsmall, rfl⟩
      obtain ⟨hsmall, hrestSmall⟩ := List.forall_mem_cons.mp hsmall
      exact ⟨_, ⟨number, hwritten, hsmall, rfl⟩, _, ⟨numbers, hrest, hrestSmall, rfl⟩,
        List.flatMap_cons.symm⟩

end Bytecode

namespace Instr

open Bytecode

/-- A code stands for an instruction with as many operands as it takes, whatever these are, and code
and operands can be read off the instruction. -/
theorem ofParts?_spec {code : UInt8} {numbers : List Nat}
    (takes : arity? code = some numbers.length) :
    ∃ instr, ofParts? code numbers = some instr ∧ instr.opcode = code ∧
      instr.operands.map Prod.snd = numbers := by
  obtain ⟨shape, known, length_eq⟩ := Option.map_eq_some_iff.mp takes
  unfold ofParts? at known
  split at known
  all_goals
    simp only [Option.some.injEq, reduceCtorEq] at known
  all_goals
    subst known
    -- only the list as long as the operands of the code is left
    rcases numbers with _ | ⟨a, _ | ⟨b, _ | ⟨c, rest⟩⟩⟩ <;> cases length_eq
    exact ⟨_, rfl, rfl, rfl⟩

/-- No instruction has more than two operands. -/
theorem operands_cases (instr : Instr) :
    instr.operands = [] ∨ (∃ a, instr.operands = [a]) ∨ ∃ a b, instr.operands = [a, b] :=
  instr.operands_shape.imp_right (Or.imp_right fun ⟨_, _, two⟩ => ⟨_, _, two⟩)

/-- The target of a jump is the one that it was given. -/
@[simp] theorem target?_withTarget (target : Nat) (instr : Instr) :
    (instr.withTarget target).target? = instr.target?.map fun _ => target := by
  cases instr <;> rfl

/-- Of two targets given to a jump the later one counts. -/
@[simp] theorem withTarget_withTarget (first second : Nat) (instr : Instr) :
    (instr.withTarget first).withTarget second = instr.withTarget second := by
  cases instr <;> rfl

/-- A jump that is given its own target stays the same. -/
theorem withTarget_self {target : Nat} {instr : Instr} (h : instr.target? = some target) :
    instr.withTarget target = instr := by
  cases instr <;> simp_all [target?, withTarget]

/-- Whether every operand is below the limit. -/
def Fits (instr : Instr) : Prop :=
  ∀ number ∈ instr.operands.map Prod.snd, number < 65536

/-- The bytes of an instruction whose operands are written as they are. -/
def rawBytes (instr : Instr) : List UInt8 :=
  instr.opcode :: (instr.operands.map Prod.snd).flatMap splitBytes

/-- A code and as many small operands as it takes stand for an instruction that fits. Its bytes are
the code and those of the operands. -/
theorem exists_of_arity? {code : UInt8} {numbers : List Nat}
    (takes : arity? code = some numbers.length) (small : ∀ number ∈ numbers, number < 65536) :
    ∃ instr, ofParts? code numbers = some instr ∧ instr.Fits ∧
      instr.rawBytes = code :: numbers.flatMap splitBytes ∧ instr.size = 1 + numbers.length * 2 := by
  obtain ⟨instr, hinstr, rfl, rfl⟩ := ofParts?_spec takes
  exact ⟨instr, hinstr, small, rfl, by simp [size, operandSize]⟩

/-- Whether an instruction is another one with the target of a jump given by its address. -/
def LocatedAs (addresses : List Nat) (instr located : Instr) : Prop :=
  match instr.target? with
  | none => instr = located
  | some index => ∃ address, addresses[index]? = some address ∧ instr.withTarget address = located

/-- Locating an instruction keeps its size. -/
theorem LocatedAs.size_eq {addresses : List Nat} {instr located : Instr}
    (h : instr.LocatedAs addresses located) : located.size = instr.size := by
  unfold LocatedAs at h
  split at h
  · rw [h]
  · obtain ⟨address, -, rfl⟩ := h
    exact size_withTarget address instr

/-- Locating an instruction keeps its code. -/
theorem LocatedAs.opcode_eq {addresses : List Nat} {instr located : Instr}
    (h : instr.LocatedAs addresses located) : located.opcode = instr.opcode := by
  unfold LocatedAs at h
  split at h
  · rw [h]
  · obtain ⟨address, -, rfl⟩ := h
    exact opcode_withTarget address instr

/-- The numbers written for the operands of an instruction are the operands of the located one. -/
theorem exists_written_iff {addresses : List Nat} {instr : Instr} {Q : List Nat → Prop} :
    (∃ numbers, List.Forall₂ (Written addresses) instr.operands numbers ∧ Q numbers) ↔
      ∃ located, instr.LocatedAs addresses located ∧ located.opcode = instr.opcode ∧
        Q (located.operands.map Prod.snd) := by
  cases instr <;>
    simp [operands, List.forall₂_cons_left_iff, Written, LocatedAs, target?, withTarget, opcode]

end Instr

namespace Bytecode

/-- An instruction is encoded exactly if it can be located and its operands then fit; its bytes are
those of the located instruction. -/
theorem encodeInstr_eq_ok_iff {addresses : List Nat} (index : Nat) {instr : Instr}
    {bytes : List UInt8} :
    (∃ more, encodeOperands addresses index instr.operands = .ok more ∧
        instr.opcode :: more = bytes) ↔
      ∃ located, instr.LocatedAs addresses located ∧ located.Fits ∧ located.rawBytes = bytes := by
  let writes (numbers : List Nat) : Prop :=
    (∀ number ∈ numbers, number < 65536) ∧ instr.opcode :: numbers.flatMap splitBytes = bytes
  have hnumbers : (∃ more, encodeOperands addresses index instr.operands = .ok more ∧
      instr.opcode :: more = bytes) ↔
        ∃ numbers, List.Forall₂ (Written addresses) instr.operands numbers ∧ writes numbers := by
    simp only [encodeOperands_eq_ok_iff, writes]
    grind
  rw [hnumbers, Instr.exists_written_iff]
  constructor
  · rintro ⟨located, hlocated, hopcode, hfits, rfl⟩
    exact ⟨located, hlocated, hfits, by rw [Instr.rawBytes, hopcode]⟩
  · rintro ⟨located, hlocated, hfits, rfl⟩
    exact ⟨located, hlocated, hlocated.opcode_eq, hfits, by rw [Instr.rawBytes, hlocated.opcode_eq]⟩

/-- A program is encoded exactly if every instruction can be located and its operands then fit. -/
theorem encodeFrom_eq_ok_iff {addresses : List Nat} {index : Nat} {program : List Instr}
    {bytes : List UInt8} :
    encodeFrom addresses index program = .ok bytes ↔
      ∃ located, List.Forall₂ (Instr.LocatedAs addresses) program located ∧
        (∀ instr ∈ located, instr.Fits) ∧ located.flatMap Instr.rawBytes = bytes := by
  induction program generalizing index bytes with
  | nil => simp [encodeFrom]
  | cons instr rest ih =>
    simp only [encodeFrom, bind_eq_ok_iff, ih, pure_eq_ok_iff, List.forall₂_cons_left_iff]
    constructor
    · rintro ⟨more, hinstr, _, ⟨located, hrest, hrestFits, rfl⟩, rfl⟩
      obtain ⟨head, hhead, hheadFits, hbytes⟩ := (encodeInstr_eq_ok_iff index).mp ⟨more, hinstr, rfl⟩
      refine ⟨head :: located, ⟨head, located, hhead, hrest, rfl⟩,
        List.forall_mem_cons.mpr ⟨hheadFits, hrestFits⟩, ?_⟩
      rw [List.flatMap_cons, hbytes, List.cons_append]
    · rintro ⟨_, ⟨head, located, hhead, hrest, rfl⟩, hfits, rfl⟩
      obtain ⟨hheadFits, hrestFits⟩ := List.forall_mem_cons.mp hfits
      obtain ⟨more, hinstr, hbytes⟩ :=
        (encodeInstr_eq_ok_iff index).mpr ⟨head, hhead, hheadFits, rfl⟩
      refine ⟨more, hinstr, _, ⟨located, hrest, hrestFits, rfl⟩, ?_⟩
      rw [List.flatMap_cons, ← hbytes, List.cons_append]

/-- An instruction is read from its code and its operands. -/
theorem readInstr_opcode (instr : Instr) (address : Nat) :
    readInstr instr.opcode (instr.operands.map Prod.snd) address = .ok instr := by
  rw [readInstr, Instr.ofParts?_opcode]
  rfl

/-- Scanning the bytes of an instruction reads it and goes on behind it. -/
theorem scan_rawBytes_append {instr : Instr} (fits : instr.Fits) (address : Nat)
    (rest : List UInt8) :
    scan address (instr.rawBytes ++ rest) = (do
      let (more, positions) ← scan (address + instr.size) rest
      pure (instr :: more, address :: positions)) := by
  have harity := instr.arity?_opcode
  have hread := readInstr_opcode instr address
  rcases instr.operands_cases with hnone | ⟨a, hone⟩ | ⟨a, b, htwo⟩
  · rw [hnone, List.map_nil] at hread
    simp [Instr.rawBytes, Instr.size, scan, harity, hnone, hread]
  · have hsmall : a.2 < 65536 := by simpa [Instr.Fits, hone] using fits
    rw [hone, List.map_singleton] at hread
    simp [Instr.rawBytes, Instr.size, Instr.operandSize, splitBytes, scan, harity, hone,
      joinBytes_ofNat hsmall, hread]
  · have hsmall : a.2 < 65536 ∧ b.2 < 65536 := by simpa [Instr.Fits, htwo] using fits
    rw [htwo, List.map_cons, List.map_singleton] at hread
    simp [Instr.rawBytes, Instr.size, Instr.operandSize, splitBytes, scan, harity, htwo,
      joinBytes_ofNat hsmall.1, joinBytes_ofNat hsmall.2, hread]

/-- Whether instructions fit, are those of the bytes from an address on, and are found at their
addresses. -/
def Found (address : Nat) (bytes : List UInt8) (located : List Instr) (positions : List Nat) : Prop :=
  ((∀ instr ∈ located, instr.Fits) ∧ located.flatMap Instr.rawBytes = bytes) ∧
    positions = addresses address located

/-- An instruction that is read from its code and small operands is found before those behind it. -/
theorem found_of_read {code : UInt8} {numbers : List Nat} {address next : Nat} {rest : List UInt8}
    {located : List Instr} {positions : List Nat}
    (takes : Instr.arity? code = some numbers.length) (small : ∀ number ∈ numbers, number < 65536)
    (next_eq : next = address + (1 + numbers.length * 2))
    (behind : ∀ {more later}, scan next rest = .ok (more, later) → Found next rest more later)
    (h : (do
      let instr ← readInstr code numbers address
      let (more, later) ← scan next rest
      pure (instr :: more, address :: later)) = .ok (located, positions)) :
    Found address (code :: (numbers.flatMap splitBytes ++ rest)) located positions := by
  obtain ⟨instr, hinstr, hfits, hbytes, hsize⟩ := Instr.exists_of_arity? takes small
  simp only [readInstr, hinstr, pure_bind, bind_eq_ok_iff, pure_eq_ok_iff, Prod.mk.injEq] at h
  obtain ⟨⟨more, later⟩, hmore, rfl, rfl⟩ := h
  obtain ⟨⟨hrest, rfl⟩, rfl⟩ := behind hmore
  exact ⟨⟨List.forall_mem_cons.mpr ⟨hfits, hrest⟩, by simp [hbytes]⟩,
    by simp [addresses, hsize, next_eq]⟩

/-- What scanning reads has operands that fit and the bytes that were scanned, and was found at its
addresses. -/
theorem found_of_scan {address : Nat} {bytes : List UInt8} {located : List Instr}
    {positions : List Nat} (h : scan address bytes = .ok (located, positions)) :
    Found address bytes located positions := by
  induction address, bytes using scan.induct generalizing located positions with
  | case1 address =>
    simp only [scan, pure_eq_ok_iff, Prod.mk.injEq] at h
    obtain ⟨rfl, rfl⟩ := h
    simp [Found, addresses]
  | case2 address code rest unknown =>
    simp [scan, unknown] at h
  | case3 address code rest arity ih =>
    simp only [scan, arity] at h
    exact found_of_read arity (by simp) rfl ih h
  | case4 address code high low rest arity ih =>
    simp only [scan, arity] at h
    simpa [splitBytes_joinBytes] using found_of_read arity (by simp [joinBytes_lt]) rfl ih h
  | case5 address code high low high' low' rest arity ih =>
    simp only [scan, arity] at h
    simpa [splitBytes_joinBytes] using found_of_read arity (by simp [joinBytes_lt]) rfl ih h
  | case6 address code rest count nonzero arity hone htwo =>
    simp [scan, arity] at h

/-- Scanning reads a program exactly from the bytes of its instructions, and finds it at its
addresses. -/
theorem scan_eq_ok_iff {address : Nat} {bytes : List UInt8} {located : List Instr}
    {positions : List Nat} :
    scan address bytes = .ok (located, positions) ↔
      ((∀ instr ∈ located, instr.Fits) ∧ located.flatMap Instr.rawBytes = bytes) ∧
        positions = addresses address located := by
  refine ⟨found_of_scan, ?_⟩
  rintro ⟨⟨fits, rfl⟩, rfl⟩
  induction located generalizing address with
  | nil => rfl
  | cons instr rest ih =>
    obtain ⟨hinstr, hrest⟩ := List.forall_mem_cons.mp fits
    rw [List.flatMap_cons, scan_rawBytes_append hinstr, ih hrest]
    rfl

/-- Addresses of later instructions are not below the address at which a program begins. -/
theorem le_of_mem_addresses {address start : Nat} {program : List Instr}
    (h : address ∈ addresses start program) : start ≤ address := by
  induction program generalizing start with
  | nil => simp_all [addresses]
  | cons instr rest ih =>
    rcases List.mem_cons.mp h with rfl | hrest
    · exact Nat.le_refl _
    · exact Nat.le_trans (Nat.le_add_right _ _) (ih hrest)

/-- The table of addresses grows strictly. -/
theorem addresses_pairwise_lt (start : Nat) (program : List Instr) :
    (addresses start program).Pairwise (· < ·) := by
  induction program generalizing start with
  | nil => simp [addresses]
  | cons instr rest ih =>
    refine List.pairwise_cons.mpr ⟨fun address hmem => ?_, ih _⟩
    have hlater := le_of_mem_addresses hmem
    have hsize : 0 < instr.size := by unfold Instr.size; omega
    omega

/-- Programs of the same sizes have the same addresses. -/
theorem addresses_eq_of_forall₂_size {start : Nat} {program located : List Instr}
    (h : List.Forall₂ (fun instr other => other.size = instr.size) program located) :
    addresses start located = addresses start program := by
  induction h generalizing start with
  | nil => rfl
  | cons hsize _ ih => simp only [addresses, hsize, ih]

/-- A list without repetitions holds a number under an index exactly if the number is found there. -/
theorem idxOf?_eq_some_iff_of_nodup {numbers : List Nat} (nodup : numbers.Nodup)
    (number index : Nat) :
    numbers.idxOf? number = some index ↔ numbers[index]? = some number := by
  induction numbers generalizing index with
  | nil => simp
  | cons first rest ih =>
    obtain ⟨hfirst, hrest⟩ := List.nodup_cons.mp nodup
    by_cases same : first = number
    · subst same
      cases index with
      | zero => simp [List.idxOf?_cons]
      | succ index =>
        have habsent : rest[index]? ≠ some first := fun found => hfirst (List.mem_of_getElem? found)
        simp [List.idxOf?_cons, habsent]
    · cases index with
      | zero => simp [List.idxOf?_cons, same]
      | succ index => simp [List.idxOf?_cons, same, ih hrest]

/-- An instruction is resolved to another one exactly if it locates that one. -/
theorem resolveTarget_eq_ok_iff {start : Nat} {program : List Instr} {located instr : Instr} :
    resolveTarget (addresses start program) located = .ok instr ↔
      instr.LocatedAs (addresses start program) located := by
  have hfind := idxOf?_eq_some_iff_of_nodup ((addresses_pairwise_lt start program).imp Nat.ne_of_lt)
  cases htarget : located.target? with
  | none =>
    cases hinstr : instr.target? with
    | none =>
      simp only [resolveTarget, Instr.LocatedAs, htarget, hinstr, pure_eq_ok_iff]
      exact eq_comm
    | some index =>
      have hjump (address : Nat) : instr.withTarget address ≠ located := by
        rintro rfl
        simp [hinstr] at htarget
      have hdiffers : located ≠ instr := by
        rintro rfl
        simp [htarget] at hinstr
      simp [resolveTarget, Instr.LocatedAs, htarget, hinstr, hjump, hdiffers]
  | some address =>
    constructor
    · intro h
      cases hindex : (addresses start program).idxOf? address with
      | none => simp [resolveTarget, htarget, hindex] at h
      | some index =>
        simp only [resolveTarget, htarget, hindex, pure_eq_ok_iff] at h
        subst h
        simp [Instr.LocatedAs, htarget, (hfind address index).mp hindex, Instr.withTarget_self htarget]
    · intro h
      unfold Instr.LocatedAs at h
      cases hinstr : instr.target? with
      | none =>
        simp only [hinstr] at h
        simp [← h, hinstr] at htarget
      | some index =>
        simp only [hinstr] at h
        obtain ⟨found, hfound, rfl⟩ := h
        obtain rfl : found = address := by simpa [hinstr] using htarget
        simp [resolveTarget, hinstr, (hfind found index).mpr hfound, Instr.withTarget_self hinstr]

/-- A program is resolved exactly from the located program. -/
theorem resolveTargets_eq_ok_iff {start : Nat} {program located resolved : List Instr} :
    resolveTargets (addresses start program) located = .ok resolved ↔
      List.Forall₂ (Instr.LocatedAs (addresses start program)) resolved located := by
  induction located generalizing resolved with
  | nil => simp [resolveTargets, eq_comm (a := [])]
  | cons instr rest ih =>
    simp only [resolveTargets, bind_eq_ok_iff, ih, pure_eq_ok_iff, resolveTarget_eq_ok_iff,
      List.forall₂_cons_right_iff]
    grind

/-- Bytes stand for a program exactly if they are the encoding of the program. -/
theorem decode_eq_ok_iff_encode_eq_ok (bytes : List UInt8) (program : List Instr) :
    decode bytes = .ok program ↔ encode program = .ok bytes := by
  have hsame {located : List Instr} {table : List Nat}
      (h : List.Forall₂ (Instr.LocatedAs table) program located) :
      addresses 0 located = addresses 0 program :=
    addresses_eq_of_forall₂_size (h.imp fun _ _ => Instr.LocatedAs.size_eq)
  simp only [decode, encode, bind_eq_ok_iff, Prod.exists, scan_eq_ok_iff, and_assoc, exists_and_left,
    exists_eq_left, resolveTargets_eq_ok_iff, encodeFrom_eq_ok_iff]
  constructor
  · rintro ⟨located, hfits, hbytes, hlocated⟩
    exact ⟨located, hsame hlocated ▸ hlocated, hfits, hbytes⟩
  · rintro ⟨located, hlocated, hfits, hbytes⟩
    exact ⟨located, hfits, hbytes, (hsame hlocated).symm ▸ hlocated⟩

end Bytecode

end TemplateMachine
