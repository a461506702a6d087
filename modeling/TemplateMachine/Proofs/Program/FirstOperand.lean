import TemplateMachine.Program.Instr

/-!
# The first that offends

Programs are checked in order, and so are the operands of each instruction; what is reported is the
first operand that offends. Here is said which one that is, independently of how it is looked for,
and how it is found instruction by instruction.
-/

namespace TemplateMachine

section Items

variable {α : Type} {Offends : α → Prop}

/-- An item is the first one of a list that offends. -/
def FirstAmong (Offends : α → Prop) (items : List α) (item : α) : Prop :=
  ∃ earlier later, items = earlier ++ item :: later ∧ (∀ other ∈ earlier, ¬ Offends other) ∧
    Offends item

/-- In an empty list there is nothing that offends. -/
theorem not_firstAmong_nil (item : α) : ¬ FirstAmong Offends [] item := by
  rintro ⟨earlier, later, h, -⟩
  simp at h

/-- The first item that offends is the head if that offends, and else the first one of the rest. -/
theorem firstAmong_cons_iff {head item : α} {rest : List α} :
    FirstAmong Offends (head :: rest) item ↔
      Offends head ∧ item = head ∨ ¬ Offends head ∧ FirstAmong Offends rest item := by
  constructor
  · rintro ⟨earlier, later, h, hearlier, hitem⟩
    cases earlier with
    | nil =>
      obtain ⟨rfl, rfl⟩ := List.cons.inj h
      exact .inl ⟨hitem, rfl⟩
    | cons first earlier =>
      obtain ⟨rfl, rfl⟩ := List.cons.inj h
      obtain ⟨hhead, hearlier⟩ := List.forall_mem_cons.mp hearlier
      exact .inr ⟨hhead, earlier, later, rfl, hearlier, hitem⟩
  · rintro (⟨hhead, rfl⟩ | ⟨hhead, earlier, later, rfl, hearlier, hitem⟩)
    · exact ⟨[], rest, rfl, by simp, hhead⟩
    · exact ⟨head :: earlier, later, rfl, List.forall_mem_cons.mpr ⟨hhead, hearlier⟩, hitem⟩

/-- The first item that offends has a property if the head offends and has it, or the head does not
offend and the first one of the rest has it. -/
theorem exists_firstAmong_cons_iff {head : α} {rest : List α} {Q : α → Prop} :
    (∃ item, FirstAmong Offends (head :: rest) item ∧ Q item) ↔
      Offends head ∧ Q head ∨ ¬ Offends head ∧ ∃ item, FirstAmong Offends rest item ∧ Q item := by
  constructor
  · rintro ⟨item, first, hQ⟩
    rcases firstAmong_cons_iff.mp first with ⟨hhead, rfl⟩ | ⟨hhead, hrest⟩
    · exact .inl ⟨hhead, hQ⟩
    · exact .inr ⟨hhead, item, hrest, hQ⟩
  · rintro (⟨hhead, hQ⟩ | ⟨hhead, item, hrest, hQ⟩)
    · exact ⟨head, firstAmong_cons_iff.mpr (.inl ⟨hhead, rfl⟩), hQ⟩
    · exact ⟨item, firstAmong_cons_iff.mpr (.inr ⟨hhead, hrest⟩), hQ⟩

/-- There is a first item that offends as soon as there is one that does. -/
theorem exists_firstAmong_iff {items : List α} :
    (∃ item, FirstAmong Offends items item) ↔ ∃ item ∈ items, Offends item := by
  induction items with
  | nil => simp [not_firstAmong_nil]
  | cons head rest ih =>
    simp only [firstAmong_cons_iff, exists_or, exists_eq_right, exists_and_left, ih,
      List.mem_cons, exists_eq_or_imp]
    by_cases hhead : Offends head <;> simp [hhead]

end Items

/-- An operand of the instruction at an index is the first one in program order that offends: none
of the instructions before has one, and none of the operands before it in its own instruction
does. -/
structure FirstOperand (Offends : OperandKind × Nat → Prop) (program : List Instr) (ip : Nat)
    (instr : Instr) (operand : OperandKind × Nat) : Prop where
  here : program[ip]? = some instr
  before : ∀ earlier ∈ program.take ip, ∀ other ∈ earlier.operands, ¬ Offends other
  first : FirstAmong Offends instr.operands operand

variable {Offends : OperandKind × Nat → Prop}

/-- In an empty program there is no operand that offends. -/
theorem not_firstOperand_nil (ip : Nat) (instr : Instr) (operand : OperandKind × Nat) :
    ¬ FirstOperand Offends [] ip instr operand := by
  intro h
  simpa using h.here

/-- The first operand that offends is in the head if one there offends, and else it is the first one
of the rest. -/
theorem exists_firstOperand_cons_iff {head : Instr} {rest : List Instr}
    {Q : Nat → Instr → OperandKind × Nat → Prop} :
    (∃ ip instr operand, FirstOperand Offends (head :: rest) ip instr operand ∧
      Q ip instr operand) ↔
      (∃ operand, FirstAmong Offends head.operands operand ∧ Q 0 head operand) ∨
        (∀ other ∈ head.operands, ¬ Offends other) ∧
          ∃ ip instr operand, FirstOperand Offends rest ip instr operand ∧
            Q (ip + 1) instr operand := by
  constructor
  · rintro ⟨ip, instr, operand, ⟨here, before, first⟩, hQ⟩
    cases ip with
    | zero =>
      obtain rfl : head = instr := by simpa using here
      exact .inl ⟨operand, first, hQ⟩
    | succ ip =>
      rw [List.take_succ_cons, List.forall_mem_cons] at before
      exact .inr ⟨before.1, ip, instr, operand, ⟨by simpa using here, before.2, first⟩, hQ⟩
  · rintro (⟨operand, first, hQ⟩ | ⟨hhead, ip, instr, operand, ⟨here, before, first⟩, hQ⟩)
    · exact ⟨0, head, operand, ⟨rfl, by simp, first⟩, hQ⟩
    · refine ⟨ip + 1, instr, operand, ⟨by simpa using here, ?_, first⟩, hQ⟩
      rw [List.take_succ_cons, List.forall_mem_cons]
      exact ⟨hhead, before⟩

/-- There is a first operand that offends as soon as there is one that does. -/
theorem exists_firstOperand_iff {program : List Instr} :
    (∃ ip instr operand, FirstOperand Offends program ip instr operand) ↔
      ∃ instr ∈ program, ∃ operand ∈ instr.operands, Offends operand := by
  induction program with
  | nil => simp [not_firstOperand_nil]
  | cons head rest ih =>
    have hcons := @exists_firstOperand_cons_iff Offends head rest fun _ _ _ => True
    simp only [and_true, ih, exists_firstAmong_iff] at hcons
    have hnone : (∀ other ∈ head.operands, ¬ Offends other) ↔
        ¬ ∃ operand ∈ head.operands, Offends operand := by
      simp only [not_exists, not_and]
    simp only [hcons, hnone, List.mem_cons, exists_eq_or_imp]
    exact or_and_left.trans (and_iff_right (Classical.em _))

end TemplateMachine
