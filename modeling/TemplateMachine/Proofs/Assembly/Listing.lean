import Mathlib.Data.List.Nodup
import TemplateMachine.Proofs.Assembly.Validation
import TemplateMachine.Proofs.Source.Lines
import TemplateMachine.Proofs.Text.Shown
import TemplateMachine.Template.Listing

/-!
# What a listing shows

A listing has one line for each instruction of a built template, and the program can be read off it.
Mnemonics are words of small letters and underscores, operands are numbers, and neither goes on
where it ends, whatever the pooled texts are. So a mnemonic is told from what stands behind it even
where it is wider than its column, and a number from the text that it stands for.

Of the way in which texts are quoted it matters only that it puts them in quotes and on one line.
Then the last character of a line is never one of the blanks that are removed, except for the
padding behind a mnemonic without operands.
-/

namespace TemplateMachine

/-! ### Mnemonics -/

/-- Whether a character may stand in a mnemonic: a small letter or an underscore. -/
def isWordChar (c : Char) : Bool :=
  let code := c.toNat
  (0x61 ≤ code && code ≤ 0x7a) || code == 0x5f

/-- No character of a word is a blank. -/
theorem isBlank_of_isWordChar {c : Char} (word : isWordChar c = true) : isBlank c = false := by
  cases blank : isBlank c with
  | false => rfl
  | true =>
    have hcodes : ∀ code ∈ blankCodes, (code < 0x61 ∨ 0x7a < code) ∧ code ≠ 0x5f := by decide
    have hcode := hcodes _ (toNat_mem_blankCodes blank)
    simp only [isWordChar, Bool.or_eq_true, Bool.and_eq_true, decide_eq_true_eq, beq_iff_eq] at word
    omega

namespace Instr

/-- An instruction of each code, with operands that are zero. -/
def shapes : List Instr :=
  (List.range 49).filterMap fun code => ofParts? (UInt8.ofNat code) []

/-- Every instruction is like one of these, up to its operands. -/
theorem exists_shape (instr : Instr) : ∃ shape ∈ shapes, shape.opcode = instr.opcode ∧
    shape.mnemonic = instr.mnemonic ∧
    shape.operands.map Prod.fst = instr.operands.map Prod.fst := by
  have hcode : instr.opcode.toNat < 49 := by
    unfold opcode
    split <;> decide
  obtain ⟨shape, known, hsame⟩ : ∃ shape, ofParts? instr.opcode [] = some shape ∧
      shape.opcode = instr.opcode ∧ shape.mnemonic = instr.mnemonic ∧
      shape.operands.map Prod.fst = instr.operands.map Prod.fst := by
    cases instr <;> exact ⟨_, rfl, rfl, rfl, rfl⟩
  refine ⟨shape, List.mem_filterMap.mpr ⟨_, List.mem_range.mpr hcode, ?_⟩, hsame⟩
  rw [UInt8.ofNat_toNat, known]

/-- Mnemonics are words, and there is something to them. -/
theorem isWordChar_of_mem_mnemonic (instr : Instr) :
    instr.mnemonic.toList ≠ [] ∧ ∀ c ∈ instr.mnemonic.toList, isWordChar c = true := by
  have hall : ∀ shape ∈ shapes, shape.mnemonic.toList ≠ [] ∧
      shape.mnemonic.toList.all isWordChar = true := by decide +kernel
  obtain ⟨shape, mem, -, hmnemonic, -⟩ := instr.exists_shape
  rw [← hmnemonic, ← List.all_eq_true]
  exact hall shape mem

/-- A mnemonic is shown. -/
theorem shown_mnemonic (instr : Instr) : Shown instr.mnemonic.toList :=
  .of_forall instr.isWordChar_of_mem_mnemonic.1 fun c mem =>
    isBlank_of_isWordChar (instr.isWordChar_of_mem_mnemonic.2 c mem)

/-- Instructions with the same mnemonic have the same code, and operands of the same kinds. -/
theorem opcode_eq_of_mnemonic_eq {instr other : Instr} (same : instr.mnemonic = other.mnemonic) :
    instr.opcode = other.opcode ∧
      instr.operands.map Prod.fst = other.operands.map Prod.fst := by
  have hdistinct : (shapes.map mnemonic).Nodup := by decide +kernel
  obtain ⟨shape, mem, hcode, hmnemonic, hkinds⟩ := instr.exists_shape
  obtain ⟨shape', mem', hcode', hmnemonic', hkinds'⟩ := other.exists_shape
  obtain rfl : shape = shape' :=
    List.inj_on_of_nodup_map hdistinct mem mem' (by rw [hmnemonic, hmnemonic', same])
  exact ⟨hcode ▸ hcode', hkinds ▸ hkinds'⟩

/-- Mnemonic and operands together determine an instruction. -/
theorem eq_of_mnemonic_eq {instr other : Instr} (mnemonics : instr.mnemonic = other.mnemonic)
    (operands : instr.operands = other.operands) : instr = other := by
  have hparts := ofParts?_opcode instr
  rw [(opcode_eq_of_mnemonic_eq mnemonics).1, operands, ofParts?_opcode] at hparts
  exact (Option.some.inj hparts).symm

end Instr

/-! ### Operands -/

/-- What stands in front of the number of an operand. -/
def operandMark : OperandKind → List Char
  | .text => ['#']
  | _ => []

/-- Numbers are told apart by their digits. -/
theorem toDigits_ten_inj {n m : Nat} (same : Nat.toDigits 10 n = Nat.toDigits 10 m) : n = m := by
  have hvalue := congrArg (Nat.ofDigitChars 10 · 0) same
  simpa only [Nat.ofDigitChars_ten_toDigits] using hvalue

/-- The decimal digits of a number are digits. -/
theorem isDigit_of_mem_toDigits (n : Nat) : ∀ c ∈ Nat.toDigits 10 n, c.isDigit = true :=
  fun _ => Nat.isDigit_of_mem_toDigits (by decide) (by decide)

namespace Template

/-- What stands behind the number of an operand: what it stands for, if it is a text or a slot. -/
def operandLabel (template : Template) (quote : String → String) : OperandKind × Nat → List Char
  | (.text, n) => ':' :: ((template.pool[n]?).elim "<bad string index>" quote).toList
  | (.slot, n) => ':' :: ((template.args[n]?).elim "<bad slot>" FormalArg.name).toList
  | _ => []

/-- The operands of an instruction in a listing. -/
def listedOperands (template : Template) (quote : String → String) (instr : Instr) : List Char :=
  (", ".intercalate (instr.operands.map (template.operandText quote))).toList

/-- What stands behind the mnemonic of an instruction, without the padding if nothing else does. -/
def listedTail (template : Template) (quote : String → String) (instr : Instr) : List Char :=
  if instr.operands = [] then []
  else List.replicate (14 - instr.mnemonic.toList.length) ' ' ++ template.listedOperands quote instr

/-- What is shown of an instruction in a listing. -/
def listedLine (template : Template) (quote : String → String) (ip : Nat) (instr : Instr) :
    List Char :=
  listingIndex ip ++ ([':', '\t'] ++ (instr.mnemonic.toList ++ template.listedTail quote instr))

/-- The line of an instruction in a listing, without the blanks at its end. -/
def listingLine (template : Template) (quote : String → String) (ip : Nat) (instr : Instr) :
    List Char :=
  trimEndChars (template.listingEntry quote ip instr)

variable {template other : Template} {quote : String → String} {instr : Instr} {rest : List Char}

/-- An operand is a number with a mark in front of it and a label behind it. -/
theorem toList_operandText (operand : OperandKind × Nat) :
    (template.operandText quote operand).toList = operandMark operand.1 ++
      (Nat.toDigits 10 operand.2 ++ template.operandLabel quote operand) := by
  obtain ⟨kind, n⟩ := operand
  cases kind with
  | text =>
    cases found : template.pool[n]? <;>
      simp [operandText, operandMark, operandLabel, found] <;> rfl
  | slot =>
    cases found : template.args[n]? <;>
      simp [operandText, operandMark, operandLabel, found] <;> rfl
  | _ => simp [operandText, operandMark, operandLabel]

/-- A label does not go on the number of the operand. -/
theorem stops_operandLabel (operand : OperandKind × Nat) (stop : Stops Char.isDigit rest) :
    Stops Char.isDigit (template.operandLabel quote operand ++ rest) := by
  obtain ⟨kind, n⟩ := operand
  cases kind <;> first | exact stop | (rintro c ⟨⟩; rfl)

/-- An operand does not go on a word. -/
theorem stops_operandText (operand : OperandKind × Nat) (rest : List Char) :
    Stops isWordChar ((template.operandText quote operand).toList ++ rest) := by
  have hword : "0123456789".toList.all (fun c => !isWordChar c) = true := by decide
  obtain ⟨d, digits, hdigits⟩ : ∃ d digits, Nat.toDigits 10 operand.2 = d :: digits :=
    List.exists_cons_of_ne_nil Nat.toDigits_ne_nil
  have hdigit : isWordChar d = false := by
    simpa using List.all_eq_true.mp hword d (toDigits_ten_subset operand.2 (by simp [hdigits]))
  rw [toList_operandText, hdigits]
  obtain ⟨kind, n⟩ := operand
  cases kind <;> rintro c ⟨⟩ <;> first | exact hdigit | rfl

/-- The number of an operand can be read off whatever it stands for. -/
theorem number_eq_of_operandText_append {kind : OperandKind} {n m : Nat} {rest' : List Char}
    (stop : Stops Char.isDigit rest) (stop' : Stops Char.isDigit rest')
    (same : (template.operandText quote (kind, n)).toList ++ rest =
      (other.operandText quote (kind, m)).toList ++ rest') : n = m := by
  simp only [toList_operandText, List.append_assoc, List.append_cancel_left_eq] at same
  exact toDigits_ten_inj (run_unique (isDigit_of_mem_toDigits n) (stops_operandLabel _ stop)
    (isDigit_of_mem_toDigits m) (stops_operandLabel _ stop') same).1

/-- An instruction without operands shows none. -/
theorem listedOperands_nil (operands : instr.operands = []) :
    template.listedOperands quote instr = [] := by
  simp [listedOperands, operands]

/-- An instruction with one operand shows that. -/
theorem listedOperands_singleton {operand : OperandKind × Nat}
    (operands : instr.operands = [operand]) :
    template.listedOperands quote instr = (template.operandText quote operand).toList := by
  simp [listedOperands, operands]

/-- An instruction with two operands shows both, with a comma between them. -/
theorem listedOperands_pair {first second : OperandKind × Nat}
    (operands : instr.operands = [first, second]) :
    template.listedOperands quote instr = (template.operandText quote first).toList ++
      ([',', ' '] ++ (template.operandText quote second).toList) := by
  simp [listedOperands, operands]

/-- A count is shown as its digits. -/
theorem toList_operandText_count (n : Nat) :
    (template.operandText quote (.count, n)).toList = Nat.toDigits 10 n := by
  simp [toList_operandText, operandMark, operandLabel]

/-- What stands behind a mnemonic does not go on it. -/
theorem stops_listedTail : Stops isWordChar (template.listedTail quote instr) := by
  unfold listedTail
  split
  case isTrue => simp [Stops]
  case isFalse operands =>
    cases 14 - instr.mnemonic.toList.length with
    | succ _ => rintro c ⟨⟩; rfl
    | zero =>
      rcases instr.operands_shape with none | ⟨operand, one⟩ | ⟨index, count, two⟩
      · contradiction
      · simpa [listedOperands_singleton one] using stops_operandText operand []
      · simpa [listedOperands_pair two] using stops_operandText (.text, index) _

/-- Operands of the same kinds that show the same are the same. -/
theorem operands_eq_of_listedOperands_eq {instr' : Instr}
    (kinds : instr.operands.map Prod.fst = instr'.operands.map Prod.fst)
    (same : template.listedOperands quote instr = other.listedOperands quote instr') :
    instr.operands = instr'.operands := by
  rcases instr.operands_shape with none | ⟨⟨kind, n⟩, one⟩ | ⟨index, count, two⟩
  · rw [none, List.map_nil, eq_comm, List.map_eq_nil_iff] at kinds
    rw [none, kinds]
  · rw [one, List.map_singleton, eq_comm, List.map_eq_singleton_iff] at kinds
    obtain ⟨⟨_, m⟩, one', rfl⟩ := kinds
    rw [listedOperands_singleton one, listedOperands_singleton one'] at same
    have hend : Stops Char.isDigit [] := by simp [Stops]
    obtain rfl : n = m :=
      number_eq_of_operandText_append hend hend (by rw [List.append_nil, List.append_nil, same])
    rw [one, one']
  · rcases instr'.operands_shape with none' | ⟨operand, one'⟩ | ⟨index', count', two'⟩
    · simp [two, none'] at kinds
    · simp [two, one'] at kinds
    rw [listedOperands_pair two, listedOperands_pair two'] at same
    have hcomma (rest : List Char) : Stops Char.isDigit ([',', ' '] ++ rest) := by
      rintro c ⟨⟩
      rfl
    obtain rfl : index = index' := number_eq_of_operandText_append (hcomma _) (hcomma _) same
    -- The count is the run of digits at the end, whatever the text is.
    have hdigits (n : Nat) : ∀ c ∈ (Nat.toDigits 10 n).reverse, c.isDigit = true := by
      simpa using isDigit_of_mem_toDigits n
    have hblank (rest : List Char) : Stops Char.isDigit (' ' :: rest) := by
      rintro c ⟨⟩
      rfl
    have hreverse := congrArg List.reverse same
    simp only [toList_operandText_count, List.reverse_append, List.append_assoc] at hreverse
    have hcount := (run_unique (hdigits _) (hblank _) (hdigits _) (hblank _) hreverse).1
    obtain rfl : count = count' := toDigits_ten_inj (List.reverse_inj.mp hcount)
    rw [two, two']

/-- Behind mnemonics that are the same, operands that show the same are the same, and so are the
instructions. -/
theorem eq_of_listed_eq {instr' : Instr}
    (same : instr.mnemonic.toList ++ template.listedTail quote instr =
      instr'.mnemonic.toList ++ other.listedTail quote instr') : instr = instr' := by
  obtain ⟨hword, htail⟩ := run_unique instr.isWordChar_of_mem_mnemonic.2 stops_listedTail
    instr'.isWordChar_of_mem_mnemonic.2 stops_listedTail same
  have hmnemonic : instr.mnemonic = instr'.mnemonic := String.toList_inj.mp hword
  obtain ⟨-, hkinds⟩ := Instr.opcode_eq_of_mnemonic_eq hmnemonic
  refine Instr.eq_of_mnemonic_eq hmnemonic ?_
  have hnone : instr.operands = [] ↔ instr'.operands = [] := by
    rw [← List.map_eq_nil_iff, hkinds, List.map_eq_nil_iff]
  by_cases none : instr.operands = []
  · rw [none, hnone.mp none]
  · rw [listedTail, if_neg none, listedTail, if_neg (mt hnone.mpr none), hmnemonic] at htail
    exact operands_eq_of_listedOperands_eq hkinds (List.append_cancel_left htail)

/-- What a listing says of an instruction is what is shown of it, and blanks. -/
theorem exists_listingEntry_eq (template : Template) (quote : String → String) (ip : Nat)
    (instr : Instr) : ∃ blanks, (∀ c ∈ blanks, isBlank c = true) ∧
      template.listingEntry quote ip instr = template.listedLine quote ip instr ++ blanks := by
  have hentry : template.listingEntry quote ip instr = listingIndex ip ++ [':', '\t'] ++
      padRight 14 instr.mnemonic.toList ++ template.listedOperands quote instr := rfl
  rw [hentry, padRight, listedLine, listedTail]
  split
  case isTrue operands =>
    refine ⟨List.replicate (14 - instr.mnemonic.toList.length) ' ', fun c mem => ?_, ?_⟩
    · rw [List.eq_of_mem_replicate mem]
      decide
    · simp [listedOperands_nil operands]
  case isFalse => exact ⟨[], by simp, by simp⟩

section Shown

variable (quotation : Quotation quote)
  (names : ∀ arg ∈ template.args, Shown arg.name.toList)

include quotation names

/-- There is no label, or what it says is shown. -/
theorem operandLabel_eq_nil_or_shown (operand : OperandKind × Nat) :
    template.operandLabel quote operand = [] ∨
      ∃ label, template.operandLabel quote operand = ':' :: label ∧ Shown label := by
  obtain ⟨kind, n⟩ := operand
  cases kind with
  | text =>
    refine Or.inr ⟨_, rfl, ?_⟩
    cases template.pool[n]? with
    | none =>
      change Shown "<bad string index>".toList
      exact ⟨by decide, "<bad string index".toList, '>', by decide, by decide⟩
    | some text => exact quotation.shown text
  | slot =>
    refine Or.inr ⟨_, rfl, ?_⟩
    cases found : template.args[n]? with
    | none =>
      change Shown "<bad slot>".toList
      exact ⟨by decide, "<bad slot".toList, '>', by decide, by decide⟩
    | some arg => exact names arg (List.mem_of_getElem? found)
  | _ => exact Or.inl rfl

/-- An operand is shown. -/
theorem shown_operandText (operand : OperandKind × Nat) :
    Shown (template.operandText quote operand).toList := by
  have hmark : '\n' ∉ operandMark operand.1 := by
    cases operand.1 <;> decide
  have hdigits := shown_toDigits operand.2
  rw [toList_operandText]
  refine Shown.append_left ?_ hmark
  obtain hnone | ⟨label, hlabel, shown⟩ :=
    operandLabel_eq_nil_or_shown quotation names operand
  · rwa [hnone, List.append_nil]
  · rw [hlabel]
    have hcolon : Shown (':' :: label) := shown.append_left (by decide : '\n' ∉ [':'])
    exact hcolon.append_left hdigits.unbroken

/-- The operands of an instruction are shown if there are any. -/
theorem shown_listedOperands (operands : instr.operands ≠ []) :
    Shown (template.listedOperands quote instr) := by
  have hoperand (operand : OperandKind × Nat) := shown_operandText quotation names operand
  rcases instr.operands_shape with none | ⟨operand, one⟩ | ⟨index, count, two⟩
  · contradiction
  · rw [listedOperands_singleton one]
    exact hoperand operand
  · rw [listedOperands_pair two]
    exact ((hoperand _).append_left (by decide)).append_left (hoperand _).unbroken

/-- A mnemonic is shown with what stands behind it. -/
theorem shown_mnemonic_append (instr : Instr) :
    Shown (instr.mnemonic.toList ++ template.listedTail quote instr) := by
  have hmnemonic := instr.shown_mnemonic
  unfold listedTail
  split
  case isTrue => rwa [List.append_nil]
  case isFalse operands =>
    refine Shown.append_left (Shown.append_left ?_ ?_) hmnemonic.unbroken
    · exact shown_listedOperands quotation names operands
    · intro mem
      exact absurd (List.eq_of_mem_replicate mem) (by decide)

/-- What is shown of an instruction stands on one line and does not end in a blank. -/
theorem shown_listedLine (ip : Nat) (instr : Instr) : Shown (template.listedLine quote ip instr) := by
  refine Shown.append_left ?_ ?_
  · exact (shown_mnemonic_append quotation names instr).append_left (by decide)
  · intro mem
    rcases List.mem_append.mp mem with zero | digit
    · exact absurd (List.eq_of_mem_replicate zero) (by decide)
    · exact (shown_toDigits ip).unbroken digit

/-- With the blanks at its end removed, a listing is continued by what is shown of an instruction. -/
theorem trimEndChars_append_listingEntry (listing : List Char) (ip : Nat) (instr : Instr) :
    trimEndChars (listing ++ template.listingEntry quote ip instr) =
      listing ++ template.listedLine quote ip instr := by
  obtain ⟨blanks, hblanks, hentry⟩ := template.exists_listingEntry_eq quote ip instr
  rw [hentry, (shown_listedLine quotation names ip instr).trimEndChars_append hblanks]

/-- The line of an instruction is what is shown of it. -/
theorem listingLine_eq (ip : Nat) (instr : Instr) :
    template.listingLine quote ip instr = template.listedLine quote ip instr :=
  trimEndChars_append_listingEntry quotation names [] ip instr

/-- A listing is continued by the lines of the instructions. -/
theorem listingFrom_eq (listing : List Char) (ip : Nat) (program : List Instr) :
    template.listingFrom quote listing ip program = listing ++
      ended (program.mapIdx fun offset => template.listingLine quote (ip + offset)) := by
  induction program generalizing listing ip with
  | nil => simp [listingFrom]
  | cons instr rest ih =>
    rw [listingFrom, trimEndChars_append_listingEntry quotation names,
      ← listingLine_eq quotation names, ih]
    simp [List.mapIdx_cons, Nat.add_assoc, Nat.add_comm 1]

/-- A listing is the lines of the instructions. -/
theorem toList_listingBy : (template.listingBy quote).toList =
    ended (template.program.mapIdx (template.listingLine quote)) := by
  simp [listingBy, listingFrom_eq quotation names]

/-- The lines of a listing are shown. -/
theorem shown_of_mem_lines {line : List Char}
    (mem : line ∈ template.program.mapIdx (template.listingLine quote)) : Shown line := by
  obtain ⟨ip, hip, rfl⟩ := List.mem_mapIdx.mp mem
  rw [listingLine_eq quotation names]
  exact shown_listedLine quotation names ip _

end Shown

section

variable (quotation : Quotation quote)
  (names : ∀ arg ∈ template.args, Shown arg.name.toList)
  (names' : ∀ arg ∈ other.args, Shown arg.name.toList)

include quotation names names'

/-- Lines of the same number in two listings that are the same are of the same instruction. -/
theorem eq_of_listingLine_eq {ip : Nat} {instr' : Instr}
    (same : template.listingLine quote ip instr = other.listingLine quote ip instr') :
    instr = instr' := by
  rw [listingLine_eq quotation names, listingLine_eq quotation names'] at same
  exact eq_of_listed_eq (List.append_cancel_left (List.append_cancel_left same))

/-- Listings that are the same are of the same program. -/
theorem program_eq_of_listingBy_eq (same : template.listingBy quote = other.listingBy quote) :
    template.program = other.program := by
  have hlines : template.program.mapIdx (template.listingLine quote) =
      other.program.mapIdx (other.listingLine quote) := by
    refine ended_inj (fun _ mem => (shown_of_mem_lines quotation names mem).unbroken)
      (fun _ mem => (shown_of_mem_lines quotation names' mem).unbroken) ?_
    rw [← toList_listingBy quotation names, same, toList_listingBy quotation names']
  have hlength : template.program.length = other.program.length := by
    simpa using congrArg List.length hlines
  refine List.ext_getElem hlength fun ip hip hip' => ?_
  have hline : template.listingLine quote ip template.program[ip] =
      other.listingLine quote ip other.program[ip] := by
    simpa [hip, hip'] using congrArg (·[ip]?) hlines
  exact eq_of_listingLine_eq quotation names names' hline

end

end Template

/-- The names of the arguments of a built template are shown if there are no blanks in identifiers. -/
theorem Draft.shown_names {identifiers : IdentifierClass} (solid : identifiers.Solid) {draft : Draft}
    {template : Template} (built : draft.build identifiers = .ok template) :
    ∀ arg ∈ template.args, Shown arg.name.toList :=
  fun arg mem => solid.shown (draft.admits_of_build_eq_ok built arg mem)

/-- The listing of a built template is one line for each instruction, in order and with a newline
behind it, whatever the pooled texts are, as long as these are put in quotes and on one line, and
whatever counts as an identifier, as long as no blank is in one. A line has no newline in it and does
not end in a blank. Two built templates with the same listing have the same program. -/
theorem Draft.listingBy_faithful {quote : String → String} (quotation : Quotation quote)
    {identifiers : IdentifierClass} (solid : identifiers.Solid) {draft : Draft} {template : Template}
    (built : draft.build identifiers = .ok template) :
    let lines := template.program.mapIdx (template.listingLine quote)
    (template.listingBy quote).toList = ended lines ∧
    (∀ line ∈ lines, '\n' ∉ line ∧ ∃ c ∈ line.getLast?, isBlank c = false) ∧
    ∀ draft' : Draft, ∀ other, draft'.build identifiers = .ok other →
      other.listingBy quote = template.listingBy quote → other.program = template.program := by
  intro lines
  have names := draft.shown_names solid built
  refine ⟨Template.toList_listingBy quotation names, fun line mem => ?_,
    fun draft' other built' same => ?_⟩
  · obtain ⟨free, before, c, rfl, solid⟩ := Template.shown_of_mem_lines quotation names mem
    exact ⟨free, c, by simp, solid⟩
  · exact Template.program_eq_of_listingBy_eq quotation (draft'.shown_names solid built') names same

/-- A draft that writes its argument and an instance of an imported template, whose name is a text of
two lines with quotes. -/
def ledgerDraft : Draft :=
  ((((Draft.named "ledger").arg "item" none).emit (.writeLocal 0)).emitText .superNewBoxArgs
    "a\n\"b\"").emit .write

/-- What it is built into. -/
def ledgerTemplate : Template :=
  { Template.blank "ledger" with
    program := [.writeLocal 0, .superNewBoxArgs 0, .write]
    pool := ["a\n\"b\""]
    args := [⟨"item", 0, none⟩]
    hasFormalArgs := true
    spans := [none, none, none] }

/-- Its listing has three lines, in the second of which the mnemonic leaves no room for padding, and
no built template with another program has this listing. -/
theorem ledger_listing :
    ledgerTemplate.listing = "0000:\twrite_local   0:item\n" ++
      "0001:\tsuper_new_box_args#0:\"a\\n\\\"b\\\"\"\n" ++ "0002:\twrite\n" ∧
    (∀ draft' : Draft, ∀ other, draft'.build unicodeIdentifiers = .ok other →
      other.listing = ledgerTemplate.listing →
      other.program = [.writeLocal 0, .superNewBoxArgs 0, .write]) := by
  have hbuilt : ledgerDraft.build unicodeIdentifiers = .ok ledgerTemplate := rfl
  exact ⟨by decide +kernel,
    (Draft.listingBy_faithful quotation_quoted solid_unicodeIdentifiers hbuilt).2.2⟩

end TemplateMachine
