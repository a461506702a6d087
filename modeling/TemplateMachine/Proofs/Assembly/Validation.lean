import TemplateMachine.Proofs.Assembly.Calls
import TemplateMachine.Proofs.Bounds.Rendering
import TemplateMachine.Proofs.Program.FirstOperand

/-!
# What a builder refuses

A draft is built exactly if the names of its arguments, those that an anonymous template receives
included, are different identifiers and every operand of its program refers to something. What is
refused first is the first argument that offends, and only if there is none the first operand that
does; an operand is reported with its place in the source if that is known and lies in it.
-/

namespace TemplateMachine

namespace Draft

/-- The names of the arguments of a template for which some names were declared. An anonymous one
receives the implicit argument if none was declared, and each index argument that was not. -/
def completedNames (anonymous : Bool) (declared : List String) : List String :=
  if anonymous then
    declared ++ (if declared = [] then [implicitArg] else []) ++ indexArgs.filter (· ∉ declared)
  else declared

/-- Arguments hold one of a name exactly if the name is one of theirs. -/
theorem any_name_eq_true_iff {args : List FormalArg} {name : String} :
    args.any (·.name == name) = true ↔ name ∈ args.map FormalArg.name := by
  simp

/-- An argument that is received unless one of that name is there has its name at the end then. -/
theorem map_name_received (args : List FormalArg) (name : String) :
    (if args.any (·.name == name) then args else appendArg args name none).map FormalArg.name =
      if name ∈ args.map FormalArg.name then args.map FormalArg.name
      else args.map FormalArg.name ++ [name] := by
  simp only [any_name_eq_true_iff, apply_ite (List.map FormalArg.name), appendArg, List.map_append,
    List.map_cons, List.map_nil]

/-- The completed arguments have the completed names. -/
theorem map_name_completeArgs (draft : Draft) : draft.completeArgs.map FormalArg.name =
    completedNames draft.anonymous (draft.args.map FormalArg.name) := by
  unfold completeArgs completedNames
  cases draft.anonymous with
  | false => rfl
  | true =>
    simp only [if_true, indexArgs, List.foldl_cons, List.foldl_nil, map_name_received]
    cases draft.args with
    | nil => simp [appendArg, implicitArg]
    | cons first rest =>
      have hne : (first :: rest).map FormalArg.name ≠ [] := by simp
      simp only [List.isEmpty_cons, Bool.false_eq_true, if_false]
      -- From here on only the names matter, and that there are some.
      generalize (first :: rest).map FormalArg.name = names at hne ⊢
      by_cases hi : "i" ∈ names <;> by_cases hi0 : "i0" ∈ names <;> simp_all

example : completedNames true [] = ["it", "i", "i0"] ∧
    completedNames true ["i0"] = ["i0", "i"] := by
  decide

/-- Names that may stand behind others: identifiers that differ from one another and from those. -/
structure MayFollow (identifiers : IdentifierClass) (before names : List String) : Prop where
  admitted : ∀ name ∈ names, identifiers.admits name = true
  nodup : names.Nodup
  fresh : ∀ name ∈ names, name ∉ before

variable {identifiers : IdentifierClass}

/-- Names may follow others exactly if the first one may and the rest may follow them and it. -/
theorem mayFollow_cons_iff {before rest : List String} {name : String} :
    MayFollow identifiers before (name :: rest) ↔ identifiers.admits name = true ∧
      name ∉ before ∧ MayFollow identifiers (before ++ [name]) rest := by
  constructor
  · rintro ⟨admitted, nodup, fresh⟩
    rw [List.forall_mem_cons] at admitted fresh
    rw [List.nodup_cons] at nodup
    refine ⟨admitted.1, fresh.1, admitted.2, nodup.2, fun other mem => ?_⟩
    rw [List.mem_append, List.mem_singleton, not_or]
    exact ⟨fresh.2 other mem, fun same => nodup.1 (same ▸ mem)⟩
  · rintro ⟨identifier, fresh, admitted, nodup, later⟩
    have hlater : ∀ other ∈ rest, other ∉ before ∧ other ≠ name := fun other mem => by
      simpa using later other mem
    exact ⟨List.forall_mem_cons.mpr ⟨identifier, admitted⟩,
      List.nodup_cons.mpr ⟨fun mem => (hlater name mem).2 rfl, nodup⟩,
      List.forall_mem_cons.mpr ⟨fresh, fun other mem => (hlater other mem).1⟩⟩

/-- Nothing stands before the first name. -/
theorem mayFollow_nil_iff {names : List String} :
    MayFollow identifiers [] names ↔
      (∀ name ∈ names, identifiers.admits name = true) ∧ names.Nodup :=
  ⟨fun h => ⟨h.admitted, h.nodup⟩, fun h => ⟨h.1, h.2, by simp⟩⟩

/-- What is wrong with the name of an argument of a template, given the names before it: it is no
identifier, or it is one that was declared before. -/
@[mk_iff]
inductive BadName (identifiers : IdentifierClass) (template : String) (before : List String)
    (name : String) : BuildError → Prop where
  | invalid (invalid : identifiers.admits name = false) :
    BadName identifiers template before name (.invalidArgName name template)
  | duplicate (identifier : identifiers.admits name = true) (declared : name ∈ before) :
    BadName identifiers template before name (.duplicateArg name template)

variable {template : String} {before args : List FormalArg} {error : BuildError}

/-- The first argument is in error if its name is bad, and if that may follow the names before, the
error is one of the rest. -/
theorem argError?_cons_eq_some_iff (arg : FormalArg) :
    argError? identifiers template before (arg :: args) = some error ↔
      BadName identifiers template (before.map FormalArg.name) arg.name error ∨
        identifiers.admits arg.name = true ∧ arg.name ∉ before.map FormalArg.name ∧
          argError? identifiers template (before ++ [arg]) args = some error := by
  simp only [argError?, badName_iff, any_name_eq_true_iff]
  cases identifier : identifiers.admits arg.name with
  | false => simp [eq_comm]
  | true => by_cases declared : arg.name ∈ before.map FormalArg.name <;> simp [declared, eq_comm]

/-- What is wrong with arguments is what is wrong with the first name that may not follow the ones
before it. -/
theorem argError?_eq_some_iff : argError? identifiers template before args = some error ↔
    ∃ earlier name later, args.map FormalArg.name = earlier ++ name :: later ∧
      MayFollow identifiers (before.map FormalArg.name) earlier ∧
      BadName identifiers template (before.map FormalArg.name ++ earlier) name error := by
  -- The names before are generalized: each name that is passed over becomes one of them.
  induction args generalizing before with
  | nil => simp [argError?]
  | cons arg rest ih =>
    rw [argError?_cons_eq_some_iff, ih, List.map_append, List.map_singleton, List.map_cons]
    constructor
    · rintro (bad | ⟨identifier, fresh, earlier, name, later, hnames, mayFollow, bad⟩)
      · exact ⟨[], arg.name, _, rfl, ⟨by simp, .nil, by simp⟩, by simpa using bad⟩
      · exact ⟨arg.name :: earlier, name, later, by rw [hnames]; rfl,
          mayFollow_cons_iff.mpr ⟨identifier, fresh, mayFollow⟩, by simpa using bad⟩
    · rintro ⟨earlier, name, later, hnames, mayFollow, bad⟩
      cases earlier with
      | nil =>
        obtain ⟨rfl, -⟩ := List.cons.inj hnames
        exact .inl (by simpa using bad)
      | cons first earlier =>
        obtain ⟨rfl, hrest⟩ := List.cons.inj hnames
        obtain ⟨identifier, fresh, mayFollow⟩ := mayFollow_cons_iff.mp mayFollow
        exact .inr ⟨identifier, fresh, earlier, name, later, hrest, mayFollow, by simpa using bad⟩

/-- There is no error in arguments exactly if their names may follow those before. -/
theorem argError?_eq_none_iff : argError? identifiers template before args = none ↔
    MayFollow identifiers (before.map FormalArg.name) (args.map FormalArg.name) := by
  induction args generalizing before with
  | nil => exact iff_of_true rfl ⟨by simp, .nil, by simp⟩
  | cons arg rest ih =>
    rw [List.map_cons, mayFollow_cons_iff, ← List.map_singleton, ← List.map_append, ← ih]
    simp only [argError?, any_name_eq_true_iff]
    cases identifiers.admits arg.name with
    | false => simp
    | true => by_cases declared : arg.name ∈ before.map FormalArg.name <;> simp [declared]

/-- What operands have to be that refer to something in a template with some texts, arguments and
instructions. A count refers to nothing. -/
structure InRange (poolSize argCount programSize : Nat) (operand : OperandKind × Nat) : Prop where
  text : operand.1 = .text → operand.2 < poolSize
  slot : operand.1 = .slot → operand.2 < argCount
  option : operand.1 = .option → operand.2 < WriteOption.count
  address : operand.1 = .address → operand.2 ≤ programSize

/-- An operand fits exactly if it is in range. -/
theorem operandFits_iff {poolSize argCount programSize : Nat} {operand : OperandKind × Nat} :
    operandFits poolSize argCount programSize operand = true ↔
      InRange poolSize argCount programSize operand := by
  obtain ⟨kind, n⟩ := operand
  constructor
  · intro fits
    constructor <;> rintro ⟨⟩ <;> simpa [operandFits] using fits
  · rintro ⟨text, slot, option, address⟩
    cases kind <;> simp_all [operandFits]

/-- How an operand is reported that refers to nothing: a jump whose target was never set is not
reported as one whose target is out of range. -/
theorem operandError_eq (instr : Instr) (ip : Nat) (operand : OperandKind × Nat) :
    operandError instr ip operand =
      if operand = (.address, unsetTarget) then .unsetJump instr.mnemonic ip
      else .operandOutOfRange operand.2 instr.mnemonic ip := by
  obtain ⟨kind, n⟩ := operand
  cases kind <;> simp [operandError]

variable {fits : OperandKind × Nat → Bool}

/-- What is found in operands is the first one that does not fit. -/
theorem find?_not_fits_eq_some_iff {operands : List (OperandKind × Nat)}
    {operand : OperandKind × Nat} :
    operands.find? (fun operand => !fits operand) = some operand ↔
      FirstAmong (¬ fits · = true) operands operand := by
  simp only [List.find?_eq_some_iff_append, FirstAmong, Bool.not_eq_true', Bool.not_eq_true,
    Bool.not_not, Bool.not_eq_false]
  exact ⟨fun ⟨unfit, earlier, later, h, hearlier⟩ => ⟨earlier, later, h, hearlier, unfit⟩,
    fun ⟨earlier, later, h, hearlier, unfit⟩ => ⟨unfit, earlier, later, h, hearlier⟩⟩

/-- What is wrong with a program is its first operand that does not fit. -/
theorem programError?_eq_some_iff {start place : Nat} {program : List Instr} {error : BuildError} :
    programError? fits start program = some (error, place) ↔
      ∃ ip instr operand, FirstOperand (¬ fits · = true) program ip instr operand ∧
        error = operandError instr (start + ip) operand ∧ place = start + ip := by
  induction program generalizing start with
  | nil => simp [programError?, not_firstOperand_nil]
  | cons instr rest ih =>
    rw [exists_firstOperand_cons_iff, programError?]
    simp only [← find?_not_fits_eq_some_iff]
    cases found : instr.operands.find? (fun operand => !fits operand) with
    | none =>
      have hfits : ∀ operand ∈ instr.operands, ¬ ¬ fits operand = true := by
        simpa using List.find?_eq_none.mp found
      simp only [ih, Nat.add_right_comm start 1, Nat.add_assoc start _ 1, and_iff_right hfits,
        reduceCtorEq, false_and, exists_false, false_or]
    | some operand =>
      have unfit : ¬ ∀ operand ∈ instr.operands, ¬ ¬ fits operand = true := fun hfits =>
        hfits operand (List.mem_of_find?_eq_some found) (by simpa using List.find?_some found)
      simp only [unfit, false_and, or_false, Option.some.injEq, exists_eq_left', Nat.add_zero,
        Prod.mk.injEq]
      exact and_congr eq_comm eq_comm

variable (draft : Draft)

/-- The site of an instruction is known if the source is, and the span of the instruction, and if
that lies in the source. -/
theorem site?_eq_some_iff {ip : Nat} {site : SourceSite} : draft.site? ip = some site ↔
    draft.source = some site.source ∧ draft.spans[ip]? = some (some site.span) ∧ site.source ≠ "" ∧
      site.span.stop ≤ site.source.utf8ByteSize := by
  unfold site?
  cases hsource : draft.source with
  | none => simp
  | some source =>
    cases hspan : draft.spans[ip]?.join with
    | none =>
      refine iff_of_false (by simp) fun ⟨_, h, _⟩ => ?_
      simp [h] at hspan
    | some span =>
      rw [Option.join_eq_some_iff] at hspan
      dsimp only
      rw [Option.ite_none_right_eq_some, hspan]
      constructor
      · rintro ⟨h, hsite⟩
        obtain rfl := Option.some.inj hsite
        simpa using h
      · rintro ⟨⟨⟩, ⟨⟩, hsource, hstop⟩
        exact ⟨by simpa using ⟨hsource, hstop⟩, rfl⟩

/-- Whether an operand fits the template that a draft stands for. -/
def accepts (draft : Draft) : OperandKind × Nat → Bool :=
  operandFits draft.pool.length draft.completeArgs.length draft.program.length

/-- A draft is built if nothing is wrong with its arguments and its program. -/
theorem exists_build_eq_ok_iff : (∃ template, draft.build identifiers = .ok template) ↔
    argError? identifiers draft.name [] draft.completeArgs = none ∧
      programError? draft.accepts 0 draft.program = none := by
  unfold build accepts
  dsimp only
  cases argError? identifiers draft.name [] draft.completeArgs with
  | some error => simp
  | none =>
    dsimp only
    split <;> simp [*]

/-- The arguments of a built template have names that nothing is wrong with. -/
theorem mayFollow_of_build_eq_ok {template : Template}
    (built : draft.build identifiers = .ok template) :
    MayFollow identifiers [] (template.args.map FormalArg.name) := by
  obtain ⟨hargs, -⟩ := draft.exists_build_eq_ok_iff.mp ⟨template, built⟩
  obtain ⟨rfl, -⟩ := eq_of_build_eq_ok built
  exact argError?_eq_none_iff.mp hargs

/-- The names of the arguments of a built template are identifiers. -/
theorem admits_of_build_eq_ok {template : Template}
    (built : draft.build identifiers = .ok template) :
    ∀ arg ∈ template.args, identifiers.admits arg.name = true :=
  fun arg mem =>
    (draft.mayFollow_of_build_eq_ok built).admitted arg.name (List.mem_map_of_mem mem)

/-- A draft that is not built is reported for what is wrong with its arguments, without a place, or
if that is nothing for what is wrong with its program, with the site of that. -/
theorem build_eq_error_iff {site? : Option SourceSite} :
    draft.build identifiers = .error (error, site?) ↔
    argError? identifiers draft.name [] draft.completeArgs = some error ∧ site? = none ∨
      argError? identifiers draft.name [] draft.completeArgs = none ∧
        ∃ ip, programError? draft.accepts 0 draft.program = some (error, ip) ∧
          site? = draft.site? ip := by
  unfold build accepts
  dsimp only
  cases argError? identifiers draft.name [] draft.completeArgs with
  | some error => simp [@eq_comm _ site?]
  | none =>
    dsimp only
    split <;> simp [*, @eq_comm _ site?, and_assoc]

namespace Opening

/-- For all calls on a builder, whatever counts as an identifier: it builds exactly if the names of
the arguments, completed for an anonymous template, are different identifiers and each operand of the
program refers to something. Else it reports the first name that offends, without a place, or if
there is none the first operand that does, with its site exactly if its instruction has a span, the
source is not empty and the span ends in it. -/
theorem build_assemble_iff (identifiers : IdentifierClass) (opening : Opening)
    (calls : List Call) :
    let draft := opening.assemble calls
    let names := completedNames opening.isAnonymous (calls.filterMap Call.argName?)
    let Refers := InRange draft.pool.length names.length draft.program.length
    ((∃ template, draft.build identifiers = .ok template) ↔
      ((∀ name ∈ names, identifiers.admits name = true) ∧ names.Nodup) ∧
        ∀ instr ∈ draft.program, ∀ operand ∈ instr.operands, Refers operand) ∧
    ∀ error site?, draft.build identifiers = .error (error, site?) ↔
      (∃ earlier name later, names = earlier ++ name :: later ∧
        ((∀ name ∈ earlier, identifiers.admits name = true) ∧ earlier.Nodup) ∧
        BadName identifiers opening.templateName earlier name error ∧ site? = none) ∨
      ((∀ name ∈ names, identifiers.admits name = true) ∧ names.Nodup) ∧
        ∃ ip instr operand, FirstOperand (¬ Refers ·) draft.program ip instr operand ∧
          (error = if operand = (.address, unsetTarget) then .unsetJump instr.mnemonic ip
            else .operandOutOfRange operand.2 instr.mnemonic ip) ∧
          ∀ site, site? = some site ↔
            draft.source = some site.source ∧ draft.spans[ip]? = some (some site.span) ∧
              site.source ≠ "" ∧ site.span.stop ≤ site.source.utf8ByteSize := by
  intro draft names Refers
  have hnames : draft.completeArgs.map FormalArg.name = names := by
    rw [map_name_completeArgs, anonymous_assemble, map_name_args_assemble]
  have hfits : ∀ operand, draft.accepts operand = true ↔ Refers operand := fun operand => by
    rw [accepts, operandFits_iff, ← List.length_map FormalArg.name, hnames]
  have hfine : argError? identifiers draft.name [] draft.completeArgs = none ↔
      (∀ name ∈ names, identifiers.admits name = true) ∧ names.Nodup := by
    rw [argError?_eq_none_iff, List.map_nil, hnames, mayFollow_nil_iff]
  constructor
  · simp only [exists_build_eq_ok_iff, hfine, programError?_eq_none_iff, hfits]
  · intro error site?
    rw [build_eq_error_iff]
    simp only [hfine]
    refine or_congr ?_ (and_congr_right fun _ => ?_)
    · rw [argError?_eq_some_iff, hnames, name_assemble, List.map_nil]
      simp only [mayFollow_nil_iff, List.nil_append, ← exists_and_right, and_assoc]
    · -- A site is the one of the instruction exactly if it is known where that is.
      have hsite (ip : Nat) := (@Option.ext_iff _ site? (draft.site? ip)).trans
        (forall_congr' fun site => iff_congr .rfl (site?_eq_some_iff draft))
      simp only [programError?_eq_some_iff, hfits, Nat.zero_add, operandError_eq, hsite]
      constructor
      · rintro ⟨place, ⟨ip, instr, operand, first, herror, hplace⟩, hsite⟩
        exact ⟨ip, instr, operand, first, herror, hplace ▸ hsite⟩
      · rintro ⟨ip, instr, operand, first, herror, hsite⟩
        exact ⟨ip, ⟨ip, instr, operand, first, herror, rfl⟩, hsite⟩

example : ((Opening.named "page").assemble [.withSource "{if (user)}", .withSpan (some ⟨5, 9⟩),
      .emitText .loadAttr "user", .emit (.brf unsetTarget)]).build unicodeIdentifiers =
    .error (.unsetJump "brf" 1, some ⟨"{if (user)}", ⟨5, 9⟩⟩) :=
  rfl

end Opening

end Draft

end TemplateMachine
