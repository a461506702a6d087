import TemplateMachine.Render.WriteOption
import TemplateMachine.Text.Identifier

/-!
# Assembling templates

A draft collects arguments, texts and instructions and is checked as a whole when it is built. Texts
are pooled without duplicates, forward jumps are set when their target is known, and every
instruction remembers the source span that was in force when it was emitted. What counts as an
identifier is not known here, and the check is told. A built template has no identity yet.
-/

namespace TemplateMachine

/-- Why a draft is no template. -/
inductive BuildError where
  | invalidArgName (arg template : String)
  | duplicateArg (arg template : String)
  | unsetJump (mnemonic : String) (ip : Nat)
  | operandOutOfRange (operand : Nat) (mnemonic : String) (ip : Nat)
deriving DecidableEq, Repr

/-- The wording of a build error. -/
def BuildError.message : BuildError → String
  | .invalidArgName arg template =>
    "invalid argument name `" ++ arg ++ "` in template `" ++ template ++ "`"
  | .duplicateArg arg template =>
    "argument `" ++ arg ++ "` declared twice in template `" ++ template ++ "`"
  | .unsetJump mnemonic ip => "unpatched jump `" ++ mnemonic ++ s!"` at {ip}"
  | .operandOutOfRange operand mnemonic ip =>
    s!"operand {operand} of `" ++ mnemonic ++ s!"` at {ip} is out of range"

/-- The name under which a region of a template is registered. -/
def regionName (enclosing name : String) : String :=
  "region__" ++ enclosing ++ "__" ++ name

/-- A template that is being assembled. -/
structure Draft where
  name : String
  anonymous : Bool
  region : Bool
  program : List Instr
  pool : List String
  args : List FormalArg
  hasFormalArgs : Bool
  subtemplates : List Template
  source : Option String
  spans : List (Option Span)
  span : Option Span

namespace Draft

/-- An empty draft of a named template. -/
def named (name : String) : Draft where
  name := name
  anonymous := false
  region := false
  program := []
  pool := []
  args := []
  hasFormalArgs := false
  subtemplates := []
  source := none
  spans := []
  span := none

/-- An empty draft of an anonymous template. -/
def ofAnonymous (name : String) : Draft :=
  { named name with anonymous := true }

/-- An empty draft of a region of an enclosing template. -/
def ofRegion (enclosing name : String) : Draft :=
  { named (regionName enclosing name) with region := true }

/-- Arguments with one more at the end. -/
def appendArg (args : List FormalArg) (name : String) (default? : Option DefaultValue) :
    List FormalArg :=
  args ++ [⟨name, args.length, default?⟩]

/-- The draft with one more declared argument. -/
def arg (draft : Draft) (name : String) (default? : Option DefaultValue) : Draft :=
  { draft with hasFormalArgs := true, args := appendArg draft.args name default? }

/-- The draft with an explicit argument list, which may be empty. -/
def explicitArgs (draft : Draft) : Draft :=
  { draft with hasFormalArgs := true }

/-- The draft with a source text. -/
def withSource (draft : Draft) (source : String) : Draft :=
  { draft with source := some source }

/-- The draft with the span of the instructions that follow. -/
def withSpan (draft : Draft) (span : Option Span) : Draft :=
  { draft with span := span }

/-- The draft with one more template defined inside it. -/
def subtemplate (draft : Draft) (template : Template) : Draft :=
  { draft with subtemplates := draft.subtemplates ++ [template] }

/-- The draft with its program and its pool replaced. -/
def replaceProgram (draft : Draft) (program : List Instr) (pool : List String) : Draft :=
  { draft with program := program, pool := pool, spans := program.map fun _ => none }

/-- The draft with a text in its pool, and the index of the text. -/
def intern (draft : Draft) (text : String) : Draft × Nat :=
  match draft.pool.idxOf? text with
  | some index => (draft, index)
  | none => ({ draft with pool := draft.pool ++ [text] }, draft.pool.length)

/-- The draft with one more instruction. -/
def emit (draft : Draft) (instr : Instr) : Draft :=
  { draft with program := draft.program ++ [instr], spans := draft.spans ++ [draft.span] }

/-- The draft with one more instruction that refers to a pooled text. -/
def emitText (draft : Draft) (instr : Nat → Instr) (text : String) : Draft :=
  let (draft, index) := draft.intern text
  draft.emit (instr index)

/-- The index of the next instruction. -/
def label (draft : Draft) : Nat :=
  draft.program.length

/-- The draft with a jump made to target the next instruction. -/
def updateJump (draft : Draft) (index : Nat) : Draft :=
  { draft with program := draft.program.modify index (·.withTarget draft.program.length) }

/-- The arguments of the template: those declared, and for an anonymous template the ones that it
receives without declaring them. -/
def completeArgs (draft : Draft) : List FormalArg :=
  if draft.anonymous then
    let args := if draft.args.isEmpty then appendArg draft.args implicitArg none else draft.args
    indexArgs.foldl (fun args name =>
      if args.any (·.name == name) then args else appendArg args name none) args
  else draft.args

/-- The error of the first argument whose name is no identifier or was declared before, given what
counts as an identifier and the arguments before the rest. -/
def argError? (identifiers : IdentifierClass) (template : String) (before : List FormalArg) :
    List FormalArg → Option BuildError
  | [] => none
  | arg :: rest =>
    if !identifiers.admits arg.name then some (.invalidArgName arg.name template)
    else if before.any (·.name == arg.name) then some (.duplicateArg arg.name template)
    else argError? identifiers template (before ++ [arg]) rest

/-- Whether an operand refers to something that exists. -/
def operandFits (poolSize argCount programSize : Nat) : OperandKind × Nat → Bool
  | (.text, n) => n < poolSize
  | (.slot, n) => n < argCount
  | (.option, n) => n < WriteOption.count
  | (.address, n) => n ≤ programSize
  | (.count, _) => true

/-- The error of an operand that refers to nothing. -/
def operandError (instr : Instr) (ip : Nat) : OperandKind × Nat → BuildError
  | (.address, n) =>
    if n = unsetTarget then .unsetJump instr.mnemonic ip
    else .operandOutOfRange n instr.mnemonic ip
  | (_, n) => .operandOutOfRange n instr.mnemonic ip

/-- The error of the first operand from instruction `ip` on that refers to nothing, with the index
of its instruction. -/
def programError? (fits : OperandKind × Nat → Bool) (ip : Nat) :
    List Instr → Option (BuildError × Nat)
  | [] => none
  | instr :: rest =>
    match instr.operands.find? fun operand => !fits operand with
    | some operand => some (operandError instr ip operand, ip)
    | none => programError? fits (ip + 1) rest

/-- Where the instruction at `ip` comes from, if the source holds its span. -/
def site? (draft : Draft) (ip : Nat) : Option SourceSite :=
  match draft.source, draft.spans[ip]?.join with
  | some source, some span =>
    if !source.isEmpty && span.stop ≤ source.utf8ByteSize then some ⟨source, span⟩ else none
  | _, _ => none

/-- The template that a draft stands for, or what is wrong with it and where. -/
def build (identifiers : IdentifierClass) (draft : Draft) :
    Except (BuildError × Option SourceSite) Template :=
  let args := draft.completeArgs
  match argError? identifiers draft.name [] args with
  | some error => throw (error, none)
  | none =>
    let fits := operandFits draft.pool.length args.length draft.program.length
    match programError? fits 0 draft.program with
    | some (error, ip) => throw (error, draft.site? ip)
    | none =>
      pure {
        identity := none
        name := draft.name
        program := draft.program
        pool := draft.pool
        args := args
        hasFormalArgs := draft.hasFormalArgs
        anonymous := draft.anonymous
        region := draft.region
        subtemplates := draft.subtemplates
        source := draft.source
        spans := draft.spans }

end Draft

end TemplateMachine
