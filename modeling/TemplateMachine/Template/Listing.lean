import TemplateMachine.Value.Basic
import TemplateMachine.Text.Blank
import TemplateMachine.Text.Quoted

/-!
# Listings

The readable form of a program: one line for each instruction, with its index, its mnemonic in a
column of fourteen characters, and its operands. A pooled text is shown in quotes and a slot with
the name of its argument. Before a line is ended, the blanks at the end of the listing so far are
removed.

How a text is quoted is left open where the lines are put together.
-/

namespace TemplateMachine

/-- Characters with blanks after them up to the given number. -/
def padRight (width : Nat) (chars : List Char) : List Char :=
  chars ++ List.replicate (width - chars.length) ' '

/-- A number with zeros before it up to four digits. -/
def listingIndex (n : Nat) : List Char :=
  let digits := Nat.toDigits 10 n
  List.replicate (4 - digits.length) '0' ++ digits

namespace Template

/-- An operand in a listing. -/
def operandText (template : Template) (quote : String → String) : OperandKind × Nat → String
  | (.text, n) =>
    match template.pool[n]? with
    | some text => s!"#{n}:" ++ quote text
    | none => s!"#{n}:<bad string index>"
  | (.slot, n) =>
    match template.args[n]? with
    | some arg => s!"{n}:" ++ arg.name
    | none => s!"{n}:<bad slot>"
  | (_, n) => toString n

/-- What a listing says of an instruction, with whatever blanks there are at its end. -/
def listingEntry (template : Template) (quote : String → String) (ip : Nat) (instr : Instr) :
    List Char :=
  let operands := ", ".intercalate (instr.operands.map (template.operandText quote))
  listingIndex ip ++ [':', '\t'] ++ padRight 14 instr.mnemonic.toList ++ operands.toList

/-- A listing that is continued by the instructions from `ip` on. -/
def listingFrom (template : Template) (quote : String → String) (listing : List Char) (ip : Nat) :
    List Instr → List Char
  | [] => listing
  | instr :: rest =>
    let trimmed := trimEndChars (listing ++ template.listingEntry quote ip instr)
    template.listingFrom quote (trimmed ++ ['\n']) (ip + 1) rest

/-- The listing of a template with texts quoted in some way. -/
def listingBy (template : Template) (quote : String → String) : String :=
  String.ofList (template.listingFrom quote [] 0 template.program)

/-- The listing of a template. -/
def listing (template : Template) : String :=
  template.listingBy quoted

end Template

end TemplateMachine
