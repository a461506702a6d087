import TemplateMachine.Instance
import TemplateMachine.Decimal.Notation
import TemplateMachine.Text.Quoted
import TemplateMachine.Text.Record

/-!
# Values as text

The text of a value in output, and the notation for it in diagnostics. In output a list is its
elements one after the other, a map its keys, and an instance only its name in angle brackets:
rendering an instance is the business of the machine.
-/

namespace TemplateMachine

namespace Value

mutual

/-- The text of a value in output. -/
def display : Value → String
  | .none => ""
  | .bool b => if b then "true" else "false"
  | .integer n => toString n.toInt
  | .float x => NumberStyle.output.write (.of x)
  | .string text => text
  | .list items => displayItems items
  | .map entries => String.join (Entries.keys entries)
  | .template inst => "<" ++ inst.name ++ ">"

/-- The texts of values one after the other. -/
def displayItems : List Value → String
  | [] => ""
  | item :: rest => display item ++ displayItems rest

end

mutual

/-- The notation of a value in diagnostics. -/
def inspect : Value → String
  | .none => ValueKind.none.title
  | .bool b => s!"Bool({b})"
  | .integer n => s!"Integer({n.toInt})"
  | .float x => "Float(" ++ NumberStyle.diagnostic.write (.of x) ++ ")"
  | .string text => "String(" ++ quoted text ++ ")"
  | .list items => "List(" ++ bracketed (inspectItems items) ++ ")"
  | .map entries => "Map(\x7b" ++ ", ".intercalate (inspectEntries entries) ++ "\x7d)"
  | .template inst => "Template(" ++ inspectInstance inst ++ ")"

/-- The notations of values. -/
def inspectItems : List Value → List String
  | [] => []
  | item :: rest => inspect item :: inspectItems rest

/-- The notations of the entries of a map. -/
def inspectEntries : List (String × Value) → List String
  | [] => []
  | (key, value) :: rest => (quoted key ++ ": " ++ inspect value) :: inspectEntries rest

/-- The notations of argument slots. -/
def inspectSlots : List (Option Value) → List String
  | [] => []
  | Option.none :: rest => "None" :: inspectSlots rest
  | Option.some value :: rest => ("Some(" ++ inspect value ++ ")") :: inspectSlots rest

/-- The notation of an instance: its name and its declared attributes. -/
def inspectInstance : Instance → String
  | ⟨owner, locals, _⟩ =>
    let slots := inspectSlots locals
    recordText "Instance" (("name", quoted owner.name) ::
      owner.args.map fun arg => (arg.name, slots.getD arg.slot "None")) false

end

end Value

/-- The notation of an instance in diagnostics. -/
def Instance.inspect (inst : Instance) : String :=
  Value.inspectInstance inst

/-- The notation of a template in diagnostics. -/
def Template.inspect (template : Template) : String :=
  recordText "CompiledTemplate" [("name", quoted template.name),
    ("args", bracketed (template.args.map fun arg => quoted arg.name)),
    ("instrs", toString template.program.length)] true

end TemplateMachine
