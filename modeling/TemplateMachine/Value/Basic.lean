import TemplateMachine.Entries
import TemplateMachine.Program.Instr
import TemplateMachine.Source.Span

/-!
# Values, instances and templates

The data of the machine refer to one another: a value may be an instance of a template, an instance
holds the values of its arguments, and a template holds default values and the templates defined
inside it. Groups are referred to by their number and live elsewhere.
-/

namespace TemplateMachine

/-- The number of a group. Equal numbers mean the same group. -/
structure GroupId where
  index : Nat
deriving DecidableEq, Repr, Inhabited

mutual

/-- What an attribute can hold. The entries of a map are in ascending key order. -/
inductive Value where
  | none
  | bool (b : Bool)
  | integer (n : Int64)
  | float (x : Float)
  | string (text : String)
  | list (items : List Value)
  | map (entries : List (String × Value))
  | template (inst : Instance)

/-- A template with values for its arguments, made by a group. An unset argument has no value. -/
structure Instance where
  template : Template
  locals : List (Option Value)
  group : GroupId

/-- A compiled template. Two templates with the same identity are the same object; one without an
identity is the private copy of a single instance. -/
structure Template where
  identity : Option Nat
  name : String
  program : List Instr
  pool : List String
  args : List FormalArg
  hasFormalArgs : Bool
  anonymous : Bool
  region : Bool
  subtemplates : List Template
  source : Option String
  spans : List (Option Span)

/-- A declared argument of a template and the slot that holds it. -/
structure FormalArg where
  name : String
  slot : Nat
  default? : Option DefaultValue

/-- What an argument is when it is not given: a value, or a template evaluated by the frame that
starts. An eager template is rendered to text at once. -/
inductive DefaultValue where
  | literal (value : Value)
  | template (template : Template) (eager : Bool)

end

/-- The runtime type of a value. -/
inductive ValueKind where
  | none
  | bool
  | integer
  | float
  | string
  | list
  | map
  | template
deriving DecidableEq, Repr, Inhabited

namespace ValueKind

/-- The name of a kind in messages. -/
def name : ValueKind → String
  | none => "none"
  | bool => "bool"
  | integer => "integer"
  | float => "float"
  | string => "string"
  | list => "list"
  | map => "map"
  | template => "template"

/-- The name of a kind in diagnostics. -/
def title : ValueKind → String
  | none => "None"
  | bool => "Bool"
  | integer => "Integer"
  | float => "Float"
  | string => "String"
  | list => "List"
  | map => "Map"
  | template => "Template"

/-- The place of a kind in the order of kinds. -/
def rank : ValueKind → Nat
  | none => 0
  | bool => 1
  | integer => 2
  | float => 3
  | string => 4
  | list => 5
  | map => 6
  | template => 7

/-- All kinds in order. -/
def all : List ValueKind :=
  [none, bool, integer, float, string, list, map, template]

/-- The kind with a given name. -/
def ofName? (text : String) : Option ValueKind :=
  all.find? (·.name == text)

end ValueKind

instance : Inhabited Value := ⟨.none⟩

namespace Value

/-- The kind of a value. -/
def kind : Value → ValueKind
  | .none => .none
  | .bool _ => .bool
  | .integer _ => .integer
  | .float _ => .float
  | .string _ => .string
  | .list _ => .list
  | .map _ => .map
  | .template _ => .template

/-- Whether there is no value. -/
def isNone : Value → Bool
  | .none => true
  | _ => false

/-- The text of a text value. -/
def asText? : Value → Option String
  | .string text => some text
  | _ => Option.none

/-- The truth of a value: no value, false and empty collections count as false, and all else counts
as true, empty text included. -/
def isTruthy : Value → Bool
  | .none => false
  | .bool b => b
  | .list items => !items.isEmpty
  | .map entries => !entries.isEmpty
  | _ => true

/-- The integer that counts something; a count beyond the greatest integer is that integer. -/
def ofCount (n : Nat) : Value :=
  .integer (if n < 0x8000000000000000 then Int64.ofNat n else Int64.maxValue)

/-- The map with the given pairs, a later pair taking the place of an earlier one. -/
def ofPairs (pairs : List (String × Value)) : Value :=
  .map (Entries.ofPairs pairs)

end Value

/-- The attribute that an anonymous template without arguments receives. -/
def implicitArg : String := "it"

/-- The attributes that every mapped anonymous template receives: the position counted from one and
from zero. -/
def indexArgs : List String := ["i", "i0"]

namespace Template

/-- The declared argument of a name. -/
def arg? (template : Template) (name : String) : Option FormalArg :=
  template.args.find? (·.name == name)

/-- Whether an argument is a position that the machine fills in. -/
def isIndexArg (template : Template) (arg : FormalArg) : Bool :=
  template.anonymous && indexArgs.contains arg.name

/-- The arguments that a caller supplies. -/
def callerArgs (template : Template) : List FormalArg :=
  template.args.filter fun arg => !template.isIndexArg arg

/-- The number of arguments that a caller supplies. -/
def arity (template : Template) : Nat :=
  template.callerArgs.length

/-- The number of arguments with a default. -/
def defaultCount (template : Template) : Nat :=
  template.args.countP (·.default?.isSome)

/-- The source span recorded for an instruction. -/
def span? (template : Template) (ip : Nat) : Option Span :=
  template.spans[ip]?.join

/-- A template of the given name that renders nothing. -/
def blank (name : String) : Template where
  identity := none
  name := name
  program := []
  pool := []
  args := []
  hasFormalArgs := false
  anonymous := false
  region := false
  subtemplates := []
  source := none
  spans := []

end Template

end TemplateMachine
