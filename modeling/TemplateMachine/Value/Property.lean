import TemplateMachine.Instance

/-!
# Properties

What stands behind a point in an expression. A map has its entries as properties, then its keys and
its values as lists, then its default entry; an entry that holds the word `key` stands for the name
that was asked for. An instance has its attributes. Other values have no properties.
-/

namespace TemplateMachine

/-- The entry of a map that stands for missing keys. -/
def defaultKey : String := "default"

/-- The entry text that stands for the key that was asked for. -/
def keyWord : String := "key"

/-- What an entry of a map evaluates to. -/
def entryValue (name : String) : Value → Value
  | .string text => .string (if text = keyWord then name else text)
  | other => other

/-- A property of a map. It always exists, if only without a value. -/
def mapProperty (entries : Entries Value) (name : String) : Value :=
  match Entries.find? name entries with
  | some entry => entryValue name entry
  | none =>
    if name = "keys" then .list ((Entries.keys entries).map .string)
    else if name = "values" then .list (Entries.values entries)
    else
      match Entries.find? defaultKey entries with
      | some entry => entryValue name entry
      | none => .none

/-- A property of a value that has to be a map. -/
def propertyOfMap? (owner : Value) (name : String) : Option Value :=
  match owner with
  | .map entries => some (mapProperty entries name)
  | _ => none

/-- A property of a value that has to be an instance. -/
def propertyOfInstance? (owner : Value) (name : String) : Option Value :=
  match owner with
  | .template inst => some ((inst.attribute? name).getD .none)
  | _ => none

/-- A property of a value whose kind has no adaptor of its own. -/
def property? (owner : Value) (name : String) : Option Value :=
  match owner with
  | .map _ => propertyOfMap? owner name
  | .template _ => propertyOfInstance? owner name
  | _ => none

end TemplateMachine
