import TemplateMachine.Value.Basic

/-!
# Write options

The five options that one write can carry. Each has a fixed slot in a row of options; a row holds
values while it is filled and texts when it is used.
-/

namespace TemplateMachine

/-- An option of a write: align wrapped lines, choose a format, replace missing values, separate
elements, wrap long lines. -/
inductive WriteOption where
  | anchor
  | format
  | null
  | separator
  | wrap
deriving DecidableEq, Repr, Inhabited

namespace WriteOption

/-- All options in slot order. -/
def all : List WriteOption :=
  [anchor, format, null, separator, wrap]

/-- The number of options. -/
def count : Nat := 5

/-- The slot of an option. -/
def index : WriteOption → Nat
  | anchor => 0
  | format => 1
  | null => 2
  | separator => 3
  | wrap => 4

/-- The option in a slot. -/
def ofIndex? (index : Nat) : Option WriteOption :=
  all[index]?

/-- Every option is found in its slot. -/
@[simp] theorem ofIndex?_index (option : WriteOption) : ofIndex? option.index = some option := by
  cases option <;> rfl

/-- The name of an option. -/
def name : WriteOption → String
  | anchor => "anchor"
  | format => "format"
  | null => "null"
  | separator => "separator"
  | wrap => "wrap"

/-- The option with a given name. -/
def ofName? (text : String) : Option WriteOption :=
  all.find? (·.name == text)

end WriteOption

/-- A row with one optional entry for each option. -/
structure OptionRow (α : Type) where
  anchor : Option α
  format : Option α
  null : Option α
  separator : Option α
  wrap : Option α

namespace OptionRow

variable {α : Type}

/-- The row without entries. -/
def empty : OptionRow α := ⟨none, none, none, none, none⟩

/-- The entry of an option. -/
def get? (row : OptionRow α) : WriteOption → Option α
  | .anchor => row.anchor
  | .format => row.format
  | .null => row.null
  | .separator => row.separator
  | .wrap => row.wrap

/-- The row with an entry set. -/
def set (row : OptionRow α) (option : WriteOption) (entry : α) : OptionRow α :=
  match option with
  | .anchor => { row with anchor := some entry }
  | .format => { row with format := some entry }
  | .null => { row with null := some entry }
  | .separator => { row with separator := some entry }
  | .wrap => { row with wrap := some entry }

/-- Setting an entry changes that entry alone. -/
theorem get?_set (row : OptionRow α) (option other : WriteOption) (entry : α) :
    (row.set option entry).get? other = if option = other then some entry else row.get? other := by
  cases option <;> cases other <;> rfl

end OptionRow

end TemplateMachine
