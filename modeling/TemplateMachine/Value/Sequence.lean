import TemplateMachine.Value.Basic

/-!
# Sequences

The sequence that a value stands for when it is iterated: the elements of a list, the keys of a map
or its values if the group says so, and a single value otherwise. Text is a single value. The
functions on sequences are defined through this coercion.
-/

namespace TemplateMachine

/-- A value prepared for iteration. -/
inductive Coerced where
  | sequence (items : List Value)
  | scalar (value : Value)

namespace Value

/-- The sequence or the single value that a value stands for. With `mapValues` a map stands for its
values and not for its keys. -/
def coerce (mapValues : Bool) : Value → Coerced
  | .list items => .sequence items
  | .map entries =>
    .sequence (if mapValues then Entries.values entries else (Entries.keys entries).map .string)
  | other => .scalar other

/-- The elements of a value: none if there is no value, and a single value is its only element. -/
def elements (mapValues : Bool) (value : Value) : List Value :=
  match value.coerce mapValues with
  | .sequence items => items
  | .scalar .none => []
  | .scalar value => [value]

/-- A list with a value appended, a sequence being spliced in. -/
def appendTo (mapValues : Bool) (items : List Value) (value : Value) : List Value :=
  match value.coerce mapValues with
  | .sequence more => items ++ more
  | .scalar value => items ++ [value]

/-- The first element. -/
def first (mapValues : Bool) (value : Value) : Value :=
  match value.coerce mapValues with
  | .sequence items => items.head?.getD .none
  | .scalar value => value

/-- The last element. -/
def last (mapValues : Bool) (value : Value) : Value :=
  match value.coerce mapValues with
  | .sequence items => items.getLast?.getD .none
  | .scalar value => value

/-- All but the first element, no value if fewer than two elements are there. -/
def rest (mapValues : Bool) (value : Value) : Value :=
  match value.coerce mapValues with
  | .sequence (_ :: second :: more) => .list (second :: more)
  | _ => .none

/-- All but the last element, no value if fewer than two elements are there. -/
def trunc (mapValues : Bool) (value : Value) : Value :=
  match value.coerce mapValues with
  | .sequence (head :: second :: more) => .list (head :: second :: more).dropLast
  | _ => .none

/-- The elements that are values. -/
def strip (mapValues : Bool) (value : Value) : Value :=
  match value.coerce mapValues with
  | .sequence items => .list (items.filter fun item => !item.isNone)
  | .scalar value => value

/-- The elements in reverse order. -/
def reverse (mapValues : Bool) (value : Value) : Value :=
  match value.coerce mapValues with
  | .sequence items => .list items.reverse
  | .scalar value => value

/-- The number of elements. -/
def size : Value → Nat
  | .none => 0
  | .list items => items.length
  | .map entries => entries.length
  | _ => 1

end Value

end TemplateMachine
