import TemplateMachine.Value.Basic

/-!
# Equality of values

Floating-point numbers are compared as numbers, so that one that is not a number differs from
itself. Two instances are equal if they share the same template object and hold equal values; a
private copy of a template is shared with nobody, the group does not matter.
-/

namespace TemplateMachine

/-- Whether two templates are the same object. -/
def Template.sameObject (a b : Template) : Bool :=
  match a.identity, b.identity with
  | some m, some n => m == n
  | _, _ => false

mutual

/-- Whether two values are equal. -/
def Value.same : Value → Value → Bool
  | .none, .none => true
  | .bool a, .bool b => a == b
  | .integer a, .integer b => a == b
  | .float a, .float b => a == b
  | .string a, .string b => a == b
  | .list a, .list b => Value.sameItems a b
  | .map a, .map b => Value.sameEntries a b
  | .template a, .template b => Instance.same a b
  | _, _ => false

/-- Whether two lists hold equal values. -/
def Value.sameItems : List Value → List Value → Bool
  | [], [] => true
  | a :: as, b :: bs => Value.same a b && Value.sameItems as bs
  | _, _ => false

/-- Whether two maps hold equal entries. -/
def Value.sameEntries : List (String × Value) → List (String × Value) → Bool
  | [], [] => true
  | (j, a) :: as, (k, b) :: bs => j == k && Value.same a b && Value.sameEntries as bs
  | _, _ => false

/-- Whether two rows of slots hold equal values. -/
def Value.sameSlots : List (Option Value) → List (Option Value) → Bool
  | [], [] => true
  | none :: as, none :: bs => Value.sameSlots as bs
  | some a :: as, some b :: bs => Value.same a b && Value.sameSlots as bs
  | _, _ => false

/-- Whether two instances are equal. -/
def Instance.same : Instance → Instance → Bool
  | ⟨s, a, _⟩, ⟨t, b, _⟩ => s.sameObject t && Value.sameSlots a b

end

end TemplateMachine
