import TemplateMachine.Proofs.Slots.Rotation

/-!
# One sequence

The functions on sequences coerce their value each on its own, and what they leave is of another kind
than what they were given: of a map there remains a list, and of a single value nothing. They still
describe one sequence, the elements of the value. Each of them is shown to be a function of these,
and what is left of a value has the elements that are left.
-/

namespace TemplateMachine

namespace Value

variable {mapValues : Bool} {value : Value} {items : List Value}

/-- The elements of a value that stands for a sequence. -/
theorem elements_of_sequence (stands : value.coerce mapValues = .sequence items) :
    value.elements mapValues = items := by
  rw [elements, stands]

/-- The elements of a value that stands for a single value. -/
theorem elements_of_scalar {scalar : Value} (stands : value.coerce mapValues = .scalar scalar) :
    value.elements mapValues = if scalar.isNone then [] else [scalar] := by
  rw [elements, stands]
  cases scalar <;> rfl

/-- What remains of a value when these elements do: no value if none does. -/
def remaining : List Value → Value
  | [] => .none
  | item :: more => .list (item :: more)

/-- What remains has the elements that do. -/
@[simp] theorem elements_remaining (mapValues : Bool) (items : List Value) :
    (remaining items).elements mapValues = items := by
  cases items <;> rfl

/-- The first element is the first one of the elements, or no value. -/
theorem first_eq (mapValues : Bool) (value : Value) :
    value.first mapValues = (value.elements mapValues).head?.getD .none := by
  cases stands : value.coerce mapValues with
  | sequence items => rw [first, stands, elements_of_sequence stands]
  | scalar scalar =>
    rw [first, stands, elements_of_scalar stands]
    cases scalar <;> rfl

/-- The last element is the last one of the elements, or no value. -/
theorem last_eq (mapValues : Bool) (value : Value) :
    value.last mapValues = (value.elements mapValues).getLast?.getD .none := by
  cases stands : value.coerce mapValues with
  | sequence items => rw [last, stands, elements_of_sequence stands]
  | scalar scalar =>
    rw [last, stands, elements_of_scalar stands]
    cases scalar <;> rfl

/-- The rest is what remains without the first element. -/
theorem rest_eq (mapValues : Bool) (value : Value) :
    value.rest mapValues = remaining (value.elements mapValues).tail := by
  cases stands : value.coerce mapValues with
  | sequence items =>
    rw [rest, stands, elements_of_sequence stands]
    rcases items with _ | ⟨head, _ | ⟨second, more⟩⟩ <;> rfl
  | scalar scalar =>
    rw [rest, stands, elements_of_scalar stands]
    cases scalar <;> rfl

/-- What is left of a value that is cut short is what remains without the last element. -/
theorem trunc_eq (mapValues : Bool) (value : Value) :
    value.trunc mapValues = remaining (value.elements mapValues).dropLast := by
  cases stands : value.coerce mapValues with
  | sequence items =>
    rw [trunc, stands, elements_of_sequence stands]
    rcases items with _ | ⟨head, _ | ⟨second, more⟩⟩ <;> rfl
  | scalar scalar =>
    rw [trunc, stands, elements_of_scalar stands]
    cases scalar <;> rfl

/-- A value that stands for a single value stands for itself. -/
theorem eq_of_coerce_eq_scalar {scalar : Value} (stands : value.coerce mapValues = .scalar scalar) :
    scalar = value := by
  cases value <;> cases stands <;> rfl

/-- A value in reverse has the elements in reverse. -/
theorem elements_reverse (mapValues : Bool) (value : Value) :
    (value.reverse mapValues).elements mapValues = (value.elements mapValues).reverse := by
  cases stands : value.coerce mapValues with
  | sequence items =>
    rw [reverse, stands, elements_of_sequence stands]
    rfl
  | scalar scalar =>
    obtain rfl := eq_of_coerce_eq_scalar stands
    rw [reverse, stands]
    dsimp only
    rw [elements_of_scalar stands]
    split <;> rfl

/-- A value that is stripped has the elements that are values. -/
theorem elements_strip (mapValues : Bool) (value : Value) :
    (value.strip mapValues).elements mapValues =
      (value.elements mapValues).filter fun item => !item.isNone := by
  cases stands : value.coerce mapValues with
  | sequence items =>
    rw [strip, stands, elements_of_sequence stands]
    rfl
  | scalar scalar =>
    obtain rfl := eq_of_coerce_eq_scalar stands
    rw [strip, stands]
    dsimp only
    rw [elements_of_scalar stands]
    cases hnone : scalar.isNone <;> simp [hnone]

/-- The length of a value is the number of its elements, be they the keys of a map or its values. -/
theorem size_eq (mapValues : Bool) (value : Value) :
    value.size = (value.elements mapValues).length := by
  cases value with
  | map entries =>
    cases mapValues <;> simp [size, elements, coerce, Entries.keys, Entries.values]
  | _ => rfl

/-- Items taken from a value one at a time, so many of them, each from what the one before it left,
and what the last one leaves. -/
def drain (take left : Value → Value) : Nat → Value → List Value × Value
  | 0, value => ([], value)
  | n + 1, value =>
    let (items, spent) := drain take left n (left value)
    (take value :: items, spent)

/-- Every value is looked at as a list of items. The first item is the one that is taken from the
value, and what that leaves is looked at as the other items. After the only item no value is left. -/
structure Unfolds (view : Value → List Value) (take left : Value → Value) : Prop where
  head {value item : Value} {more : List Value} (shows : view value = item :: more) :
    take value = item
  tail {value item : Value} {more : List Value} (shows : view value = item :: more) :
    view (left value) = more
  spent {value item : Value} (shows : view value = [item]) : left value = .none

/-- Items that are taken until the view of a value is exhausted are those of the view. If there are
any, no value is left then. -/
theorem Unfolds.drain_eq {view : Value → List Value} {take left : Value → Value}
    (unfolds : Unfolds view take left) (value : Value) :
    drain take left (view value).length value =
      (view value, if (view value).isEmpty then value else .none) := by
  induction hview : view value generalizing value with
  | nil => rfl
  | cons item more ih =>
    have hrest := ih (left value) (unfolds.tail hview)
    rw [List.length_cons, drain, hrest, unfolds.head hview]
    cases more with
    | nil =>
      rw [unfolds.spent hview]
      rfl
    | cons _ _ => rfl

/-- The first element and the rest unfold the elements. -/
theorem unfolds_elements (mapValues : Bool) :
    Unfolds (elements mapValues) (first mapValues) (rest mapValues) where
  head shows := by simp [first_eq, shows]
  tail shows := by simp [rest_eq, shows]
  spent shows := by simp [rest_eq, shows, remaining]

/-- The last element and what is left without it unfold the elements in reverse. -/
theorem unfolds_elements_reverse (mapValues : Bool) :
    Unfolds (fun value => (elements mapValues value).reverse) (last mapValues)
      (trunc mapValues) where
  head shows := by simp [last_eq, List.reverse_eq_cons_iff.mp shows]
  tail shows := by simp [trunc_eq, List.reverse_eq_cons_iff.mp shows]
  spent shows := by simp [trunc_eq, List.reverse_eq_cons_iff.mp shows, remaining]

end Value

/-- Templates that are mapped over a value in rotation leave a result for each element: nothing for
nothing, and for a value what the prototype whose turn it is becomes. -/
theorem Instance.elements_rotateOver (first : Instance) (others : List Instance) (mapValues : Bool)
    (value : Value) :
    (first.rotateOver others mapValues value).1.elements mapValues =
      (value.elements mapValues).mapIdx fun position item =>
        if item.isNone then .none
        else .template ((ofTurn first others (turn (value.elements mapValues) position)).applied item
          (turn (value.elements mapValues) position)).1 := by
  rw [rotateOver_fst, Value.mapTurns]
  cases stands : value.coerce mapValues with
  | sequence items =>
    rw [Value.elements_of_sequence stands]
    rfl
  | scalar scalar =>
    rw [Value.elements_of_scalar stands]
    cases hnone : scalar.isNone <;> simp [hnone, Value.elements, Value.coerce]

/-- The functions on sequences describe one sequence, the elements of the value. To take the first
element and go on with the rest, once for each element, yields the elements, and to take the last one
and go on without it yields them in reverse; if there are any, no value is left. The value in reverse
has the elements in reverse, and the stripped value those that are values. The length is the number
of elements. Mapping templates leaves a result for each element, in the same order. -/
theorem Value.sequence_functions_agree (mapValues : Bool) (value : Value) (first : Instance)
    (others : List Instance) :
    let items := value.elements mapValues
    let spent := if items.isEmpty then value else .none
    drain (Value.first mapValues) (rest mapValues) items.length value = (items, spent) ∧
    drain (last mapValues) (trunc mapValues) items.length value = (items.reverse, spent) ∧
    (value.reverse mapValues).elements mapValues = items.reverse ∧
    (value.strip mapValues).elements mapValues = items.filter (fun item => !item.isNone) ∧
    value.size = items.length ∧
    List.Forall₂
      (fun item result =>
        if item.isNone then result = .none
        else ∃ prototype ∈ first :: others, ∃ turn,
          result = .template (prototype.applied item turn).1)
      items ((first.rotateOver others mapValues value).1.elements mapValues) := by
  intro items spent
  have hdrain := (unfolds_elements mapValues).drain_eq value
  have hdrain' := (unfolds_elements_reverse mapValues).drain_eq value
  rw [List.length_reverse, List.isEmpty_reverse] at hdrain'
  refine ⟨hdrain, hdrain', elements_reverse mapValues value, elements_strip mapValues value,
    size_eq mapValues value, ?_⟩
  rw [Instance.elements_rotateOver, List.forall₂_iff_get]
  refine ⟨by simp [items], fun position _ _ => ?_⟩
  simp only [List.get_eq_getElem, List.getElem_mapIdx]
  split
  · rfl
  · exact ⟨_, Instance.ofTurn_mem first others _, _, rfl⟩

/-- A map is drained as its keys; what is left of it on the way is a list. -/
example : Value.drain (Value.first false) (Value.rest false) 2
    (.map [("a", .bool true), ("b", .none)]) = ([.string "a", .string "b"], .none) := rfl

end TemplateMachine
