import TemplateMachine.Value.Basic
import TemplateMachine.Value.Sequence

/-!
# Sound data

Templates, instances and values contain one another, and a property of templates that a render
relies on has to hold of every template that can be reached from the data at hand. Data are sound
for such a property if it holds of all templates in them, if arguments are held by the slots that
their order says, and if every instance has a slot for each argument of its template.

Here are the predicates and the functions on values. Instances, groups and operations follow in
modules of their own; what the property says is left open throughout.
-/

namespace TemplateMachine

/-- A template with one more argument that has no default. -/
def Template.withArg (template : Template) (name : String) : Template :=
  { template with
    identity := none
    args := template.args ++ [⟨name, template.args.length, none⟩] }

/-- A property of templates that survives what is done to templates after they were built: an
instance declares arguments on its own copy, a copy gets an identity, and a blank template stands
for a missing one. It may survive admitted names of arguments only, among them all without a dot. -/
structure Hereditary (T : Template → Prop) (N : String → Prop := fun _ => True) : Prop where
  blank (name : String) : T (.blank name)
  withArg {template : Template} {name : String} (holds : T template)
    (informal : template.hasFormalArgs = false) (undeclared : template.arg? name = none)
    (admitted : N name) : T (template.withArg name)
  identified {template : Template} (identity : Option Nat) (holds : T template) :
    T { template with identity := identity }
  undotted {name : String} (undotted : name.toList.contains '.' = false) : N name := by
    intros; trivial

mutual

/-- All data in a value are sound. -/
inductive Value.Sound (T : Template → Prop) : Value → Prop where
  | none : Value.Sound T .none
  | bool (b : Bool) : Value.Sound T (.bool b)
  | integer (n : Int64) : Value.Sound T (.integer n)
  | float (x : Float) : Value.Sound T (.float x)
  | string (text : String) : Value.Sound T (.string text)
  | list {items : List Value} (sound : ∀ item ∈ items, Value.Sound T item) :
    Value.Sound T (.list items)
  | map {entries : Entries Value} (sound : ∀ entry ∈ entries, Value.Sound T entry.2) :
    Value.Sound T (.map entries)
  | template {inst : Instance} (sound : Instance.Sound T inst) : Value.Sound T (.template inst)

/-- An instance has a slot for each argument of its template, and all data in it are sound. -/
inductive Instance.Sound (T : Template → Prop) : Instance → Prop where
  | intro {inst : Instance} (template : Template.Sound T inst.template)
    (length_locals : inst.locals.length = inst.template.args.length)
    (locals : ∀ value, some value ∈ inst.locals → Value.Sound T value) : Instance.Sound T inst

/-- A template has the property, its arguments are held by the slots in order, and its defaults and
the templates defined inside it are sound. -/
inductive Template.Sound (T : Template → Prop) : Template → Prop where
  | intro {template : Template} (holds : T template)
    (slots : template.args.map FormalArg.slot = List.range template.args.length)
    (defaults : ∀ arg ∈ template.args, ∀ default, arg.default? = some default →
      DefaultValue.Sound T default)
    (subtemplates : ∀ inner ∈ template.subtemplates, Template.Sound T inner) :
    Template.Sound T template

/-- All data in a default are sound. -/
inductive DefaultValue.Sound (T : Template → Prop) : DefaultValue → Prop where
  | literal {value : Value} (sound : Value.Sound T value) : DefaultValue.Sound T (.literal value)
  | template {template : Template} (sound : Template.Sound T template) (eager : Bool) :
    DefaultValue.Sound T (.template template eager)

end

variable {T : Template → Prop}

namespace Value

/-- A list is sound exactly if its elements are. -/
theorem sound_list_iff {items : List Value} :
    Sound T (.list items) ↔ ∀ item ∈ items, Sound T item :=
  ⟨fun | .list sound => sound, .list⟩

/-- A map is sound exactly if the values of its entries are. -/
theorem sound_map_iff {entries : Entries Value} :
    Sound T (.map entries) ↔ ∀ entry ∈ entries, Sound T entry.2 :=
  ⟨fun | .map sound => sound, .map⟩

/-- A template value is sound exactly if its instance is. -/
theorem sound_template_iff {inst : Instance} : Sound T (.template inst) ↔ inst.Sound T :=
  ⟨fun | .template sound => sound, .template⟩

/-- What holds of every sound value that is no collection, and of a collection if it holds of its
elements, holds of all sound values. -/
@[elab_as_elim]
theorem Sound.induction {motive : (value : Value) → value.Sound T → Prop}
    (single : ∀ (value : Value) (sound : value.Sound T), (∀ items, value ≠ .list items) →
      (∀ entries, value ≠ .map entries) → motive value sound)
    (list : ∀ items (sound : ∀ item ∈ items, item.Sound T),
      (∀ item mem, motive item (sound item mem)) → motive (.list items) (.list sound))
    (map : ∀ (entries : Entries Value) (sound : ∀ entry ∈ entries, entry.2.Sound T),
      (∀ entry mem, motive entry.2 (sound entry mem)) → motive (.map entries) (.map sound))
    {value : Value} (sound : value.Sound T) : motive value sound :=
  @Value.Sound.rec T motive (fun _ _ => True) (fun _ _ => True) (fun _ _ => True)
    (single _ .none (by simp) (by simp))
    (fun b => single _ (.bool b) (by simp) (by simp))
    (fun n => single _ (.integer n) (by simp) (by simp))
    (fun x => single _ (.float x) (by simp) (by simp))
    (fun text => single _ (.string text) (by simp) (by simp))
    (fun sound each => list _ sound each) (fun sound each => map _ sound each)
    (fun inst _ => single _ (.template inst) (by simp) (by simp))
    (fun _ _ _ _ _ => trivial) (fun _ _ _ _ _ _ => trivial) (fun _ _ => trivial)
    (fun _ _ _ => trivial) value sound

/-- A value that is missing if it is not there is sound if it is sound when it is there. -/
theorem sound_getD_none {value : Option Value} (sound : ∀ v, value = some v → Sound T v) :
    Sound T (value.getD .none) := by
  cases value with
  | none => exact .none
  | some v => exact sound v rfl

/-- A count is sound. -/
theorem sound_ofCount (n : Nat) : Sound T (.ofCount n) :=
  .integer _

end Value

namespace DefaultValue

/-- A literal default is sound exactly if its value is. -/
theorem sound_literal_iff {value : Value} : Sound T (.literal value) ↔ value.Sound T :=
  ⟨fun | .literal sound => sound, .literal⟩

/-- A default template is sound as a default exactly if it is sound. -/
theorem sound_template_iff {template : Template} {eager : Bool} :
    Sound T (.template template eager) ↔ template.Sound T :=
  ⟨fun | .template sound _ => sound, fun sound => .template sound eager⟩

end DefaultValue

/-- The elements or the single value that stand for a value are sound. -/
def Coerced.Sound (T : Template → Prop) : Coerced → Prop
  | .sequence items => ∀ item ∈ items, Value.Sound T item
  | .scalar value => Value.Sound T value

namespace Value.Sound

variable {mapValues : Bool} {value : Value}

/-- What a sound value stands for when it is iterated is sound. -/
theorem coerce (sound : value.Sound T) (mapValues : Bool) :
    (value.coerce mapValues).Sound T := by
  cases sound with
  | list items => exact items
  | map entries =>
    cases mapValues with
    | true =>
      intro item mem
      obtain ⟨entry, hentry, rfl⟩ := List.mem_map.mp mem
      exact entries entry hentry
    | false =>
      intro item mem
      obtain ⟨key, -, rfl⟩ := List.mem_map.mp mem
      exact .string key
  | template inst => exact .template inst
  | none => exact .none
  | bool b => exact .bool b
  | integer n => exact .integer n
  | float x => exact .float x
  | string text => exact .string text

/-- The elements of a sound value are sound. -/
theorem elements (sound : value.Sound T) : ∀ item ∈ value.elements mapValues, item.Sound T := by
  have hcoerced := sound.coerce mapValues
  unfold Value.elements
  split <;> simp_all [Coerced.Sound]

/-- A list of sound values with a sound value appended is sound. -/
theorem appendTo {items : List Value} (sound : value.Sound T) (before : ∀ item ∈ items, item.Sound T) :
    ∀ item ∈ Value.appendTo mapValues items value, item.Sound T := by
  have hcoerced := sound.coerce mapValues
  unfold Value.appendTo
  cases hstands : value.coerce mapValues with
  | sequence more =>
    rw [hstands] at hcoerced
    simpa [or_imp, forall_and] using ⟨before, hcoerced⟩
  | scalar single =>
    rw [hstands] at hcoerced
    simpa [or_imp, forall_and] using ⟨before, hcoerced⟩

/-- The first element of a sound value is sound. -/
theorem first (sound : value.Sound T) : (value.first mapValues).Sound T := by
  have hcoerced := sound.coerce mapValues
  unfold Value.first
  split <;> simp_all only [Coerced.Sound]
  exact sound_getD_none fun v found => hcoerced v (List.mem_of_mem_head? found)

/-- The last element of a sound value is sound. -/
theorem last (sound : value.Sound T) : (value.last mapValues).Sound T := by
  have hcoerced := sound.coerce mapValues
  unfold Value.last
  split <;> simp_all only [Coerced.Sound]
  exact sound_getD_none fun v found => hcoerced v (List.mem_of_getLast? found)

/-- All but the first element of a sound value are sound. -/
theorem rest (sound : value.Sound T) : (value.rest mapValues).Sound T := by
  have hcoerced := sound.coerce mapValues
  unfold Value.rest
  split
  · simp_all [Coerced.Sound, sound_list_iff]
  · exact .none

/-- All but the last element of a sound value are sound. -/
theorem trunc (sound : value.Sound T) : (value.trunc mapValues).Sound T := by
  have hcoerced := sound.coerce mapValues
  unfold Value.trunc
  split
  · rename_i hstands
    rw [hstands] at hcoerced
    exact .list fun item mem => hcoerced item ((List.dropLast_sublist _).subset mem)
  · exact .none

/-- The elements of a sound value that are values are sound. -/
theorem strip (sound : value.Sound T) : (value.strip mapValues).Sound T := by
  have hcoerced := sound.coerce mapValues
  unfold Value.strip
  split <;> simp_all [Coerced.Sound, sound_list_iff]

/-- The elements of a sound value in reverse order are sound. -/
theorem reverse (sound : value.Sound T) : (value.reverse mapValues).Sound T := by
  have hcoerced := sound.coerce mapValues
  unfold Value.reverse
  split <;> simp_all [Coerced.Sound, sound_list_iff]

end Value.Sound

end TemplateMachine
