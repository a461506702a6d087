import TemplateMachine.Value.Basic

/-!
# Instances

Setting and reading the attributes of an instance. Adding to an attribute that is set makes it a
list. An instance of a template without an explicit argument list declares unknown attributes when
they are added, on a copy of the template that is its own. Which identity such a copy gets is not
decided here.
-/

namespace TemplateMachine

/-- Why an attribute cannot be added. -/
inductive AttributeError where
  | dotInName (name : String)
  | undeclared (name : String)
deriving DecidableEq, Repr

/-- The wording of an attribute error. -/
def AttributeError.message : AttributeError → String
  | .dotInName name => s!"cannot have '.' in attribute names: {name}"
  | .undeclared name => s!"no such attribute: {name}"

namespace Instance

/-- An instance of a template with no argument set. -/
def ofTemplate (template : Template) (group : GroupId) : Instance :=
  ⟨template, template.args.map fun _ => none, group⟩

/-- The name of the template. -/
def name (inst : Instance) : String :=
  inst.template.name

/-- The value in a slot; an empty slot and a slot that does not exist have none. -/
def slot? (inst : Instance) (slot : Nat) : Option Value :=
  inst.locals[slot]?.join

/-- The instance with a value put into a slot. -/
def setSlot (inst : Instance) (slot : Nat) (value : Value) : Instance :=
  { inst with locals := inst.locals.set slot (some value) }

/-- Setting a slot keeps the number of slots. -/
@[simp] theorem length_locals_setSlot (inst : Instance) (slot : Nat) (value : Value) :
    (inst.setSlot slot value).locals.length = inst.locals.length := by
  simp [setSlot]

/-- Setting a slot that exists changes what it holds and nothing else. -/
theorem slot?_setSlot (inst : Instance) {slot : Nat} (exists_slot : slot < inst.locals.length)
    (other : Nat) (value : Value) :
    (inst.setSlot slot value).slot? other =
      if slot = other then some value else inst.slot? other := by
  by_cases same : slot = other
  · subst same
    simp [slot?, setSlot, exists_slot]
  · simp [slot?, setSlot, same]

/-- The value of an attribute, if it is declared and set. -/
def attribute? (inst : Instance) (name : String) : Option Value :=
  (inst.template.arg? name).bind fun arg => inst.slot? arg.slot

/-- The declared attributes in slot order, each with its value if it is set. -/
def attributes (inst : Instance) : List (String × Option Value) :=
  inst.template.args.map fun arg => (arg.name, inst.slot? arg.slot)

/-- The instance with one more attribute, declared on a copy of the template, and its slot. -/
def declare (inst : Instance) (name : String) : Instance × Nat :=
  let slot := inst.template.args.length
  ({ inst with
      template := { inst.template with
        identity := none
        args := inst.template.args ++ [⟨name, slot, none⟩] }
      locals := inst.locals.take (slot + 1) ++
        List.replicate (slot + 1 - inst.locals.length) none }, slot)

/-- What a slot holds after a value is added to it. -/
def accumulate (value : Value) : Option Value → Value
  | none => value
  | some (.list items) => .list (items ++ [value])
  | some current => .list [current, value]

/-- The instance with a value added to an attribute. -/
def add (inst : Instance) (name : String) (value : Value) : Except AttributeError Instance :=
  if name.toList.contains '.' then throw (.dotInName name)
  else
    match inst.template.arg? name with
    | some arg => pure (inst.setSlot arg.slot (accumulate value (inst.slot? arg.slot)))
    | none =>
      if inst.template.hasFormalArgs then throw (.undeclared name)
      else
        let (inst, slot) := inst.declare name
        pure (inst.setSlot slot (accumulate value (inst.slot? slot)))

/-- The instance with values added in order up to the first that is rejected, and the error of that
one. -/
def addAll (inst : Instance) : List (String × Value) → Instance × Option AttributeError
  | [] => (inst, none)
  | (name, value) :: rest =>
    match inst.add name value with
    | .ok inst => addAll inst rest
    | .error error => (inst, some error)

/-- The instance with an attribute unset, and the value that it had. -/
def remove (inst : Instance) (name : String) : Instance × Option Value :=
  match inst.template.arg? name with
  | none => (inst, none)
  | some arg => ({ inst with locals := inst.locals.set arg.slot none }, inst.slot? arg.slot)

/-- The instance with a declared attribute set, if the template declares it. -/
def setDeclared? (inst : Instance) (name : String) (value : Value) : Option Instance :=
  (inst.template.arg? name).map fun arg => inst.setSlot arg.slot value

/-- The instance with a declared attribute set; a name that is not declared changes nothing. -/
def setIfDeclared (inst : Instance) (name : String) (value : Value) : Instance :=
  (inst.setDeclared? name value).getD inst

/-- The instance with an attribute set, declared first if the template does not declare it. -/
def declareAndSet (inst : Instance) (name : String) (value : Value) : Instance :=
  match inst.template.arg? name with
  | some arg => inst.setSlot arg.slot value
  | none =>
    let (inst, slot) := inst.declare name
    inst.setSlot slot value

end Instance

end TemplateMachine
