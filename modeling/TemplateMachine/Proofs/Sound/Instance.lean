import TemplateMachine.Proofs.Entries
import TemplateMachine.Proofs.Except
import TemplateMachine.Proofs.Sound.Value
import TemplateMachine.Render.Mapping

/-!
# Sound instances

Whatever is done to a sound instance with sound values gives a sound instance: setting, adding and
removing attributes, giving arguments by position or by name, and applying it to the elements of
values. What carries this is that an instance declares an argument and gets the slot for it in one
step, and that a template declares arguments only as long as it has no argument list of its own.

Which names are declared, and with which values, is not the subject here.
-/

namespace TemplateMachine

variable {T : Template → Prop} {N : String → Prop}

namespace Template

variable {template : Template}

/-- A sound template has the property. -/
theorem Sound.holds (sound : template.Sound T) : T template := by
  cases sound with
  | intro holds _ _ _ => exact holds

/-- The arguments of a sound template are held by the slots in order. -/
theorem Sound.slots (sound : template.Sound T) :
    template.args.map FormalArg.slot = List.range template.args.length := by
  cases sound with
  | intro _ slots _ _ => exact slots

/-- The defaults of a sound template are sound. -/
theorem Sound.defaults (sound : template.Sound T) : ∀ arg ∈ template.args, ∀ default,
    arg.default? = some default → default.Sound T := by
  cases sound with
  | intro _ _ defaults _ => exact defaults

/-- The templates defined inside a sound template are sound. -/
theorem Sound.subtemplates (sound : template.Sound T) :
    ∀ inner ∈ template.subtemplates, inner.Sound T := by
  cases sound with
  | intro _ _ _ subtemplates => exact subtemplates

/-- Every argument of a sound template is held by a slot below the number of arguments. -/
theorem Sound.slot_lt (sound : template.Sound T) {arg : FormalArg} (mem : arg ∈ template.args) :
    arg.slot < template.args.length := by
  have hslot : arg.slot ∈ template.args.map FormalArg.slot := List.mem_map_of_mem mem
  rw [sound.slots] at hslot
  exact List.mem_range.mp hslot

/-- A declared argument is one of the arguments. -/
theorem mem_args_of_arg?_eq_some {name : String} {arg : FormalArg}
    (declared : template.arg? name = some arg) : arg ∈ template.args :=
  List.mem_of_find?_eq_some declared

/-- A blank template is sound. -/
theorem sound_blank (hereditary : Hereditary T N) (name : String) : (blank name).Sound T :=
  .intro (hereditary.blank name) rfl (by simp [blank]) (by simp [blank])

/-- A sound template is sound with one more argument. -/
theorem Sound.withArg (hereditary : Hereditary T N) (sound : template.Sound T) {name : String}
    (informal : template.hasFormalArgs = false) (undeclared : template.arg? name = none)
    (admitted : N name) : (template.withArg name).Sound T := by
  refine .intro (hereditary.withArg sound.holds informal undeclared admitted) ?_ ?_
    sound.subtemplates
  · simp [Template.withArg, sound.slots, List.range_succ]
  · intro arg mem default found
    rcases List.mem_append.mp mem with old | new
    · exact sound.defaults arg old default found
    · obtain rfl := List.mem_singleton.mp new
      simp at found

/-- A sound template is sound with another identity. -/
theorem Sound.identified (hereditary : Hereditary T N) (sound : template.Sound T)
    (identity : Option Nat) : Template.Sound T { template with identity := identity } :=
  .intro (hereditary.identified identity sound.holds) sound.slots sound.defaults sound.subtemplates

/-- A sound template has sound instances. -/
theorem Sound.ofTemplate (sound : template.Sound T) (group : GroupId) :
    (Instance.ofTemplate template group).Sound T :=
  .intro sound (by simp [Instance.ofTemplate]) (by simp [Instance.ofTemplate])

end Template

namespace Instance

variable {inst : Instance}

/-- The template of a sound instance is sound. -/
theorem Sound.template (sound : inst.Sound T) : inst.template.Sound T := by
  cases sound with
  | intro template _ _ => exact template

/-- A sound instance has a slot for each argument of its template. -/
theorem Sound.length_locals (sound : inst.Sound T) :
    inst.locals.length = inst.template.args.length := by
  cases sound with
  | intro _ length_locals _ => exact length_locals

/-- The values in the slots of a sound instance are sound. -/
theorem Sound.locals (sound : inst.Sound T) :
    ∀ value, some value ∈ inst.locals → value.Sound T := by
  cases sound with
  | intro _ _ locals => exact locals

/-- The slot of an argument of a sound instance exists. -/
theorem Sound.slot_lt (sound : inst.Sound T) {arg : FormalArg} (mem : arg ∈ inst.template.args) :
    arg.slot < inst.locals.length := by
  rw [sound.length_locals]
  exact sound.template.slot_lt mem

/-- The slot of a declared argument of a sound instance exists. -/
theorem Sound.slot_lt_of_declared (sound : inst.Sound T) {name : String} {arg : FormalArg}
    (declared : inst.template.arg? name = some arg) : arg.slot < inst.locals.length :=
  sound.slot_lt (Template.mem_args_of_arg?_eq_some declared)

/-- What a slot of a sound instance holds is sound. -/
theorem Sound.slot? (sound : inst.Sound T) {slot : Nat} {value : Value}
    (held : inst.slot? slot = some value) : value.Sound T := by
  rw [Instance.slot?, Option.join_eq_some_iff] at held
  exact sound.locals value (List.mem_of_getElem? held)

/-- The value of an attribute of a sound instance is sound. -/
theorem Sound.attribute? (sound : inst.Sound T) {name : String} {value : Value}
    (held : inst.attribute? name = some value) : value.Sound T := by
  obtain ⟨arg, -, hslot⟩ := Option.bind_eq_some_iff.mp held
  exact sound.slot? hslot

/-- A sound instance is sound with another identity of its template. -/
theorem Sound.identified (hereditary : Hereditary T N) (sound : inst.Sound T)
    (identity : Option Nat) :
    Instance.Sound T { inst with template := { inst.template with identity := identity } } :=
  .intro (sound.template.identified hereditary identity) sound.length_locals sound.locals

/-- A sound instance with other slots of the same number holding sound values is sound. -/
theorem Sound.withLocals (sound : inst.Sound T) {locals : List (Option Value)}
    (length_eq : locals.length = inst.locals.length)
    (values : ∀ value, some value ∈ locals → value.Sound T) :
    Instance.Sound T { inst with locals := locals } :=
  .intro sound.template (length_eq.trans sound.length_locals) values

/-- A sound instance is sound with a sound value put into a slot. -/
theorem Sound.setSlot (sound : inst.Sound T) {value : Value} (hvalue : value.Sound T) (slot : Nat) :
    (inst.setSlot slot value).Sound T := by
  refine sound.withLocals (by simp) fun other mem => ?_
  rcases List.mem_or_eq_of_mem_set mem with old | new
  · exact sound.locals other old
  · obtain rfl := Option.some.inj new
    exact hvalue

/-- A sound instance is sound with an attribute unset. -/
theorem Sound.remove (sound : inst.Sound T) (name : String) : (inst.remove name).1.Sound T := by
  unfold Instance.remove
  split
  · exact sound
  · refine sound.withLocals (by simp) fun value mem => ?_
    rcases List.mem_or_eq_of_mem_set mem with old | new
    · exact sound.locals value old
    · simp at new

/-- A sound instance that may declare an argument is sound with it. -/
theorem Sound.declare (hereditary : Hereditary T N) (sound : inst.Sound T) {name : String}
    (informal : inst.template.hasFormalArgs = false)
    (undeclared : inst.template.arg? name = none) (admitted : N name) :
    (inst.declare name).1.Sound T := by
  have hlength := sound.length_locals
  refine .intro (sound.template.withArg hereditary informal undeclared admitted) ?_
    fun value mem => ?_
  · simp [Instance.declare, hlength]
  · rcases List.mem_append.mp mem with old | new
    · exact sound.locals value (List.mem_of_mem_take old)
    · simp at new

/-- The slot of an argument that a sound instance declares exists. -/
theorem Sound.declare_lt (sound : inst.Sound T) (name : String) :
    (inst.declare name).2 < (inst.declare name).1.locals.length := by
  simp [Instance.declare, sound.length_locals]

/-- A sound instance is sound with a sound value for an attribute, declared if need be. -/
theorem Sound.declareAndSet (hereditary : Hereditary T N) (sound : inst.Sound T)
    (informal : inst.template.hasFormalArgs = false) {name : String} (admitted : N name)
    {value : Value} (hvalue : value.Sound T) : (inst.declareAndSet name value).Sound T := by
  unfold Instance.declareAndSet
  split
  · exact sound.setSlot hvalue _
  · rename_i undeclared
    exact (sound.declare hereditary informal undeclared admitted).setSlot hvalue _

/-- Setting an attribute, declared if need be, does not make the argument list explicit. -/
theorem hasFormalArgs_declareAndSet (inst : Instance) (name : String) (value : Value) :
    (inst.declareAndSet name value).template.hasFormalArgs = inst.template.hasFormalArgs := by
  unfold Instance.declareAndSet
  split <;> rfl

/-- A sound instance is sound with a sound value for a declared attribute. -/
theorem Sound.setDeclared? (sound : inst.Sound T) {name : String} {value : Value}
    (hvalue : value.Sound T) {changed : Instance}
    (declared : inst.setDeclared? name value = some changed) : changed.Sound T := by
  obtain ⟨arg, -, rfl⟩ := Option.map_eq_some_iff.mp declared
  exact sound.setSlot hvalue _

/-- A sound instance is sound with a sound value for an attribute if it declares that. -/
theorem Sound.setIfDeclared (sound : inst.Sound T) (name : String) {value : Value}
    (hvalue : value.Sound T) : (inst.setIfDeclared name value).Sound T := by
  unfold Instance.setIfDeclared
  cases declared : inst.setDeclared? name value with
  | none => exact sound
  | some changed => exact sound.setDeclared? hvalue declared

/-- What a slot holds after a sound value is added to sound contents is sound. -/
theorem sound_accumulate {value : Value} (hvalue : value.Sound T) {held : Option Value}
    (hheld : ∀ v, held = some v → v.Sound T) : (accumulate value held).Sound T := by
  unfold accumulate
  split
  · exact hvalue
  · rename_i items
    have hitems := Value.sound_list_iff.mp (hheld _ rfl)
    exact .list (by simpa [or_imp, forall_and] using ⟨hitems, hvalue⟩)
  · exact .list (by simpa using ⟨hheld _ rfl, hvalue⟩)

/-- A sound instance is sound with a sound value added to an attribute. -/
theorem Sound.add (hereditary : Hereditary T N) (sound : inst.Sound T) {name : String}
    {value : Value} (hvalue : value.Sound T) {changed : Instance}
    (added : inst.add name value = .ok changed) : changed.Sound T := by
  unfold Instance.add at added
  split at added
  · simp at added
  rename_i undotted
  split at added
  · rw [pure_eq_ok_iff] at added
    exact added ▸ sound.setSlot (sound_accumulate hvalue fun _ => sound.slot?) _
  split at added
  · simp at added
  · rename_i undeclared informal
    rw [pure_eq_ok_iff] at added
    have hdeclared := sound.declare hereditary (by simpa using informal) undeclared
      (hereditary.undotted (by simpa using undotted))
    exact added ▸ hdeclared.setSlot (sound_accumulate hvalue fun _ => hdeclared.slot?) _

end Instance

end TemplateMachine
