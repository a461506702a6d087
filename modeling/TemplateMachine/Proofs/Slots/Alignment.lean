import Mathlib.Data.List.Nodup
import TemplateMachine.Proofs.Sound.Instance
import TemplateMachine.Render.Operation

/-!
# Arguments and slots

An instance keeps its values in slots and its template says by name which argument is held by which
slot. The two agree if there is one slot for each argument, if the arguments are held by the slots in
order, and if no two arguments have the same name. A program reads an argument by its slot or by its
name; where the two agree, both give the same value.
-/

namespace TemplateMachine

/-- An instance has one slot for each argument of its template, the slots hold the arguments in
order, and no two arguments have the same name. -/
structure Instance.Aligned (inst : Instance) : Prop where
  length_locals : inst.locals.length = inst.template.args.length
  slots : inst.template.args.map FormalArg.slot = List.range inst.template.args.length
  names : (inst.template.args.map FormalArg.name).Nodup

/-- A sound instance is aligned if no two arguments of its template have the same name. -/
theorem Instance.Sound.aligned {T : Template → Prop} {inst : Instance} (sound : inst.Sound T)
    (names : (inst.template.args.map FormalArg.name).Nodup) : inst.Aligned :=
  ⟨sound.length_locals, sound.template.slots, names⟩

namespace Template

variable {template : Template} {name : String} {arg : FormalArg}

/-- The argument that a name leads to is one of the arguments and has that name. -/
theorem mem_and_name_of_arg? (found : template.arg? name = some arg) :
    arg ∈ template.args ∧ arg.name = name :=
  ⟨mem_args_of_arg?_eq_some found, by simpa using List.find?_some found⟩

/-- A name that leads to no argument is the name of none. -/
theorem name_ne_of_arg?_eq_none (missing : template.arg? name = none) (mem : arg ∈ template.args) :
    arg.name ≠ name := by
  simpa using List.find?_eq_none.mp missing arg mem

end Template

namespace Instance.Aligned

variable {inst : Instance} {arg other : FormalArg}

/-- The name of an argument leads to that argument. -/
theorem arg?_name (aligned : inst.Aligned) (mem : arg ∈ inst.template.args) :
    inst.template.arg? arg.name = some arg := by
  cases found : inst.template.arg? arg.name with
  | none => exact absurd rfl (Template.name_ne_of_arg?_eq_none found mem)
  | some other =>
    obtain ⟨hother, hname⟩ := Template.mem_and_name_of_arg? found
    exact congrArg some (List.inj_on_of_nodup_map aligned.names hother mem hname)

/-- An argument is held by the slot of its position. -/
theorem slot_getElem (aligned : inst.Aligned) {index : Nat}
    (inside : index < inst.template.args.length) : inst.template.args[index].slot = index := by
  have hslot := congrArg (·[index]?) aligned.slots
  simpa [inside] using hslot

/-- The slot of an argument exists. -/
theorem slot_lt (aligned : inst.Aligned) (mem : arg ∈ inst.template.args) :
    arg.slot < inst.locals.length := by
  obtain ⟨index, inside, rfl⟩ := List.mem_iff_getElem.mp mem
  rw [aligned.slot_getElem inside, aligned.length_locals]
  exact inside

/-- Two arguments are held by two slots. -/
theorem slot_inj (aligned : inst.Aligned) (mem : arg ∈ inst.template.args)
    (hother : other ∈ inst.template.args) : arg.slot = other.slot ↔ arg = other := by
  refine ⟨fun same => List.inj_on_of_nodup_map (f := FormalArg.slot) ?_ mem hother same,
    congrArg _⟩
  rw [aligned.slots]
  exact List.nodup_range

/-- The attribute named like an argument is what the slot of the argument holds. -/
theorem attribute?_name (aligned : inst.Aligned) (mem : arg ∈ inst.template.args) :
    inst.attribute? arg.name = inst.slot? arg.slot := by
  rw [Instance.attribute?, aligned.arg?_name mem, Option.bind_some]

/-- The slot of an argument can be read. -/
theorem readSlot_eq (aligned : inst.Aligned) (mem : arg ∈ inst.template.args) :
    inst.readSlot arg.slot = .ok ((inst.slot? arg.slot).getD .none) := by
  have hslot := List.getElem?_eq_getElem (aligned.slot_lt mem)
  rw [Instance.readSlot, Instance.slot?, hslot]
  rfl

end Instance.Aligned

namespace Frame

variable {frame : Frame} {arg : FormalArg}

/-- The name of an argument of the running template leads to what its slot holds, whatever the
callers declare. -/
theorem resolve?_name (aligned : frame.running.Aligned) (mem : arg ∈ frame.template.args) :
    frame.resolve? arg.name = some (frame.running.slot? arg.slot) := by
  rw [resolve?, scope, resolveIn?, aligned.arg?_name mem]

/-- Loading an argument of the running template by its name and loading it by its slot both push what
its slot holds. -/
theorem operate_loadAttr_name (aligned : frame.running.Aligned) (mem : arg ∈ frame.template.args)
    (setting : Setting) (stack : Stack) {index : Nat}
    (pooled : frame.template.text index = .ok arg.name) :
    frame.operate setting stack (.loadAttr index) =
        stack.pushed ((frame.running.slot? arg.slot).getD .none) ∧
      frame.operate setting stack (.loadLocal arg.slot) =
        stack.pushed ((frame.running.slot? arg.slot).getD .none) := by
  constructor
  · simp only [operate, pooled, attribute?, resolve?_name aligned mem, ok_bind]
  · simp only [operate, aligned.readSlot_eq mem, ok_bind]

end Frame

end TemplateMachine
