import Mathlib.Data.List.Induction
import TemplateMachine.Proofs.Slots.Alignment

/-!
# Binding arguments

What the bindings of arguments do to the slots of an aligned instance: setting an attribute by name,
declaring it first, putting a value into the first slot, numbering, and setting a whole map of named
arguments. Setting gives an instance that differs in its slots only, and each argument is looked at
on its own. Declaring is the one step that changes the template.

Here too is the order in which values are taken from the operand stack: the one in which they were
pushed.
-/

namespace TemplateMachine

namespace Stack

/-- Values that were pushed one after the other are taken in the same order. -/
theorem popN_foldl_push (stack : Stack) (values : List Value) :
    (values.foldl push stack).popN values.length = .ok (values, stack) := by
  have htaken (later : List Value) :
      popMany values.length later (values.foldl push stack) = .ok (values ++ later, stack) := by
    induction values using List.reverseRecOn generalizing later with
    | nil => rfl
    | append_singleton before value ih =>
      simp only [List.length_append, List.length_singleton, List.foldl_append, List.foldl_cons,
        List.foldl_nil, popMany]
      exact (ih (value :: later)).trans (by simp)
  simpa [popN] using htaken []

end Stack

namespace Instance

/-- All slots of an instance that was just created are empty. -/
theorem slot?_ofTemplate (template : Template) (group : GroupId) (slot : Nat) :
    (ofTemplate template group).slot? slot = none := by
  simp only [slot?, ofTemplate, List.getElem?_map]
  cases template.args[slot]? <;> rfl

/-- Two instances have the same template, group and number of slots. -/
structure Alike (inst other : Instance) : Prop where
  template : inst.template = other.template
  group : inst.group = other.group
  length_locals : inst.locals.length = other.locals.length

variable {inst other third prototype : Instance} {arg : FormalArg}

theorem Alike.refl (inst : Instance) : inst.Alike inst :=
  ⟨rfl, rfl, rfl⟩

theorem Alike.symm (alike : inst.Alike other) : other.Alike inst :=
  ⟨alike.template.symm, alike.group.symm, alike.length_locals.symm⟩

theorem Alike.trans (first : inst.Alike other) (second : other.Alike third) : inst.Alike third :=
  ⟨first.template.trans second.template, first.group.trans second.group,
    first.length_locals.trans second.length_locals⟩

/-- An instance is aligned if one that is like it is. -/
theorem Alike.aligned (alike : inst.Alike other) (aligned : other.Aligned) : inst.Aligned := by
  refine ⟨?_, ?_, ?_⟩
  · rw [alike.length_locals, alike.template, aligned.length_locals]
  · rw [alike.template, aligned.slots]
  · rw [alike.template]
    exact aligned.names

/-- In an instance like an aligned one, the attribute named like an argument is what the slot of the
argument holds. -/
theorem Alike.attribute?_name (alike : inst.Alike other) (aligned : other.Aligned)
    (mem : arg ∈ other.template.args) : inst.attribute? arg.name = inst.slot? arg.slot :=
  (alike.aligned aligned).attribute?_name (alike.template ▸ mem)

/-- A like instance whose arguments are held the same way is the same instance. -/
theorem Aligned.eq_of_slot? (aligned : inst.Aligned) {other : Instance} (alike : other.Alike inst)
    (same : ∀ arg ∈ inst.template.args, other.slot? arg.slot = inst.slot? arg.slot) :
    other = inst := by
  have hlocals : other.locals = inst.locals := by
    refine List.ext_getElem alike.length_locals fun index hother hinst => ?_
    have hinside : index < inst.template.args.length := aligned.length_locals ▸ hinst
    have hslot := same _ (List.getElem_mem hinside)
    simpa [slot?, aligned.slot_getElem hinside, hother, hinst] using hslot
  cases inst
  cases other
  exact (Instance.mk.injEq ..).mpr ⟨alike.template, hlocals, alike.group⟩

/-- Setting a slot gives a like instance. -/
theorem alike_setSlot (inst : Instance) (slot : Nat) (value : Value) :
    (inst.setSlot slot value).Alike inst :=
  ⟨rfl, rfl, by simp⟩

/-- Setting an attribute if it is declared gives a like instance. -/
theorem alike_setIfDeclared (inst : Instance) (name : String) (value : Value) :
    (inst.setIfDeclared name value).Alike inst := by
  unfold setIfDeclared setDeclared?
  cases inst.template.arg? name with
  | none => exact .refl inst
  | some arg => exact inst.alike_setSlot arg.slot value

/-- Numbering gives a like instance. -/
theorem alike_numbered (inst : Instance) (position : Nat) :
    (inst.numbered position).Alike inst :=
  (alike_setIfDeclared _ _ _).trans (alike_setIfDeclared _ _ _)

/-- Arguments are held by the same slot exactly if they have the same name. -/
theorem Aligned.slot_eq_iff_name_eq (aligned : inst.Aligned) {named : FormalArg}
    (hnamed : named ∈ inst.template.args) (mem : arg ∈ inst.template.args) :
    named.slot = arg.slot ↔ arg.name = named.name := by
  rw [aligned.slot_inj hnamed mem]
  refine ⟨fun same => by rw [same], fun same => ?_⟩
  exact (List.inj_on_of_nodup_map aligned.names mem hnamed same).symm

/-- Setting the slot of an argument changes what that argument holds and no other. -/
theorem Aligned.slot?_setSlot_arg (aligned : inst.Aligned) {named : FormalArg}
    (hnamed : named ∈ inst.template.args) (mem : arg ∈ inst.template.args) (value : Value) :
    (inst.setSlot named.slot value).slot? arg.slot =
      if arg.name = named.name then some value else inst.slot? arg.slot := by
  simp only [slot?_setSlot inst (aligned.slot_lt hnamed), aligned.slot_eq_iff_name_eq hnamed mem]

/-- Setting an attribute if it is declared changes the slot of the argument of that name and no
other. -/
theorem Aligned.slot?_setIfDeclared (aligned : inst.Aligned) (mem : arg ∈ inst.template.args)
    (name : String) (value : Value) : (inst.setIfDeclared name value).slot? arg.slot =
      if arg.name = name then some value else inst.slot? arg.slot := by
  unfold setIfDeclared setDeclared?
  cases found : inst.template.arg? name with
  | none =>
    simp [Template.name_ne_of_arg?_eq_none found mem]
  | some named =>
    obtain ⟨hnamed, rfl⟩ := Template.mem_and_name_of_arg? found
    exact aligned.slot?_setSlot_arg hnamed mem value

/-- An argument with an index name holds the position, counted from zero or from one, and every
other argument holds what it held before. -/
theorem Aligned.slot?_numbered (aligned : inst.Aligned) (mem : arg ∈ inst.template.args)
    (position : Nat) : (inst.numbered position).slot? arg.slot =
      if arg.name ∈ indexArgs then
        some (.ofCount (if arg.name = "i0" then position else position + 1))
      else inst.slot? arg.slot := by
  have halike := inst.alike_setIfDeclared "i0" (.ofCount position)
  rw [numbered, (halike.aligned aligned).slot?_setIfDeclared (halike.template ▸ mem),
    aligned.slot?_setIfDeclared mem]
  by_cases first : arg.name = "i"
  · simp [first, indexArgs]
  by_cases second : arg.name = "i0"
  · simp [second, indexArgs]
  · simp [first, second, indexArgs]

/-- Setting the slot of an argument changes the attribute of that name and no other. -/
theorem Aligned.attribute?_setSlot_arg (aligned : inst.Aligned) {named : FormalArg}
    (hnamed : named ∈ inst.template.args) (value : Value) (name : String) :
    (inst.setSlot named.slot value).attribute? name =
      if name = named.name then some value else inst.attribute? name := by
  cases found : inst.template.arg? name with
  | none =>
    have hother : name ≠ named.name := (Template.name_ne_of_arg?_eq_none found hnamed).symm
    simp [attribute?, setSlot, found, hother]
  | some arg =>
    obtain ⟨hmem, rfl⟩ := Template.mem_and_name_of_arg? found
    rw [(inst.alike_setSlot named.slot value).attribute?_name aligned hmem,
      aligned.slot?_setSlot_arg hnamed hmem, aligned.attribute?_name hmem]

/-- A prototype with arguments takes a value for the first of them into its first slot. -/
theorem giveFirst_eq_setSlot (args : inst.template.args ≠ []) (value : Value) :
    inst.giveFirst value = (inst.setSlot 0 value, []) := by
  simp [giveFirst, args]

/-- The first argument of an aligned instance is held by the first slot. -/
theorem Aligned.slot_head (aligned : inst.Aligned) {first : FormalArg} {others : List FormalArg}
    (args : inst.template.args = first :: others) : first.slot = 0 := by
  have hinside : 0 < inst.template.args.length := by simp [args]
  simpa [args] using aligned.slot_getElem hinside

/-- The arguments that a caller of an aligned instance supplies have different names. -/
theorem Aligned.callerNames_nodup (aligned : inst.Aligned) :
    (inst.template.callerArgs.map FormalArg.name).Nodup :=
  aligned.names.sublist (List.filter_sublist.map FormalArg.name)

/-- Items under the names of the arguments that a caller supplies, in order. -/
def callerRow {α : Type} (inst : Instance) (items : List α) : List (String × α) :=
  (inst.template.callerArgs.map FormalArg.name).zip items

/-- Items under the names of the arguments that a caller supplies have different names. -/
theorem Aligned.nodup_callerRow {α : Type} (aligned : inst.Aligned) (items : List α) :
    ((inst.callerRow items).map Prod.fst).Nodup := by
  rw [callerRow, Entries.map_fst_zip]
  exact aligned.callerNames_nodup.sublist (List.take_sublist _ _)

/-- An instance that declares an attribute is aligned. -/
theorem Aligned.declare (aligned : inst.Aligned) {name : String}
    (undeclared : inst.template.arg? name = none) : (inst.declare name).1.Aligned := by
  refine ⟨?_, ?_, ?_⟩
  · simp [Instance.declare, aligned.length_locals]
  · simp [Instance.declare, aligned.slots, List.range_succ]
  · rw [Instance.declare, List.map_append, List.nodup_append]
    exact ⟨aligned.names, by simp, by simpa [Template.arg?] using undeclared⟩

/-- Declaring an attribute, which is unset at first, changes no attribute. -/
theorem Aligned.attribute?_declare (aligned : inst.Aligned) (name other : String) :
    (inst.declare name).1.attribute? other = inst.attribute? other := by
  have hlocals : (inst.declare name).1.locals = inst.locals ++ [none] := by
    simp [Instance.declare, ← aligned.length_locals, List.take_of_length_le]
  have hslot (slot : Nat) : (inst.declare name).1.slot? slot = inst.slot? slot := by
    simp only [slot?, hlocals, List.getElem?_append]
    split
    · rfl
    · rename_i outside
      rw [List.getElem?_eq_none (Nat.le_of_not_lt outside)]
      cases slot - inst.locals.length <;> rfl
  have harg : (inst.declare name).1.template.arg? other = (inst.template.arg? other).or
      (if name = other then some ⟨name, inst.template.args.length, none⟩ else none) := by
    simp [Template.arg?, Instance.declare, List.find?_append, List.find?_singleton]
  have hunset : inst.slot? inst.template.args.length = none := by
    simp [slot?, ← aligned.length_locals]
  rw [attribute?, attribute?, harg]
  cases inst.template.arg? other with
  | some arg => exact hslot arg.slot
  | none =>
    by_cases same : name = other
    · rw [if_pos same]
      exact (hslot _).trans hunset
    · rw [if_neg same]
      rfl

/-- Setting an attribute, declared first if need be, changes what that attribute holds and no
other. -/
theorem Aligned.attribute?_declareAndSet (aligned : inst.Aligned) (name : String) (value : Value)
    (other : String) : (inst.declareAndSet name value).attribute? other =
      if other = name then some value else inst.attribute? other := by
  unfold declareAndSet
  cases found : inst.template.arg? name with
  | some named =>
    obtain ⟨hnamed, rfl⟩ := Template.mem_and_name_of_arg? found
    exact aligned.attribute?_setSlot_arg hnamed value other
  | none =>
    have hnew : ⟨name, inst.template.args.length, none⟩ ∈ (inst.declare name).1.template.args :=
      List.mem_append_right _ List.mem_cons_self
    have hset := (aligned.declare found).attribute?_setSlot_arg hnew value other
    rw [aligned.attribute?_declare] at hset
    exact hset

/-- Setting arguments by name sets them one after the other. -/
theorem setNamed_cons_fst (inst : Instance) (name : String) (value : Value)
    (rest : List (String × Value)) :
    (inst.setNamed ((name, value) :: rest)).1 =
      ((inst.setIfDeclared name value).setNamed rest).1 := by
  cases found : inst.template.arg? name <;> simp [setNamed, setIfDeclared, setDeclared?, found]

/-- Setting arguments by name gives a like instance. -/
theorem alike_setNamed (inst : Instance) (entries : List (String × Value)) :
    (inst.setNamed entries).1.Alike inst := by
  induction entries generalizing inst with
  | nil => exact .refl inst
  | cons entry rest ih =>
    rw [setNamed_cons_fst]
    exact (ih _).trans (inst.alike_setIfDeclared entry.1 entry.2)

/-- What setting arguments by name reports: the names that are not declared. -/
theorem setNamed_problems (inst : Instance) (entries : List (String × Value)) :
    (inst.setNamed entries).2 =
      (entries.filter fun entry => (inst.template.arg? entry.1).isNone).map
        (.noSuchAttribute ·.1) := by
  induction entries generalizing inst with
  | nil => rfl
  | cons entry rest ih =>
    obtain ⟨name, value⟩ := entry
    cases found : inst.template.arg? name with
    | none => simp [setNamed, setDeclared?, found, ih inst]
    | some arg => simp [setNamed, setDeclared?, found, ih, setSlot]

/-- Setting arguments by name puts into the slot of each argument what stands under its name, and
leaves the slot as it is if there is nothing. -/
theorem Aligned.slot?_setNamed (aligned : inst.Aligned) (mem : arg ∈ inst.template.args)
    {entries : Entries Value} (nodup : (Entries.keys entries).Nodup) :
    (inst.setNamed entries).1.slot? arg.slot =
      (Entries.find? arg.name entries).or (inst.slot? arg.slot) := by
  induction entries generalizing inst with
  | nil => rfl
  | cons entry rest ih =>
    obtain ⟨name, value⟩ := entry
    obtain ⟨hfresh, hrest⟩ := List.nodup_cons.mp nodup
    have halike := inst.alike_setIfDeclared name value
    rw [setNamed_cons_fst, ih (halike.aligned aligned) (halike.template ▸ mem) hrest,
      aligned.slot?_setIfDeclared mem]
    by_cases same : arg.name = name
    · have hgone : Entries.find? name rest = none := Entries.find?_eq_none_iff.mpr hfresh
      simp [Entries.find?, same, hgone]
    · simp [Entries.find?, same, Ne.symm same]

/-- Giving arguments by name, all declared and no more than a caller supplies, reports nothing but
that one is lacking. -/
theorem giveNamed_eq_of_setNamed {named : Instance} {entries : Entries Value}
    (explicit : inst.template.hasFormalArgs = true) (set : inst.setNamed entries = (named, []))
    (few : entries.length ≤ named.template.arity) :
    inst.giveNamed entries = (named,
      if named.lacksArgument then [named.countMismatch entries.length named.template.arity]
      else []) := by
  have hfew : ¬ named.template.arity < entries.length := Nat.not_lt.mpr few
  cases hlacks : named.lacksArgument <;> simp [giveNamed, explicit, set, hfew, hlacks]

end Instance

end TemplateMachine
