import TemplateMachine.Proofs.Bounds.Checked
import TemplateMachine.Proofs.Sound.Machine
import TemplateMachine.Proofs.Sound.Made
import TemplateMachine.Render.Rendering

/-!
# Renders stay in bounds

Operands are checked once, when a draft is built, and used ever after: against instances whose
template was copied and has more arguments by then, against prototypes that a mapping cloned, and
against blank templates. No render of an instance that can be made reports an operand out of range,
and no slot and no prototype is reached by an index out of bounds, whether the render ends or not.

The checks of the builder are taken as they are; that they ask for no more than they have to is not
shown here.
-/

namespace TemplateMachine

/-- All operands in the program of a template fit it. -/
def Template.OperandsFit (template : Template) : Prop :=
  ∀ instr ∈ template.program, template.Fits instr

/-- A program has no error exactly if all its operands fit. -/
theorem Draft.programError?_eq_none_iff {fits : OperandKind × Nat → Bool} {ip : Nat}
    {program : List Instr} :
    programError? fits ip program = none ↔
      ∀ instr ∈ program, ∀ operand ∈ instr.operands, fits operand = true := by
  induction program generalizing ip with
  | nil => simp [programError?]
  | cons instr rest ih =>
    rw [programError?, List.forall_mem_cons]
    cases hfind : instr.operands.find? fun operand => !fits operand with
    | none =>
      have hfits := List.find?_eq_none.mp hfind
      simp only [ih, iff_and_self]
      intro _ operand mem
      simpa using hfits operand mem
    | some operand =>
      have hmem := List.mem_of_find?_eq_some hfind
      have hunfit := List.find?_some hfind
      refine iff_of_false (by simp) fun hall => ?_
      simp [hall.1 operand hmem] at hunfit

/-- Operands that fit still fit when there are more slots. -/
theorem Draft.operandFits_mono {poolSize argCount programSize : Nat} {operand : OperandKind × Nat}
    (fits : operandFits poolSize argCount programSize operand = true) :
    operandFits poolSize (argCount + 1) programSize operand = true := by
  obtain ⟨kind, n⟩ := operand
  cases kind with
  | slot =>
    have hlt : n < argCount := by simpa [operandFits] using fits
    simpa [operandFits] using Nat.lt_succ_of_lt hlt
  | _ => exact fits

/-- Operands fit a template as long as it only gets more arguments. -/
theorem Template.hereditary_operandsFit : Hereditary OperandsFit where
  blank := by simp [OperandsFit, blank]
  withArg := by
    intro template name holds _ _ _ instr mem operand hoperand
    simpa [withArg] using Draft.operandFits_mono (holds instr mem operand hoperand)
  identified := fun _ holds => holds

variable {identifiers : IdentifierClass}

/-- Operands fit every template that a draft is built into, and keep fitting it. -/
theorem buildsInto_operandsFit : BuildsInto identifiers Template.OperandsFit where
  hereditary := Template.hereditary_operandsFit
  built := by
    intro given draft template _ built
    obtain ⟨rfl, hprogram⟩ := Draft.eq_of_build_eq_ok built
    exact Draft.programError?_eq_none_iff.mp hprogram

/-- What is reached by index is in bounds: when a template begins, the slots of its arguments, and
when an instruction is come to, all that its operation reaches. -/
def Mark.InBounds (setting : Setting) (mark : Mark) : Prop :=
  match mark.deed with
  | .begun => ∀ arg ∈ mark.frame.template.args, arg.slot < mark.frame.running.locals.length
  | .reached cursor instr =>
    (Checked.operate mark.frame setting cursor.stack instr).run =
      some (mark.frame.operate setting cursor.stack instr)
  | .abandoned _ _ => True

/-- What is reached by index at a sound mark is in bounds. -/
theorem Mark.Sound.inBounds {mark : Mark} (sound : mark.Sound Template.OperandsFit)
    {setting : Setting} (catalog : setting.catalog.Sound Template.OperandsFit) :
    mark.InBounds setting := by
  obtain ⟨aside, frame, deed⟩ := mark
  obtain ⟨hframe, hdeed⟩ := sound
  cases deed with
  | begun => exact fun arg mem => hframe.running.slot_lt mem
  | reached cursor instr =>
    obtain ⟨hstack, hinstr⟩ := hdeed
    exact hstack.checked_operate Template.hereditary_operandsFit catalog
      (hframe.running.template.holds instr hinstr)
  | abandoned cursor fault => trivial

/-- Adding to an instance that can be made stays in bounds, and so does every render of it with
groups that can be made. It reports no operand out of range. -/
theorem Instance.Reachable.render_inBounds {catalog : Catalog} (groups : ∀ group ∈ catalog.groups,
    group.Reachable identifiers) {inst : Instance} (reachable : inst.Reachable identifiers)
    (settings : RenderSettings) (sink : Sink) (withEvents : Bool) (fuel : Nat) :
    (∀ name value, Checked.add inst name value = some (inst.add name value)) ∧
    (∀ attributes : List (String × Value), (∀ pair ∈ attributes, pair.2.Reachable identifiers) →
      Checked.addAll inst attributes = some (inst.addAll attributes)) ∧
    (∀ message ∈ (inst.execute catalog settings sink withEvents fuel).2.messages,
      message.problem.isOutOfRange = false) ∧
    ∀ mark ∈ (inst.execute catalog settings sink withEvents fuel).2.trail,
      mark.InBounds (settings.setting catalog inst) := by
  have builds := @buildsInto_operandsFit identifiers
  have hnothing (inst : Instance) (absurd : False) : inst.Sound Template.OperandsFit := absurd.elim
  have hinst : inst.Sound Template.OperandsFit := reachable.sound builds hnothing
  have hcatalog := Catalog.sound_of_reachable builds groups
  have hfinish := hinst.execute builds.hereditary hcatalog (fun _ => id) settings sink withEvents fuel
  refine ⟨hinst.checked_add, fun attributes values => ?_, hfinish.messages, fun mark mem => ?_⟩
  · exact hinst.checked_addAll builds.hereditary fun pair mem =>
      (values pair mem).sound builds hnothing
  · exact (hfinish.trail mark mem).inBounds hcatalog

/-- A draft of a greeting by name, which is an attribute that the template does not declare. -/
def greetingDraft : Draft :=
  (((Draft.named "greeting").emitText .writeStr "Hello ").emitText .loadAttr "name").emit .write

/-- The template of a greeting. -/
def greetingTemplate : Template where
  identity := none
  name := "greeting"
  program := [.writeStr 0, .loadAttr 1, .write]
  pool := ["Hello ", "name"]
  args := []
  hasFormalArgs := false
  anonymous := false
  region := false
  subtemplates := []
  source := none
  spans := [none, none, none]

/-- The template of a greeting can be made, whatever counts as an identifier. -/
theorem reachable_greetingTemplate : greetingTemplate.Reachable identifiers := by
  have hdraft : greetingDraft.Made identifiers fun _ => False :=
    (((Draft.Made.named "greeting").emitText .writeStr "Hello ").emitText .loadAttr "name").emit
      .write
  exact .built hdraft rfl

/-- A group with a greeting. -/
def greetingGroup : Group :=
  { Group.empty ⟨0⟩ with templates := [("greeting", greetingTemplate)] }

/-- A greeting of somebody. -/
def greetingInstance : Instance :=
  (greetingGroup.create greetingTemplate).declareAndSet "name" (.string "World")

/-- A greeting can be made by a group that can be made, and its render, which begins one template
and comes to three instructions, stays in bounds. -/
theorem greeting_render_inBounds :
    greetingGroup.Reachable unicodeIdentifiers ∧ greetingInstance.Reachable unicodeIdentifiers ∧
    (greetingInstance.execute ⟨[greetingGroup]⟩ .standard .boundless true 20).2.trail.length = 4 ∧
    (∀ message ∈
        (greetingInstance.execute ⟨[greetingGroup]⟩ .standard .boundless true 20).2.messages,
      message.problem.isOutOfRange = false) ∧
    ∀ mark ∈ (greetingInstance.execute ⟨[greetingGroup]⟩ .standard .boundless true 20).2.trail,
      mark.InBounds (RenderSettings.standard.setting ⟨[greetingGroup]⟩ greetingInstance) := by
  have hbuilt : GroupDraft.build { GroupDraft.empty with templates := [greetingTemplate] } ⟨0⟩ =
      .ok greetingGroup := rfl
  have hgroup : greetingGroup.Reachable unicodeIdentifiers :=
    .of_templates (by simpa using reachable_greetingTemplate) hbuilt
  have hadded : (greetingGroup.create greetingTemplate).add "name" (.string "World") =
      .ok greetingInstance := rfl
  have hinst : greetingInstance.Reachable unicodeIdentifiers :=
    .add (.create reachable_greetingTemplate ⟨0⟩) (.string "World") hadded
  have hgroups : ∀ group ∈ (Catalog.mk [greetingGroup]).groups,
      group.Reachable unicodeIdentifiers := by
    simpa using hgroup
  obtain ⟨-, -, hmessages, hmarks⟩ := hinst.render_inBounds hgroups .standard .boundless true 20
  exact ⟨hgroup, hinst, by decide +kernel, hmessages, hmarks⟩

end TemplateMachine
