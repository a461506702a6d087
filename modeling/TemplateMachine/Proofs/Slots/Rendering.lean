import TemplateMachine.Proofs.Slots.Origin

/-!
# Slots during renders

Whatever a render works with has its arguments where its program looks for them: instances that are
running or have been put on an operand stack, that were given arguments by position or by name, that
a mapping made of a prototype, that stand in a default, or that can be made out of all these. In
every frame that a render comes to, the name and the slot of an argument lead to the same value.
-/

namespace TemplateMachine

/-- An instance is part of an operand if it is part of a value in it. -/
inductive Operand.Holds (inst : Instance) : Operand → Prop where
  | value {content : Value} (holds : content.Holds inst) : Operand.Holds inst (.value content)
  | option {row : OptionRow Value} {option : WriteOption} {value : Value}
    (set : row.get? option = some value) (holds : value.Holds inst) :
    Operand.Holds inst (.options row)
  | argument {entries : Entries Value} {entry : String × Value} (mem : entry ∈ entries)
    (holds : entry.2.Holds inst) : Operand.Holds inst (.arguments entries)

/-- The instances that a mark has at hand: those of its frame and of the callers, and when an
instruction is come to also those in the operands that it finds and in the operands that it
leaves. -/
inductive Mark.AtHand (setting : Setting) (mark : Mark) (inst : Instance) : Prop where
  | scope (mem : inst ∈ mark.frame.scope)
  | found {cursor : Cursor} {instr : Instr} {operand : Operand}
    (reached : mark.deed = .reached cursor instr) (mem : operand ∈ cursor.stack)
    (holds : operand.Holds inst)
  | left {cursor : Cursor} {instr : Instr} {stack : Stack} {problems : List Problem}
    {operand : Operand} (reached : mark.deed = .reached cursor instr)
    (ends : mark.frame.operate setting cursor.stack instr = .ok (stack, problems))
    (mem : operand ∈ stack) (holds : operand.Holds inst)

variable {T : Template → Prop} {N : String → Prop} {setting : Setting}

/-- The instances that are part of a sound operand are sound. -/
theorem Operand.Sound.of_holds {operand : Operand} (sound : operand.Sound T) {inst : Instance}
    (holds : operand.Holds inst) : inst.Sound T := by
  cases holds with
  | value holds => exact Value.Sound.of_holds holds sound
  | option set holds => exact Value.Sound.of_holds holds (sound _ _ set)
  | argument mem holds => exact Value.Sound.of_holds holds (sound _ mem)

/-- The instances that a sound mark has at hand are sound if it admits the names that are given. -/
theorem Mark.Sound.of_atHand_of_admits (hereditary : Hereditary T N)
    (catalog : setting.catalog.Sound T)
    (fits : ∀ template : Template, T template → template.OperandsFit) {mark : Mark}
    (sound : mark.Sound T) (admits : mark.Admits N setting) {inst : Instance}
    (atHand : mark.AtHand setting inst) : inst.Sound T := by
  obtain ⟨aside, frame, deed⟩ := mark
  obtain ⟨hframe, hdeed⟩ := sound
  cases atHand with
  | scope mem => exact hframe inst mem
  | found reached mem holds =>
    subst reached
    exact (hdeed.1 _ mem).of_holds holds
  | @left cursor instr stack problems operand reached ends mem holds =>
    subst reached
    obtain ⟨hstack, hinstr⟩ := hdeed
    have hfits : frame.template.Fits instr := fits _ hframe.running.template.holds instr hinstr
    have hleft := (hframe.gives_operate hereditary catalog hstack hfits
      (admits cursor instr rfl)).of_eq_ok ends
    exact (hleft.1 _ mem).of_holds holds

/-- The instances that a sound mark has at hand are sound. -/
theorem Mark.Sound.of_atHand (hereditary : Hereditary T) (catalog : setting.catalog.Sound T)
    (fits : ∀ template : Template, T template → template.OperandsFit) {mark : Mark}
    (sound : mark.Sound T) {inst : Instance} (atHand : mark.AtHand setting inst) :
    inst.Sound T :=
  sound.of_atHand_of_admits hereditary catalog fits (fun _ _ _ _ _ => trivial) atHand

variable {identifiers : IdentifierClass}

/-- An instance in order is aligned, and its arguments are those of a built template followed by
attributes declared on the fly. -/
theorem Instance.Sound.aligned_and_extends {inst : Instance}
    (sound : inst.Sound (Template.InOrder identifiers)) : inst.Aligned ∧
      ∃ built : Template, built.Assembled identifiers ∧ inst.template.Extends built :=
  ⟨sound.aligned sound.template.holds.names, sound.template.holds.origin⟩

/-- An instance that can be made is aligned, and its arguments are those of a built template followed
by attributes declared on the fly. So is every instance that can be made out of what its render has
at hand at any time. In every frame that the render comes to, loading an argument of the running
template by name and loading it by slot push the same value. -/
theorem Instance.Reachable.render_aligned {catalog : Catalog} (groups : ∀ group ∈ catalog.groups,
    group.Reachable identifiers) {inst : Instance} (reachable : inst.Reachable identifiers)
    (settings : RenderSettings) (sink : Sink) (withEvents : Bool) (fuel : Nat) :
    (inst.Aligned ∧
      ∃ built : Template, built.Assembled identifiers ∧ inst.template.Extends built) ∧
    ∀ mark ∈ (inst.execute catalog settings sink withEvents fuel).2.trail,
      (∀ other : Instance, other.Made identifiers (mark.AtHand (settings.setting catalog inst)) →
        other.Aligned ∧
          ∃ built : Template, built.Assembled identifiers ∧ other.template.Extends built) ∧
      ∀ (stack : Stack) (index : Nat), ∀ arg ∈ mark.frame.template.args,
        mark.frame.template.text index = .ok arg.name → ∃ value,
          mark.frame.operate (settings.setting catalog inst) stack (.loadAttr index) =
            stack.pushed value ∧
          mark.frame.operate (settings.setting catalog inst) stack (.loadLocal arg.slot) =
            stack.pushed value := by
  have builds := @Template.buildsInto_inOrder identifiers
  have hnothing (inst : Instance) (absurd : False) : inst.Sound (Template.InOrder identifiers) :=
    absurd.elim
  have hinst : inst.Sound (Template.InOrder identifiers) := reachable.sound builds hnothing
  have hcatalog : (settings.setting catalog inst).catalog.Sound (Template.InOrder identifiers) :=
    Catalog.sound_of_reachable builds groups
  have hfits (template : Template) (inOrder : template.InOrder identifiers) : template.OperandsFit :=
    inOrder.operandsFit
  have hfinish := hinst.execute builds.hereditary hcatalog hfits settings sink withEvents fuel
  refine ⟨hinst.aligned_and_extends, fun mark mem => ?_⟩
  have hmark := hfinish.trail mark mem
  refine ⟨fun other made => ?_, fun stack index arg declared pooled => ?_⟩
  · have hother := made.sound builds fun _ => hmark.of_atHand builds.hereditary hcatalog hfits
    exact hother.aligned_and_extends
  · have hrunning := hmark.1.running.aligned_and_extends.1
    exact ⟨_, Frame.operate_loadAttr_name hrunning declared _ stack pooled⟩

/-- A draft that applies a template to each of its items, which it does not declare. -/
def listingDraft : Draft :=
  ((((Draft.named "listing").emitText .loadAttr "items").emit .pushNull).emitText (.newNamed · 1)
    "entry").emit .map |>.emit .write

/-- The template of a listing. -/
def listingTemplate : Template :=
  { Template.blank "listing" with
    program := [.loadAttr 0, .pushNull, .newNamed 1 1, .map, .write]
    pool := ["items", "entry"]
    spans := [none, none, none, none, none] }

/-- A draft that writes the one argument that it declares. -/
def entryDraft : Draft :=
  ((Draft.named "entry").arg "item" none).emit (.writeLocal 0)

/-- The template of an entry of a listing. -/
def entryTemplate : Template :=
  { Template.blank "entry" with
    program := [.writeLocal 0]
    args := [⟨"item", 0, none⟩]
    hasFormalArgs := true
    spans := [none] }

/-- A group with a listing and its entries. -/
def listingGroup : Group :=
  { Group.empty ⟨0⟩ with
    templates := [("entry", entryTemplate), ("listing", listingTemplate)] }

/-- A listing of a single item. -/
def listingInstance : Instance :=
  (listingGroup.create listingTemplate).declareAndSet "items" (.string "one")

/-- A listing can be made by a group that can be made. Its render begins two templates and comes to
six instructions, and in all of them the slots hold what the names of the arguments say. -/
theorem listing_render_aligned :
    listingGroup.Reachable unicodeIdentifiers ∧ listingInstance.Reachable unicodeIdentifiers ∧
    (listingInstance.execute ⟨[listingGroup]⟩ .standard .boundless true 20).2.trail.length = 8 ∧
    (listingInstance.Aligned ∧
      ∃ built : Template, built.Assembled unicodeIdentifiers ∧ listingInstance.template.Extends built) ∧
    ∀ mark ∈ (listingInstance.execute ⟨[listingGroup]⟩ .standard .boundless true 20).2.trail,
      (∀ other : Instance, other.Made unicodeIdentifiers
          (mark.AtHand (RenderSettings.standard.setting ⟨[listingGroup]⟩ listingInstance)) →
        other.Aligned ∧
          ∃ built : Template, built.Assembled unicodeIdentifiers ∧ other.template.Extends built) ∧
      ∀ (stack : Stack) (index : Nat), ∀ arg ∈ mark.frame.template.args,
        mark.frame.template.text index = .ok arg.name → ∃ value,
          mark.frame.operate (RenderSettings.standard.setting ⟨[listingGroup]⟩ listingInstance)
            stack (.loadAttr index) = stack.pushed value ∧
          mark.frame.operate (RenderSettings.standard.setting ⟨[listingGroup]⟩ listingInstance)
            stack (.loadLocal arg.slot) = stack.pushed value := by
  have hlisting : listingDraft.Made unicodeIdentifiers fun _ => False :=
    ((((Draft.Made.named "listing").emitText .loadAttr "items").emit .pushNull).emitText
      (.newNamed · 1) "entry").emit .map |>.emit .write
  have hentry : entryDraft.Made unicodeIdentifiers fun _ => False :=
    ((Draft.Made.named "entry").arg "item").emit (.writeLocal 0)
  have htemplate : listingTemplate.Reachable unicodeIdentifiers := .built hlisting rfl
  have hinner : entryTemplate.Reachable unicodeIdentifiers := .built hentry rfl
  have hbuilt : GroupDraft.build
      { GroupDraft.empty with templates := [listingTemplate, entryTemplate] } ⟨0⟩ =
      .ok listingGroup := rfl
  have hgroup : listingGroup.Reachable unicodeIdentifiers :=
    .of_templates (by simpa using ⟨htemplate, hinner⟩) hbuilt
  have hadded : (listingGroup.create listingTemplate).add "items" (.string "one") =
      .ok listingInstance := rfl
  have hinst : listingInstance.Reachable unicodeIdentifiers :=
    .add (.create htemplate ⟨0⟩) (.string "one") hadded
  have hgroups : ∀ group ∈ (Catalog.mk [listingGroup]).groups,
      group.Reachable unicodeIdentifiers := by
    simpa using hgroup
  exact ⟨hgroup, hinst, by decide +kernel,
    hinst.render_aligned hgroups .standard .boundless true 20⟩

end TemplateMachine
