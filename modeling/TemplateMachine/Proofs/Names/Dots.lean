import TemplateMachine.Proofs.Slots.Rendering

/-!
# Dots in the names of attributes

A path of properties is written with dots, so an attribute that has one in its name could not be
told from a path. The names of arguments are identifiers, which have no dots in them, and adding an
attribute with a dot in its name is refused. An argument map keeps whatever names are stored in it,
though, and a template without an argument list of its own declares the names of a map that it is
given.

That is the only way: attributes with a dot in the name come up in a render exactly when an
instruction gives such a name to a template that declares what it is given.
-/

namespace TemplateMachine

/-- A name without a dot. -/
def Undotted (name : String) : Prop :=
  '.' ∉ name.toList

/-- No argument of the template has a dot in its name. -/
def Template.Undotted (template : Template) : Prop :=
  ∀ arg ∈ template.args, TemplateMachine.Undotted arg.name

variable {identifiers : IdentifierClass}

/-- What a draft is built into has no dots in the names of its arguments if no identifier has. -/
theorem Draft.undotted_of_build_eq_ok (undotted : identifiers.Excludes '.') {draft : Draft}
    {template : Template} (built : draft.build identifiers = .ok template) : template.Undotted :=
  fun arg mem => undotted.notMem (by decide) (draft.admits_of_build_eq_ok built arg mem)

namespace Template

/-- All operands of a template fit it, and none of its arguments has a dot in its name. -/
structure Plain (template : Template) : Prop where
  operandsFit : template.OperandsFit
  undotted : template.Undotted

/-- What a draft is built into is plain if no identifier has a dot in it, and stays so with arguments
of names without a dot. -/
theorem buildsInto_plain (undotted : identifiers.Excludes '.') :
    BuildsInto identifiers Plain TemplateMachine.Undotted where
  hereditary := {
    blank := fun name => ⟨hereditary_operandsFit.blank name, by simp [Undotted, blank]⟩
    withArg := by
      intro template name plain informal undeclared admitted
      refine ⟨hereditary_operandsFit.withArg plain.operandsFit informal undeclared
        trivial, ?_⟩
      simpa [Undotted, Template.withArg, or_imp, forall_and] using ⟨plain.undotted, admitted⟩
    identified := fun _ plain => ⟨plain.operandsFit, plain.undotted⟩
    undotted := fun undotted => by simpa [TemplateMachine.Undotted] using undotted }
  built := fun made built =>
    ⟨buildsInto_operandsFit.built made built, Draft.undotted_of_build_eq_ok undotted built⟩

end Template

namespace Instance

/-- The names of the arguments that an instance declares. -/
def argNames (inst : Instance) : List String :=
  inst.template.args.map FormalArg.name

/-- Setting an attribute leaves the names of the arguments that there are, and its own. -/
theorem argNames_declareAndSet (inst : Instance) (name : String) (value : Value) :
    inst.argNames ⊆ (inst.declareAndSet name value).argNames ∧
      name ∈ (inst.declareAndSet name value).argNames := by
  unfold declareAndSet
  split
  · rename_i arg declared
    refine ⟨List.Subset.refl _, List.mem_map.mpr ⟨arg, ?_, ?_⟩⟩
    · exact Template.mem_args_of_arg?_eq_some declared
    · simpa using List.find?_some declared
  · simp [argNames, declare, setSlot]

/-- Setting attributes one by one leaves the names of the arguments that there are, and theirs. -/
theorem argNames_foldl_declareAndSet (inst : Instance) (entries : Entries Value) :
    inst.argNames ++ entries.map Prod.fst ⊆
      (entries.foldl (fun inst entry => inst.declareAndSet entry.1 entry.2) inst).argNames := by
  induction entries generalizing inst with
  | nil => simp
  | cons entry rest ih =>
    obtain ⟨old, new⟩ := inst.argNames_declareAndSet entry.1 entry.2
    have later := List.append_subset.mp (ih (inst.declareAndSet entry.1 entry.2))
    refine List.append_subset.mpr ⟨List.Subset.trans old later.1, ?_⟩
    exact List.cons_subset.mpr ⟨later.1 new, later.2⟩

/-- Giving arguments by name to an instance that declares whatever it is given leaves an argument of
each name. -/
theorem name_mem_giveNamed {inst : Instance} (informal : inst.template.hasFormalArgs = false)
    {entries : Entries Value} {name : String} (mem : name ∈ entries.map Prod.fst) :
    name ∈ (inst.giveNamed entries).1.argNames := by
  rw [giveNamed, if_pos (by simp [informal])]
  exact argNames_foldl_declareAndSet inst entries (List.mem_append_right _ mem)

end Instance

/-- An instruction that gives a name leaves an instance with an argument of that name. -/
theorem Frame.GivesNamed.exists_left {frame : Frame} {setting : Setting} {stack : Stack}
    {instr : Instr} {name : String} (gives : frame.GivesNamed setting stack instr name) :
    ∃ (beneath : Stack) (inst : Instance) (problems : List Problem),
      frame.operate setting stack instr = .ok (beneath.push (.template inst), problems) ∧
      name ∈ inst.argNames := by
  cases gives with
  | @newBoxArgs index text _ entries rest inst pooled popped found informal mem =>
    refine ⟨rest, (inst.giveNamed entries).1, (inst.giveNamed entries).2, ?_,
      inst.name_mem_giveNamed informal mem⟩
    rw [operate, pooled, ok_bind, popped, ok_bind, found]
    rfl
  | @superNewBoxArgs index text _ entries rest inst pooled popped found informal mem =>
    refine ⟨rest, (inst.giveNamed entries).1, (inst.giveNamed entries).2, ?_,
      inst.name_mem_giveNamed informal mem⟩
    rw [operate, pooled, ok_bind, popped, ok_bind, found]
    rfl

/-- An instruction that gives a name with a dot has an instance at hand that declares it. -/
theorem Mark.admits_of_undotted {mark : Mark} {setting : Setting}
    (undotted : ∀ inst : Instance, mark.AtHand setting inst → inst.template.Undotted) :
    mark.Admits Undotted setting := by
  intro cursor instr reached name gives
  obtain ⟨beneath, inst, problems, ends, mem⟩ := gives.exists_left
  obtain ⟨arg, declared, rfl⟩ := List.mem_map.mp mem
  exact undotted inst (.left reached ends List.mem_cons_self (.value .here)) arg declared

/-- If no identifier has a dot in it, an instance that can be made has no attribute with a dot in its
name. What its render has at hand at any time and what can be made out of that has none either,
exactly if no instruction that the render comes to gives such a name to an instance that declares
whatever it is given. -/
theorem Instance.Reachable.render_undotted_iff (undotted : identifiers.Excludes '.')
    {catalog : Catalog} (groups : ∀ group ∈ catalog.groups, group.Reachable identifiers)
    {inst : Instance} (reachable : inst.Reachable identifiers) (settings : RenderSettings)
    (sink : Sink) (withEvents : Bool) (fuel : Nat) :
    inst.template.Undotted ∧
    ((∀ mark ∈ (inst.execute catalog settings sink withEvents fuel).2.trail,
        ∀ other : Instance, other.Made identifiers (mark.AtHand (settings.setting catalog inst)) →
          other.template.Undotted) ↔
      ∀ mark ∈ (inst.execute catalog settings sink withEvents fuel).2.trail,
        mark.Admits Undotted (settings.setting catalog inst)) := by
  have builds := Template.buildsInto_plain undotted
  have hinst : inst.Sound Template.Plain := reachable.sound builds fun _ absurd => absurd.elim
  have hcatalog : (settings.setting catalog inst).catalog.Sound Template.Plain :=
    Catalog.sound_of_reachable builds groups
  have hfits (template : Template) (plain : template.Plain) : template.OperandsFit :=
    plain.operandsFit
  refine ⟨hinst.template.holds.undotted, fun plain mark mem => ?_, fun admits mark mem => ?_⟩
  · exact mark.admits_of_undotted fun other atHand => plain mark mem other (.given atHand)
  · intro other made
    -- The invariant of the machine at the end of the run has all marks that were left on the way.
    have hfinish := hinst.execute_of_admits builds.hereditary hcatalog hfits settings sink
      withEvents fuel admits
    have hother := made.sound builds fun _ => (hfinish.trail mark mem).of_atHand_of_admits
      builds.hereditary hcatalog hfits (admits mark mem)
    exact hother.template.holds.undotted

/-- A template that gives a template named `entry` a value under the path `a.b`. -/
def pathsDraft : Draft :=
  (((((Draft.named "paths").emit .args).emitText .loadStr "v").emitText .storeArg "a.b").emitText
    .newBoxArgs "entry").emit .write

/-- What the draft of the template that gives a value under a path is built into. -/
def pathsTemplate : Template :=
  { Template.blank "paths" with
    program := [.args, .loadStr 0, .storeArg 1, .newBoxArgs 2, .write]
    pool := ["v", "a.b", "entry"]
    spans := [none, none, none, none, none] }

/-- A template without an argument list that writes what it has under the path `a.b`. -/
def pathDraft : Draft :=
  ((Draft.named "entry").emitText .loadAttr "a.b").emit .write

/-- What the draft of the template that writes what is under a path is built into. -/
def pathTemplate : Template :=
  { Template.blank "entry" with
    program := [.loadAttr 0, .write]
    pool := ["a.b"]
    spans := [none, none] }

/-- A group with the two templates. -/
def pathsGroup : Group :=
  { Group.empty ⟨0⟩ with
    templates := [("entry", pathTemplate), ("paths", pathsTemplate)] }

/-- An instance of the template that gives a value under a path. -/
def pathsInstance : Instance :=
  pathsGroup.create pathsTemplate

/-- No identifier of Unicode has a dot in it. An instance of a group, both of which can be made, has
no attribute with a dot in its name, and in its render, which begins two templates and comes to seven
instructions, there is one. -/
theorem paths_render_dotted :
    unicodeIdentifiers.Excludes '.' ∧ pathsGroup.Reachable unicodeIdentifiers ∧
    pathsInstance.Reachable unicodeIdentifiers ∧
    (pathsInstance.execute ⟨[pathsGroup]⟩ .standard .boundless true 20).2.trail.length = 9 ∧
    pathsInstance.template.Undotted ∧
    ¬ ∀ mark ∈ (pathsInstance.execute ⟨[pathsGroup]⟩ .standard .boundless true 20).2.trail,
        ∀ other : Instance, other.Made unicodeIdentifiers
            (mark.AtHand (RenderSettings.standard.setting ⟨[pathsGroup]⟩ pathsInstance)) →
          other.template.Undotted := by
  have hdot : unicodeIdentifiers.Excludes '.' := ⟨by decide, by decide⟩
  have hpaths : pathsDraft.Made unicodeIdentifiers fun _ => False :=
    ((((Draft.Made.named "paths").emit .args).emitText .loadStr "v").emitText .storeArg
      "a.b").emitText .newBoxArgs "entry" |>.emit .write
  have hpath : pathDraft.Made unicodeIdentifiers fun _ => False :=
    ((Draft.Made.named "entry").emitText .loadAttr "a.b").emit .write
  have htemplate : pathsTemplate.Reachable unicodeIdentifiers := .built hpaths rfl
  have hentry : pathTemplate.Reachable unicodeIdentifiers := .built hpath rfl
  have hbuilt : GroupDraft.build
      { GroupDraft.empty with templates := [pathsTemplate, pathTemplate] } ⟨0⟩ =
      .ok pathsGroup := rfl
  have hgroup : pathsGroup.Reachable unicodeIdentifiers :=
    .of_templates (by simpa using ⟨htemplate, hentry⟩) hbuilt
  have hinst : pathsInstance.Reachable unicodeIdentifiers := .create htemplate ⟨0⟩
  have hgroups : ∀ group ∈ (Catalog.mk [pathsGroup]).groups,
      group.Reachable unicodeIdentifiers := by
    simpa using hgroup
  obtain ⟨undotted, hiff⟩ :=
    Instance.Reachable.render_undotted_iff hdot hgroups hinst .standard .boundless true 20
  refine ⟨hdot, hgroup, hinst, by decide +kernel, undotted, fun all => ?_⟩
  -- The fifth mark is the `newBoxArgs`, with the map that has the path on top of the stack.
  have fifth : (pathsInstance.execute ⟨[pathsGroup]⟩ .standard .boundless true 20).2.trail[4]? =
      some ⟨0, ⟨pathsInstance, [], 1, 3, rfl⟩, .reached ⟨3, [.arguments [("a.b", .string "v")]], 0, 0,
        [.storeArg 1, .loadStr 0, .args]⟩ (.newBoxArgs 2)⟩ := rfl
  have dotted : Undotted "a.b" :=
    hiff.mp all _ (List.mem_of_getElem? fifth) _ _ rfl _
      (.newBoxArgs rfl rfl rfl rfl (by decide))
  exact dotted (by decide)

end TemplateMachine
