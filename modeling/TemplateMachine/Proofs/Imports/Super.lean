import TemplateMachine.Proofs.Imports.Order
import TemplateMachine.Render.Operation

/-!
# Constructing an imported template

A template that overrides an imported one reaches it through the imports of the group that defines
the overriding template. That group is found by the template object, and the object is that of the
innermost named template of the frame. Who invoked that template does not matter.

An instance that declares attributes has a private copy of its template, which no group defines. The
group is then found by the name of the template instead. This is the same group only if no other one
comes first with a template of that name: where the template is overridden, the copy goes through
the imports of the group that overrides it.

An anonymous template counts as part of the innermost named template that it runs in, which need not
be the one that it was defined in.
-/

namespace TemplateMachine

namespace Group

/-- A template with more arguments than the one that it was copied from, and that no group
defines. -/
structure PrivateCopy (root : Group) (template copy : Template) : Prop where
  copied : ∃ identity args,
    copy = { template with identity := identity, args := template.args ++ args }
  undefined : ∀ group ∈ preorder root, ¬ group.Defines copy

/-- An instance of a template, which may have a private copy of it. -/
def Runs (root : Group) (template : Template) (inst : Instance) : Prop :=
  inst.template = template ∨ PrivateCopy root template inst.template

variable {root : Group} {template : Template} {inst : Instance}

/-- An instance of a template has the name of the template. -/
theorem Runs.name (runs : root.Runs template inst) : inst.template.name = template.name := by
  rcases runs with same | ⟨⟨identity, args, hcopy⟩, -⟩
  · rw [same]
  · rw [hcopy]

/-- A template without an identity is defined by no group. -/
theorem not_defines_of_identity (unknown : template.identity = none) (group : Group) :
    ¬ group.Defines template := by
  rintro ⟨identity, hidentity, -⟩
  simp [unknown] at hidentity

/-- An instance that declares an attribute has a private copy of the template that it was made
of. -/
theorem Runs.declare (runs : root.Runs template inst) (name : String) :
    PrivateCopy root template (inst.declare name).1.template := by
  refine ⟨?_, fun group _ => not_defines_of_identity rfl group⟩
  rcases runs with rfl | ⟨⟨identity, args, hcopy⟩, -⟩
  · exact ⟨none, _, rfl⟩
  · refine ⟨none, args ++ [⟨name, inst.template.args.length, none⟩], ?_⟩
    simp [Instance.declare, hcopy]

/-- An instance is one of the same template after it is given any attribute. -/
theorem Runs.declareAndSet (runs : root.Runs template inst) (name : String) (value : Value) :
    root.Runs template (inst.declareAndSet name value) := by
  unfold Instance.declareAndSet
  split
  · exact runs
  · exact Or.inr (runs.declare name)

end Group

namespace Frame

/-- The instance whose template encloses the running code: the innermost one of a named template, or
the running one if all are anonymous. -/
inductive EnclosedBy (frame : Frame) : Instance → Prop where
  | named {inner callers : List Instance} {inst : Instance}
    (scope : frame.scope = inner ++ inst :: callers)
    (anonymous : ∀ other ∈ inner, other.template.anonymous = true)
    (named : inst.template.anonymous = false) : EnclosedBy frame inst
  | bare (anonymous : ∀ other ∈ frame.scope, other.template.anonymous = true) :
    EnclosedBy frame frame.running

variable {frame : Frame} {setting : Setting} {inst : Instance}

/-- The enclosing template is that of the instance which encloses the running code. -/
theorem EnclosedBy.enclosing (enclosed : frame.EnclosedBy inst) :
    frame.enclosing = inst.template := by
  unfold Frame.enclosing
  cases enclosed with
  | @named inner callers _ scope anonymous named =>
    have hinner : (inner.map Instance.template).find? (fun template => !template.anonymous) =
        none := by
      simpa using anonymous
    simp [scope, List.find?_append, hinner, named]
  | bare anonymous =>
    have hnone : (frame.scope.map Instance.template).find? (fun template => !template.anonymous) =
        none := by
      simpa using anonymous
    rw [hnone]
    rfl

/-- Something encloses the code of every frame. -/
theorem exists_enclosedBy (frame : Frame) : ∃ inst, frame.EnclosedBy inst := by
  cases hfound : frame.scope.find? fun inst => !inst.template.anonymous with
  | none => exact ⟨frame.running, .bare (by simpa using hfound)⟩
  | some inst =>
    obtain ⟨hnamed, inner, callers, hscope, hanonymous⟩ :=
      List.find?_eq_some_iff_append.mp hfound
    exact ⟨inst, .named hscope (by simpa using hanonymous) (by simpa using hnamed)⟩

/-- The native group of a template that exactly one group defines is that group. -/
theorem nativeGroup_eq_of_sole {home : Group} (enclosed : frame.EnclosedBy inst)
    (sole : (frame.group setting).SoleHome home inst.template) :
    frame.nativeGroup setting = home := by
  simp [nativeGroup, enclosed.enclosing, sole.nativeGroup?]

/-- The native group of a template that no group defines is found by the name of the template. -/
theorem nativeGroup_eq_homeOf (enclosed : frame.EnclosedBy inst)
    (undefined : ∀ group ∈ (frame.group setting).preorder, ¬ group.Defines inst.template) :
    frame.nativeGroup setting = (frame.group setting).homeOf inst.template.name := by
  simp only [nativeGroup, enclosed.enclosing, Group.nativeGroup?_eq_none undefined, Group.homeOf,
    ← Group.lookup?_eq_findSome?]
  cases ((frame.group setting).lookup? inst.template.name).bind (frame.group setting).nativeGroup?
    <;> rfl

end Frame

namespace Instance

/-- Giving arguments by position reports no template that is missing. -/
theorem noImportedTemplate_notMem_givePositional (name : String) (inst : Instance)
    (values : List Value) : .noImportedTemplate name ∉ (inst.givePositional values).2 := by
  unfold givePositional
  dsimp only
  split <;> split <;> simp [countMismatch]

/-- Setting arguments by name reports no template that is missing. -/
theorem noImportedTemplate_notMem_setNamed (name : String) (inst : Instance)
    (entries : List (String × Value)) : .noImportedTemplate name ∉ (inst.setNamed entries).2 := by
  induction entries generalizing inst with
  | nil => simp [setNamed]
  | cons entry rest ih =>
    obtain ⟨key, value⟩ := entry
    cases declared : inst.setDeclared? key value with
    | some changed => simpa [setNamed, declared] using ih changed
    | none => simpa [setNamed, declared] using ih inst

/-- Giving arguments by name reports no template that is missing. -/
theorem noImportedTemplate_notMem_giveNamed (name : String) (inst : Instance)
    (entries : Entries Value) : .noImportedTemplate name ∉ (inst.giveNamed entries).2 := by
  have hset := inst.noImportedTemplate_notMem_setNamed name entries
  unfold giveNamed
  split
  · simp
  · dsimp only
    split
    · simp [countMismatch]
    · exact hset

end Instance

/-- An outcome that pushes the instance which was found, with its arguments given, and reports what
was wrong with them; or, if none was found and in no other case, reports that and pushes a blank
instance. -/
def Stack.Pushes (rest : Stack) (found : Option Instance) (give : Instance → Reported Instance)
    (blank : Instance) (missing : Problem) (outcome : Outcome) : Prop :=
  ∃ inst problems, outcome = .ok (rest.push (.template inst), problems) ∧
    (missing ∈ problems ↔ found = none) ∧
    (∀ made, found = some made → (inst, problems) = give made) ∧
    (found = none → inst = blank ∧ problems = [missing])

/-- Pushing an instance does that if giving arguments never reports that none was found. -/
theorem Stack.pushes_pushInstance {rest : Stack} (found : Option Instance)
    {give : Instance → Reported Instance} {blank : Instance} {missing : Problem}
    (silent : ∀ made, missing ∉ (give made).2) :
    rest.Pushes found give blank missing (rest.pushInstance found give blank missing) := by
  cases found with
  | none => exact ⟨blank, [missing], rfl, by simp, by simp, by simp⟩
  | some made => exact ⟨_, _, rfl, by simpa using silent made, by simp, by simp⟩

/-- What the two instructions for imported templates do in a frame if they go through the imports of
a group: they construct the first template of the name in depth-first order. -/
structure Frame.SupersThrough (frame : Frame) (setting : Setting) (native : Group) : Prop where
  positional {stack rest : Stack} {index count : Nat} {name : String} {values : List Value}
    (text : frame.template.text index = .ok name) (operands : stack.popN count = .ok (values, rest)) :
    rest.Pushes (((Group.preorderAll native.imports).findSome? (Group.own? name)).map native.create)
      (·.givePositional values) (frame.blankInstance name) (.noImportedTemplate name)
      (frame.operate setting stack (.superNew index count))
  named {stack rest : Stack} {index : Nat} {name : String} {entries : Entries Value}
    (text : frame.template.text index = .ok name)
    (operands : stack.popArguments = .ok (entries, rest)) :
    rest.Pushes (((Group.preorderAll native.imports).findSome? (Group.own? name)).map native.create)
      (·.giveNamed entries) (frame.blankInstance name) (.noImportedTemplate name)
      (frame.operate setting stack (.superNewBoxArgs index))

namespace Frame

variable {frame : Frame} {setting : Setting} {inst : Instance}

/-- The instructions for imported templates go through the imports of the native group. -/
theorem supersThrough_nativeGroup (frame : Frame) (setting : Setting) :
    frame.SupersThrough setting (frame.nativeGroup setting) where
  positional {stack rest index count name values} text operands := by
    have hoperate : frame.operate setting stack (.superNew index count) =
        rest.pushInstance (frame.superInstanceOf? setting name) (·.givePositional values)
          (frame.blankInstance name) (.noImportedTemplate name) := by
      simp only [operate, text, operands]
      rfl
    rw [hoperate, superInstanceOf?, Group.lookupImported?_eq_findSome?]
    exact Stack.pushes_pushInstance _
      fun made => made.noImportedTemplate_notMem_givePositional name values
  named {stack rest index name entries} text operands := by
    have hoperate : frame.operate setting stack (.superNewBoxArgs index) =
        rest.pushInstance (frame.superInstanceOf? setting name) (·.giveNamed entries)
          (frame.blankInstance name) (.noImportedTemplate name) := by
      simp only [operate, text, operands]
      rfl
    rw [hoperate, superInstanceOf?, Group.lookupImported?_eq_findSome?]
    exact Stack.pushes_pushInstance _
      fun made => made.noImportedTemplate_notMem_giveNamed name entries

/-- In a frame that an instance of a template encloses, the instructions for imported templates go
through the imports of the native group, whoever the callers are. That is the one group which
defines the template exactly if the instance has the template itself or the first template of that
name in the order of the imports is one that this group defines. -/
theorem super_resolution {home : Group} {template : Template}
    (sole : (frame.group setting).SoleHome home template) (enclosed : frame.EnclosedBy inst)
    (runs : (frame.group setting).Runs template inst) :
    frame.SupersThrough setting (frame.nativeGroup setting) ∧
      (frame.nativeGroup setting = home ↔
        inst.template = template ∨ (frame.group setting).homeOf template.name = home) := by
  refine ⟨frame.supersThrough_nativeGroup setting, ?_⟩
  rcases runs with same | copy
  · have hhome : frame.nativeGroup setting = home := nativeGroup_eq_of_sole enclosed (same ▸ sole)
    simp [hhome, same]
  · have hcopy : inst.template ≠ template := by
      intro same
      exact copy.undefined home sole.mem (same ▸ sole.defines)
    have hnative := nativeGroup_eq_homeOf enclosed copy.undefined
    rw [Group.Runs.name (Or.inr copy)] at hnative
    simp [hnative, hcopy]

end Frame

/-- A template of the name that the templates of three groups have, each in its own group. -/
def pageTemplate (identity : Nat) : Template :=
  { Template.blank "page" with
    identity := some identity
    program := [.superNew 0 0, .write]
    pool := ["page"] }

/-- A group with a template of that name that imports other groups. -/
def pageGroup (number : Nat) (imports : List Group) : Group :=
  { Group.empty ⟨number⟩ with templates := [("page", pageTemplate number)], imports := imports }

/-- A group that overrides the template of an imported group, which overrides another one. -/
def overridingGroup : Group := pageGroup 2 [pageGroup 1 [pageGroup 0 []]]

/-- What stays the same while the overriding group renders. -/
def overridingSetting : Setting :=
  ⟨⟨[pageGroup 0 [], pageGroup 1 [pageGroup 0 []], overridingGroup]⟩, "en", 200⟩

/-- An instance of the overridden template that was given an attribute. -/
def overriddenInstance : Instance :=
  (Instance.ofTemplate (pageTemplate 1) ⟨2⟩).declareAndSet "x" (.string "v")

/-- The overriding template renders the one that it overrides. -/
def overriddenFrame : Frame :=
  (Frame.root (.ofTemplate (pageTemplate 2) ⟨2⟩)).child overriddenInstance

/-- The private copy of the overridden template goes through the imports of the group that overrides
it, where it finds the overridden template again and not the one that this overrides. -/
theorem overridden_nativeGroup :
    overriddenFrame.nativeGroup overridingSetting ≠ pageGroup 1 [pageGroup 0 []] ∧
    ((overriddenFrame.superInstanceOf? overridingSetting "page").map (·.template.identity)) =
      some (some 1) := by
  have horder : overridingGroup.preorder =
      [overridingGroup, pageGroup 1 [pageGroup 0 []], pageGroup 0 []] := rfl
  have hsole : overridingGroup.SoleHome (pageGroup 1 [pageGroup 0 []]) (pageTemplate 1) := by
    refine ⟨by simp [horder], ⟨1, rfl, by decide +kernel⟩, fun other mem hdefines => ?_⟩
    obtain ⟨identity, hidentity, hdefines⟩ := hdefines
    obtain rfl : 1 = identity := Option.some.inj hidentity
    simp only [horder, List.mem_cons, List.not_mem_nil, or_false] at mem
    rcases mem with rfl | rfl | rfl
    · exact absurd hdefines (by decide +kernel)
    · rfl
    · exact absurd hdefines (by decide +kernel)
  have hruns : overridingGroup.Runs (pageTemplate 1) overriddenInstance :=
    Group.Runs.declareAndSet (Or.inl rfl) "x" (.string "v")
  have henclosed : overriddenFrame.EnclosedBy overriddenInstance :=
    .named (List.nil_append _).symm (by simp) rfl
  have hspec := @Frame.super_resolution overriddenFrame overridingSetting overriddenInstance
    (pageGroup 1 [pageGroup 0 []]) (pageTemplate 1) hsole henclosed hruns
  refine ⟨fun same => ?_, by decide +kernel⟩
  rcases hspec.2.mp same with hsame | hhome
  · exact absurd (congrArg Template.identity hsame) (by decide +kernel)
  · exact absurd (congrArg Group.id hhome) (by decide +kernel)

end TemplateMachine
