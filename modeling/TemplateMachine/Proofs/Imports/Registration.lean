import Mathlib.Data.List.Nodup
import TemplateMachine.Proofs.Entries
import TemplateMachine.Proofs.Imports.Order
import TemplateMachine.Proofs.Sound.Made

/-!
# The table of a group

A group is built from a list of templates, each with a tree of templates defined inside it. A template
that was added has its name for itself. The templates inside the added ones take the names that are
left, in preorder, so the first one of a name wins. A name that was taken by another template hides a
template from look-ups by name only: as an object it still belongs to the group.

Templates without an identity are private copies of instances. They are no objects that a group could
define, and are looked up by name like any other.
-/

namespace TemplateMachine

namespace Template

mutual

/-- The templates defined inside a template at any depth, each one before those inside it. -/
def inside : Template → List Template
  | { subtemplates, .. } => insideAll subtemplates

/-- Templates and those defined inside them at any depth, each one before those inside it. -/
def insideAll : List Template → List Template
  | [] => []
  | template :: rest => template :: (inside template ++ insideAll rest)

end

/-- Each template comes with those inside it. -/
theorem insideAll_eq_flatMap (templates : List Template) :
    insideAll templates = templates.flatMap fun template => template :: inside template := by
  induction templates with
  | nil => rfl
  | cons template rest ih => rw [insideAll, List.flatMap_cons, ih, List.cons_append]

/-- Inside a template are those that it defines, with what is inside them. -/
theorem inside_eq (template : Template) : inside template = insideAll template.subtemplates := by
  obtain ⟨identity, name, program, pool, args, formal, anonymous, region, subtemplates⟩ := template
  rw [inside]

/-- A template is one of several or inside one of them. -/
theorem mem_insideAll_iff {other : Template} {templates : List Template} :
    other ∈ insideAll templates ↔ ∃ template ∈ templates, other ∈ template :: inside template := by
  rw [insideAll_eq_flatMap, List.mem_flatMap]

/-- The templates come first, then those inside them. -/
theorem mem_insideAll_iff_mem_append {other : Template} {templates : List Template} :
    other ∈ insideAll templates ↔ other ∈ templates ++ templates.flatMap inside := by
  rw [mem_insideAll_iff, List.mem_append, List.mem_flatMap]
  constructor
  · rintro ⟨template, mem, deep⟩
    rcases List.mem_cons.mp deep with rfl | hinside
    · exact .inl mem
    · exact .inr ⟨template, mem, hinside⟩
  · rintro (mem | ⟨template, mem, hinside⟩)
    · exact ⟨other, mem, List.mem_cons_self⟩
    · exact ⟨template, mem, List.mem_cons_of_mem _ hinside⟩

/-- What is inside a template that another one defines is inside that one. -/
theorem mem_inside_of_mem_subtemplates {template inner other : Template}
    (mem : inner ∈ template.subtemplates) (deep : other ∈ inner :: inside inner) :
    other ∈ inside template := by
  rw [inside_eq, mem_insideAll_iff]
  exact ⟨inner, mem, deep⟩

end Template

open Template

namespace Group

mutual

/-- A template holds an object if it is the object or one inside it is. -/
theorem templateHolds_eq_any (identity : Nat) (template : Template) :
    templateHolds identity template =
      (template :: inside template).any (·.identity == some identity) := by
  obtain ⟨own, name, program, pool, args, formal, anonymous, region, subtemplates⟩ := template
  rw [templateHolds, inside, List.any_cons, templatesHold_eq_any identity subtemplates]

/-- Templates hold an object if one of them, or one inside them, is the object. -/
theorem templatesHold_eq_any (identity : Nat) (templates : List Template) :
    templatesHold identity templates =
      (insideAll templates).any (·.identity == some identity) := by
  cases templates with
  | nil => rfl
  | cons template rest =>
    rw [templatesHold, insideAll, templateHolds_eq_any identity template,
      templatesHold_eq_any identity rest, ← List.cons_append, List.any_append]

end

end Group

namespace GroupDraft

mutual

/-- Registering what is inside a template leaves the names that are taken as they are and gives every
other name to the first template that has it. -/
theorem find?_registerInner (name : String) (table : Entries Template) (template : Template) :
    Entries.find? name (registerInner table template) =
      (Entries.find? name table).or ((inside template).find? (·.name == name)) := by
  obtain ⟨identity, own, program, pool, args, formal, anonymous, region, subtemplates⟩ := template
  rw [registerInner, inside, find?_registerAll name table subtemplates]

/-- Registering templates and what is inside them leaves the names that are taken as they are and gives
every other name to the first template that has it. -/
theorem find?_registerAll (name : String) (table : Entries Template) (templates : List Template) :
    Entries.find? name (registerAll table templates) =
      (Entries.find? name table).or ((insideAll templates).find? (·.name == name)) := by
  cases templates with
  | nil => rw [registerAll, insideAll, List.find?_nil, Option.or_none]
  | cons template rest =>
    rw [registerAll, find?_registerAll name _ rest, find?_registerInner name _ template,
      Entries.find?_insertIfAbsent, insideAll, List.find?_cons, List.find?_append]
    by_cases same : template.name = name
    · simp [same]
    · have hother : (template.name == name) = false := by simpa using same
      simp [same, hother, Option.or_assoc]

end

/-- Registering what is inside several templates, one after the other, does the same. -/
theorem find?_foldl_registerInner (name : String) (table : Entries Template)
    (templates : List Template) :
    Entries.find? name (templates.foldl registerInner table) =
      (Entries.find? name table).or
        ((templates.flatMap inside).find? (·.name == name)) := by
  induction templates generalizing table with
  | nil => rw [List.foldl_nil, List.flatMap_nil, List.find?_nil, Option.or_none]
  | cons template rest ih =>
    rw [List.foldl_cons, ih, find?_registerInner, List.flatMap_cons, List.find?_append,
      Option.or_assoc]

/-- Templates entered under their names are found by their names. -/
theorem find?_map_name (name : String) (templates : List Template) :
    Entries.find? name (templates.map fun template => (template.name, template)) =
      templates.find? (·.name == name) := by
  induction templates with
  | nil => rfl
  | cons template rest ih =>
    by_cases same : template.name = name
    · simp [Entries.find?, same]
    · have hother : (template.name == name) = false := by simpa using same
      simp [Entries.find?, same, hother, ih]

/-- The table has an added template under its name, and under any other name the first template of that
name inside the added ones. -/
theorem find?_table {templates : List Template} (distinct : (templates.map Template.name).Nodup)
    (name : String) :
    Entries.find? name (table templates) =
      (templates.find? (·.name == name)).or
        ((templates.flatMap inside).find? (·.name == name)) := by
  have hadded : (templates.foldl (fun table template =>
      Entries.insert template.name template table) [] : Entries Template) =
        Entries.ofPairs (templates.map fun template => (template.name, template)) := by
    rw [Entries.ofPairs, List.foldl_map]
  have hnames : ((templates.map fun template => (template.name, template)).map Prod.fst).Nodup := by
    simpa [Function.comp_def] using distinct
  rw [table, hadded, find?_foldl_registerInner, Entries.find?_ofPairs hnames, find?_map_name]

/-- No name is found twice exactly if the templates have different names, and none that was there
before. -/
theorem duplicateName?_eq_none_iff {before : List String} {templates : List Template} :
    duplicateName? before templates = none ↔
      (templates.map Template.name).Nodup ∧ ∀ template ∈ templates, template.name ∉ before := by
  induction templates generalizing before with
  | nil => simp [duplicateName?]
  | cons template rest ih =>
    by_cases known : template.name ∈ before
    · simp [duplicateName?, known]
    · have hrest : duplicateName? before (template :: rest) =
          duplicateName? (template.name :: before) rest := by
        simp [duplicateName?, known]
      rw [hrest, ih, List.map_cons, List.nodup_cons, List.mem_map]
      constructor
      · rintro ⟨hnodup, hother⟩
        have hfresh : ∀ other ∈ rest, other.name ≠ template.name ∧ other.name ∉ before :=
          fun other mem => by simpa using hother other mem
        exact ⟨⟨fun ⟨other, mem, same⟩ => (hfresh other mem).1 same, hnodup⟩,
          List.forall_mem_cons.mpr ⟨known, fun other mem => (hfresh other mem).2⟩⟩
      · rintro ⟨⟨hfresh, hnodup⟩, hbefore⟩
        obtain ⟨-, hother⟩ := List.forall_mem_cons.mp hbefore
        refine ⟨hnodup, fun other mem => ?_⟩
        rw [List.mem_cons, not_or]
        exact ⟨fun same => hfresh ⟨other, mem, same⟩, hother other mem⟩

/-- A draft is built exactly if no two templates were added under one name. -/
theorem exists_build_iff (draft : GroupDraft) (id : GroupId) :
    (∃ group, draft.build id = .ok group) ↔ (draft.templates.map Template.name).Nodup := by
  have hduplicate : duplicateName? [] draft.templates = none ↔ _ := duplicateName?_eq_none_iff
  cases hname : duplicateName? [] draft.templates with
  | none => simpa [build, hname] using hduplicate
  | some name => simpa [build, hname] using hduplicate

/-- An added template is in the table. -/
theorem mem_table {templates : List Template} (distinct : (templates.map Template.name).Nodup)
    {template : Template} (mem : template ∈ templates) : (template.name, template) ∈ table templates := by
  have hfound : templates.find? (·.name == template.name) = some template := by
    obtain ⟨other, hother⟩ : ∃ other, templates.find? (·.name == template.name) = some other :=
      Option.isSome_iff_exists.mp (List.find?_isSome.mpr ⟨template, mem, beq_self_eq_true _⟩)
    have hname : other.name = template.name := by simpa using List.find?_some hother
    rw [hother, List.inj_on_of_nodup_map distinct (List.mem_of_find?_eq_some hother) mem hname]
  refine Entries.mem_of_find?_eq_some ?_
  rw [find?_table distinct, hfound, Option.some_or]

/-- A template in the table was added or is inside an added one, and so is what is inside it. -/
theorem mem_insideAll_of_mem_table {templates : List Template} {entry : String × Template}
    (mem : entry ∈ table templates) {other : Template} (deep : other ∈ entry.2 :: inside entry.2) :
    other ∈ insideAll templates := by
  refine forall_mem_table (P := fun template => ∀ other ∈ template :: inside template,
    other ∈ insideAll templates) ?_ ?_ entry mem other deep
  · intro template here inner hinner other hother
    exact here other (List.mem_cons_of_mem _ (mem_inside_of_mem_subtemplates hinner hother))
  · intro template hadded other hother
    exact mem_insideAll_iff.mpr ⟨template, hadded, hother⟩

/-- The objects of a table are the added templates and those inside them, whoever has their names. -/
theorem defines_table_iff {templates : List Template}
    (distinct : (templates.map Template.name).Nodup) (identity : Nat) :
    Group.defines identity (table templates) = true ↔
      ∃ template ∈ insideAll templates, template.identity = some identity := by
  rw [Group.defines, Group.templatesHold_eq_any, List.any_eq_true]
  simp only [beq_iff_eq, mem_insideAll_iff]
  constructor
  · rintro ⟨other, ⟨template, mem, deep⟩, same⟩
    obtain ⟨entry, hentry, rfl⟩ := List.mem_map.mp mem
    exact ⟨other, mem_insideAll_iff.mp (mem_insideAll_of_mem_table hentry deep), same⟩
  · rintro ⟨other, ⟨template, mem, deep⟩, same⟩
    exact ⟨other, ⟨template, List.mem_map.mpr ⟨_, mem_table distinct mem, rfl⟩, deep⟩, same⟩

/-- A draft whose templates have different names is built. Its group has an added template under its
name; under any other name it has the first template of that name inside the added ones, in preorder;
and it has no other names, so that every template inside an added one has its name in the group. The
objects that the group defines are the added templates and the templates inside them at any depth,
also those whose names others have. -/
theorem build_registers {draft : GroupDraft}
    (distinct : (draft.templates.map Template.name).Nodup) (id : GroupId) :
    ∃ group, draft.build id = .ok group ∧
      (∀ name, group.own? name = (draft.templates.find? (·.name == name)).or
        ((draft.templates.flatMap inside).find? (·.name == name))) ∧
      (∀ name, (group.own? name).isSome ↔
        ∃ template ∈ insideAll draft.templates, template.name = name) ∧
      ∀ identity, Group.defines identity group.templates = true ↔
        ∃ template ∈ insideAll draft.templates, template.identity = some identity := by
  obtain ⟨group, hbuilt⟩ := (exists_build_iff draft id).mpr distinct
  obtain rfl := eq_of_build_eq_ok hbuilt
  refine ⟨_, hbuilt, find?_table distinct, fun name => ?_, defines_table_iff distinct⟩
  rw [Group.own?, find?_table distinct, ← List.find?_append, List.find?_isSome]
  simp only [beq_iff_eq, mem_insideAll_iff_mem_append]

/-- A template object of a name with templates inside it. -/
def nestedTemplate (name : String) (identity : Nat) (subtemplates : List Template) : Template :=
  { Template.blank name with identity := some identity, subtemplates := subtemplates }

/-- Two added templates. The name of the second one is also used deep inside the first one, and a third
name is used three times inside them. -/
def reportDraft : GroupDraft :=
  { empty with
    templates :=
      [nestedTemplate "page" 0
        [nestedTemplate "cell" 1 [nestedTemplate "row" 2 []], nestedTemplate "cell" 3 []],
      nestedTemplate "row" 4 [nestedTemplate "cell" 5 []]] }

/-- The added template has its name for itself, the first of the three others has theirs, and all six
objects belong to the group. -/
theorem report_build_registers :
    (reportDraft.templates.map Template.name).Nodup ∧
      ∃ group, reportDraft.build ⟨0⟩ = .ok group ∧
        (group.own? "row").bind Template.identity = some 4 ∧
        (group.own? "cell").bind Template.identity = some 1 ∧
        group.own? "body" = none ∧
        ∀ identity, Group.defines identity group.templates = true ↔
          identity ∈ [0, 1, 2, 3, 4, 5] := by
  have hdistinct : (reportDraft.templates.map Template.name).Nodup := by decide
  obtain ⟨group, hbuilt, htable, -, hdefines⟩ := build_registers hdistinct ⟨0⟩
  refine ⟨hdistinct, group, hbuilt, ?_, ?_, ?_, fun identity => ?_⟩
  · rw [htable]
    decide
  · rw [htable]
    decide
  · rw [htable]
    rfl
  · rw [hdefines]
    simp [reportDraft, nestedTemplate, Template.blank, insideAll, inside, eq_comm]

end GroupDraft

end TemplateMachine
