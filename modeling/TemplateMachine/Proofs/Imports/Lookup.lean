import TemplateMachine.Proofs.Imports.Registration

/-!
# Looking names up

Templates and dictionaries are looked up by name in a group and the groups that it imports, and the
group of a template is looked up by object. All three go through the groups in the same order. What a
look-up by name finds is therefore what the first group in order has under the name, and if no object
is in two groups, the look-up by object leads back from a template to the group that has it.

A name leads to a template of that name in groups that were built. The groups of a template are those
that hold it as an object; a template without an identity is in none.
-/

namespace TemplateMachine

namespace Group

variable {α : Type}

mutual

/-- A dictionary is found in the first group in order that has one of the name. -/
theorem findDictionary?_eq_findSome? (name : String) (group : Group) :
    findDictionary? name group = (preorder group).findSome? (dictionary? name) := by
  obtain ⟨id, own, templates, imports, dictionaries⟩ := group
  rw [findDictionary?, preorder, List.findSome?_cons,
    ← findDictionaryIn?_eq_findSome?_preorderAll name imports]
  unfold dictionary?
  cases Entries.find? name dictionaries <;> rfl

/-- Among groups, a dictionary is found in the first one in order that has one of the name. -/
theorem findDictionaryIn?_eq_findSome?_preorderAll (name : String) (groups : List Group) :
    findDictionaryIn? name groups = (preorderAll groups).findSome? (dictionary? name) := by
  cases groups with
  | nil => rfl
  | cons group rest =>
    rw [findDictionaryIn?, preorderAll, List.findSome?_append, findDictionary?_eq_findSome? name group,
      findDictionaryIn?_eq_findSome?_preorderAll name rest]
    cases (preorder group).findSome? (dictionary? name) <;> rfl

end

/-- What a search of groups comes to: what the first group has that has anything, or nothing if none of
them has anything. -/
inductive FindsFirst (has : Group → Option α) : List Group → Option α → Prop where
  | found {before after : List Group} {home : Group} {item : α}
    (missing : ∀ other ∈ before, has other = none) (here : has home = some item) :
    FindsFirst has (before ++ home :: after) (some item)
  | missing {groups : List Group} (missing : ∀ group ∈ groups, has group = none) :
    FindsFirst has groups none

/-- A search of the list finds what the first group has. -/
theorem findsFirst_findSome? (has : Group → Option α) (groups : List Group) :
    FindsFirst has groups (groups.findSome? has) := by
  cases hresult : groups.findSome? has with
  | none => exact .missing (List.findSome?_eq_none_iff.mp hresult)
  | some item =>
    obtain ⟨before, home, after, rfl, here, missing⟩ := List.findSome?_eq_some_iff.mp hresult
    exact .found missing here

/-- A group that a draft is built into, and that imports only groups of this kind. -/
inductive Built : Group → Prop where
  | ofDraft {draft : GroupDraft} {id : GroupId} {group : Group}
    (imports : ∀ imported ∈ draft.imports, Built imported)
    (built : draft.build id = .ok group) : Built group

/-- The groups in order are one of several and those that it imports. -/
theorem exists_mem_preorder_of_mem_preorderAll {group : Group} {groups : List Group}
    (mem : group ∈ preorderAll groups) : ∃ root ∈ groups, group ∈ preorder root := by
  induction groups with
  | nil => cases mem
  | cons root rest ih =>
    rw [preorderAll, List.mem_append] at mem
    rcases mem with here | there
    · exact ⟨root, List.mem_cons_self, here⟩
    · obtain ⟨other, hother, hmem⟩ := ih there
      exact ⟨other, List.mem_cons_of_mem _ hother, hmem⟩

/-- A group comes before those that it imports. -/
theorem preorder_eq_cons (group : Group) : preorder group = group :: preorderAll group.imports := by
  obtain ⟨id, own, templates, imports⟩ := group
  rw [preorder]

namespace Built

variable {root : Group}

/-- A group that was built has its templates under their own names. -/
theorem name_of_own? (built : root.Built) {name : String} {template : Template}
    (found : own? name root = some template) : template.name = name := by
  obtain ⟨-, hbuilt⟩ := built
  have hdistinct := (GroupDraft.exists_build_iff _ _).mp ⟨_, hbuilt⟩
  obtain rfl := GroupDraft.eq_of_build_eq_ok hbuilt
  rw [own?, GroupDraft.find?_table hdistinct, ← List.find?_append] at found
  simpa using List.find?_some found

/-- The groups that a group imports, and those that they import, were built if it was. -/
theorem of_mem_preorder (built : root.Built) {group : Group} (mem : group ∈ preorder root) :
    group.Built := by
  induction built with
  | @ofDraft draft id root imports hbuilt ih =>
    have hroot : Built root := .ofDraft imports hbuilt
    rw [preorder_eq_cons] at mem
    rcases List.mem_cons.mp mem with rfl | there
    · exact hroot
    · obtain ⟨imported, himported, hmem⟩ := exists_mem_preorder_of_mem_preorderAll there
      obtain rfl := GroupDraft.eq_of_build_eq_ok hbuilt
      exact ih imported himported hmem

/-- A template that a search of groups from a group on finds has the name that was looked up. -/
theorem name_of_findSome? (built : root.Built) {groups : List Group}
    (sub : groups ⊆ preorder root) {name : String} {template : Template}
    (found : groups.findSome? (own? name) = some template) : template.name = name := by
  obtain ⟨home, mem, hhome⟩ := List.exists_of_findSome?_eq_some found
  exact (built.of_mem_preorder (sub mem)).name_of_own? hhome

end Built

/-- No template object is in two groups, among a group and those that it imports. -/
def Unshared (root : Group) : Prop :=
  ∀ first ∈ preorder root, ∀ second ∈ preorder root, ∀ template,
    first.Defines template → second.Defines template → first = second

/-- A group defines the objects that it has under a name. -/
theorem defines_of_own? {home : Group} {name : String} {template : Template}
    (found : own? name home = some template) (object : template.identity.isSome) :
    home.Defines template := by
  obtain ⟨identity, hidentity⟩ := Option.isSome_iff_exists.mp object
  refine ⟨identity, hidentity, ?_⟩
  have hmem : template ∈ Entries.values home.templates :=
    List.mem_map.mpr ⟨_, Entries.mem_of_find?_eq_some found, rfl⟩
  rw [Group.defines, templatesHold_eq_any, List.any_eq_true]
  exact ⟨template, Template.mem_insideAll_iff.mpr ⟨template, hmem, List.mem_cons_self⟩,
    beq_iff_eq.mpr hidentity⟩

/-- If no object is in two groups, an object that a group has under a name leads back to the group. -/
theorem Unshared.nativeGroup? {root home : Group} (unshared : root.Unshared)
    (mem : home ∈ preorder root) {name : String} {template : Template}
    (found : own? name home = some template) (object : template.identity.isSome) :
    root.nativeGroup? template = some home := by
  have hdefines := defines_of_own? found object
  have hsole : SoleHome root home template :=
    ⟨mem, hdefines, fun other hother hdefines' =>
      unshared other hother home mem template hdefines' hdefines⟩
  exact hsole.nativeGroup?

/-- In a group that was built, whatever it imports: the look-up of a template and that of a dictionary
find what the first group has under the name, depth first and imports in the order in which they were
added; the look-up among imports does the same without the group itself; a template that is found has
the name; and if no object is in two groups, the native group of a template object that some group has
under a name is that group. -/
theorem Built.lookups {root : Group} (built : root.Built) (name : String) :
    FindsFirst (own? name) root.preorder (root.lookup? name) ∧
      FindsFirst (dictionary? name) root.preorder (root.findDictionary? name) ∧
      FindsFirst (own? name) (preorderAll root.imports) (root.lookupImported? name) ∧
      (∀ template, root.lookup? name = some template ∨ root.lookupImported? name = some template →
        template.name = name) ∧
      (root.Unshared → ∀ home ∈ root.preorder, ∀ template, home.own? name = some template →
        template.identity.isSome → root.nativeGroup? template = some home) := by
  have himports : preorderAll root.imports ⊆ root.preorder := by
    rw [preorder_eq_cons]
    exact List.subset_cons_self _ _
  rw [lookup?_eq_findSome?, findDictionary?_eq_findSome?, lookupImported?_eq_findSome?]
  refine ⟨findsFirst_findSome? _ _, findsFirst_findSome? _ _, findsFirst_findSome? _ _, ?_, ?_⟩
  · rintro template (found | found)
    · exact built.name_of_findSome? (List.Subset.refl _) found
    · exact built.name_of_findSome? himports found
  · intro unshared home mem template found object
    exact unshared.nativeGroup? mem found object

/-- A draft of two templates. -/
def sharedDraft : GroupDraft :=
  { GroupDraft.empty with
    templates := [GroupDraft.nestedTemplate "page" 1 [], GroupDraft.nestedTemplate "body" 0 []] }

/-- The group of the two templates. -/
def sharedBase : Group :=
  { empty ⟨0⟩ with
    templates := [("body", GroupDraft.nestedTemplate "body" 0 []),
      ("page", GroupDraft.nestedTemplate "page" 1 [])] }

/-- A draft that imports the group twice and overrides one of its templates. -/
def layeredDraft : GroupDraft :=
  { GroupDraft.empty with
    templates := [GroupDraft.nestedTemplate "page" 2 []]
    imports := [sharedBase, sharedBase] }

/-- The group that overrides one of the templates. -/
def layeredGroup : Group :=
  { empty ⟨1⟩ with
    templates := [("page", GroupDraft.nestedTemplate "page" 2 [])]
    imports := [sharedBase, sharedBase] }

/-- Both groups are built from their drafts. -/
theorem built_layeredGroup : layeredGroup.Built := by
  have hshared : sharedDraft.build ⟨0⟩ = .ok sharedBase := rfl
  have hlayered : layeredDraft.build ⟨1⟩ = .ok layeredGroup := rfl
  have hbase : sharedBase.Built := .ofDraft (by simp [sharedDraft, GroupDraft.empty]) hshared
  exact .ofDraft (by simpa [layeredDraft] using hbase) hlayered

/-- The overriding template is found in the group itself, the overridden one among the imports; each of
them leads back to the group that it was found in. -/
theorem layered_lookups :
    layeredGroup.Built ∧ layeredGroup.Unshared ∧
      (layeredGroup.lookup? "page").bind Template.identity = some 2 ∧
      FindsFirst (own? "page") [sharedBase, sharedBase] (layeredGroup.lookupImported? "page") ∧
      (layeredGroup.nativeGroup? (GroupDraft.nestedTemplate "page" 2 [])) = some layeredGroup ∧
      (layeredGroup.nativeGroup? (GroupDraft.nestedTemplate "page" 1 [])) = some sharedBase := by
  have horder : layeredGroup.preorder = [layeredGroup, sharedBase, sharedBase] := rfl
  have hupper (identity : Nat) : defines identity layeredGroup.templates = true ↔ 2 = identity := by
    simp [layeredGroup, defines, Entries.values, templatesHold, templateHolds,
      GroupDraft.nestedTemplate, Template.blank]
  have hlower (identity : Nat) :
      defines identity sharedBase.templates = true ↔ 0 = identity ∨ 1 = identity := by
    simp [sharedBase, defines, Entries.values, templatesHold, templateHolds,
      GroupDraft.nestedTemplate, Template.blank]
  have hunshared : layeredGroup.Unshared := by
    rintro first hfirst second hsecond template ⟨identity, hidentity, hdefines⟩ ⟨_, hsame, hdefines'⟩
    obtain rfl := Option.some.inj (hidentity.symm.trans hsame)
    simp only [horder, List.mem_cons, List.not_mem_nil, or_false, or_self] at hfirst hsecond
    rcases hfirst with rfl | rfl <;> rcases hsecond with rfl | rfl
    · rfl
    · rw [hupper] at hdefines
      rw [hlower] at hdefines'
      omega
    · rw [hlower] at hdefines
      rw [hupper] at hdefines'
      omega
    · rfl
  obtain ⟨-, -, himported, -, hnative⟩ := built_layeredGroup.lookups "page"
  have hhome := hnative hunshared
  rw [horder] at hhome
  exact ⟨built_layeredGroup, hunshared, by decide +kernel, himported,
    hhome layeredGroup (by simp) _ rfl rfl, hhome sharedBase (by simp) _ rfl rfl⟩

end Group

end TemplateMachine
