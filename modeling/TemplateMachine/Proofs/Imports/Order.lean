import TemplateMachine.Proofs.Sound.Frame

/-!
# The order of imports

A look-up goes through a group and the groups that it imports depth first. Here that order is a list,
and every look-up is a search of the list: for the first group that has a name, and for the first
group that defines a template object.

A group that is imported on several ways is in the list once for every way.
-/

namespace TemplateMachine

namespace Group

mutual

/-- A group and the groups that it imports, depth first. -/
def preorder : Group → List Group
  | group@{ imports, .. } => group :: preorderAll imports

/-- Groups and the groups that they import, depth first. -/
def preorderAll : List Group → List Group
  | [] => []
  | group :: rest => preorder group ++ preorderAll rest

end

/-- The template of a name in the group itself. -/
def own? (name : String) (group : Group) : Option Template :=
  Entries.find? name group.templates

mutual

/-- A look-up finds what the first group in order has under the name. -/
theorem lookup?_eq_findSome? (name : String) (group : Group) :
    lookup? name group = (preorder group).findSome? (own? name) := by
  obtain ⟨id, own, templates, imports⟩ := group
  rw [lookup?, preorder, List.findSome?_cons, ← lookupIn?_eq_findSome?_preorderAll name imports]
  unfold own?
  cases Entries.find? name templates <;> rfl

/-- A look-up in groups finds what the first group in order has under the name. -/
theorem lookupIn?_eq_findSome?_preorderAll (name : String) (groups : List Group) :
    lookupIn? name groups = (preorderAll groups).findSome? (own? name) := by
  cases groups with
  | nil => rfl
  | cons group rest =>
    rw [lookupIn?, preorderAll, List.findSome?_append, lookup?_eq_findSome? name group,
      lookupIn?_eq_findSome?_preorderAll name rest]
    cases (preorder group).findSome? (own? name) <;> rfl

end

mutual

/-- A template object is defined by the first group in order that defines it. -/
theorem definingGroup?_eq_find? (identity : Nat) (group : Group) :
    definingGroup? identity group =
      (preorder group).find? fun group => defines identity group.templates := by
  obtain ⟨id, own, templates, imports⟩ := group
  rw [definingGroup?, preorder, List.find?_cons, definingGroupIn?_eq_find? identity imports]
  cases defines identity templates <;> rfl

/-- Among groups, a template object is defined by the first one in order that defines it. -/
theorem definingGroupIn?_eq_find? (identity : Nat) (groups : List Group) :
    definingGroupIn? identity groups =
      (preorderAll groups).find? fun group => defines identity group.templates := by
  cases groups with
  | nil => rfl
  | cons group rest =>
    rw [definingGroupIn?, preorderAll, List.find?_append, definingGroup?_eq_find? identity group,
      definingGroupIn?_eq_find? identity rest]
    cases (preorder group).find? fun group => defines identity group.templates <;> rfl

end

/-- What the imports of a group have under a name is what the first of them in order has. -/
theorem lookupImported?_eq_findSome? (name : String) (group : Group) :
    lookupImported? name group = (preorderAll group.imports).findSome? (own? name) :=
  lookupIn?_eq_findSome?_preorderAll name group.imports

/-- A group itself defines a template: as one of its templates, or inside one of them. -/
def Defines (group : Group) (template : Template) : Prop :=
  ∃ identity, template.identity = some identity ∧ defines identity group.templates = true

/-- Among a group and its imports there is exactly one group that defines a template. -/
structure SoleHome (root home : Group) (template : Template) : Prop where
  mem : home ∈ preorder root
  defines : home.Defines template
  only : ∀ other ∈ preorder root, other.Defines template → other = home

/-- The group that defines a template is found if it is the only one. -/
theorem SoleHome.nativeGroup? {root home : Group} {template : Template}
    (sole : SoleHome root home template) : root.nativeGroup? template = some home := by
  obtain ⟨identity, hidentity, hdefines⟩ := sole.defines
  rw [Group.nativeGroup?, hidentity, Option.bind_some, definingGroup?_eq_find?]
  cases hfound : (preorder root).find? fun group => Group.defines identity group.templates with
  | none => exact absurd hdefines (List.find?_eq_none.mp hfound home sole.mem)
  | some other =>
    have hother : other.Defines template := ⟨identity, hidentity, by simpa using List.find?_some hfound⟩
    rw [sole.only other (List.mem_of_find?_eq_some hfound) hother]

/-- No group is found for a template that none defines. -/
theorem nativeGroup?_eq_none {root : Group} {template : Template}
    (undefined : ∀ group ∈ preorder root, ¬ group.Defines template) :
    root.nativeGroup? template = none := by
  cases hidentity : template.identity with
  | none => simp [nativeGroup?, hidentity]
  | some identity =>
    rw [nativeGroup?, hidentity, Option.bind_some, definingGroup?_eq_find?, List.find?_eq_none]
    exact fun group mem hdefines => undefined group mem ⟨identity, hidentity, hdefines⟩

/-- The group that defines the first template of a name in order; the group itself if there is no
such template. -/
def homeOf (root : Group) (name : String) : Group :=
  (((preorder root).findSome? (own? name)).bind root.nativeGroup?).getD root

end Group

end TemplateMachine
