import TemplateMachine.Value.Text

/-!
# Groups

A group holds named templates and dictionaries, imports other groups, and carries what rendering
consults: functions that turn values into text, find their properties or stand in for them, and a
listener. A look-up searches the group itself and then its imports in order, each with its own
imports before the next one.

A group contains the groups that it imports, so a group never imports itself. Instances refer to
groups by number; a catalog turns the number into the group.
-/

namespace TemplateMachine

/-- Turns a value into text, given a format and a locale. -/
abbrev Renderer := Value → Option String → String → String

/-- Finds a property of a value. -/
abbrev Adaptor := Value → String → Option Value

/-- Puts another value in the place of one that is about to be written. -/
abbrev Proxy := Value → Value

/-- What becomes of the messages of a render: they are logged, or kept for whoever asks. -/
inductive Listener where
  | log
  | record
deriving DecidableEq, Repr

/-- A group of templates with everything that rendering them consults. -/
structure Group where
  id : GroupId
  name : String
  templates : Entries Template
  imports : List Group
  dictionaries : Entries (Entries Value)
  renderer? : ValueKind → Option Renderer
  adaptor? : ValueKind → Option Adaptor
  proxy? : ValueKind → Option Proxy
  listener : Listener
  iterateMapValues : Bool
  maxDepth : Nat

/-- The depth of nested templates that a group allows unless it says otherwise. -/
def defaultMaxDepth : Nat := 200

namespace Group

/-- The group without templates that is used when nothing is configured. -/
def empty (id : GroupId) : Group where
  id := id
  name := "default"
  templates := []
  imports := []
  dictionaries := []
  renderer? _ := none
  adaptor? _ := none
  proxy? _ := none
  listener := .log
  iterateMapValues := false
  maxDepth := defaultMaxDepth

mutual

/-- The template of a name in a group or its imports. -/
def lookup? (name : String) : Group → Option Template
  | { templates, imports, .. } =>
    match Entries.find? name templates with
    | some template => some template
    | none => lookupIn? name imports

/-- The template of a name in the first group that has it. -/
def lookupIn? (name : String) : List Group → Option Template
  | [] => none
  | group :: rest =>
    match lookup? name group with
    | some template => some template
    | none => lookupIn? name rest

end

/-- The template of a name in the imports of a group. -/
def lookupImported? (name : String) (group : Group) : Option Template :=
  lookupIn? name group.imports

/-- The dictionary of a name that is defined in the group itself. -/
def dictionary? (name : String) (group : Group) : Option (Entries Value) :=
  Entries.find? name group.dictionaries

mutual

/-- The dictionary of a name in a group or its imports. -/
def findDictionary? (name : String) : Group → Option (Entries Value)
  | { imports, dictionaries, .. } =>
    match Entries.find? name dictionaries with
    | some dictionary => some dictionary
    | none => findDictionaryIn? name imports

/-- The dictionary of a name in the first group that has it. -/
def findDictionaryIn? (name : String) : List Group → Option (Entries Value)
  | [] => none
  | group :: rest =>
    match findDictionary? name group with
    | some dictionary => some dictionary
    | none => findDictionaryIn? name rest

end

mutual

/-- Whether a template is the object with the given identity or defines it. -/
def templateHolds (identity : Nat) : Template → Bool
  | { identity := own, subtemplates, .. } =>
    own == some identity || templatesHold identity subtemplates

/-- Whether one of the templates is the object with the given identity or defines it. -/
def templatesHold (identity : Nat) : List Template → Bool
  | [] => false
  | template :: rest => templateHolds identity template || templatesHold identity rest

end

/-- Whether a group itself defines the template object with the given identity. -/
def defines (identity : Nat) (templates : Entries Template) : Bool :=
  templatesHold identity (Entries.values templates)

mutual

/-- The group that defines a template object, among a group and its imports. -/
def definingGroup? (identity : Nat) : Group → Option Group
  | group@{ templates, imports, .. } =>
    if defines identity templates then some group else definingGroupIn? identity imports

/-- The group that defines a template object, among groups and their imports. -/
def definingGroupIn? (identity : Nat) : List Group → Option Group
  | [] => none
  | group :: rest =>
    match definingGroup? identity group with
    | some found => some found
    | none => definingGroupIn? identity rest

end

/-- The group that defines a template, among a group and its imports. A template without an identity
is defined by none. -/
def nativeGroup? (group : Group) (template : Template) : Option Group :=
  template.identity.bind fun identity => definingGroup? identity group

/-- An instance of a template made by a group. -/
def create (group : Group) (template : Template) : Instance :=
  .ofTemplate template group.id

/-- An instance of a named template. -/
def instanceOf? (group : Group) (name : String) : Option Instance :=
  (group.lookup? name).map group.create

mutual

/-- The notation of a group in diagnostics. -/
def inspect : Group → String
  | { name, templates, imports, dictionaries, .. } =>
    recordText "Group" [("name", quoted name),
      ("templates", bracketed ((Entries.keys templates).map quoted)),
      ("imports", bracketed (inspectAll imports)),
      ("dictionaries", bracketed ((Entries.keys dictionaries).map quoted))] true

/-- The notations of groups. -/
def inspectAll : List Group → List String
  | [] => []
  | group :: rest => inspect group :: inspectAll rest

end

end Group

/-- The groups that exist, in the order of their numbers. -/
structure Catalog where
  groups : List Group

namespace Catalog

/-- The group with a number. A number that belongs to no group stands for an empty one. -/
def group (catalog : Catalog) (id : GroupId) : Group :=
  (catalog.groups[id.index]?).getD (.empty id)

end Catalog

end TemplateMachine
