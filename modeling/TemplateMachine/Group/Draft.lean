import TemplateMachine.Group.Basic

/-!
# Assembling groups

A draft of a group collects its templates and everything else, and is checked when it is built: two
templates added under one name are an error. The templates defined inside an added template are
registered as well, outermost first, unless their name is taken.
-/

namespace TemplateMachine

/-- Why a draft is no group. -/
inductive GroupError where
  | duplicateTemplate (template group : String)
deriving DecidableEq, Repr

/-- The wording of a group error. -/
def GroupError.message : GroupError → String
  | .duplicateTemplate template group =>
    "template `" ++ template ++ "` is defined more than once in group `" ++ group ++ "`"

/-- A group that is being assembled. -/
structure GroupDraft where
  name : String
  templates : List Template
  imports : List Group
  dictionaries : Entries (Entries Value)
  renderer? : ValueKind → Option Renderer
  adaptor? : ValueKind → Option Adaptor
  proxy? : ValueKind → Option Proxy
  listener : Listener
  iterateMapValues : Bool
  maxDepth : Nat

/-- A choice for each kind of value with one kind chosen anew. -/
def chooseFor {α : Type} (choice : ValueKind → Option α) (kind : ValueKind) (chosen : α) :
    ValueKind → Option α :=
  fun other => if other = kind then some chosen else choice other

namespace GroupDraft

/-- A draft with nothing in it. -/
def empty : GroupDraft where
  name := "default"
  templates := []
  imports := []
  dictionaries := []
  renderer? _ := none
  adaptor? _ := none
  proxy? _ := none
  listener := .log
  iterateMapValues := false
  maxDepth := defaultMaxDepth

/-- The draft with one more dictionary; one of the same name is replaced. -/
def dictionary (draft : GroupDraft) (name : String) (pairs : List (String × Value)) : GroupDraft :=
  { draft with dictionaries := Entries.insert name (Entries.ofPairs pairs) draft.dictionaries }

/-- The draft with a renderer for a kind of value. -/
def renderer (draft : GroupDraft) (kind : ValueKind) (renderer : Renderer) : GroupDraft :=
  { draft with renderer? := chooseFor draft.renderer? kind renderer }

/-- The draft with an adaptor for a kind of value. -/
def adaptor (draft : GroupDraft) (kind : ValueKind) (adaptor : Adaptor) : GroupDraft :=
  { draft with adaptor? := chooseFor draft.adaptor? kind adaptor }

/-- The draft with a proxy for a kind of value. -/
def proxy (draft : GroupDraft) (kind : ValueKind) (proxy : Proxy) : GroupDraft :=
  { draft with proxy? := chooseFor draft.proxy? kind proxy }

/-- The name of the first template that has the name of one before it, given the names before. -/
def duplicateName? (before : List String) : List Template → Option String
  | [] => none
  | template :: rest =>
    if before.contains template.name then some template.name
    else duplicateName? (template.name :: before) rest

mutual

/-- The table with the templates defined inside a template registered under free names. -/
def registerInner (table : Entries Template) : Template → Entries Template
  | { subtemplates, .. } => registerAll table subtemplates

/-- The table with templates and all that are defined inside them registered under free names. -/
def registerAll (table : Entries Template) : List Template → Entries Template
  | [] => table
  | template :: rest =>
    registerAll (registerInner (Entries.insertIfAbsent template.name template table) template) rest

end

/-- The table of a group: the added templates, then the templates defined inside them. -/
def table (templates : List Template) : Entries Template :=
  let added := templates.foldl (fun table template =>
    Entries.insert template.name template table) []
  templates.foldl registerInner added

/-- The group that a draft stands for, with the given number. -/
def build (draft : GroupDraft) (id : GroupId) : Except GroupError Group :=
  match duplicateName? [] draft.templates with
  | some name => throw (.duplicateTemplate name draft.name)
  | none =>
    pure {
      id := id
      name := draft.name
      templates := table draft.templates
      imports := draft.imports
      dictionaries := draft.dictionaries
      renderer? := draft.renderer?
      adaptor? := draft.adaptor?
      proxy? := draft.proxy?
      listener := draft.listener
      iterateMapValues := draft.iterateMapValues
      maxDepth := draft.maxDepth }

end GroupDraft

end TemplateMachine
