import TemplateMachine.Failure
import TemplateMachine.Render.Rendering

/-!
# Sessions

A session owns groups, named instances and the identities of template objects. Every template that
is built gets an identity of its own, and so does the private copy that an instance makes when it
declares attributes; clones of an instance share it from then on. A session keeps what it was given
before a call that fails.
-/

namespace TemplateMachine

/-- The groups and the instances of a session, and the identity that the next template gets. -/
structure Session where
  catalog : Catalog
  instances : Entries Instance
  nextIdentity : Nat

namespace Session

/-- A session in which nothing exists yet. -/
def empty : Session :=
  ⟨⟨[]⟩, [], 0⟩

/-- Give a template an identity unless it has one. -/
def adopt (session : Session) (template : Template) : Template × Session :=
  match template.identity with
  | some _ => (template, session)
  | none =>
    ({ template with identity := some session.nextIdentity },
      { session with nextIdentity := session.nextIdentity + 1 })

/-- Give the template of an instance an identity unless it has one. -/
def adoptInstance (session : Session) (inst : Instance) : Instance × Session :=
  let (template, session) := session.adopt inst.template
  ({ inst with template := template }, session)

/-- Build the template that a draft stands for, with the identifiers of Unicode. -/
def buildTemplate (session : Session) (draft : Draft) : Except Failure (Template × Session) :=
  match draft.build unicodeIdentifiers with
  | .ok template => pure (session.adopt template)
  | .error (error, site) => throw (.build error site)

/-- Build the group that a draft stands for and put it behind the groups that exist. -/
def buildGroup (session : Session) (draft : GroupDraft) : Except Failure Session :=
  match draft.build ⟨session.catalog.groups.length⟩ with
  | .ok group => pure { session with catalog := ⟨session.catalog.groups ++ [group]⟩ }
  | .error error => throw (.group error)

/-- The group with a number. -/
def group? (session : Session) (index : Nat) : Option Group :=
  session.catalog.groups[index]?

/-- The instance with a name. -/
def instance? (session : Session) (name : String) : Option Instance :=
  Entries.find? name session.instances

/-- Keep an instance under a name. -/
def keep (session : Session) (name : String) (inst : Instance) : Session :=
  let (inst, session) := session.adoptInstance inst
  { session with instances := Entries.insert name inst session.instances }

/-- Add attributes to an instance up to the first that is rejected. -/
def addAll (session : Session) (inst : Instance) (attributes : List (String × Value)) :
    Instance × Option Failure × Session :=
  let (inst, error) := inst.addAll attributes
  let (inst, session) := session.adoptInstance inst
  (inst, error.map .attribute, session)

end Session

end TemplateMachine
