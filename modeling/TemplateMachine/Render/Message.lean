import TemplateMachine.Render.Problem
import TemplateMachine.Source.Excerpt
import TemplateMachine.Value.Text

/-!
# Messages

A message is a problem with the place where it was found: the templates being rendered, the
instruction, and the source of the instruction if the template has one.
-/

namespace TemplateMachine

/-- A reported problem and where it was found. The names of templates are given outermost first. -/
structure Message where
  problem : Problem
  callStack : List String
  ip : Nat
  site : Option SourceSite
deriving DecidableEq, Repr

namespace Message

/-- The line, counted from one, and the column, counted from zero, in the source. -/
def lineColumn? (message : Message) : Option (Nat × Nat) :=
  message.site.map fun site =>
    let (line, column) := site.span.lineColumn site.source
    (line + 1, column)

/-- The message in one line. -/
def display (message : Message) : String :=
  (if message.callStack.isEmpty then ""
    else "context [" ++ " ".intercalate message.callStack ++ "] ") ++
  (match message.lineColumn? with
    | some (line, column) => s!"{line}:{column} "
    | none => "") ++
  message.problem.message

/-- The message in one line with an excerpt of the source under it. -/
def pretty (message : Message) : String :=
  message.display ++
  (match message.site with
    | some site => sourceExcerpt "" site.source site.span
    | none => "")

/-- The notation of a message in diagnostics. -/
def inspect (message : Message) : String :=
  recordText "RenderMessage"
    [("kind", message.problem.kindName), ("message", quoted message.display)] false

end Message

end TemplateMachine
