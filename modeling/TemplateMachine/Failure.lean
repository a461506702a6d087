import TemplateMachine.Group.Draft
import TemplateMachine.Output.Writer
import TemplateMachine.Program.Bytecode
import TemplateMachine.Source.Excerpt
import TemplateMachine.Template.Assembler
import TemplateMachine.Value.Datum
import TemplateMachine.Instance

/-!
# Failures

What can go wrong outside a render: a draft that is no template or no group, bytes that are no
program, data that is no value, an attribute that cannot be added, a writer or a sink that gives up.
A failure knows its source if there is one and is shown in one line or with an excerpt.
-/

namespace TemplateMachine

/-- A failed call of the library. -/
inductive Failure where
  | bytecode (error : BytecodeError)
  | build (error : BuildError) (site : Option SourceSite)
  | group (error : GroupError)
  | attribute (error : AttributeError)
  | datum (error : DatumError)
  | writer (error : WriterError)
  | output (cause : String)
deriving DecidableEq, Repr

namespace Failure

/-- The wording of a failure, without its source. -/
def message : Failure → String
  | .bytecode error => error.message
  | .build error _ => error.message
  | .group error => error.message
  | .attribute error => error.message
  | .datum error => error.message
  | .writer error => error.message
  | .output cause => s!"io error: {cause}"

/-- The source that a failure is about. -/
def site? : Failure → Option SourceSite
  | .build _ site => site
  | _ => none

/-- The failure in one line. -/
def display (failure : Failure) : String :=
  match failure.site? with
  | some site => failure.message ++ s!" between bytes {site.span.start} and {site.span.stop}"
  | none => failure.message

/-- The failure under an excerpt of its source, in one line if it has none. -/
def pretty (failure : Failure) : String :=
  match failure.site? with
  | some site => sourceExcerpt failure.message site.source site.span
  | none => failure.message

end Failure

/-- Write a program as bytes. -/
def encodeProgram (program : List Instr) : Except Failure (List UInt8) :=
  (Bytecode.encode program).mapError .bytecode

/-- Read a program from bytes. -/
def decodeProgram (bytes : List UInt8) : Except Failure (List Instr) :=
  (Bytecode.decode bytes).mapError .bytecode

end TemplateMachine
