import TemplateMachine.Value.Basic
import TemplateMachine.Output.Writer

/-!
# Faults and problems

A fault abandons the template in which it happens. A problem is what a render reports; rendering
goes on after it, and an abandoned template is a problem too. Both are kept by cause, with the
wording in one place each.
-/

namespace TemplateMachine

/-- What an instruction expects on the operand stack. -/
inductive Expected where
  | value
  | options
  | arguments
  | list
  | template
deriving DecidableEq, Repr

/-- What an instruction finds on the operand stack. -/
inductive Found where
  | value (kind : ValueKind)
  | options
  | arguments
deriving DecidableEq, Repr

/-- The word for what is expected. -/
def Expected.name : Expected → String
  | .value => "value"
  | .options => "options"
  | .arguments => "arguments"
  | .list => "list"
  | .template => "template"

/-- The word for what is found. -/
def Found.name : Found → String
  | .value kind => kind.name
  | .options => "options"
  | .arguments => "arguments"

/-- A condition under which a template cannot go on. -/
inductive Fault where
  | underflow
  | mismatch (expected : Expected) (found : Found)
  | noPrototype
  | textOutOfRange (index : Nat)
  | slotOutOfRange (index : Nat)
  | targetOutOfRange (index : Nat)
  | writer (error : WriterError)
deriving DecidableEq, Repr

/-- The wording of a fault. -/
def Fault.message : Fault → String
  | .underflow => "operand stack underflow"
  | .mismatch expected found => s!"expected {expected.name}, found {found.name}"
  | .noPrototype => "rot_map requires at least one template"
  | .textOutOfRange index => s!"string {index} is out of range"
  | .slotOutOfRange index => s!"slot {index} is out of range"
  | .targetOutOfRange index => s!"jump to {index} is out of range"
  | .writer error => error.message

/-- The three ways in which a listener is told of a problem. -/
inductive Channel where
  | runtime
  | io
  | internal
deriving DecidableEq, Repr

/-- The name of a channel. -/
def Channel.name : Channel → String
  | .runtime => "runtime"
  | .io => "io"
  | .internal => "internal"

/-- What a render reports. -/
inductive Problem where
  | noSuchTemplate (name : String)
  | noImportedTemplate (name : String)
  | noSuchAttribute (name : String)
  | noSuchAttributePassThrough (name : String)
  | noSuchProperty (owner : ValueKind) (name : String)
  | argumentCountMismatch (given : Nat) (template : String) (declared : Nat)
  | mapArgumentCountMismatch (given declared : Nat)
  | missingFormalArguments
  | invalidOptionValue (index : Nat)
  | typeMismatch (function : String) (kind : ValueKind)
  | stackOverflow (limit : Nat)
  | internalError (fault : Fault)
  | ioError (error : WriterError)
deriving DecidableEq, Repr

namespace Problem

/-- The name of the kind of a problem. -/
def kindName : Problem → String
  | noSuchTemplate _ => "NoSuchTemplate"
  | noImportedTemplate _ => "NoImportedTemplate"
  | noSuchAttribute _ => "NoSuchAttribute"
  | noSuchAttributePassThrough _ => "NoSuchAttributePassThrough"
  | noSuchProperty _ _ => "NoSuchProperty"
  | argumentCountMismatch _ _ _ => "ArgumentCountMismatch"
  | mapArgumentCountMismatch _ _ => "MapArgumentCountMismatch"
  | missingFormalArguments => "MissingFormalArguments"
  | invalidOptionValue _ => "InvalidOptionValue"
  | typeMismatch _ _ => "TypeMismatch"
  | stackOverflow _ => "StackOverflow"
  | internalError _ => "InternalError"
  | ioError _ => "IoError"

/-- The owner of a property in a message. -/
def ownerName : ValueKind → String
  | .none => "null"
  | kind => kind.name

/-- The particulars of a problem as texts. -/
def args : Problem → List String
  | noSuchTemplate name => [name]
  | noImportedTemplate name => [name]
  | noSuchAttribute name => [name]
  | noSuchAttributePassThrough name => [name]
  | noSuchProperty owner name => [ownerName owner ++ "." ++ name]
  | argumentCountMismatch given template declared => [toString given, template, toString declared]
  | mapArgumentCountMismatch given declared => [toString given, toString declared]
  | missingFormalArguments => []
  | invalidOptionValue index => [toString index]
  | typeMismatch function kind => [function, kind.name]
  | stackOverflow limit => [toString limit]
  | internalError fault => [fault.message]
  | ioError error => [error.message]

/-- The wording of a problem. -/
def message : Problem → String
  | noSuchTemplate name => "no such template: " ++ name
  | noImportedTemplate name => "no such template: super." ++ name
  | noSuchAttribute name => "attribute " ++ name ++ " isn't defined"
  | noSuchAttributePassThrough name => "could not pass through undefined attribute " ++ name
  | noSuchProperty owner name =>
    "no such property or can't access: " ++ ownerName owner ++ "." ++ name
  | argumentCountMismatch given template declared =>
    s!"passed {given} arg(s) to template {template} with {declared} declared arg(s)"
  | mapArgumentCountMismatch given declared =>
    s!"iterating through {given} values in zip map but template has {declared} declared arguments"
  | missingFormalArguments => "missing argument definitions"
  | invalidOptionValue index => s!"invalid option value: {index}"
  | typeMismatch function kind => s!"function {function} expects a string not {kind.name}"
  | stackOverflow limit => s!"template recursion depth exceeded {limit} levels"
  | internalError fault => "internal error: " ++ fault.message
  | ioError error => "error writing output: " ++ error.message

/-- The way in which a listener is told of a problem. -/
def channel : Problem → Channel
  | internalError _ => .internal
  | ioError _ => .io
  | _ => .runtime

end Problem

end TemplateMachine
