import TemplateMachine.Group.Basic
import TemplateMachine.Render.Message

/-!
# Frames

A frame is one template being rendered, with the templates that invoked it. Attributes are looked up
in the frame and then in its callers from the innermost to the outermost; the first template that
declares a name decides, also if it leaves the name unset.
-/

namespace TemplateMachine

/-- What stays the same during a render. -/
structure Setting where
  catalog : Catalog
  locale : String
  maxDepth : Nat

/-- A template being rendered, its callers with the innermost first, the number of templates being
rendered, and the instruction that it has reached. -/
structure Frame where
  running : Instance
  callers : List Instance
  depth : Nat
  ip : Nat
  depth_eq : depth = callers.length + 1

namespace Frame

/-- The frame of a template that nobody invoked. -/
def root (inst : Instance) : Frame :=
  ⟨inst, [], 1, 0, rfl⟩

/-- The frame of a template that a frame invokes. -/
def child (frame : Frame) (inst : Instance) : Frame :=
  ⟨inst, frame.running :: frame.callers, frame.depth + 1, 0, by simp [frame.depth_eq]⟩

/-- The instances of the frame and of its callers. -/
def scope (frame : Frame) : List Instance :=
  frame.running :: frame.callers

/-- The depth of a frame counts the frame and its callers. -/
theorem length_scope (frame : Frame) : frame.scope.length = frame.depth := by
  rw [depth_eq]
  rfl

/-- The template of the frame. -/
def template (frame : Frame) : Template :=
  frame.running.template

/-- The names of the templates being rendered, outermost first. -/
def callStack (frame : Frame) : List String :=
  (frame.scope.map Instance.name).reverse

/-- The slot of a name in the first instance that declares it, which may be unset. -/
def resolveIn? (name : String) : List Instance → Option (Option Value)
  | [] => none
  | inst :: rest =>
    match inst.template.arg? name with
    | some arg => some (inst.slot? arg.slot)
    | none => resolveIn? name rest

/-- The slot that a name stands for in a frame, if any template declares it. -/
def resolve? (frame : Frame) (name : String) : Option (Option Value) :=
  resolveIn? name frame.scope

/-- The group of the running instance. -/
def group (frame : Frame) (setting : Setting) : Group :=
  setting.catalog.group frame.running.group

/-- The value of an attribute in a frame: what the scope has, else a dictionary of that name. An
attribute that is declared but unset has no value. -/
def attribute? (frame : Frame) (setting : Setting) (name : String) : Option Value :=
  match frame.resolve? name with
  | some value => some (value.getD .none)
  | none => ((frame.group setting).findDictionary? name).map .map

/-- What is written in the place of a value: what the proxy for its kind makes of it, or the value
itself. The result is not replaced again. -/
def standIn (frame : Frame) (setting : Setting) (value : Value) : Value :=
  match (frame.group setting).proxy? value.kind with
  | some proxy => proxy value
  | none => value

/-- A value without a proxy for its kind stands for itself. -/
theorem standIn_eq_self {frame : Frame} {setting : Setting} {value : Value}
    (unproxied : (frame.group setting).proxy? value.kind = none) :
    frame.standIn setting value = value := by
  rw [standIn, unproxied]

/-- The text of a scalar value by the renderer for its kind, given a format. -/
def scalarText (frame : Frame) (setting : Setting) (value : Value) (format : Option String) :
    String :=
  match (frame.group setting).renderer? value.kind with
  | some renderer => renderer value format setting.locale
  | none => value.display

/-- Where the current instruction comes from, if the template knows. -/
def site? (frame : Frame) : Option SourceSite :=
  match frame.template.source, frame.template.span? frame.ip with
  | some source, some span => some ⟨source, span⟩
  | _, _ => none

/-- A problem found at the current instruction. -/
def message (frame : Frame) (problem : Problem) : Message :=
  ⟨problem, frame.callStack, frame.ip, frame.site?⟩

end Frame

end TemplateMachine
