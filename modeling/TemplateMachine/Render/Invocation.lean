import TemplateMachine.Render.Frame
import TemplateMachine.Value.Property

/-!
# Invocations

How a running template makes instances of other templates and gives them arguments: by position, by
name, or by passing on what is in scope. Wrong arguments are reported and never stop the template.
Each function returns what it makes together with the problems that it found, in order.
-/

namespace TemplateMachine

/-- A result with the problems found on the way to it. -/
abbrev Reported (α : Type) := α × List Problem

namespace Frame

/-- The instance that stands for a template that was not found. It renders nothing. -/
def blankInstance (frame : Frame) (name : String) : Instance :=
  .ofTemplate (.blank name) frame.running.group

/-- An instance of a named template of the frame's group. -/
def instanceOf? (frame : Frame) (setting : Setting) (name : String) : Option Instance :=
  (frame.group setting).instanceOf? name

/-- The template that was not defined inside another one and encloses the running code. -/
def enclosing (frame : Frame) : Template :=
  match (frame.scope.map Instance.template).find? fun template => !template.anonymous with
  | some template => template
  | none => frame.template

/-- The group that defines the enclosing template. A private copy is looked up by its name; a
template that no group defines belongs to the frame's group. -/
def nativeGroup (frame : Frame) (setting : Setting) : Group :=
  let group := frame.group setting
  match group.nativeGroup? frame.enclosing with
  | some native => native
  | none =>
    match (group.lookup? frame.enclosing.name).bind group.nativeGroup? with
    | some native => native
    | none => group

/-- An instance of a template that the imports of the native group have under a name. -/
def superInstanceOf? (frame : Frame) (setting : Setting) (name : String) : Option Instance :=
  let native := frame.nativeGroup setting
  (native.lookupImported? name).map native.create

end Frame

namespace Instance

/-- The problem that an instance was given the wrong number of arguments. -/
def countMismatch (inst : Instance) (given declared : Nat) : Problem :=
  .argumentCountMismatch given inst.name declared

/-- Slots with values put into the first of them. -/
def fillSlots : List (Option Value) → List Value → List (Option Value)
  | _ :: slots, value :: values => some value :: fillSlots slots values
  | slots, [] => slots
  | [], _ => []

/-- An instance with arguments given by position. -/
def givePositional (inst : Instance) (values : List Value) : Reported Instance :=
  let declared := inst.template.arity
  let required := declared - inst.template.defaultCount
  let problems :=
    if values.length < required || declared < values.length then
      [inst.countMismatch values.length declared]
    else []
  if inst.template.args.isEmpty then (inst, problems)
  else ({ inst with locals := fillSlots inst.locals (values.take declared) }, problems)

/-- An instance with arguments set by name, those that it does not declare reported. -/
def setNamed (inst : Instance) : List (String × Value) → Reported Instance
  | [] => (inst, [])
  | (name, value) :: rest =>
    match inst.setDeclared? name value with
    | some inst => setNamed inst rest
    | none =>
      let (inst, problems) := setNamed inst rest
      (inst, .noSuchAttribute name :: problems)

/-- Whether an argument that has to be given is unset. -/
def lacksArgument (inst : Instance) : Bool :=
  inst.template.args.any fun arg =>
    arg.default?.isNone && !inst.template.isIndexArg arg && (inst.slot? arg.slot).isNone

/-- An instance with arguments given by name. A template without an explicit argument list declares
whatever it is given. -/
def giveNamed (inst : Instance) (entries : Entries Value) : Reported Instance :=
  if !inst.template.hasFormalArgs then
    (entries.foldl (fun inst entry => inst.declareAndSet entry.1 entry.2) inst, [])
  else
    let given := entries.length
    let (inst, problems) := setNamed inst entries
    let declared := inst.template.arity
    if (inst.lacksArgument || declared < given) && problems.isEmpty then
      (inst, [inst.countMismatch given declared])
    else (inst, problems)

/-- An instance with a value for its first argument. A template without arguments takes it under the
implicit name unless its argument list is explicit. -/
def giveFirst (inst : Instance) (value : Value) : Reported Instance :=
  if inst.template.args.isEmpty then
    if inst.template.hasFormalArgs then (inst, [inst.countMismatch 1 0])
    else (inst.declareAndSet implicitArg value, [])
  else (inst.setSlot 0 value, [])

end Instance

namespace Frame

/-- Named arguments with one declared argument of a target filled from the scope. -/
def passArg (frame : Frame) (entries : Entries Value) (arg : FormalArg) :
    Reported (Entries Value) :=
  match frame.resolve? arg.name, arg.default?.isSome with
  | some (some value), _ => (Entries.insert arg.name value entries, [])
  | some none, false => (Entries.insert arg.name .none entries, [])
  | none, false =>
    (Entries.insert arg.name .none entries, [.noSuchAttributePassThrough arg.name])
  | _, true => (entries, [])

/-- Named arguments with the declared arguments of a target filled from the scope, unless they are
there already. -/
def passArgs (frame : Frame) (target : Template) (entries : Entries Value) :
    List FormalArg → Reported (Entries Value)
  | [] => (entries, [])
  | arg :: rest =>
    if target.isIndexArg arg || Entries.hasKey arg.name entries then
      passArgs frame target entries rest
    else
      let (entries, problems) := frame.passArg entries arg
      let (entries, more) := passArgs frame target entries rest
      (entries, problems ++ more)

/-- Named arguments filled from the scope for the template of a name, if there is one. -/
def passThrough (frame : Frame) (setting : Setting) (name : String) (entries : Entries Value) :
    Reported (Entries Value) :=
  match (frame.group setting).lookup? name with
  | none => (entries, [])
  | some target => frame.passArgs target entries target.args

/-- A property of a value, found by the adaptor for its kind. -/
def property (frame : Frame) (setting : Setting) (owner : Value) (name : String) :
    Reported Value :=
  if owner.isNone then (.none, [.noSuchProperty .none name])
  else
    let found := match (frame.group setting).adaptor? owner.kind with
      | some adaptor => adaptor owner name
      | none => property? owner name
    match found with
    | some value => (value, [])
    | none => (.none, [.noSuchProperty owner.kind name])

end Frame

end TemplateMachine
