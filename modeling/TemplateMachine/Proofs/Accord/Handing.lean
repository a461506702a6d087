import TemplateMachine.Proofs.Render.Course

/-!
# Texts handed to writers

The texts that the machine hands to writers to be written, in their order: the texts of templates,
the texts of scalar values, replacements of missing values, separators and newlines, whether they go
to the output or to a text of its own. What is handed over depends on the state in which the machine
starts, which it follows with the machine's own outcomes.

Wrap texts are not listed. A writer that has no line width does not write them.
-/

namespace TemplateMachine

variable {α : Type}

/-- The texts that are handed to writers by something that is started in a state. -/
abbrev Handing := RenderState → List String

namespace Handing

/-- Nothing is handed over. -/
def nothing : Handing := fun _ => []

/-- One text is handed over. -/
def one (text : String) : Handing := fun _ => [text]

/-- What a computation hands over and what is handed over after it, given its result. -/
def andThen (first : Handing) (action : Render α) (rest : α → Handing) : Handing := fun s =>
  first s ++
    match Render.outcome action s with
    | (some a, t) => rest a t
    | (none, _) => []

/-- What is handed over after a computation that hands over nothing itself. -/
def after (action : Render α) (rest : α → Handing) : Handing :=
  andThen nothing action rest

/-- What is handed over for a value, if there is no fault instead. -/
def given (result : Except Fault α) (rest : α → Handing) : Handing :=
  match result with
  | .ok a => rest a
  | .error _ => nothing

end Handing

open Render Handing

/-- What writing a separator hands over, if there is one to be written. -/
def separateHands (options : OptionRow String) (seen : Bool) : Handing :=
  match options.separator with
  | some separator => if seen then one separator else nothing
  | none => nothing

mutual

/-- What running the template of a frame hands over. -/
def execHands (setting : Setting) : Nat → Frame → Handing
  | 0, _ => nothing
  | fuel + 1, frame =>
    after (mark frame .begun) fun _ =>
    andThen (giveDefaultsHands setting fuel frame frame.template.args)
      (giveDefaults setting fuel frame frame.template.args) fun frame =>
    after position fun _ => runHands setting fuel frame .start

/-- What running the program of a frame from a cursor hands over. -/
def runHands (setting : Setting) : Nat → Frame → Cursor → Handing
  | 0, _, _ => nothing
  | fuel + 1, frame, cursor =>
    match frame.template.program[cursor.ip]? with
    | none => nothing
    | some instr =>
      let here := { frame with ip := cursor.ip }
      after (mark here (.reached cursor instr)) fun _ =>
      andThen (stepHands setting fuel here cursor instr) (step setting fuel here cursor instr).run
        fun result => given result fun cursor => runHands setting fuel frame cursor

/-- What executing an instruction hands over. -/
def stepHands (setting : Setting) : Nat → Frame → Cursor → Instr → Handing
  | 0, _, _, _ => nothing
  | fuel + 1, frame, cursor, instr =>
    match instr with
    | .write => given cursor.stack.pop fun (value, _) =>
      after position fun _ => writeValueHands setting fuel frame value .empty
    | .writeOpt => given cursor.stack.popOptions fun (options, stack) =>
      given stack.pop fun (value, _) =>
      after position fun _ => writeWithHands setting fuel frame value options
    | .writeStr index => given (frame.template.text index) one
    | .writeLocal index => given (frame.running.readSlot index) fun value =>
      writeValueHands setting fuel frame value .empty
    | .toStr => given cursor.stack.pop fun (value, _) =>
      match value with
      | .none => nothing
      | .string _ => nothing
      | value => toTextHands setting fuel frame value
    | .newline => if cursor.wantsNewline then one "\n" else nothing
    | _ => nothing

/-- What writing a value with options hands over. -/
def writeWithHands (setting : Setting) : Nat → Frame → Value → OptionRow Value → Handing
  | 0, _, _, _ => nothing
  | fuel + 1, frame, value, options =>
    andThen (optionTextsHands setting fuel frame options) (optionTexts setting fuel frame options)
      fun texts =>
    match texts.anchor with
    | some _ => after pushAnchor fun _ => writeValueHands setting fuel frame value texts
    | none => writeValueHands setting fuel frame value texts

/-- What rendering options to texts hands over. -/
def optionTextsHands (setting : Setting) : Nat → Frame → OptionRow Value → Handing
  | 0, _, _ => nothing
  | fuel + 1, frame, options =>
    andThen (optionTextHands setting fuel frame options.anchor)
      (optionText setting fuel frame options.anchor) fun _ =>
    andThen (optionTextHands setting fuel frame options.format)
      (optionText setting fuel frame options.format) fun _ =>
    andThen (optionTextHands setting fuel frame options.null)
      (optionText setting fuel frame options.null) fun _ =>
    andThen (optionTextHands setting fuel frame options.separator)
      (optionText setting fuel frame options.separator) fun _ =>
    optionTextHands setting fuel frame options.wrap

/-- What rendering an option to text hands over. -/
def optionTextHands (setting : Setting) : Nat → Frame → Option Value → Handing
  | 0, _, _ => nothing
  | _ + 1, _, none => nothing
  | fuel + 1, frame, some value => toTextHands setting fuel frame value

/-- What writing a value hands over. -/
def writeValueHands (setting : Setting) : Nat → Frame → Value → OptionRow String → Handing
  | 0, _, _, _ => nothing
  | fuel + 1, frame, value, options =>
    let scalar (value : Value) := one (frame.scalarText setting value options.format)
    if value.isNone then
      match options.null with
      | some null => scalar (.string null)
      | none => nothing
    else
      match frame.standIn setting value with
      | .template inst =>
        after (tooDeep setting frame) fun deep =>
        if deep then nothing
        else
          after (emit frame (Writer.writeWrap options.wrap)) fun _ =>
          execHands setting fuel (frame.child inst)
      | .list items => writeItemsHands setting fuel frame items options 0 false
      | .map entries =>
        let items := Value.elements (frame.group setting).iterateMapValues (.map entries)
        writeItemsHands setting fuel frame items options 0 false
      | value => scalar value

/-- What writing the elements of a collection hands over. -/
def writeItemsHands (setting : Setting) :
    Nat → Frame → List Value → OptionRow String → Nat → Bool → Handing
  | 0, _, _, _, _, _ => nothing
  | _ + 1, _, [], _, _, _ => nothing
  | fuel + 1, frame, item :: rest, options, count, seen =>
    let item? := if item.isNone then options.null.map Value.string else some item
    match item? with
    | none => writeItemsHands setting fuel frame rest options count seen
    | some item =>
      andThen (separateHands options seen) (separate frame options seen) fun n =>
      andThen (writeValueHands setting fuel frame item options)
        (writeValue setting fuel frame item options) fun m =>
      writeItemsHands setting fuel frame rest options (count + n + m) (seen || 0 < m)

/-- What rendering a value to text hands over. -/
def toTextHands (setting : Setting) : Nat → Frame → Value → Handing
  | 0, _, _ => nothing
  | fuel + 1, frame, value => fun s => writeValueHands setting fuel frame value .empty s.forked

/-- What giving arguments their defaults hands over. -/
def giveDefaultsHands (setting : Setting) : Nat → Frame → List FormalArg → Handing
  | 0, _, _ => nothing
  | _ + 1, _, [] => nothing
  | fuel + 1, frame, arg :: rest =>
    match arg.default?, frame.running.locals[arg.slot]? with
    | some default, some none =>
      andThen (defaultValueHands setting fuel frame default)
        (defaultValue setting fuel frame default) fun value =>
      giveDefaultsHands setting fuel
        { frame with running := frame.running.setSlot arg.slot value } rest
    | _, _ => giveDefaultsHands setting fuel frame rest

/-- What finding the value of a default hands over. -/
def defaultValueHands (setting : Setting) : Nat → Frame → DefaultValue → Handing
  | 0, _, _ => nothing
  | _ + 1, _, .literal _ => nothing
  | fuel + 1, frame, .template template eager =>
    let inst := Instance.ofTemplate template frame.running.group
    if eager then
      after (tooDeep setting frame) fun deep =>
      if deep then nothing
      else fun s => execHands setting fuel (frame.child inst) s.forked
    else nothing

end

/-- The texts that a render of an instance hands to writers. -/
def Instance.hands (inst : Instance) (catalog : Catalog) (settings : RenderSettings) (sink : Sink)
    (withEvents : Bool) (fuel : Nat) : List String :=
  execHands (settings.setting catalog inst) fuel (.root inst)
    (.start (settings.writer sink) withEvents)

end TemplateMachine
