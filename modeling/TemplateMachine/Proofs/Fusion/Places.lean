import TemplateMachine.Proofs.Render.Computation

/-!
# Where messages come from

The machine reports problems together with the place where they were found, and it leaves a trail.
It reads neither again. So if writing a value, or rendering one to text, is asked for at different
instructions of a template, after whatever was reported and done before, it comes to the same: to the
same result, the same output and events, and the same messages but for the places in them.

The templates that a message names belong to the message, not to its place.
-/

namespace TemplateMachine

variable {α β : Type}

/-- The message without the instruction that it was found at. -/
def Message.unplaced (message : Message) : Message :=
  { message with ip := 0, site := none }

/-- Two states that differ in the places of their messages and in their trails only. -/
structure RenderState.Concurs (s s' : RenderState) : Prop where
  writer : s'.writer = s.writer
  events : s'.events = s.events
  messages : s'.messages.map Message.unplaced = s.messages.map Message.unplaced
  aside : s'.aside = s.aside

/-- A state concurs with itself. -/
theorem RenderState.Concurs.refl (s : RenderState) : s.Concurs s :=
  ⟨rfl, rfl, rfl, rfl⟩

/-- Problems are the same wherever in a template they are found. -/
theorem Frame.unplaced_message (frame : Frame) (ip : Nat) (problem : Problem) :
    ({ frame with ip := ip }.message problem).unplaced = (frame.message problem).unplaced := rfl

/-- Two computations that come to the same from states that concur, and to states that concur. -/
def Render.Concurs (action action' : Render α) : Prop :=
  ∀ s s', s.Concurs s' →
    (Render.outcome action' s').1 = (Render.outcome action s).1 ∧
      (Render.outcome action s).2.Concurs (Render.outcome action' s').2

namespace Render.Concurs

variable {action action' : Render α} {frame : Frame} {ip : Nat}

/-- A pure computation concurs with itself. -/
theorem pure (a : α) : Concurs (pure a) (pure a) :=
  fun _ _ hs => ⟨rfl, hs⟩

/-- Being out of fuel concurs with itself. -/
theorem failure : Concurs (failure : Render α) failure :=
  fun _ _ hs => ⟨rfl, hs⟩

/-- Sequences concur if their parts do. -/
theorem bind (h : Concurs action action') {f f' : α → Render β}
    (hf : ∀ a, Concurs (f a) (f' a)) : Concurs (action >>= f) (action' >>= f') := by
  intro s s' hs
  obtain ⟨hresult, hstate⟩ := h s s' hs
  rw [outcome_bind, outcome_bind]
  rcases hends : outcome action s with ⟨_ | a, t⟩ <;>
    rcases hends' : outcome action' s' with ⟨_ | a', t'⟩ <;> rw [hends, hends'] at hresult hstate
  · exact ⟨rfl, hstate⟩
  · cases hresult
  · cases hresult
  · obtain rfl : a' = a := Option.some.inj hresult
    exact hf a' t t' hstate

/-- Computations that end concur if what they come to does. -/
theorem of_ends (h : ∀ s s', s.Concurs s' → ∃ a t t', outcome action s = (some a, t) ∧
    outcome action' s' = (some a, t') ∧ t.Concurs t') : Concurs action action' := by
  intro s s' hs
  obtain ⟨a, t, t', hends, hends', hstate⟩ := h s s' hs
  rw [hends, hends']
  exact ⟨rfl, hstate⟩

/-- The same problems are reported. -/
theorem report (problems : List Problem) :
    Concurs (Render.report frame problems) (Render.report { frame with ip := ip } problems) := by
  refine of_ends fun s s' hs => ⟨(), _, _, rfl, rfl, hs.writer, hs.events, ?_, hs.aside⟩
  simp [hs.messages, Frame.unplaced_message]

/-- Marks are not looked at. -/
theorem mark {frame' : Frame} {deed deed' : Deed} :
    Concurs (Render.mark frame deed) (Render.mark frame' deed') :=
  of_ends fun _ _ hs => ⟨(), _, _, rfl, rfl, hs.writer, hs.events, hs.messages, hs.aside⟩

/-- The same operation is tried on the same writer. -/
theorem attempt (operation : Attempt Writer α) :
    Concurs (Render.attempt operation) (Render.attempt operation) := by
  intro s s' hs
  rw [outcome_attempt, outcome_attempt, hs.writer]
  exact ⟨rfl, rfl, hs.events, hs.messages, hs.aside⟩

/-- The same is written. -/
theorem emit (operation : Attempt Writer Nat) :
    Concurs (Render.emit frame operation) (Render.emit { frame with ip := ip } operation) := by
  refine (attempt operation).bind fun result => ?_
  cases result with
  | ok n => exact pure n
  | error error => exact (report [.ioError error]).bind fun _ => pure 0

/-- The same part of the output is recorded. -/
theorem record (kind : EventKind) (start : Nat) :
    Concurs (Render.record frame kind start) (Render.record { frame with ip := ip } kind start) := by
  refine of_ends fun s s' hs => ⟨(), _, _, rfl, rfl, hs.writer, ?_, hs.messages, hs.aside⟩
  simp only [hs.events, hs.writer]

/-- The position is the same. -/
theorem position : Concurs Render.position Render.position :=
  of_ends fun s s' hs =>
    ⟨_, s, s', outcome_position s, by rw [outcome_position, hs.writer], hs⟩

/-- The same indentation is begun. -/
theorem pushIndentation (indent : String) :
    Concurs (Render.pushIndentation indent) (Render.pushIndentation indent) :=
  of_ends fun _ _ hs => ⟨(), _, _, rfl, rfl, congrArg (Writer.pushIndentation indent) hs.writer,
    hs.events, hs.messages, hs.aside⟩

/-- The same anchor is put. -/
theorem pushAnchor : Concurs Render.pushAnchor Render.pushAnchor :=
  of_ends fun _ _ hs => ⟨(), _, _, rfl, rfl, congrArg Writer.pushAnchor hs.writer, hs.events,
    hs.messages, hs.aside⟩

/-- A frame has as much room for nesting at every instruction. -/
theorem tooDeep (setting : Setting) :
    Concurs (Render.tooDeep setting frame) (Render.tooDeep setting { frame with ip := ip }) := by
  unfold Render.tooDeep
  change Concurs _ (if setting.maxDepth < frame.depth + 1 then _ else _)
  split
  · exact (report _).bind fun _ => pure true
  · exact pure false

/-- The same scalar value is written. -/
theorem writeScalar (setting : Setting) (value : Value) (options : OptionRow String) :
    Concurs (Render.writeScalar setting frame value options)
      (Render.writeScalar setting { frame with ip := ip } value options) :=
  emit _

/-- The same separator is written, or none. -/
theorem separate (options : OptionRow String) (seen : Bool) :
    Concurs (TemplateMachine.separate frame options seen)
      (TemplateMachine.separate { frame with ip := ip } options seen) := by
  unfold TemplateMachine.separate
  split
  · split
    · exact emit _
    · exact pure 0
  · exact pure 0

/-- The same text of its own is rendered. -/
theorem aside {inner inner' : Render Nat} (h : Concurs inner inner') :
    Concurs (Render.aside inner) (Render.aside inner') := by
  intro s s' hs
  obtain ⟨hresult, hstate⟩ := h
    { s with writer := s.writer.fork, events := none, aside := s.aside + 1 }
    { s' with writer := s'.writer.fork, events := none, aside := s'.aside + 1 }
    ⟨congrArg Writer.fork hs.writer, rfl, hs.messages, congrArg (· + 1) hs.aside⟩
  rw [outcome_aside, outcome_aside]
  rcases hends : outcome inner _ with ⟨_ | n, t⟩ <;>
    rcases hends' : outcome inner' _ with ⟨_ | n', t'⟩ <;> rw [hends, hends'] at hresult hstate
  · exact ⟨rfl, hstate⟩
  · cases hresult
  · cases hresult
  · exact ⟨congrArg (fun w => some (Writer.text w)) hstate.writer, hs.writer, hs.events,
      hstate.messages, hs.aside⟩

end Render.Concurs

/-- Two steps that come to the same from states that concur, and to states that concur. -/
def Step.Concurs (action action' : Step α) : Prop :=
  Render.Concurs action.run action'.run

namespace Step.Concurs

variable {action action' : Step α}

/-- A pure step concurs with itself. -/
theorem pure (a : α) : Concurs (pure a) (pure a) :=
  Render.Concurs.pure _

/-- Sequences of steps concur if their parts do. -/
theorem bind (h : Concurs action action') {f f' : α → Step β}
    (hf : ∀ a, Concurs (f a) (f' a)) : Concurs (action >>= f) (action' >>= f') := by
  refine Render.Concurs.bind h fun result => ?_
  cases result with
  | ok a => exact hf a
  | error fault => exact Render.Concurs.pure _

/-- Computations that concur do so as steps. -/
theorem asStep {action action' : Render α} (h : Render.Concurs action action') :
    Concurs action.asStep action'.asStep :=
  h.bind fun _ => Render.Concurs.pure _

/-- A value or a fault concurs with itself. -/
theorem ofExcept (result : Except Fault α) : Concurs (Step.ofExcept result) (Step.ofExcept result) :=
  Render.Concurs.pure _

/-- The same operation is required of the same writer. -/
theorem require (operation : Attempt Writer α) :
    Concurs (Step.require operation) (Step.require operation) := by
  refine (Render.Concurs.attempt operation).bind fun result => ?_
  cases result with
  | ok a => exact Render.Concurs.pure _
  | error error => exact Render.Concurs.pure _

end Step.Concurs

/-- With a certain amount of fuel, whatever the machine is asked to do comes to the same after
whatever was reported, and what it is asked to write or to render comes to the same at every
instruction. -/
structure MachineConcurs (setting : Setting) (fuel : Nat) : Prop where
  exec (frame : Frame) : Render.Concurs (exec setting fuel frame) (exec setting fuel frame)
  run (frame : Frame) (cursor : Cursor) :
    Render.Concurs (run setting fuel frame cursor) (run setting fuel frame cursor)
  step (frame : Frame) (cursor : Cursor) (instr : Instr) :
    Step.Concurs (step setting fuel frame cursor instr) (step setting fuel frame cursor instr)
  writeWith (frame : Frame) (ip : Nat) (value : Value) (options : OptionRow Value) :
    Step.Concurs (writeWith setting fuel frame value options)
      (writeWith setting fuel { frame with ip := ip } value options)
  optionTexts (frame : Frame) (ip : Nat) (options : OptionRow Value) :
    Render.Concurs (optionTexts setting fuel frame options)
      (optionTexts setting fuel { frame with ip := ip } options)
  optionText (frame : Frame) (ip : Nat) (value : Option Value) :
    Render.Concurs (optionText setting fuel frame value)
      (optionText setting fuel { frame with ip := ip } value)
  writeValue (frame : Frame) (ip : Nat) (value : Value) (options : OptionRow String) :
    Render.Concurs (writeValue setting fuel frame value options)
      (writeValue setting fuel { frame with ip := ip } value options)
  writeItems (frame : Frame) (ip : Nat) (items : List Value) (options : OptionRow String)
    (count : Nat) (seen : Bool) :
    Render.Concurs (writeItems setting fuel frame items options count seen)
      (writeItems setting fuel { frame with ip := ip } items options count seen)
  toText (frame : Frame) (ip : Nat) (value : Value) :
    Render.Concurs (toText setting fuel frame value)
      (toText setting fuel { frame with ip := ip } value)
  giveDefaults (frame : Frame) (args : List FormalArg) :
    Render.Concurs (giveDefaults setting fuel frame args) (giveDefaults setting fuel frame args)
  defaultValue (frame : Frame) (default : DefaultValue) :
    Render.Concurs (defaultValue setting fuel frame default)
      (defaultValue setting fuel frame default)

namespace MachineConcurs

variable {setting : Setting} {fuel : Nat}

/-- Without fuel the machine does nothing. -/
theorem zero : MachineConcurs setting 0 := by
  constructor <;> intros <;> exact Render.Concurs.failure

section Succ

variable (ih : MachineConcurs setting fuel)

include ih

/-- Running a template comes to the same. -/
theorem exec_succ (frame : Frame) :
    Render.Concurs (TemplateMachine.exec setting (fuel + 1) frame)
      (TemplateMachine.exec setting (fuel + 1) frame) := by
  rw [TemplateMachine.exec]
  apply Render.Concurs.mark.bind
  intro _
  apply (ih.giveDefaults frame _).bind
  intro given
  apply Render.Concurs.position.bind
  intro start
  apply (ih.run given .start).bind
  intro count
  exact (Render.Concurs.record _ _).bind fun _ => Render.Concurs.pure count

/-- Running a program comes to the same. -/
theorem run_succ (frame : Frame) (cursor : Cursor) :
    Render.Concurs (TemplateMachine.run setting (fuel + 1) frame cursor)
      (TemplateMachine.run setting (fuel + 1) frame cursor) := by
  rw [TemplateMachine.run]
  split
  · exact Render.Concurs.pure _
  · rename_i instr _
    apply Render.Concurs.mark.bind
    intro _
    refine Render.Concurs.bind (ih.step _ cursor instr) fun result => ?_
    cases result with
    | ok moved => exact ih.run frame moved
    | error fault =>
      apply Render.Concurs.mark.bind
      intro _
      exact (Render.Concurs.report _).bind fun _ => Render.Concurs.pure 0

/-- Executing an instruction comes to the same. -/
theorem step_succ (frame : Frame) (cursor : Cursor) (instr : Instr) :
    Step.Concurs (TemplateMachine.step setting (fuel + 1) frame cursor instr)
      (TemplateMachine.step setting (fuel + 1) frame cursor instr) := by
  cases instr with
  | write =>
    rw [TemplateMachine.step]
    apply (Step.Concurs.ofExcept _).bind
    intro top
    apply (Step.Concurs.asStep Render.Concurs.position).bind
    intro start
    apply (Step.Concurs.asStep (ih.writeValue frame frame.ip _ .empty)).bind
    intro n
    exact (Step.Concurs.asStep (Render.Concurs.record _ _)).bind fun _ => Step.Concurs.pure _
  | writeOpt =>
    rw [TemplateMachine.step]
    apply (Step.Concurs.ofExcept _).bind
    intro options
    apply (Step.Concurs.ofExcept _).bind
    intro top
    apply (Step.Concurs.asStep Render.Concurs.position).bind
    intro start
    apply (ih.writeWith frame frame.ip _ _).bind
    intro n
    exact (Step.Concurs.asStep (Render.Concurs.record _ _)).bind fun _ => Step.Concurs.pure _
  | writeStr index =>
    rw [TemplateMachine.step]
    apply (Step.Concurs.ofExcept _).bind
    intro text
    exact (Step.Concurs.asStep (Render.Concurs.emit _)).bind fun _ => Step.Concurs.pure _
  | writeLocal index =>
    rw [TemplateMachine.step]
    apply (Step.Concurs.ofExcept _).bind
    intro value
    exact (Step.Concurs.asStep (ih.writeValue frame frame.ip value .empty)).bind fun _ =>
      Step.Concurs.pure _
  | toStr =>
    rw [TemplateMachine.step]
    apply (Step.Concurs.ofExcept _).bind
    intro top
    dsimp only
    split
    · exact Step.Concurs.pure _
    · exact Step.Concurs.pure _
    · exact (Step.Concurs.asStep (ih.toText frame frame.ip _)).bind fun _ => Step.Concurs.pure _
  | indent index =>
    rw [TemplateMachine.step]
    apply (Step.Concurs.ofExcept _).bind
    intro text
    exact (Step.Concurs.asStep (Render.Concurs.pushIndentation text)).bind fun _ =>
      Step.Concurs.pure _
  | dedent =>
    rw [TemplateMachine.step]
    exact (Step.Concurs.require _).bind fun _ => Step.Concurs.pure _
  | newline =>
    rw [step_newline]
    have hnewline : Render.Concurs
        (if cursor.wantsNewline then Render.emit frame (Writer.write "\n") else pure 0)
        (if cursor.wantsNewline then Render.emit frame (Writer.write "\n") else pure 0) := by
      split
      · exact Render.Concurs.emit _
      · exact Render.Concurs.pure 0
    exact (Step.Concurs.asStep hnewline).bind fun _ => Step.Concurs.pure _
  | br target =>
    rw [TemplateMachine.step]
    exact (Step.Concurs.ofExcept _).bind fun _ => Step.Concurs.pure _
  | brf target =>
    rw [TemplateMachine.step]
    apply (Step.Concurs.ofExcept _).bind
    intro target
    exact (Step.Concurs.ofExcept _).bind fun _ => Step.Concurs.pure _
  | _ =>
    rw [step_of_isOperation rfl]
    apply (Step.Concurs.ofExcept _).bind
    intro result
    exact (Step.Concurs.asStep (Render.Concurs.report _)).bind fun _ => Step.Concurs.pure _

/-- Writing with options comes to the same. -/
theorem writeWith_succ (frame : Frame) (ip : Nat) (value : Value) (options : OptionRow Value) :
    Step.Concurs (TemplateMachine.writeWith setting (fuel + 1) frame value options)
      (TemplateMachine.writeWith setting (fuel + 1) { frame with ip := ip } value options) := by
  rw [TemplateMachine.writeWith, TemplateMachine.writeWith]
  apply (Step.Concurs.asStep (ih.optionTexts frame ip options)).bind
  intro texts
  have hwrite := Step.Concurs.asStep (ih.writeValue frame ip value texts)
  split
  · apply (Step.Concurs.asStep Render.Concurs.pushAnchor).bind
    intro _
    apply hwrite.bind
    intro n
    exact (Step.Concurs.require _).bind fun _ => Step.Concurs.pure n
  · exact hwrite

/-- Rendering options to texts comes to the same. -/
theorem optionTexts_succ (frame : Frame) (ip : Nat) (options : OptionRow Value) :
    Render.Concurs (TemplateMachine.optionTexts setting (fuel + 1) frame options)
      (TemplateMachine.optionTexts setting (fuel + 1) { frame with ip := ip } options) := by
  rw [TemplateMachine.optionTexts, TemplateMachine.optionTexts]
  apply (ih.optionText frame ip _).bind
  intro anchor
  apply (ih.optionText frame ip _).bind
  intro format
  apply (ih.optionText frame ip _).bind
  intro null
  apply (ih.optionText frame ip _).bind
  intro separator
  exact (ih.optionText frame ip _).bind fun wrap => Render.Concurs.pure _

/-- Rendering an option to text comes to the same. -/
theorem optionText_succ (frame : Frame) (ip : Nat) (value : Option Value) :
    Render.Concurs (TemplateMachine.optionText setting (fuel + 1) frame value)
      (TemplateMachine.optionText setting (fuel + 1) { frame with ip := ip } value) := by
  cases value with
  | none => exact Render.Concurs.pure _
  | some value =>
    rw [TemplateMachine.optionText, TemplateMachine.optionText]
    exact (ih.toText frame ip value).bind fun text => Render.Concurs.pure _

/-- Writing a value comes to the same. The frame of a template that is invoked does not know by which
instruction. -/
theorem writeValue_succ (frame : Frame) (ip : Nat) (value : Value) (options : OptionRow String) :
    Render.Concurs (TemplateMachine.writeValue setting (fuel + 1) frame value options)
      (TemplateMachine.writeValue setting (fuel + 1) { frame with ip := ip } value options) := by
  have hstandIn : { frame with ip := ip }.standIn setting value = frame.standIn setting value := rfl
  rw [TemplateMachine.writeValue, TemplateMachine.writeValue, hstandIn]
  split
  · split
    · exact Render.Concurs.writeScalar setting _ options
    · exact Render.Concurs.pure 0
  split
  · rename_i inst _
    apply (Render.Concurs.tooDeep setting).bind
    intro deep
    split
    · exact Render.Concurs.pure 0
    · apply (Render.Concurs.emit _).bind
      intro n
      exact (ih.exec (frame.child inst)).bind fun m => Render.Concurs.pure _
  · exact ih.writeItems frame ip _ options 0 false
  · exact ih.writeItems frame ip _ options 0 false
  · exact Render.Concurs.writeScalar setting _ options

/-- Writing the elements of a collection comes to the same. -/
theorem writeItems_succ (frame : Frame) (ip : Nat) (items : List Value)
    (options : OptionRow String) (count : Nat) (seen : Bool) :
    Render.Concurs
      (TemplateMachine.writeItems setting (fuel + 1) frame items options count seen)
      (TemplateMachine.writeItems setting (fuel + 1) { frame with ip := ip } items options count
        seen) := by
  cases items with
  | nil => exact Render.Concurs.pure count
  | cons item rest =>
    rw [writeItems_cons, writeItems_cons]
    split
    · exact ih.writeItems frame ip rest options count seen
    · apply (Render.Concurs.separate options seen).bind
      intro n
      apply (ih.writeValue frame ip _ options).bind
      intro m
      exact ih.writeItems frame ip rest options _ _

/-- Rendering a value to text comes to the same. -/
theorem toText_succ (frame : Frame) (ip : Nat) (value : Value) :
    Render.Concurs (TemplateMachine.toText setting (fuel + 1) frame value)
      (TemplateMachine.toText setting (fuel + 1) { frame with ip := ip } value) :=
  (ih.writeValue frame ip value .empty).aside

/-- Giving arguments their defaults comes to the same. -/
theorem giveDefaults_succ (frame : Frame) (args : List FormalArg) :
    Render.Concurs (TemplateMachine.giveDefaults setting (fuel + 1) frame args)
      (TemplateMachine.giveDefaults setting (fuel + 1) frame args) := by
  cases args with
  | nil => exact Render.Concurs.pure frame
  | cons arg rest =>
    rw [TemplateMachine.giveDefaults]
    split
    · exact (ih.defaultValue frame _).bind fun value => ih.giveDefaults _ rest
    · exact ih.giveDefaults frame rest

/-- Finding the value of a default comes to the same. -/
theorem defaultValue_succ (frame : Frame) (default : DefaultValue) :
    Render.Concurs (TemplateMachine.defaultValue setting (fuel + 1) frame default)
      (TemplateMachine.defaultValue setting (fuel + 1) frame default) := by
  cases default with
  | literal value => exact Render.Concurs.pure value
  | template template eager =>
    rw [TemplateMachine.defaultValue]
    split
    · apply (Render.Concurs.tooDeep setting).bind
      intro deep
      split
      · exact Render.Concurs.pure _
      · exact (ih.exec _).aside.bind fun text => Render.Concurs.pure _
    · exact Render.Concurs.pure _

end Succ

/-- Whatever the machine is asked to do comes to the same after whatever was reported. -/
theorem all (setting : Setting) (fuel : Nat) : MachineConcurs setting fuel := by
  induction fuel with
  | zero => exact zero
  | succ fuel ih =>
    exact {
      exec := exec_succ ih
      run := run_succ ih
      step := step_succ ih
      writeWith := writeWith_succ ih
      optionTexts := optionTexts_succ ih
      optionText := optionText_succ ih
      writeValue := writeValue_succ ih
      writeItems := writeItems_succ ih
      toText := toText_succ ih
      giveDefaults := giveDefaults_succ ih
      defaultValue := defaultValue_succ ih }

end MachineConcurs

end TemplateMachine
