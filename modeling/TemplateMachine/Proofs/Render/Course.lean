import TemplateMachine.Proofs.Render.Computation

/-!
# The course of a render

A relation between the states before and after some work in a frame. If it is kept by every single
thing that the machine does, from a report to the invocation of another template, then it relates the
states before and after whatever the machine is asked to do. The induction over the parts of the
machine is done here once, for all such relations.

Work that is out of fuel stops in the middle, with the writer of whatever text is being rendered
then. A relation says separately what holds of it.

A relation of this kind does not see the values that are handed on, only what becomes of the state.
-/

namespace TemplateMachine

variable {α β : Type}

/-- The frame with other values in the slots of the running instance. -/
def Frame.withLocals (frame : Frame) (locals : List (Option Value)) : Frame :=
  { frame with running := { frame.running with locals := locals } }

/-- A frame has the values that it has. -/
@[simp] theorem Frame.withLocals_locals (frame : Frame) :
    frame.withLocals frame.running.locals = frame := by
  obtain ⟨⟨template, locals, group⟩, callers, depth, ip, depth_eq⟩ := frame
  rfl

/-- What the machine does to a writer in one go, whether it succeeds or not. -/
inductive Writer.Moves : Writer → Writer → Prop where
  | write (text : String) (w : Writer) : Writer.Moves w (Attempt.outcome (Writer.write text) w).2
  | writeWrap (wrap : Option String) (w : Writer) :
    Writer.Moves w (Attempt.outcome (Writer.writeWrap wrap) w).2
  | pushIndentation (indent : String) (w : Writer) : Writer.Moves w (w.pushIndentation indent)
  | popIndentation (w : Writer) : Writer.Moves w (Attempt.outcome Writer.popIndentation w).2
  | pushAnchor (w : Writer) : Writer.Moves w w.pushAnchor
  | popAnchor (w : Writer) : Writer.Moves w (Attempt.outcome Writer.popAnchor w).2

namespace RenderState

/-- The state after a mark of a deed in a frame. -/
def marked (s : RenderState) (frame : Frame) (deed : Deed) : RenderState :=
  { s with trail := ⟨s.aside, frame, deed⟩ :: s.trail }

/-- The state after a part of the output is recorded that starts at a position and ends here. -/
def recorded (s : RenderState) (frame : Frame) (kind : EventKind) (start : Nat) : RenderState :=
  { s with
    events := s.events.map fun events =>
      ⟨kind, frame.running.name, start, s.writer.index⟩ :: events }

/-- The state in which a text of its own is begun. -/
def forked (s : RenderState) : RenderState :=
  { s with writer := s.writer.fork, events := none, aside := s.aside + 1 }

/-- The state in which a text of its own that was begun in another state comes to its end. -/
def rejoined (s t : RenderState) : RenderState :=
  { t with writer := s.writer, events := s.events, aside := s.aside }

end RenderState

/-- What is rendered to a text of its own is begun in a state of its own, which is left behind. -/
theorem Render.outcome_aside_forked (inner : Render Nat) (s : RenderState) :
    outcome (aside inner) s =
      match outcome inner s.forked with
      | (some _, t) => (some t.writer.text, s.rejoined t)
      | (none, t) => (none, t) :=
  outcome_aside inner s

/-- A relation between the states before and after work in a frame, which has ended or is out of
fuel, that is kept by every single thing that the machine does. -/
structure Course (setting : Setting) (R : Bool → Frame → RenderState → RenderState → Prop) :
    Prop where
  refl (ended : Bool) (frame : Frame) (s : RenderState) : R ended frame s s
  trans {ended : Bool} {frame : Frame} {s t u : RenderState} (first : R true frame s t)
    (second : R ended frame t u) : R ended frame s u
  report (frame : Frame) (problems : List Problem) (s : RenderState) :
    R true frame s { s with messages := (problems.map frame.message).reverse ++ s.messages }
  moves (frame : Frame) {s : RenderState} {w : Writer} (moves : s.writer.Moves w) :
    R true frame s { s with writer := w }
  recorded {frame : Frame} {s t : RenderState} (kind : EventKind) (during : R true frame s t) :
    R true frame s (t.recorded frame kind s.writer.index)
  aside {frame : Frame} {s t : RenderState} (inner : R true frame s.forked t) :
    R true frame s (s.rejoined t)
  asideStopped {frame : Frame} {s t : RenderState} (inner : R false frame s.forked t) :
    R false frame s t
  reached {ended : Bool} {frame : Frame} {cursor : Cursor} {instr : Instr} {s t : RenderState}
    (here : frame.template.program[cursor.ip]? = some instr)
    (after : R ended { frame with ip := cursor.ip }
      (s.marked { frame with ip := cursor.ip } (.reached cursor instr)) t) : R ended frame s t
  abandoned (frame : Frame) (cursor : Cursor) (fault : Fault) (s : RenderState) :
    R true frame s (s.marked frame (.abandoned cursor fault))
  invoked {ended : Bool} {frame : Frame} {inst : Instance} {s t : RenderState}
    (room : frame.depth < setting.maxDepth)
    (after : R ended (frame.child inst) (s.marked (frame.child inst) .begun) t) : R ended frame s t
  withLocals {ended : Bool} {frame : Frame} {s t : RenderState} (locals : List (Option Value))
    (h : R ended (frame.withLocals locals) s t) : R ended frame s t

/-- An operation on the writer after which the states are related. -/
def Course.Admits (R : Bool → Frame → RenderState → RenderState → Prop) (frame : Frame)
    (operation : Attempt Writer α) : Prop :=
  ∀ s, R true frame s { s with writer := (operation.outcome s.writer).2 }

/-- A sequence of operations is admitted if its parts are. -/
theorem Course.Admits.bind {setting : Setting}
    {R : Bool → Frame → RenderState → RenderState → Prop} {frame : Frame}
    {operation : Attempt Writer α} {f : α → Attempt Writer β} (h : Course.Admits R frame operation)
    (course : Course setting R) (hf : ∀ a, Course.Admits R frame (f a)) :
    Course.Admits R frame (operation >>= f) := by
  intro s
  have hfirst := h s
  rw [Attempt.outcome_bind]
  rcases hends : operation.outcome s.writer with ⟨error | a, w⟩ <;> rw [hends] at hfirst
  · exact hfirst
  · exact course.trans hfirst (hf a { s with writer := w })

/-- A computation in a frame after which the states are related, and whose result has a property. -/
def Render.Takes (R : Bool → Frame → RenderState → RenderState → Prop) (frame : Frame)
    (action : Render α) (P : α → Prop) : Prop :=
  ∀ s, Render.Spec action s (fun a t => R true frame s t ∧ P a) (R false frame s)

namespace Render.Takes

variable {setting : Setting} {R : Bool → Frame → RenderState → RenderState → Prop}
  (course : Course setting R) {frame : Frame} {action : Render α} {P : α → Prop} {Q : β → Prop}

include course

/-- A pure computation changes nothing. -/
theorem pure {a : α} (h : P a) : Render.Takes R frame (pure a) P :=
  fun s => ⟨course.refl true frame s, h⟩

/-- Being out of fuel changes nothing. -/
theorem failure : Render.Takes R frame (failure : Render α) P :=
  fun s => course.refl false frame s

/-- The states before and after a sequence are related if those before and after its parts are. -/
theorem bind (h : Render.Takes R frame action P) {f : α → Render β}
    (hf : ∀ a, P a → Render.Takes R frame (f a) Q) : Render.Takes R frame (action >>= f) Q := by
  intro s
  refine Render.Spec.bind (P := fun a t => R true frame s t ∧ P a) (h s) fun a t ha => ?_
  exact (hf a ha.2 t).mono (fun _ _ hb => ⟨course.trans ha.1 hb.1, hb.2⟩)
    fun _ hstop => course.trans ha.1 hstop

omit course in
/-- A computation that ends in a related state. -/
theorem of_ends (h : ∀ s, ∃ a t, Render.outcome action s = (some a, t) ∧ R true frame s t ∧ P a) :
    Render.Takes R frame action P := by
  intro s
  obtain ⟨a, t, hends, hrelated⟩ := h s
  exact Render.spec_of_eq hends hrelated

/-- Reporting is a thing that the machine does. -/
theorem report {problems : List Problem} :
    Render.Takes R frame (Render.report frame problems) fun _ => True :=
  of_ends fun s => ⟨_, _, outcome_report frame problems s, course.report frame problems s, trivial⟩

/-- Beginning an indentation is a thing that the machine does. -/
theorem pushIndentation {indent : String} :
    Render.Takes R frame (Render.pushIndentation indent) fun _ => True :=
  of_ends fun s => ⟨_, _, outcome_pushIndentation indent s,
    course.moves frame (.pushIndentation indent s.writer), trivial⟩

/-- Putting an anchor is a thing that the machine does. -/
theorem pushAnchor : Render.Takes R frame Render.pushAnchor fun _ => True :=
  of_ends fun s => ⟨_, _, outcome_pushAnchor s, course.moves frame (.pushAnchor s.writer), trivial⟩

omit course in
/-- Trying an operation that is admitted is a thing that the machine does. -/
theorem attempt {operation : Attempt Writer α} (admitted : Course.Admits R frame operation) :
    Render.Takes R frame (Render.attempt operation) fun _ => True :=
  of_ends fun s => ⟨_, _, outcome_attempt operation s, admitted s, trivial⟩

/-- Writing is trying, and reporting if that fails. -/
theorem emit {operation : Attempt Writer Nat} (admitted : Course.Admits R frame operation) :
    Render.Takes R frame (Render.emit frame operation) fun _ => True := by
  apply (attempt admitted).bind course
  intro result _
  cases result with
  | ok n => exact pure course trivial
  | error error => exact (report course).bind course fun _ _ => pure course trivial

/-- Writing a text is a thing that the machine does. -/
theorem write {text : String} :
    Render.Takes R frame (Render.emit frame (Writer.write text)) fun _ => True :=
  emit course fun s => course.moves frame (.write text s.writer)

/-- Writing a separator, or none, is a thing that the machine does. -/
theorem separate {options : OptionRow String} {seen : Bool} :
    Render.Takes R frame (TemplateMachine.separate frame options seen) fun _ => True := by
  unfold TemplateMachine.separate
  split
  · split
    · exact write course
    · exact pure course trivial
  · exact pure course trivial

/-- Wrapping a line is a thing that the machine does. -/
theorem writeWrap {wrap : Option String} :
    Render.Takes R frame (Render.emit frame (Writer.writeWrap wrap)) fun _ => True :=
  emit course fun s => course.moves frame (.writeWrap wrap s.writer)

/-- Writing a scalar value is wrapping the line and writing a text unless that fails. -/
theorem writeScalar {value : Value} {options : OptionRow String} :
    Render.Takes R frame (Render.writeScalar setting frame value options) fun _ => True := by
  have hwrap : Course.Admits R frame (Writer.writeWrap options.wrap) :=
    fun s => course.moves frame (.writeWrap options.wrap s.writer)
  have hwrite (text : String) : Course.Admits R frame (Writer.write text) :=
    fun s => course.moves frame (.write text s.writer)
  refine emit course (hwrap.bind course fun n => (hwrite _).bind course fun m => ?_)
  exact fun s => course.refl true frame s

/-- Looking out for nesting that is too deep lets through what has room. -/
theorem tooDeep : Render.Takes R frame (Render.tooDeep setting frame) fun deep =>
    deep = false → frame.depth < setting.maxDepth := by
  unfold Render.tooDeep
  split
  · exact (report course).bind course fun _ _ => pure course (by simp)
  · rename_i shallow
    exact pure course fun _ => by omega

/-- Rendering to a text of its own is a thing that the machine does if what is rendered is one. -/
theorem aside {inner : Render Nat}
    (h : ∀ s, Render.Spec inner s (fun _ t => R true frame s t) (R false frame s)) :
    Render.Takes R frame (Render.aside inner) fun _ => True := by
  intro s
  have hinner : Render.Spec inner
      { s with writer := s.writer.fork, events := none, aside := s.aside + 1 } _ _ := h s.forked
  unfold Render.Spec at hinner ⊢
  rw [outcome_aside]
  rcases hends : outcome inner _ with ⟨_ | n, t⟩ <;> rw [hends] at hinner
  · exact course.asideStopped hinner
  · exact ⟨course.aside hinner, trivial⟩

/-- Running the template of an invoked frame is a thing that the machine does if there is room. -/
theorem invoked {inst : Instance} {action : Render Nat} (room : frame.depth < setting.maxDepth)
    (h : ∀ s, Render.Spec action s
      (fun _ t => R true (frame.child inst) (s.marked (frame.child inst) .begun) t)
      fun t => t = s ∨ R false (frame.child inst) (s.marked (frame.child inst) .begun) t) :
    Render.Takes R frame action fun _ => True := by
  intro s
  refine (h s).mono (fun _ t ht => ⟨course.invoked room ht, trivial⟩) fun t ht => ?_
  rcases ht with rfl | ht
  · exact course.refl false frame t
  · exact course.invoked room ht

/-- Recording what a computation wrote is a thing that the machine does. -/
theorem recorded (h : Render.Takes R frame action P) (kind : EventKind) :
    Render.Takes R frame (do
      let start ← Render.position
      let a ← action
      Render.record frame kind start
      Pure.pure a) P := by
  intro s
  refine Render.Spec.bind (P := fun start t => start = s.writer.index ∧ t = s)
    (Render.spec_of_eq (outcome_position s) ⟨rfl, rfl⟩) fun start t hstart => ?_
  obtain ⟨rfl, rfl⟩ := hstart
  refine Render.Spec.bind (P := fun a u => R true frame t u ∧ P a) (h t) fun a u ha => ?_
  exact ⟨course.recorded kind ha.1, ha.2⟩

end Render.Takes

/-- A step in a frame after which the states are related, whether it faults or not. -/
def Step.Takes (R : Bool → Frame → RenderState → RenderState → Prop) (frame : Frame)
    (action : Step α) : Prop :=
  Render.Takes R frame action.run fun _ => True

namespace Step.Takes

variable {setting : Setting} {R : Bool → Frame → RenderState → RenderState → Prop}
  (course : Course setting R) {frame : Frame} {action : Step α}

include course

/-- A pure step changes nothing. -/
theorem pure (a : α) : Step.Takes R frame (pure a : Step α) :=
  Render.Takes.pure course trivial

/-- The states before and after a sequence of steps are related if those of its parts are. -/
theorem bind (h : Step.Takes R frame action) {f : α → Step β}
    (hf : ∀ a, Step.Takes R frame (f a)) : Step.Takes R frame (action >>= f) := by
  refine Render.Takes.bind course h fun result _ => ?_
  cases result with
  | ok a => exact hf a
  | error fault => exact Render.Takes.pure course trivial

/-- A render without a fault does the same as a step. -/
theorem asStep {P : α → Prop} {action : Render α} (h : Render.Takes R frame action P) :
    Step.Takes R frame action.asStep :=
  h.bind course fun _ _ => Render.Takes.pure course trivial

/-- A value or a fault changes nothing. -/
theorem ofExcept {result : Except Fault α} : Step.Takes R frame (Step.ofExcept result) :=
  Render.Takes.pure course trivial

/-- Requiring an operation that is admitted is a thing that the machine does. -/
theorem require {operation : Attempt Writer α} (admitted : Course.Admits R frame operation) :
    Step.Takes R frame (Step.require operation) := by
  refine Render.Takes.bind course (Render.Takes.attempt admitted) fun result _ => ?_
  cases result with
  | ok a => exact Render.Takes.pure course trivial
  | error error => exact Render.Takes.pure course trivial

/-- Recording what a step wrote is a thing that the machine does. A step that faults is not
recorded. -/
theorem recorded (h : Step.Takes R frame action) (kind : EventKind) {f : α → Step β}
    (hf : ∀ a, Step.Takes R frame (f a)) :
    Step.Takes R frame (do
      let start ← Render.position.asStep
      let a ← action
      (Render.record frame kind start).asStep
      f a) := by
  intro s
  have hposition : Render.outcome Render.position.asStep.run s =
      (some (.ok s.writer.index), s) := rfl
  have hrecord (t : RenderState) :
      Render.outcome (Render.record frame kind s.writer.index).asStep.run t =
        (some (.ok ()), t.recorded frame kind s.writer.index) := rfl
  have hfirst := h s
  unfold Render.Spec at hfirst ⊢
  rw [Step.outcome_run_bind, hposition]
  dsimp only
  rw [Step.outcome_run_bind]
  rcases hends : Render.outcome action.run s with ⟨_ | fault | a, t⟩ <;> rw [hends] at hfirst
  · exact hfirst
  · exact hfirst
  · dsimp only
    rw [Step.outcome_run_bind, hrecord]
    have hduring : R true frame s (t.recorded frame kind s.writer.index) :=
      course.recorded kind hfirst.1
    exact (hf a _).mono (fun _ _ hb => ⟨course.trans hduring hb.1, trivial⟩)
      fun _ hstop => course.trans hduring hstop

end Step.Takes

/-- With a certain amount of fuel, all that the machine can be asked to do relates the states before
and after it. The states of a template are related from its beginning on. -/
structure MachineTakes (R : Bool → Frame → RenderState → RenderState → Prop) (setting : Setting)
    (fuel : Nat) : Prop where
  exec (frame : Frame) (s : RenderState) :
    Render.Spec (exec setting fuel frame) s (fun _ t => R true frame (s.marked frame .begun) t)
      fun t => t = s ∨ R false frame (s.marked frame .begun) t
  run (frame : Frame) (cursor : Cursor) :
    Render.Takes R frame (run setting fuel frame cursor) fun _ => True
  step (frame : Frame) (cursor : Cursor) (instr : Instr) :
    Step.Takes R frame (step setting fuel frame cursor instr)
  writeWith (frame : Frame) (value : Value) (options : OptionRow Value) :
    Step.Takes R frame (writeWith setting fuel frame value options)
  optionTexts (frame : Frame) (options : OptionRow Value) :
    Render.Takes R frame (optionTexts setting fuel frame options) fun _ => True
  optionText (frame : Frame) (value : Option Value) :
    Render.Takes R frame (optionText setting fuel frame value) fun _ => True
  writeValue (frame : Frame) (value : Value) (options : OptionRow String) :
    Render.Takes R frame (writeValue setting fuel frame value options) fun _ => True
  writeItems (frame : Frame) (items : List Value) (options : OptionRow String) (count : Nat)
    (seen : Bool) :
    Render.Takes R frame (writeItems setting fuel frame items options count seen) fun _ => True
  toText (frame : Frame) (value : Value) :
    Render.Takes R frame (toText setting fuel frame value) fun _ => True
  giveDefaults (frame : Frame) (args : List FormalArg) :
    Render.Takes R frame (giveDefaults setting fuel frame args) fun given =>
      ∃ locals, given = frame.withLocals locals
  defaultValue (frame : Frame) (default : DefaultValue) :
    Render.Takes R frame (defaultValue setting fuel frame default) fun _ => True

namespace MachineTakes

variable {setting : Setting} {R : Bool → Frame → RenderState → RenderState → Prop}
  (course : Course setting R) {fuel : Nat}

include course

/-- Without fuel the machine does nothing. -/
theorem zero : MachineTakes R setting 0 where
  exec _ _ := Or.inl rfl
  run _ _ := Render.Takes.failure course
  step _ _ _ := Render.Takes.failure course
  writeWith _ _ _ := Render.Takes.failure course
  optionTexts _ _ := Render.Takes.failure course
  optionText _ _ := Render.Takes.failure course
  writeValue _ _ _ := Render.Takes.failure course
  writeItems _ _ _ _ _ := Render.Takes.failure course
  toText _ _ := Render.Takes.failure course
  giveDefaults _ _ := Render.Takes.failure course
  defaultValue _ _ := Render.Takes.failure course

variable (ih : MachineTakes R setting fuel)

include ih

/-- A frame with the defaults given is the same invocation. -/
theorem giveDefaults_succ (frame : Frame) (args : List FormalArg) :
    Render.Takes R frame (TemplateMachine.giveDefaults setting (fuel + 1) frame args) fun given =>
      ∃ locals, given = frame.withLocals locals := by
  cases args with
  | nil => exact Render.Takes.pure course ⟨frame.running.locals, by simp⟩
  | cons arg rest =>
    rw [TemplateMachine.giveDefaults]
    split
    · refine (ih.defaultValue frame _).bind course fun value _ s => ?_
      refine (ih.giveDefaults _ rest s).mono (fun given t h => ?_) fun t => course.withLocals _
      exact ⟨course.withLocals _ h.1, h.2⟩
    · exact ih.giveDefaults frame rest

/-- A template begins, is given its defaults, runs, and is recorded. -/
theorem exec_succ (frame : Frame) (s : RenderState) :
    Render.Spec (TemplateMachine.exec setting (fuel + 1) frame) s
      (fun _ t => R true frame (s.marked frame .begun) t)
      fun t => t = s ∨ R false frame (s.marked frame .begun) t := by
  rw [TemplateMachine.exec]
  refine Render.Spec.bind (P := fun _ t => t = s.marked frame .begun)
    (Render.spec_of_eq (Render.outcome_mark frame .begun s) rfl) fun _ begun hbegun => ?_
  subst hbegun
  have hrest : Render.Takes R frame (do
      let frame ← TemplateMachine.giveDefaults setting fuel frame frame.template.args
      let start ← Render.position
      let count ← TemplateMachine.run setting fuel frame .start
      Render.record frame .template start
      pure count) fun _ => True := by
    refine (ih.giveDefaults frame frame.template.args).bind course fun given hgiven t => ?_
    obtain ⟨locals, rfl⟩ := hgiven
    refine ((ih.run (frame.withLocals locals) .start).recorded course .template t).mono
      (fun _ u h => ?_) fun u => course.withLocals locals
    exact ⟨course.withLocals locals h.1, trivial⟩
  exact (hrest _).mono (fun _ t h => h.1) fun t => Or.inr

/-- A program goes from instruction to instruction. -/
theorem run_succ (frame : Frame) (cursor : Cursor) :
    Render.Takes R frame (TemplateMachine.run setting (fuel + 1) frame cursor) fun _ => True := by
  rw [TemplateMachine.run]
  split
  · exact Render.Takes.pure course trivial
  rename_i instr hinstr
  intro s
  let here : Frame := { frame with ip := cursor.ip }
  refine Render.Spec.bind (P := fun _ t => t = s.marked here (.reached cursor instr))
    (Render.spec_of_eq (Render.outcome_mark here _ s) rfl) fun _ t ht => ?_
  subst ht
  have hstep := ih.step here cursor instr (s.marked here (.reached cursor instr))
  refine Render.Spec.bind (P := fun result t =>
      R true here (s.marked here (.reached cursor instr)) t)
    (hstep.mono (fun _ t h => h.1) fun t => course.reached hinstr) fun result t ht => ?_
  cases result with
  | ok moved =>
    exact (ih.run frame moved t).mono
      (fun _ u h => ⟨course.trans (course.reached hinstr ht) h.1, trivial⟩)
      fun u => course.trans (course.reached hinstr ht)
  | error fault =>
    refine Render.spec_of_eq (t := { t.marked here (.abandoned cursor fault) with
      messages := ([.internalError fault].map here.message).reverse ++ t.messages }) rfl ?_
    have hreport := course.report here [.internalError fault]
      (t.marked here (.abandoned cursor fault))
    exact ⟨course.reached hinstr (course.trans (course.trans ht
      (course.abandoned here cursor fault t)) hreport), trivial⟩

/-- An instruction does its operation, writes, or changes the layout of the writer. -/
theorem step_succ (frame : Frame) (cursor : Cursor) (instr : Instr) :
    Step.Takes R frame (TemplateMachine.step setting (fuel + 1) frame cursor instr) := by
  cases instr with
  | write =>
    rw [TemplateMachine.step]
    refine Step.Takes.ofExcept course |>.bind course fun top => ?_
    exact (Step.Takes.asStep course (ih.writeValue frame top.1 .empty)).recorded course .expr
      fun n => Step.Takes.pure course _
  | writeOpt =>
    rw [TemplateMachine.step]
    refine Step.Takes.ofExcept course |>.bind course fun options => ?_
    refine Step.Takes.ofExcept course |>.bind course fun top => ?_
    exact (ih.writeWith frame top.1 options.1).recorded course .expr
      fun n => Step.Takes.pure course _
  | writeStr index =>
    rw [TemplateMachine.step]
    refine Step.Takes.ofExcept course |>.bind course fun text => ?_
    refine (Step.Takes.asStep course (Render.Takes.write course)).bind course fun n => ?_
    exact Step.Takes.pure course _
  | writeLocal index =>
    rw [TemplateMachine.step]
    refine Step.Takes.ofExcept course |>.bind course fun value => ?_
    refine (Step.Takes.asStep course (ih.writeValue frame value .empty)).bind course fun n => ?_
    exact Step.Takes.pure course _
  | toStr =>
    rw [TemplateMachine.step]
    refine Step.Takes.ofExcept course |>.bind course fun top => ?_
    dsimp only
    split
    · exact Step.Takes.pure course _
    · exact Step.Takes.pure course _
    · refine (Step.Takes.asStep course (ih.toText frame _)).bind course fun text => ?_
      exact Step.Takes.pure course _
  | indent index =>
    rw [TemplateMachine.step]
    refine Step.Takes.ofExcept course |>.bind course fun text => ?_
    refine (Step.Takes.asStep course (Render.Takes.pushIndentation course)).bind course fun _ => ?_
    exact Step.Takes.pure course _
  | dedent =>
    rw [TemplateMachine.step]
    refine (Step.Takes.require course fun s => ?_).bind course fun _ => Step.Takes.pure course _
    exact course.moves frame (.popIndentation s.writer)
  | newline =>
    rw [TemplateMachine.step]
    split
    · refine (Step.Takes.asStep course (Render.Takes.write course)).bind course fun n => ?_
      exact Step.Takes.pure course _
    · exact Step.Takes.pure course _
  | br target =>
    rw [TemplateMachine.step]
    exact Step.Takes.ofExcept course |>.bind course fun target => Step.Takes.pure course _
  | brf target =>
    rw [TemplateMachine.step]
    refine Step.Takes.ofExcept course |>.bind course fun target => ?_
    exact Step.Takes.ofExcept course |>.bind course fun top => Step.Takes.pure course _
  | _ =>
    rw [step_of_isOperation rfl]
    refine Step.Takes.ofExcept course |>.bind course fun result => ?_
    refine (Step.Takes.asStep course (Render.Takes.report course)).bind course fun _ => ?_
    exact Step.Takes.pure course _

/-- Writing with options renders them first and puts an anchor around what is written. -/
theorem writeWith_succ (frame : Frame) (value : Value) (options : OptionRow Value) :
    Step.Takes R frame (TemplateMachine.writeWith setting (fuel + 1) frame value options) := by
  rw [TemplateMachine.writeWith]
  refine (Step.Takes.asStep course (ih.optionTexts frame options)).bind course fun texts => ?_
  have hwrite := Step.Takes.asStep course (ih.writeValue frame value texts)
  split
  · refine (Step.Takes.asStep course (Render.Takes.pushAnchor course)).bind course fun _ => ?_
    refine hwrite.bind course fun n => ?_
    refine (Step.Takes.require course fun s => ?_).bind course fun _ => Step.Takes.pure course n
    exact course.moves frame (.popAnchor s.writer)
  · exact hwrite

/-- The options are rendered one after the other. -/
theorem optionTexts_succ (frame : Frame) (options : OptionRow Value) :
    Render.Takes R frame (TemplateMachine.optionTexts setting (fuel + 1) frame options)
      fun _ => True := by
  rw [TemplateMachine.optionTexts]
  refine (ih.optionText frame _).bind course fun anchor _ => ?_
  refine (ih.optionText frame _).bind course fun format _ => ?_
  refine (ih.optionText frame _).bind course fun null _ => ?_
  refine (ih.optionText frame _).bind course fun separator _ => ?_
  exact (ih.optionText frame _).bind course fun wrap _ => Render.Takes.pure course trivial

/-- An option is rendered if it is there. -/
theorem optionText_succ (frame : Frame) (value : Option Value) :
    Render.Takes R frame (TemplateMachine.optionText setting (fuel + 1) frame value)
      fun _ => True := by
  cases value with
  | none => exact Render.Takes.pure course trivial
  | some value =>
    rw [TemplateMachine.optionText]
    exact (ih.toText frame value).bind course fun text _ => Render.Takes.pure course trivial

/-- A template is invoked if there is room, and all else is written. -/
theorem writeValue_succ (frame : Frame) (value : Value) (options : OptionRow String) :
    Render.Takes R frame (TemplateMachine.writeValue setting (fuel + 1) frame value options)
      fun _ => True := by
  rw [TemplateMachine.writeValue]
  split
  · split
    · exact Render.Takes.writeScalar course
    · exact Render.Takes.pure course trivial
  split
  · rename_i inst _
    refine (Render.Takes.tooDeep course).bind course fun deep hroom => ?_
    split
    · exact Render.Takes.pure course trivial
    rename_i shallow
    have hroom : frame.depth < setting.maxDepth := hroom (by simpa using shallow)
    refine (Render.Takes.writeWrap course).bind course fun n _ => ?_
    exact (Render.Takes.invoked course hroom (ih.exec (frame.child inst))).bind course
      fun m _ => Render.Takes.pure course trivial
  · exact ih.writeItems frame _ options 0 false
  · exact ih.writeItems frame _ options 0 false
  · exact Render.Takes.writeScalar course

/-- The elements are written one after the other, with separators between them. -/
theorem writeItems_succ (frame : Frame) (items : List Value) (options : OptionRow String)
    (count : Nat) (seen : Bool) :
    Render.Takes R frame
      (TemplateMachine.writeItems setting (fuel + 1) frame items options count seen)
      fun _ => True := by
  cases items with
  | nil => exact Render.Takes.pure course trivial
  | cons item rest =>
    rw [writeItems_cons]
    split
    · exact ih.writeItems frame rest options count seen
    · apply (Render.Takes.separate course).bind course
      intro n _
      apply (ih.writeValue frame _ options).bind course
      intro m _
      exact ih.writeItems frame rest options _ _

/-- A value is rendered to a text of its own. -/
theorem toText_succ (frame : Frame) (value : Value) :
    Render.Takes R frame (TemplateMachine.toText setting (fuel + 1) frame value) fun _ => True :=
  Render.Takes.aside course fun s =>
    (ih.writeValue frame value .empty s).mono (fun _ _ h => h.1) fun _ => id

/-- An eager default is rendered to a text of its own if there is room. -/
theorem defaultValue_succ (frame : Frame) (default : DefaultValue) :
    Render.Takes R frame (TemplateMachine.defaultValue setting (fuel + 1) frame default)
      fun _ => True := by
  cases default with
  | literal value => exact Render.Takes.pure course trivial
  | template template eager =>
    rw [TemplateMachine.defaultValue]
    split
    · refine (Render.Takes.tooDeep course).bind course fun deep hroom => ?_
      split
      · exact Render.Takes.pure course trivial
      rename_i shallow
      have hroom : frame.depth < setting.maxDepth := hroom (by simpa using shallow)
      refine (Render.Takes.aside course fun s => ?_).bind course fun text _ =>
        Render.Takes.pure course trivial
      exact (Render.Takes.invoked course hroom (ih.exec (frame.child _)) s).mono
        (fun _ _ h => h.1) fun _ => id
    · exact Render.Takes.pure course trivial

omit ih in
/-- Whatever the machine is asked to do relates the states before and after it. -/
theorem all (fuel : Nat) : MachineTakes R setting fuel := by
  induction fuel with
  | zero => exact zero course
  | succ fuel ih =>
    exact {
      exec := exec_succ course ih
      run := run_succ course ih
      step := step_succ course ih
      writeWith := writeWith_succ course ih
      optionTexts := optionTexts_succ course ih
      optionText := optionText_succ course ih
      writeValue := writeValue_succ course ih
      writeItems := writeItems_succ course ih
      toText := toText_succ course ih
      giveDefaults := giveDefaults_succ course ih
      defaultValue := defaultValue_succ course ih }

end MachineTakes

end TemplateMachine
