import TemplateMachine.Proofs.Anchors.Operations
import TemplateMachine.Proofs.Output.Layout
import TemplateMachine.Proofs.Render.Computation

/-!
# Anchors

A write with an anchor puts one, writes a value, which may run any number of templates, and takes the
anchor away again. Writing a value always comes to an end where it was asked for: a fault inside
abandons the template in which it happens and no more. So the anchor that is taken away is the one
that was put, and every template leaves the anchors that it found, whether it comes to its end or is
abandoned. No render ever has to report that there was none.

A run that is out of fuel may stop between the two; that it has reported nothing of the sort is shown
all the same.
-/

namespace TemplateMachine

variable {α β : Type}

/-- Between two states nobody reported that there was no anchor to take away. -/
def RenderState.Reports (s t : RenderState) : Prop :=
  ∀ message ∈ t.messages,
    message ∈ s.messages ∨ message.problem ≠ .internalError (.writer .noAnchor)

namespace RenderState.Reports

variable {s t u : RenderState}

/-- Nothing is reported if the messages stay the same. -/
theorem of_eq (messages : t.messages = s.messages) : s.Reports t :=
  fun _ mem => .inl (messages ▸ mem)

theorem trans (first : s.Reports t) (second : t.Reports u) : s.Reports u := by
  intro message mem
  rcases second message mem with old | harmless
  · exact first message old
  · exact .inr harmless

end RenderState.Reports

/-- A second state has the anchors of the first, and between them nobody reported that there was no
anchor to take away. -/
structure RenderState.SameAnchors (s t : RenderState) : Prop where
  anchors : t.writer.layout.anchors = s.writer.layout.anchors
  reports : s.Reports t

/-- States in succession have the same anchors. -/
theorem RenderState.SameAnchors.trans {s t u : RenderState} (first : s.SameAnchors t)
    (second : t.SameAnchors u) : s.SameAnchors u :=
  ⟨second.anchors.trans first.anchors, first.reports.trans second.reports⟩

/-- A computation that leaves the anchors that it found and gives a result with a property. Also if
it is out of fuel, it did not report that there was no anchor to take away. -/
def Render.KeepsAnchors (action : Render α) (P : α → Prop) : Prop :=
  ∀ s : RenderState, Render.Spec action s (fun a t => s.SameAnchors t ∧ P a) s.Reports

namespace Render.KeepsAnchors

variable {action : Render α} {P : α → Prop} {Q : β → Prop}

/-- A pure computation keeps the anchors. -/
theorem pure {a : α} (h : P a) : Render.KeepsAnchors (pure a) P :=
  fun _ => ⟨⟨rfl, .of_eq rfl⟩, h⟩

/-- Being out of fuel keeps the anchors. -/
theorem failure : Render.KeepsAnchors (failure : Render α) P :=
  fun _ => .of_eq rfl

/-- A sequence keeps the anchors if its parts do. -/
theorem bind (h : Render.KeepsAnchors action P) {f : α → Render β}
    (hf : ∀ a, P a → Render.KeepsAnchors (f a) Q) : Render.KeepsAnchors (action >>= f) Q := by
  intro s
  apply (h s).bind
  intro a t ha
  exact (hf a ha.2 t).mono (fun b u hb => ⟨ha.1.trans hb.1, hb.2⟩) fun u => ha.1.reports.trans

/-- Whether it ends or is out of fuel, a computation that keeps the anchors did not report that there
was none to take away. -/
theorem reports (h : Render.KeepsAnchors action P) (s : RenderState) :
    s.Reports (Render.outcome action s).2 := by
  have hspec := h s
  unfold Render.Spec at hspec
  rcases hends : Render.outcome action s with ⟨_ | a, t⟩ <;> rw [hends] at hspec
  · exact hspec
  · exact hspec.1.reports

/-- A computation that ends and changes neither anchors nor messages keeps the anchors. -/
theorem of_unseen (h : ∀ s, ∃ a t, Render.outcome action s = (some a, t) ∧
    t.writer.layout.anchors = s.writer.layout.anchors ∧ t.messages = s.messages) :
    Render.KeepsAnchors action fun _ => True := by
  intro s
  obtain ⟨a, t, hends, hanchors, hmessages⟩ := h s
  exact Render.spec_of_eq hends ⟨⟨hanchors, .of_eq hmessages⟩, trivial⟩

variable {frame : Frame}

/-- Reporting keeps the anchors, unless it is that there was none to take away. -/
theorem report {problems : List Problem}
    (harmless : ∀ problem ∈ problems, problem ≠ .internalError (.writer .noAnchor)) :
    Render.KeepsAnchors (Render.report frame problems) fun _ => True := by
  intro s
  refine Render.spec_of_eq (Render.outcome_report frame problems s) ⟨⟨rfl, ?_⟩, trivial⟩
  intro message mem
  rcases List.mem_append.mp mem with new | old
  · obtain ⟨problem, hproblem, rfl⟩ := List.mem_map.mp (List.mem_reverse.mp new)
    exact .inr (harmless problem hproblem)
  · exact .inl old

/-- Recording an event keeps the anchors. -/
theorem record {kind : EventKind} {start : Nat} :
    Render.KeepsAnchors (Render.record frame kind start) fun _ => True :=
  of_unseen fun s => ⟨_, _, Render.outcome_record frame kind start s, rfl, rfl⟩

/-- Leaving a mark keeps the anchors. -/
theorem mark {deed : Deed} : Render.KeepsAnchors (Render.mark frame deed) fun _ => True :=
  of_unseen fun s => ⟨_, _, Render.outcome_mark frame deed s, rfl, rfl⟩

/-- Reading the position keeps the anchors. -/
theorem position : Render.KeepsAnchors Render.position fun _ => True :=
  of_unseen fun s => ⟨_, _, Render.outcome_position s, rfl, rfl⟩

/-- Beginning an indentation keeps the anchors. -/
theorem pushIndentation {indent : String} :
    Render.KeepsAnchors (Render.pushIndentation indent) fun _ => True :=
  of_unseen fun s => by
    obtain ⟨text, hlayout⟩ := s.writer.layout_pushIndentation indent
    exact ⟨_, _, Render.outcome_pushIndentation indent s, by simp [hlayout], rfl⟩

/-- Trying an operation that leaves the layout alone keeps the anchors. -/
theorem attempt {operation : Attempt Writer α} (h : Writer.KeepsLayout operation) :
    Render.KeepsAnchors (Render.attempt operation) fun _ => True :=
  of_unseen fun s => ⟨_, _, Render.outcome_attempt operation s,
    congrArg Layout.anchors (h s.writer.layout s.writer rfl), rfl⟩

/-- Writing keeps the anchors. -/
theorem emit {operation : Attempt Writer Nat} (h : Writer.KeepsLayout operation) :
    Render.KeepsAnchors (Render.emit frame operation) fun _ => True := by
  apply (attempt h).bind
  intro result _
  cases result with
  | ok n => exact pure trivial
  | error error => exact (report (by simp)).bind fun _ _ => pure trivial

/-- Writing a separator, or none, keeps the anchors. -/
theorem separate {options : OptionRow String} {seen : Bool} :
    Render.KeepsAnchors (TemplateMachine.separate frame options seen) fun _ => True := by
  unfold TemplateMachine.separate
  split
  · split
    · exact emit (Writer.keepsLayout_write _)
    · exact pure trivial
  · exact pure trivial

/-- Writing a scalar value keeps the anchors. -/
theorem writeScalar {setting : Setting} {value : Value} {options : OptionRow String} :
    Render.KeepsAnchors (Render.writeScalar setting frame value options) fun _ => True :=
  emit (Writer.keepsLayout_writeWrapped _ _)

/-- Looking out for nesting that is too deep keeps the anchors. -/
theorem tooDeep {setting : Setting} :
    Render.KeepsAnchors (Render.tooDeep setting frame) fun _ => True := by
  unfold Render.tooDeep
  split
  · exact (report (by simp)).bind fun _ _ => pure trivial
  · exact pure trivial

/-- Rendering to a text of its own keeps the anchors if what is rendered does. -/
theorem aside {inner : Render Nat} (h : Render.KeepsAnchors inner fun _ => True) :
    Render.KeepsAnchors (Render.aside inner) fun _ => True := by
  intro s
  have hinner := h { s with writer := s.writer.fork, events := none, aside := s.aside + 1 }
  unfold Render.Spec at hinner ⊢
  rw [Render.outcome_aside]
  rcases hends : Render.outcome inner _ with ⟨_ | n, t⟩ <;> rw [hends] at hinner
  · exact hinner
  · exact ⟨⟨rfl, hinner.1.reports⟩, trivial⟩

end Render.KeepsAnchors

/-- A step that leaves the anchors that it found, also if it faults, and does not fault because there
is no anchor to take away. -/
def Step.KeepsAnchors (action : Step α) : Prop :=
  Render.KeepsAnchors action.run (· ≠ .error (.writer .noAnchor))

namespace Step.KeepsAnchors

variable {action : Step α}

/-- A pure step keeps the anchors. -/
theorem pure (a : α) : Step.KeepsAnchors (pure a : Step α) :=
  Render.KeepsAnchors.pure (by simp)

/-- A sequence of steps keeps the anchors if its parts do. -/
theorem bind (h : Step.KeepsAnchors action) {f : α → Step β} (hf : ∀ a, Step.KeepsAnchors (f a)) :
    Step.KeepsAnchors (action >>= f) := by
  refine Render.KeepsAnchors.bind h fun result hresult => ?_
  cases result with
  | ok a => exact hf a
  | error fault => exact Render.KeepsAnchors.pure (by simpa using hresult)

/-- A render without a fault keeps the anchors as a step. -/
theorem asStep {P : α → Prop} {action : Render α} (h : Render.KeepsAnchors action P) :
    Step.KeepsAnchors action.asStep :=
  h.bind fun _ _ => Render.KeepsAnchors.pure (by simp)

/-- A sequence keeps the anchors if its first part is a value with a property or a fault that is no
failure of the writer, and its second part keeps the anchors for such values. -/
theorem bind_ofExcept {result : Except Fault α} {P : α → Prop} (aloof : Aloof result P)
    {f : α → Step β} (hf : ∀ a, P a → Step.KeepsAnchors (f a)) :
    Step.KeepsAnchors (Step.ofExcept result >>= f) := by
  have hfirst : Render.KeepsAnchors (Step.ofExcept result).run (· = result) :=
    Render.KeepsAnchors.pure rfl
  change Render.KeepsAnchors ((Step.ofExcept result).run >>= ExceptT.bindCont f) _
  refine hfirst.bind fun r same => ?_
  subst same
  cases r with
  | ok a => exact hf a aloof
  | error fault =>
    have hfault : fault ≠ .writer .noAnchor := by
      rintro rfl
      cases aloof
    exact Render.KeepsAnchors.pure (by simpa using hfault)

/-- Ending an indentation keeps the anchors, also if there is none to end. -/
theorem popIndentation : Step.KeepsAnchors (Step.require Writer.popIndentation) := by
  intro s
  have hpop := s.writer.outcome_popIndentation
  unfold Render.Spec
  rw [Step.outcome_run_require]
  cases hindentation : s.writer.layout.indentation with
  | nil =>
    rw [hindentation] at hpop
    rw [hpop]
    exact ⟨⟨rfl, .of_eq rfl⟩, by simp⟩
  | cons indent rest =>
    rw [hindentation] at hpop
    obtain ⟨w, hends, hlayout, -⟩ := hpop
    rw [hends]
    exact ⟨⟨by simp [hlayout], .of_eq rfl⟩, by simp⟩

/-- Putting an anchor, writing something that keeps the anchors and taking the anchor away keeps the
anchors: the one that is taken away is the one that was put. -/
theorem anchored {inner : Render Nat} (h : Render.KeepsAnchors inner fun _ => True) :
    Step.KeepsAnchors (do
      Render.pushAnchor.asStep
      let n ← inner.asStep
      let _ ← Step.require Writer.popAnchor
      Pure.pure n) := by
  intro s
  obtain ⟨column, hput⟩ := s.writer.layout_pushAnchor
  have hinner := h { s with writer := s.writer.pushAnchor }
  unfold Render.Spec at hinner ⊢
  rw [Step.outcome_run_bind_of_ends (Step.outcome_run_asStep (Render.outcome_pushAnchor s))]
  rcases hends : Render.outcome inner { s with writer := s.writer.pushAnchor } with ⟨_ | n, t⟩ <;>
    rw [hends] at hinner
  · rw [Step.outcome_run_bind, Step.outcome_run_asStep_of_stops hends]
    exact hinner
  · have hanchors : t.writer.layout.anchors = column :: s.writer.layout.anchors := by
      rw [hinner.1.anchors, hput]
    have hpop := t.writer.outcome_popAnchor
    rw [hanchors] at hpop
    obtain ⟨w, htaken, hlayout, -⟩ := hpop
    rw [Step.outcome_run_bind_of_ends (Step.outcome_run_asStep hends), Step.outcome_run_bind,
      Step.outcome_run_require, htaken]
    have hrestored : w.layout.anchors = s.writer.layout.anchors := by rw [hlayout]
    exact ⟨⟨hrestored, hinner.1.reports⟩, by simp⟩

end Step.KeepsAnchors

/-- With a certain amount of fuel, all that the machine can be asked to do keeps the anchors. -/
structure MachineKeepsAnchors (setting : Setting) (fuel : Nat) : Prop where
  exec (frame : Frame) : Render.KeepsAnchors (exec setting fuel frame) fun _ => True
  run (frame : Frame) (cursor : Cursor) :
    Render.KeepsAnchors (run setting fuel frame cursor) fun _ => True
  step (frame : Frame) (cursor : Cursor) (instr : Instr) :
    Step.KeepsAnchors (step setting fuel frame cursor instr)
  writeWith (frame : Frame) (value : Value) (options : OptionRow Value) :
    Step.KeepsAnchors (writeWith setting fuel frame value options)
  optionTexts (frame : Frame) (options : OptionRow Value) :
    Render.KeepsAnchors (optionTexts setting fuel frame options) fun _ => True
  optionText (frame : Frame) (value : Option Value) :
    Render.KeepsAnchors (optionText setting fuel frame value) fun _ => True
  writeValue (frame : Frame) (value : Value) (options : OptionRow String) :
    Render.KeepsAnchors (writeValue setting fuel frame value options) fun _ => True
  writeItems (frame : Frame) (items : List Value) (options : OptionRow String) (count : Nat)
    (seen : Bool) : Render.KeepsAnchors (writeItems setting fuel frame items options count seen)
      fun _ => True
  toText (frame : Frame) (value : Value) :
    Render.KeepsAnchors (toText setting fuel frame value) fun _ => True
  giveDefaults (frame : Frame) (args : List FormalArg) :
    Render.KeepsAnchors (giveDefaults setting fuel frame args) fun _ => True
  defaultValue (frame : Frame) (default : DefaultValue) :
    Render.KeepsAnchors (defaultValue setting fuel frame default) fun _ => True

namespace MachineKeepsAnchors

variable {setting : Setting} {fuel : Nat}

/-- Without fuel the machine does nothing. -/
theorem zero : MachineKeepsAnchors setting 0 := by
  constructor <;> intros <;> exact Render.KeepsAnchors.failure

variable (ih : MachineKeepsAnchors setting fuel)

include ih

/-- A template keeps the anchors, whether it comes to its end or is abandoned. -/
theorem exec_succ (frame : Frame) :
    Render.KeepsAnchors (TemplateMachine.exec setting (fuel + 1) frame) fun _ => True := by
  rw [TemplateMachine.exec]
  apply Render.KeepsAnchors.mark.bind
  intro _ _
  apply (ih.giveDefaults frame frame.template.args).bind
  intro given _
  apply Render.KeepsAnchors.position.bind
  intro start _
  apply (ih.run given .start).bind
  intro count _
  apply Render.KeepsAnchors.record.bind
  intro _ _
  exact Render.KeepsAnchors.pure trivial

/-- A program keeps the anchors, and if a fault abandons it then for another reason than that there
was no anchor to take away. -/
theorem run_succ (frame : Frame) (cursor : Cursor) :
    Render.KeepsAnchors (TemplateMachine.run setting (fuel + 1) frame cursor) fun _ => True := by
  rw [TemplateMachine.run]
  split
  · exact Render.KeepsAnchors.pure trivial
  · rename_i instr _
    apply Render.KeepsAnchors.mark.bind
    intro _ _
    apply Render.KeepsAnchors.bind (ih.step { frame with ip := cursor.ip } cursor instr)
    intro result hresult
    cases result with
    | ok moved => exact ih.run frame moved
    | error fault =>
      apply Render.KeepsAnchors.mark.bind
      intro _ _
      have hfault : fault ≠ .writer .noAnchor := by simpa using hresult
      apply (Render.KeepsAnchors.report (by simpa using hfault)).bind
      intro _ _
      exact Render.KeepsAnchors.pure trivial

omit ih in
/-- An instruction that works on the operand stack alone keeps the anchors. -/
theorem step_operation {instr : Instr} (operation : instr.isOperation = true) (frame : Frame)
    (cursor : Cursor) :
    Step.KeepsAnchors (TemplateMachine.step setting (fuel + 1) frame cursor instr) := by
  rw [step_of_isOperation operation]
  apply Step.KeepsAnchors.bind_ofExcept (frame.aloof_operate setting cursor.stack instr)
  intro left runtime
  have hharmless (problem : Problem) (mem : problem ∈ left.2) :
      problem ≠ .internalError (.writer .noAnchor) := by
    rintro rfl
    cases runtime _ mem
  apply (Step.KeepsAnchors.asStep (Render.KeepsAnchors.report hharmless)).bind
  intro _
  exact Step.KeepsAnchors.pure _

/-- An instruction keeps the anchors. -/
theorem step_succ (frame : Frame) (cursor : Cursor) (instr : Instr) :
    Step.KeepsAnchors (TemplateMachine.step setting (fuel + 1) frame cursor instr) := by
  cases instr with
  | write =>
    rw [TemplateMachine.step]
    apply Step.KeepsAnchors.bind_ofExcept cursor.stack.aloof_pop
    intro top _
    apply (Step.KeepsAnchors.asStep Render.KeepsAnchors.position).bind
    intro start
    apply (Step.KeepsAnchors.asStep (ih.writeValue frame top.1 .empty)).bind
    intro n
    apply (Step.KeepsAnchors.asStep Render.KeepsAnchors.record).bind
    intro _
    exact Step.KeepsAnchors.pure _
  | writeOpt =>
    rw [TemplateMachine.step]
    apply Step.KeepsAnchors.bind_ofExcept cursor.stack.aloof_popOptions
    intro options _
    apply Step.KeepsAnchors.bind_ofExcept options.2.aloof_pop
    intro top _
    apply (Step.KeepsAnchors.asStep Render.KeepsAnchors.position).bind
    intro start
    apply (ih.writeWith frame top.1 options.1).bind
    intro n
    apply (Step.KeepsAnchors.asStep Render.KeepsAnchors.record).bind
    intro _
    exact Step.KeepsAnchors.pure _
  | writeStr index =>
    rw [TemplateMachine.step]
    apply Step.KeepsAnchors.bind_ofExcept (frame.template.aloof_text index)
    intro text _
    refine (Step.KeepsAnchors.asStep
      (Render.KeepsAnchors.emit (Writer.keepsLayout_write text))).bind fun n => ?_
    exact Step.KeepsAnchors.pure _
  | writeLocal index =>
    rw [TemplateMachine.step]
    apply Step.KeepsAnchors.bind_ofExcept (frame.running.aloof_readSlot index)
    intro value _
    apply (Step.KeepsAnchors.asStep (ih.writeValue frame value .empty)).bind
    intro n
    exact Step.KeepsAnchors.pure _
  | toStr =>
    rw [TemplateMachine.step]
    apply Step.KeepsAnchors.bind_ofExcept cursor.stack.aloof_pop
    intro top _
    dsimp only
    split
    · exact Step.KeepsAnchors.pure _
    · exact Step.KeepsAnchors.pure _
    · apply (Step.KeepsAnchors.asStep (ih.toText frame _)).bind
      intro text
      exact Step.KeepsAnchors.pure _
  | indent index =>
    rw [TemplateMachine.step]
    apply Step.KeepsAnchors.bind_ofExcept (frame.template.aloof_text index)
    intro text _
    apply (Step.KeepsAnchors.asStep Render.KeepsAnchors.pushIndentation).bind
    intro _
    exact Step.KeepsAnchors.pure _
  | dedent =>
    rw [TemplateMachine.step]
    exact Step.KeepsAnchors.popIndentation.bind fun indent => Step.KeepsAnchors.pure _
  | newline =>
    rw [TemplateMachine.step]
    split
    · refine (Step.KeepsAnchors.asStep
        (Render.KeepsAnchors.emit (Writer.keepsLayout_write "\n"))).bind fun n => ?_
      exact Step.KeepsAnchors.pure _
    · exact Step.KeepsAnchors.pure _
  | br target =>
    rw [TemplateMachine.step]
    apply Step.KeepsAnchors.bind_ofExcept (frame.template.aloof_jumpTarget target)
    intro target _
    exact Step.KeepsAnchors.pure _
  | brf target =>
    rw [TemplateMachine.step]
    apply Step.KeepsAnchors.bind_ofExcept (frame.template.aloof_jumpTarget target)
    intro target _
    apply Step.KeepsAnchors.bind_ofExcept cursor.stack.aloof_pop
    intro top _
    exact Step.KeepsAnchors.pure _
  | _ => exact step_operation rfl frame cursor

/-- Writing with options keeps the anchors. -/
theorem writeWith_succ (frame : Frame) (value : Value) (options : OptionRow Value) :
    Step.KeepsAnchors (TemplateMachine.writeWith setting (fuel + 1) frame value options) := by
  rw [TemplateMachine.writeWith]
  apply (Step.KeepsAnchors.asStep (ih.optionTexts frame options)).bind
  intro texts
  have hwrite := ih.writeValue frame value texts
  split
  · exact Step.KeepsAnchors.anchored hwrite
  · exact Step.KeepsAnchors.asStep hwrite

/-- Rendering options to texts keeps the anchors. -/
theorem optionTexts_succ (frame : Frame) (options : OptionRow Value) :
    Render.KeepsAnchors (TemplateMachine.optionTexts setting (fuel + 1) frame options)
      fun _ => True := by
  rw [TemplateMachine.optionTexts]
  apply (ih.optionText frame _).bind
  intro anchor _
  apply (ih.optionText frame _).bind
  intro format _
  apply (ih.optionText frame _).bind
  intro null _
  apply (ih.optionText frame _).bind
  intro separator _
  exact (ih.optionText frame _).bind fun wrap _ => Render.KeepsAnchors.pure trivial

/-- Rendering an option to text keeps the anchors. -/
theorem optionText_succ (frame : Frame) (value : Option Value) :
    Render.KeepsAnchors (TemplateMachine.optionText setting (fuel + 1) frame value)
      fun _ => True := by
  cases value with
  | none => exact Render.KeepsAnchors.pure trivial
  | some value =>
    rw [TemplateMachine.optionText]
    exact (ih.toText frame value).bind fun text _ => Render.KeepsAnchors.pure trivial

/-- Writing a value keeps the anchors. -/
theorem writeValue_succ (frame : Frame) (value : Value) (options : OptionRow String) :
    Render.KeepsAnchors (TemplateMachine.writeValue setting (fuel + 1) frame value options)
      fun _ => True := by
  rw [TemplateMachine.writeValue]
  split
  · split
    · exact Render.KeepsAnchors.writeScalar
    · exact Render.KeepsAnchors.pure trivial
  split
  · apply Render.KeepsAnchors.tooDeep.bind
    intro deep _
    split
    · exact Render.KeepsAnchors.pure trivial
    · apply (Render.KeepsAnchors.emit (Writer.keepsLayout_writeWrap _)).bind
      intro n _
      exact (ih.exec _).bind fun m _ => Render.KeepsAnchors.pure trivial
  · exact ih.writeItems frame _ options 0 false
  · exact ih.writeItems frame _ options 0 false
  · exact Render.KeepsAnchors.writeScalar

/-- Writing the elements of a collection keeps the anchors. -/
theorem writeItems_succ (frame : Frame) (items : List Value) (options : OptionRow String)
    (count : Nat) (seen : Bool) : Render.KeepsAnchors
      (TemplateMachine.writeItems setting (fuel + 1) frame items options count seen)
      fun _ => True := by
  cases items with
  | nil => exact Render.KeepsAnchors.pure trivial
  | cons item rest =>
    rw [writeItems_cons]
    split
    · exact ih.writeItems frame rest options count seen
    · apply Render.KeepsAnchors.separate.bind
      intro n _
      apply (ih.writeValue frame _ options).bind
      intro m _
      exact ih.writeItems frame rest options _ _

/-- Rendering a value to text keeps the anchors. -/
theorem toText_succ (frame : Frame) (value : Value) :
    Render.KeepsAnchors (TemplateMachine.toText setting (fuel + 1) frame value) fun _ => True :=
  Render.KeepsAnchors.aside (ih.writeValue frame value .empty)

/-- Giving arguments their defaults keeps the anchors. -/
theorem giveDefaults_succ (frame : Frame) (args : List FormalArg) :
    Render.KeepsAnchors (TemplateMachine.giveDefaults setting (fuel + 1) frame args)
      fun _ => True := by
  cases args with
  | nil => exact Render.KeepsAnchors.pure trivial
  | cons arg rest =>
    rw [TemplateMachine.giveDefaults]
    split
    · exact (ih.defaultValue frame _).bind fun value _ => ih.giveDefaults _ rest
    · exact ih.giveDefaults frame rest

/-- Finding the value of a default keeps the anchors. -/
theorem defaultValue_succ (frame : Frame) (default : DefaultValue) :
    Render.KeepsAnchors (TemplateMachine.defaultValue setting (fuel + 1) frame default)
      fun _ => True := by
  cases default with
  | literal value => exact Render.KeepsAnchors.pure trivial
  | template template eager =>
    rw [TemplateMachine.defaultValue]
    split
    · apply Render.KeepsAnchors.tooDeep.bind
      intro deep _
      split
      · exact Render.KeepsAnchors.pure trivial
      · apply (Render.KeepsAnchors.aside (ih.exec _)).bind
        intro text _
        exact Render.KeepsAnchors.pure trivial
    · exact Render.KeepsAnchors.pure trivial

omit ih in
/-- Whatever the machine is asked to do keeps the anchors. -/
theorem all (fuel : Nat) : MachineKeepsAnchors setting fuel := by
  induction fuel with
  | zero => exact zero
  | succ fuel ih =>
    exact {
      exec := exec_succ ih
      run := run_succ ih
      step := step_succ ih
      writeWith := writeWith_succ ih
      optionTexts := optionTexts_succ ih
      optionText := optionText_succ ih
      writeValue := writeValue_succ ih
      writeItems := writeItems_succ ih
      toText := toText_succ ih
      giveDefaults := giveDefaults_succ ih
      defaultValue := defaultValue_succ ih }

end MachineKeepsAnchors

end TemplateMachine
