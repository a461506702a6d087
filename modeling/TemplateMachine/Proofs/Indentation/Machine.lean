import TemplateMachine.Proofs.Indentation.Balance

/-!
# The machine and its indentations

What each part of the machine does to the indentations of the writer, and from it the condition
under which a template gives back the indentations that it found: no fault abandoned a template
between the beginning and the end of an indentation, be it the template itself or one that it
invoked. Where a fault did, the indentation stays, and what is written afterwards is indented by it.

A run that is out of fuel has come to no end and is not the subject here.
-/

namespace TemplateMachine

variable {α β : Type}

/-- A computation that opens no indentation without closing it, except where a fault leaves one
open. -/
def Render.Balanced (action : Render α) (P : α → Prop) : Prop :=
  ∀ s, Render.Spec action s (fun a t => s.Opens True t 0 ∧ P a) fun _ => True

namespace Render.Balanced

variable {action : Render α} {P : α → Prop} {Q : β → Prop}

/-- A pure computation is balanced. -/
theorem pure {a : α} (h : P a) : Render.Balanced (pure a) P :=
  fun _ => ⟨.of_unseen rfl rfl rfl, h⟩

/-- Being out of fuel is balanced. -/
theorem failure : Render.Balanced (failure : Render α) P :=
  fun _ => trivial

/-- A sequence is balanced if its parts are. -/
theorem bind (h : Render.Balanced action P) {f : α → Render β}
    (hf : ∀ a, P a → Render.Balanced (f a) Q) : Render.Balanced (action >>= f) Q := by
  intro s
  apply (h s).bind
  intro a t ha
  exact (hf a ha.2 t).mono (fun b u hb => ⟨ha.1.trans hb.1, hb.2⟩) fun _ => id

/-- A computation that ends and changes neither marks nor indentations is balanced. -/
theorem of_unseen (h : ∀ s, ∃ a t, Render.outcome action s = (some a, t) ∧ t.trail = s.trail ∧
    t.aside = s.aside ∧ t.writer.layout.indentation = s.writer.layout.indentation) :
    Render.Balanced action fun _ => True := by
  intro s
  obtain ⟨a, t, hends, htrail, haside, hindentation⟩ := h s
  exact Render.spec_of_eq hends ⟨.of_unseen htrail haside hindentation, trivial⟩

variable {frame : Frame}

/-- Reporting is balanced. -/
theorem report {problems : List Problem} :
    Render.Balanced (Render.report frame problems) fun _ => True :=
  of_unseen fun s => ⟨_, _, Render.outcome_report frame problems s, rfl, rfl, rfl⟩

/-- Recording an event is balanced. -/
theorem record {kind : EventKind} {start : Nat} :
    Render.Balanced (Render.record frame kind start) fun _ => True :=
  of_unseen fun s => ⟨_, _, Render.outcome_record frame kind start s, rfl, rfl, rfl⟩

/-- Reading the position is balanced. -/
theorem position : Render.Balanced Render.position fun _ => True :=
  of_unseen fun s => ⟨_, _, Render.outcome_position s, rfl, rfl, rfl⟩

/-- Putting an anchor is balanced. -/
theorem pushAnchor : Render.Balanced Render.pushAnchor fun _ => True :=
  of_unseen fun s => by
    obtain ⟨column, hlayout⟩ := s.writer.layout_pushAnchor
    exact ⟨_, _, Render.outcome_pushAnchor s, rfl, rfl, by simp [hlayout]⟩

/-- Trying an operation that leaves the layout alone is balanced. -/
theorem attempt {operation : Attempt Writer α} (h : Writer.KeepsLayout operation) :
    Render.Balanced (Render.attempt operation) fun _ => True :=
  of_unseen fun s => ⟨_, _, Render.outcome_attempt operation s, rfl, rfl,
    congrArg Layout.indentation (h s.writer.layout s.writer rfl)⟩

/-- Writing is balanced. -/
theorem emit {operation : Attempt Writer Nat} (h : Writer.KeepsLayout operation) :
    Render.Balanced (Render.emit frame operation) fun _ => True := by
  apply (attempt h).bind
  intro result _
  cases result with
  | ok n => exact pure trivial
  | error error => exact report.bind fun _ _ => pure trivial

/-- Writing a separator, or none, is balanced. -/
theorem separate {options : OptionRow String} {seen : Bool} :
    Render.Balanced (TemplateMachine.separate frame options seen) fun _ => True := by
  unfold TemplateMachine.separate
  split
  · split
    · exact emit (Writer.keepsLayout_write _)
    · exact pure trivial
  · exact pure trivial

/-- Writing a scalar value is balanced. -/
theorem writeScalar {setting : Setting} {value : Value} {options : OptionRow String} :
    Render.Balanced (Render.writeScalar setting frame value options) fun _ => True :=
  emit (Writer.keepsLayout_writeWrapped _ _)

/-- Looking out for nesting that is too deep is balanced. -/
theorem tooDeep {setting : Setting} :
    Render.Balanced (Render.tooDeep setting frame) fun _ => True := by
  unfold Render.tooDeep
  split
  · exact report.bind fun _ _ => pure trivial
  · exact pure trivial

/-- Rendering to a text of its own is balanced if what is rendered is. -/
theorem aside {inner : Render Nat} (h : Render.Balanced inner fun _ => True) :
    Render.Balanced (Render.aside inner) fun _ => True := by
  intro s
  have hinner := h { s with writer := s.writer.fork, events := none, aside := s.aside + 1 }
  unfold Render.Spec at hinner ⊢
  rw [Render.outcome_aside]
  rcases hends : Render.outcome inner _ with ⟨_ | n, t⟩ <;> rw [hends] at hinner
  · trivial
  · exact ⟨hinner.1.aside, trivial⟩

end Render.Balanced

/-- A step that opens no indentation without closing it, except where a fault leaves one open. -/
def Step.Balanced (action : Step α) : Prop :=
  Render.Balanced action.run fun _ => True

namespace Step.Balanced

variable {action : Step α}

/-- A pure step is balanced. -/
theorem pure (a : α) : Step.Balanced (pure a : Step α) :=
  Render.Balanced.pure trivial

/-- A sequence of steps is balanced if its parts are. -/
theorem bind (h : Step.Balanced action) {f : α → Step β} (hf : ∀ a, Step.Balanced (f a)) :
    Step.Balanced (action >>= f) := by
  refine Render.Balanced.bind h fun result _ => ?_
  cases result with
  | ok a => exact hf a
  | error fault => exact Render.Balanced.pure trivial

/-- A render without a fault is as balanced as a step. -/
theorem asStep {P : α → Prop} {action : Render α} (h : Render.Balanced action P) :
    Step.Balanced action.asStep :=
  h.bind fun _ _ => Render.Balanced.pure trivial

/-- A value or a fault is balanced. -/
theorem ofExcept {result : Except Fault α} : Step.Balanced (Step.ofExcept result) :=
  Render.Balanced.pure trivial

/-- Ending an anchor is balanced. -/
theorem popAnchor : Step.Balanced (Step.require Writer.popAnchor) := by
  intro s
  have hpop := s.writer.outcome_popAnchor
  unfold Render.Spec
  rw [Step.outcome_run_require]
  cases hanchors : s.writer.layout.anchors with
  | nil =>
    rw [hanchors] at hpop
    rw [hpop]
    exact ⟨.of_unseen rfl rfl rfl, trivial⟩
  | cons column rest =>
    rw [hanchors] at hpop
    obtain ⟨w, hends, hlayout, -⟩ := hpop
    rw [hends]
    exact ⟨.of_unseen rfl rfl (by simp [hlayout]), trivial⟩

end Step.Balanced

/-- With a certain amount of fuel, all that the machine can be asked to do is balanced, but for a
single instruction that begins or ends an indentation. -/
structure MachineBalances (setting : Setting) (fuel : Nat) : Prop where
  exec (frame : Frame) : Render.Balanced (exec setting fuel frame) fun _ => True
  run (frame : Frame) (cursor : Cursor) (s t : RenderState)
    (path : Path frame.template.program cursor.executed cursor.ip)
    (opens : s.Opens (Paired frame.template.program) t (unclosed cursor.executed)) :
    Render.Spec (run setting fuel frame cursor) t
      (fun _ u => s.Opens (Paired frame.template.program) u 0) fun _ => True
  step (frame : Frame) (cursor : Cursor) (instr : Instr) (other : instr ≠ .dedent)
    (s : RenderState) :
    Render.Spec (step setting fuel frame cursor instr).run s
      (fun result t => match result with
        | .ok _ => s.Opens True t instr.opens
        | .error _ => s.Opens True t 0) fun _ => True
  writeWith (frame : Frame) (value : Value) (options : OptionRow Value) :
    Step.Balanced (writeWith setting fuel frame value options)
  optionTexts (frame : Frame) (options : OptionRow Value) :
    Render.Balanced (optionTexts setting fuel frame options) fun _ => True
  optionText (frame : Frame) (value : Option Value) :
    Render.Balanced (optionText setting fuel frame value) fun _ => True
  writeValue (frame : Frame) (value : Value) (options : OptionRow String) :
    Render.Balanced (writeValue setting fuel frame value options) fun _ => True
  writeItems (frame : Frame) (items : List Value) (options : OptionRow String) (count : Nat)
    (seen : Bool) : Render.Balanced (writeItems setting fuel frame items options count seen)
      fun _ => True
  toText (frame : Frame) (value : Value) :
    Render.Balanced (toText setting fuel frame value) fun _ => True
  giveDefaults (frame : Frame) (args : List FormalArg) :
    Render.Balanced (giveDefaults setting fuel frame args) fun given =>
      given.template = frame.template
  defaultValue (frame : Frame) (default : DefaultValue) :
    Render.Balanced (defaultValue setting fuel frame default) fun _ => True

namespace MachineBalances

variable {setting : Setting} {fuel : Nat}

/-- Without fuel the machine does nothing. -/
theorem zero : MachineBalances setting 0 := by
  constructor <;> intros <;> first | exact Render.Balanced.failure | exact trivial

variable (ih : MachineBalances setting fuel)

include ih

/-- A template is balanced, whether it comes to its end or is abandoned. -/
theorem exec_succ (frame : Frame) :
    Render.Balanced (TemplateMachine.exec setting (fuel + 1) frame) fun _ => True := by
  intro s
  rw [TemplateMachine.exec]
  refine Render.Spec.bind (Render.spec_of_eq (P := fun _ t =>
    t = { s with trail := ⟨s.aside, frame, .begun⟩ :: s.trail })
    (Render.outcome_mark frame .begun s) rfl) fun _ begun hbegun => ?_
  subst hbegun
  apply (ih.giveDefaults frame frame.template.args _).bind
  intro given t hgiven
  obtain ⟨hgiven, (htemplate : given.template = frame.template)⟩ := hgiven
  apply (Render.Balanced.position t).bind
  intro start u hstart
  have hrun := ih.run given .start _ u .start (hgiven.trans hstart.1).weaken
  rw [htemplate] at hrun
  apply hrun.bind
  intro count v hcount
  apply (Render.Balanced.record v).bind
  intro _ w hrecord
  exact ⟨.of_begun (hcount.trans hrecord.1.weaken), trivial⟩

omit ih in
/-- Ending an indentation on a path of a program closes one that was opened, if the program is
paired. -/
theorem step_dedent (setting : Setting) (fuel : Nat) (frame : Frame) (cursor : Cursor)
    {condition : Prop} {s t : RenderState} {k : Nat} (opens : s.Opens condition t (k + 1)) :
    Render.Spec (TemplateMachine.step setting fuel frame cursor .dedent).run t
      (fun result u => match result with
        | .ok _ => s.Opens condition u k
        | .error _ => ∀ j, s.Opens condition u j) fun _ => True := by
  cases fuel with
  | zero => trivial
  | succ fuel =>
    have hpop := opens.popIndentation
    rw [TemplateMachine.step]
    unfold Render.Spec
    rw [Step.outcome_run_bind, Step.outcome_run_require]
    rcases hends : Attempt.outcome Writer.popIndentation t.writer with ⟨error | indent, w⟩ <;>
      rw [hends] at hpop <;> exact hpop

/-- A step on a path of a program goes on along a path and keeps count of what is open. -/
theorem step_opens {frame : Frame} {cursor : Cursor} {instr : Instr} {s t : RenderState}
    (path : Path frame.template.program cursor.executed cursor.ip)
    (here : frame.template.program[cursor.ip]? = some instr)
    (opens : s.Opens (Paired frame.template.program) t (unclosed cursor.executed)) :
    Render.Spec (TemplateMachine.step setting fuel { frame with ip := cursor.ip } cursor instr).run t
      (fun result u => match result with
        | .ok moved => Path frame.template.program moved.executed moved.ip ∧
            s.Opens (Paired frame.template.program) u (unclosed moved.executed)
        | .error _ => s.Opens (Paired frame.template.program) u (unclosed cursor.executed))
      fun _ => True := by
  have hfollows : (TemplateMachine.step setting fuel { frame with ip := cursor.ip } cursor
      instr).Yields (cursor.Follows frame.template.program instr) := step_follows setting fuel here
  have hpath (moved : Cursor) (follows : cursor.Follows frame.template.program instr moved) :
      Path frame.template.program moved.executed moved.ip :=
    follows.1 ▸ .go path here follows.2.1 follows.2.2
  by_cases hdedent : instr = .dedent
  · subst hdedent
    have hbegun (paired : Paired frame.template.program) :
        unclosed cursor.executed = unclosed cursor.executed - 1 + 1 := by
      have hpos := paired.begun _ _ path here
      omega
    have hstep := step_dedent setting fuel { frame with ip := cursor.ip } cursor
      (opens.congr hbegun)
    refine (Render.Spec.and (hfollows t) hstep).mono (fun result u h => ?_) fun _ _ => trivial
    cases result with
    | ok moved =>
      obtain ⟨hmoved, hopens⟩ := h
      have hexecuted := (hmoved moved rfl).1
      exact ⟨hpath moved (hmoved moved rfl), by rw [hexecuted]; exact hopens⟩
    | error fault => exact h.2 _
  · have hstep := ih.step { frame with ip := cursor.ip } cursor instr hdedent t
    refine (Render.Spec.and (hfollows t) hstep).mono (fun result u h => ?_) fun _ _ => trivial
    cases result with
    | ok moved =>
      obtain ⟨hmoved, hopens⟩ := h
      have hexecuted := (hmoved moved rfl).1
      refine ⟨hpath moved (hmoved moved rfl), ?_⟩
      rw [hexecuted, unclosed_cons hdedent]
      exact opens.trans hopens.weaken
    | error fault => exact opens.trans h.2.weaken

/-- A program leaves nothing open at its end if it is paired, and what is open when a fault abandons
it counts as left open. -/
theorem run_succ (frame : Frame) (cursor : Cursor) (s t : RenderState)
    (path : Path frame.template.program cursor.executed cursor.ip)
    (opens : s.Opens (Paired frame.template.program) t (unclosed cursor.executed)) :
    Render.Spec (TemplateMachine.run setting (fuel + 1) frame cursor) t
      (fun _ u => s.Opens (Paired frame.template.program) u 0) fun _ => True := by
  rw [TemplateMachine.run]
  split
  · rename_i stops
    exact opens.congr fun paired => paired.unclosed_eq_zero path stops
  · rename_i instr here
    refine Render.Spec.bind (Render.spec_of_eq (Render.outcome_mark _ _ t)
      (P := fun _ u => s.Opens (Paired frame.template.program) u (unclosed cursor.executed))
      (opens.trans (.mark (by simp)))) fun _ u hu => ?_
    apply (step_opens ih path here hu).bind
    intro result v hresult
    cases result with
    | ok moved => exact ih.run frame moved s v hresult.1 hresult.2
    | error fault =>
      refine Render.Spec.bind (Render.spec_of_eq (Render.outcome_mark _ _ v)
        (P := fun _ w => s.Opens (Paired frame.template.program) w 0) hresult.abandon)
        fun _ w hw => ?_
      exact hw.trans (.of_unseen rfl rfl rfl)

omit ih in
/-- A balanced step opens nothing, whether it succeeds or faults. -/
theorem spec_of_balanced {action : Step Cursor} (h : Step.Balanced action) (s : RenderState) :
    Render.Spec action.run s
      (fun result t => match result with
        | .ok _ => s.Opens True t 0
        | .error _ => s.Opens True t 0) fun _ => True :=
  (h s).mono (fun result _ hresult => by cases result <;> exact hresult.1) fun _ => id

/-- An instruction that ends no indentation begins those that it says. -/
theorem step_succ (frame : Frame) (cursor : Cursor) (instr : Instr) (other : instr ≠ .dedent)
    (s : RenderState) :
    Render.Spec (TemplateMachine.step setting (fuel + 1) frame cursor instr).run s
      (fun result t => match result with
        | .ok _ => s.Opens True t instr.opens
        | .error _ => s.Opens True t 0) fun _ => True := by
  cases instr with
  | dedent => exact absurd rfl other
  | indent index =>
    rw [TemplateMachine.step]
    unfold Render.Spec
    rw [Step.outcome_run_bind]
    cases hfound : frame.template.text index with
    | error fault => exact .of_unseen rfl rfl rfl
    | ok text =>
      obtain ⟨indent, hlayout⟩ := s.writer.layout_pushIndentation text
      exact ⟨[], rfl, rfl, by simp, fun _ _ => ⟨[indent], congrArg Layout.indentation hlayout, rfl⟩⟩
  | write =>
    refine spec_of_balanced ?_ s
    rw [TemplateMachine.step]
    apply Step.Balanced.ofExcept.bind
    intro top
    apply (Step.Balanced.asStep Render.Balanced.position).bind
    intro start
    apply (Step.Balanced.asStep (ih.writeValue frame _ .empty)).bind
    intro n
    apply (Step.Balanced.asStep Render.Balanced.record).bind
    intro _
    exact Step.Balanced.pure _
  | writeOpt =>
    refine spec_of_balanced ?_ s
    rw [TemplateMachine.step]
    apply Step.Balanced.ofExcept.bind
    intro options
    apply Step.Balanced.ofExcept.bind
    intro top
    apply (Step.Balanced.asStep Render.Balanced.position).bind
    intro start
    apply (ih.writeWith frame _ _).bind
    intro n
    apply (Step.Balanced.asStep Render.Balanced.record).bind
    intro _
    exact Step.Balanced.pure _
  | writeStr index =>
    refine spec_of_balanced ?_ s
    rw [TemplateMachine.step]
    apply Step.Balanced.ofExcept.bind
    intro text
    refine (Step.Balanced.asStep (Render.Balanced.emit (Writer.keepsLayout_write text))).bind
      fun n => ?_
    exact Step.Balanced.pure _
  | writeLocal index =>
    refine spec_of_balanced ?_ s
    rw [TemplateMachine.step]
    apply Step.Balanced.ofExcept.bind
    intro value
    apply (Step.Balanced.asStep (ih.writeValue frame value .empty)).bind
    intro n
    exact Step.Balanced.pure _
  | toStr =>
    refine spec_of_balanced ?_ s
    rw [TemplateMachine.step]
    apply Step.Balanced.ofExcept.bind
    intro top
    dsimp only
    split
    · exact Step.Balanced.pure _
    · exact Step.Balanced.pure _
    · apply (Step.Balanced.asStep (ih.toText frame _)).bind
      intro text
      exact Step.Balanced.pure _
  | newline =>
    refine spec_of_balanced ?_ s
    rw [TemplateMachine.step]
    split
    · refine (Step.Balanced.asStep (Render.Balanced.emit (Writer.keepsLayout_write "\n"))).bind
        fun n => ?_
      exact Step.Balanced.pure _
    · exact Step.Balanced.pure _
  | br target =>
    refine spec_of_balanced ?_ s
    rw [TemplateMachine.step]
    exact Step.Balanced.ofExcept.bind fun target => Step.Balanced.pure _
  | brf target =>
    refine spec_of_balanced ?_ s
    rw [TemplateMachine.step]
    apply Step.Balanced.ofExcept.bind
    intro target
    exact Step.Balanced.ofExcept.bind fun top => Step.Balanced.pure _
  | _ =>
    refine spec_of_balanced ?_ s
    rw [step_of_isOperation rfl]
    apply Step.Balanced.ofExcept.bind
    intro result
    apply (Step.Balanced.asStep Render.Balanced.report).bind
    intro _
    exact Step.Balanced.pure _

/-- Writing with options is balanced. -/
theorem writeWith_succ (frame : Frame) (value : Value) (options : OptionRow Value) :
    Step.Balanced (TemplateMachine.writeWith setting (fuel + 1) frame value options) := by
  rw [TemplateMachine.writeWith]
  apply (Step.Balanced.asStep (ih.optionTexts frame options)).bind
  intro texts
  have hwrite := Step.Balanced.asStep (ih.writeValue frame value texts)
  split
  · apply (Step.Balanced.asStep Render.Balanced.pushAnchor).bind
    intro _
    exact hwrite.bind fun n => Step.Balanced.popAnchor.bind fun _ => Step.Balanced.pure n
  · exact hwrite

/-- Rendering options to texts is balanced. -/
theorem optionTexts_succ (frame : Frame) (options : OptionRow Value) :
    Render.Balanced (TemplateMachine.optionTexts setting (fuel + 1) frame options)
      fun _ => True := by
  rw [TemplateMachine.optionTexts]
  apply (ih.optionText frame _).bind
  intro anchor _
  apply (ih.optionText frame _).bind
  intro format _
  apply (ih.optionText frame _).bind
  intro null _
  apply (ih.optionText frame _).bind
  intro separator _
  exact (ih.optionText frame _).bind fun wrap _ => Render.Balanced.pure trivial

/-- Rendering an option to text is balanced. -/
theorem optionText_succ (frame : Frame) (value : Option Value) :
    Render.Balanced (TemplateMachine.optionText setting (fuel + 1) frame value) fun _ => True := by
  cases value with
  | none => exact Render.Balanced.pure trivial
  | some value =>
    rw [TemplateMachine.optionText]
    exact (ih.toText frame value).bind fun text _ => Render.Balanced.pure trivial

/-- Writing a value is balanced. -/
theorem writeValue_succ (frame : Frame) (value : Value) (options : OptionRow String) :
    Render.Balanced (TemplateMachine.writeValue setting (fuel + 1) frame value options)
      fun _ => True := by
  rw [TemplateMachine.writeValue]
  split
  · split
    · exact Render.Balanced.writeScalar
    · exact Render.Balanced.pure trivial
  split
  · apply Render.Balanced.tooDeep.bind
    intro deep _
    split
    · exact Render.Balanced.pure trivial
    · apply (Render.Balanced.emit (Writer.keepsLayout_writeWrap _)).bind
      intro n _
      exact (ih.exec _).bind fun m _ => Render.Balanced.pure trivial
  · exact ih.writeItems frame _ options 0 false
  · exact ih.writeItems frame _ options 0 false
  · exact Render.Balanced.writeScalar

/-- Writing the elements of a collection is balanced. -/
theorem writeItems_succ (frame : Frame) (items : List Value) (options : OptionRow String)
    (count : Nat) (seen : Bool) :
    Render.Balanced (TemplateMachine.writeItems setting (fuel + 1) frame items options count seen)
      fun _ => True := by
  cases items with
  | nil => exact Render.Balanced.pure trivial
  | cons item rest =>
    rw [writeItems_cons]
    split
    · exact ih.writeItems frame rest options count seen
    · apply Render.Balanced.separate.bind
      intro n _
      apply (ih.writeValue frame _ options).bind
      intro m _
      exact ih.writeItems frame rest options _ _

/-- Rendering a value to text is balanced. -/
theorem toText_succ (frame : Frame) (value : Value) :
    Render.Balanced (TemplateMachine.toText setting (fuel + 1) frame value) fun _ => True :=
  Render.Balanced.aside (ih.writeValue frame value .empty)

/-- Giving arguments their defaults is balanced and keeps the template. -/
theorem giveDefaults_succ (frame : Frame) (args : List FormalArg) :
    Render.Balanced (TemplateMachine.giveDefaults setting (fuel + 1) frame args) fun given =>
      given.template = frame.template := by
  cases args with
  | nil => exact Render.Balanced.pure rfl
  | cons arg rest =>
    rw [TemplateMachine.giveDefaults]
    split
    · exact (ih.defaultValue frame _).bind fun value _ => ih.giveDefaults _ rest
    · exact ih.giveDefaults frame rest

/-- Finding the value of a default is balanced. -/
theorem defaultValue_succ (frame : Frame) (default : DefaultValue) :
    Render.Balanced (TemplateMachine.defaultValue setting (fuel + 1) frame default)
      fun _ => True := by
  cases default with
  | literal value => exact Render.Balanced.pure trivial
  | template template eager =>
    rw [TemplateMachine.defaultValue]
    split
    · apply Render.Balanced.tooDeep.bind
      intro deep _
      split
      · exact Render.Balanced.pure trivial
      · exact (Render.Balanced.aside (ih.exec _)).bind fun text _ => Render.Balanced.pure trivial
    · exact Render.Balanced.pure trivial

omit ih in
/-- Whatever the machine is asked to do is balanced. -/
theorem all (fuel : Nat) : MachineBalances setting fuel := by
  induction fuel with
  | zero => exact zero
  | succ fuel ih =>
    exact {
      exec := exec_succ ih
      run := run_succ ih
      step := step_succ ih
      writeWith := writeWith_succ ih
      optionTexts := optionTexts_succ ih
      optionText := optionText_succ ih
      writeValue := writeValue_succ ih
      writeItems := writeItems_succ ih
      toText := toText_succ ih
      giveDefaults := giveDefaults_succ ih
      defaultValue := defaultValue_succ ih }

end MachineBalances

end TemplateMachine
