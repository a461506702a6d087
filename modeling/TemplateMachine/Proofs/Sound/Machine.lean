import TemplateMachine.Proofs.Render.Computation
import TemplateMachine.Proofs.Sound.Operation

/-!
# The machine keeps data sound

Whatever the machine runs on sound data works on sound data throughout: every frame that it begins
and every operand stack that it comes to is sound, and no message is about an operand out of range.
This holds at every moment and so also for what a render has done when it is out of fuel.

What is asked of the property of templates is that it makes all operands of a program fit. If it
survives admitted names of arguments only, data are sound as long as no instruction has given an
argument of another name to an instance that declares it; the marks of the render show whether one
has. Nothing is said about what is written.
-/

namespace TemplateMachine

variable {T : Template → Prop} {N : String → Prop} {setting : Setting} {α β : Type}

/-- The frame of a mark is sound. An instruction that it comes to is one of its template and finds
sound operands, and a fault that abandons it is not about an operand out of range. -/
def Mark.Sound (T : Template → Prop) (mark : Mark) : Prop :=
  mark.frame.Sound T ∧
    match mark.deed with
    | .begun => True
    | .reached cursor instr => cursor.stack.Sound T ∧ instr ∈ mark.frame.template.program
    | .abandoned _ fault => fault.isOutOfRange = false

/-- An instruction that the frame of a mark comes to gives admitted names only. -/
def Mark.Admits (N : String → Prop) (setting : Setting) (mark : Mark) : Prop :=
  ∀ cursor instr, mark.deed = .reached cursor instr →
    ∀ name, mark.frame.GivesNamed setting cursor.stack instr name → N name

/-- No message so far is about an operand out of range, and every mark is sound. -/
structure RenderState.Sound (T : Template → Prop) (s : RenderState) : Prop where
  messages : ∀ message ∈ s.messages, message.problem.isOutOfRange = false
  trail : ∀ mark ∈ s.trail, mark.Sound T

/-- A computation adds to the marks. If they admit the names that were given in the end, if a
precondition holds and the state is sound before, then it is sound afterwards, and the result has a
property. -/
def Keeps (T : Template → Prop) (N : String → Prop) (setting : Setting) (pre : Prop)
    (action : Render α) (P : α → Prop) : Prop :=
  ∀ s : RenderState, Render.Spec action s
    (fun a t => s.trail ⊆ t.trail ∧
      ((∀ mark ∈ t.trail, mark.Admits N setting) → pre → s.Sound T → t.Sound T ∧ P a))
    (fun t => s.trail ⊆ t.trail ∧
      ((∀ mark ∈ t.trail, mark.Admits N setting) → pre → s.Sound T → t.Sound T))

namespace Keeps

variable {pre : Prop} {action : Render α} {P : α → Prop} {Q : β → Prop}

/-- A pure computation keeps the state. -/
theorem pure {a : α} (h : pre → P a) : Keeps T N setting pre (pure a) P :=
  fun _ => ⟨List.Subset.refl _, fun _ hpre sound => ⟨sound, h hpre⟩⟩

/-- Being out of fuel keeps the state. -/
theorem failure : Keeps T N setting pre (failure : Render α) P :=
  fun _ => ⟨List.Subset.refl _, fun _ _ sound => sound⟩

/-- What keeps the state under a precondition does so under a stronger one. -/
theorem weaken (h : Keeps T N setting pre action P) {stronger : Prop} (hpre : stronger → pre) :
    Keeps T N setting stronger action P :=
  fun s => (h s).mono (fun _ _ ha => ⟨ha.1, fun admits => ha.2 admits ∘ hpre⟩)
    fun _ ht => ⟨ht.1, fun admits => ht.2 admits ∘ hpre⟩

/-- A sequence keeps what its parts keep. What the first part gives is a precondition of the second
one, and marks that admit all names at the end have admitted them in between. -/
theorem bind (h : Keeps T N setting pre action P) {f : α → Render β}
    (hf : ∀ a, Keeps T N setting (pre ∧ P a) (f a) Q) :
    Keeps T N setting pre (action >>= f) Q := by
  intro s
  have hfirst := h s
  unfold Render.Spec at hfirst ⊢
  rw [Render.outcome_bind]
  rcases hends : Render.outcome action s with ⟨_ | a, t⟩ <;> rw [hends] at hfirst
  · exact hfirst
  obtain ⟨grows, sound⟩ := hfirst
  refine (hf a t).mono (fun b u hb => ?_) fun u hu => ?_
  · refine ⟨List.Subset.trans grows hb.1, fun admits hpre hs => ?_⟩
    obtain ⟨ht, ha⟩ := sound (fun mark mem => admits mark (hb.1 mem)) hpre hs
    exact hb.2 admits ⟨hpre, ha⟩ ht
  · refine ⟨List.Subset.trans grows hu.1, fun admits hpre hs => ?_⟩
    obtain ⟨ht, ha⟩ := sound (fun mark mem => admits mark (hu.1 mem)) hpre hs
    exact hu.2 admits ⟨hpre, ha⟩ ht

/-- A computation that keeps something ends or stops in a sound state. -/
theorem finish (h : Keeps T N setting pre action P) (hpre : pre) {s : RenderState}
    (sound : s.Sound T) (admits : ∀ mark ∈ (Render.outcome action s).2.trail,
      mark.Admits N setting) : (Render.outcome action s).2.Sound T := by
  have hspec := h s
  unfold Render.Spec at hspec
  rcases hends : Render.outcome action s with ⟨_ | a, t⟩ <;> rw [hends] at hspec admits
  · exact hspec.2 admits hpre sound
  · exact (hspec.2 admits hpre sound).1

/-- A computation that ends and changes neither messages nor marks keeps the state. -/
theorem of_unseen (h : ∀ s, ∃ a t, Render.outcome action s = (some a, t) ∧
    t.messages = s.messages ∧ t.trail = s.trail ∧ P a) : Keeps T N setting pre action P := by
  intro s
  obtain ⟨a, t, hends, hmessages, htrail, ha⟩ := h s
  refine Render.spec_of_eq hends ⟨htrail ▸ List.Subset.refl _, fun _ _ sound => ⟨?_, ha⟩⟩
  exact ⟨hmessages ▸ sound.messages, htrail ▸ sound.trail⟩

variable {frame : Frame}

/-- Reporting problems in range keeps the state. -/
theorem report {problems : List Problem} (inRange : pre → InRange problems) :
    Keeps T N setting pre (Render.report frame problems) fun _ => True := by
  intro s
  refine Render.spec_of_eq (Render.outcome_report frame problems s)
    ⟨List.Subset.refl _, fun _ hpre sound => ⟨⟨?_, sound.trail⟩, trivial⟩⟩
  intro message mem
  rcases List.mem_append.mp mem with new | old
  · obtain ⟨problem, hproblem, rfl⟩ := List.mem_map.mp (List.mem_reverse.mp new)
    exact inRange hpre problem hproblem
  · exact sound.messages message old

/-- Trying an operation on the writer keeps the state. -/
theorem attempt {operation : Attempt Writer α} :
    Keeps T N setting pre (Render.attempt operation) fun _ => True :=
  of_unseen fun s => ⟨_, _, Render.outcome_attempt operation s, rfl, rfl, trivial⟩

/-- Writing keeps the state. -/
theorem emit {operation : Attempt Writer Nat} :
    Keeps T N setting pre (Render.emit frame operation) fun _ => True := by
  refine attempt.bind fun result => ?_
  cases result with
  | ok n => exact pure fun _ => trivial
  | error error =>
    exact (report fun _ => by simp [Problem.isOutOfRange]).bind fun _ => pure fun _ => trivial

/-- Recording an event keeps the state. -/
theorem record {kind : EventKind} {start : Nat} :
    Keeps T N setting pre (Render.record frame kind start) fun _ => True :=
  of_unseen fun s => ⟨_, _, Render.outcome_record frame kind start s, rfl, rfl, trivial⟩

/-- Leaving a sound mark keeps the state, and the mark admits the names that are given. -/
theorem mark {deed : Deed} (sound : pre → ∀ aside, (Mark.mk aside frame deed).Sound T) :
    Keeps T N setting pre (Render.mark frame deed)
      fun _ => ∀ aside, (Mark.mk aside frame deed).Admits N setting := by
  intro s
  refine Render.spec_of_eq (Render.outcome_mark frame deed s)
    ⟨List.subset_cons_self _ _, fun admits hpre hs => ⟨⟨hs.messages, ?_⟩, fun _ => ?_⟩⟩
  · exact List.forall_mem_cons.mpr ⟨sound hpre s.aside, hs.trail⟩
  · exact admits ⟨s.aside, frame, deed⟩ List.mem_cons_self

/-- Reading the position keeps the state. -/
theorem position : Keeps T N setting pre Render.position fun _ => True :=
  of_unseen fun s => ⟨_, _, Render.outcome_position s, rfl, rfl, trivial⟩

/-- Beginning an indentation keeps the state. -/
theorem pushIndentation {indent : String} :
    Keeps T N setting pre (Render.pushIndentation indent) fun _ => True :=
  of_unseen fun s => ⟨_, _, Render.outcome_pushIndentation indent s, rfl, rfl, trivial⟩

/-- Putting an anchor keeps the state. -/
theorem pushAnchor : Keeps T N setting pre Render.pushAnchor fun _ => True :=
  of_unseen fun s => ⟨_, _, Render.outcome_pushAnchor s, rfl, rfl, trivial⟩

/-- Rendering to a text of its own keeps the state if what is rendered does. -/
theorem aside {inner : Render Nat} (h : Keeps T N setting pre inner fun _ => True) :
    Keeps T N setting pre (Render.aside inner) fun _ => True := by
  intro s
  have hinner := h { s with writer := s.writer.fork, events := none, aside := s.aside + 1 }
  unfold Render.Spec at hinner ⊢
  rw [Render.outcome_aside]
  rcases hends : Render.outcome inner _ with ⟨_ | n, t⟩ <;> rw [hends] at hinner
  · exact ⟨hinner.1, fun admits hpre sound => hinner.2 admits hpre ⟨sound.messages, sound.trail⟩⟩
  · refine ⟨hinner.1, fun admits hpre sound => ⟨?_, trivial⟩⟩
    obtain ⟨⟨messages, trail⟩, -⟩ := hinner.2 admits hpre ⟨sound.messages, sound.trail⟩
    exact ⟨messages, trail⟩

/-- Looking out for nesting that is too deep keeps the state. -/
theorem tooDeep {setting' : Setting} :
    Keeps T N setting pre (Render.tooDeep setting' frame) fun _ => True := by
  unfold Render.tooDeep
  split
  · exact (report fun _ => by simp [Problem.isOutOfRange]).bind fun _ => pure fun _ => trivial
  · exact pure fun _ => trivial

/-- Writing a separator, or none, keeps the state. -/
theorem separate {options : OptionRow String} {seen : Bool} :
    Keeps T N setting pre (TemplateMachine.separate frame options seen) fun _ => True := by
  unfold TemplateMachine.separate
  split
  · split
    · exact emit
    · exact pure fun _ => trivial
  · exact pure fun _ => trivial

/-- Writing a scalar value keeps the state. -/
theorem writeScalar {setting' : Setting} {value : Value} {options : OptionRow String} :
    Keeps T N setting pre (Render.writeScalar setting' frame value options) fun _ => True :=
  emit

end Keeps

/-- A step keeps the state under a precondition. Its result has a property, and a fault in which it
ends is not about an operand out of range. -/
def KeepsStep (T : Template → Prop) (N : String → Prop) (setting : Setting) (pre : Prop)
    (action : Step α) (P : α → Prop) : Prop :=
  Keeps T N setting pre action.run fun result => Gives result P

namespace KeepsStep

variable {pre : Prop} {action : Step α} {P : α → Prop} {Q : β → Prop}

/-- A pure step keeps the state. -/
theorem pure {a : α} (h : pre → P a) : KeepsStep T N setting pre (pure a) P :=
  Keeps.pure fun hpre => gives_pure (h hpre)

/-- A sequence of steps keeps what its parts keep. -/
theorem bind (h : KeepsStep T N setting pre action P) {f : α → Step β}
    (hf : ∀ a, KeepsStep T N setting (pre ∧ P a) (f a) Q) :
    KeepsStep T N setting pre (action >>= f) Q := by
  refine Keeps.bind h fun result => ?_
  cases result with
  | ok a => exact hf a
  | error fault => exact Keeps.pure fun hpre => hpre.2

/-- What keeps the state under a precondition does so under a stronger one. -/
theorem weaken (h : KeepsStep T N setting pre action P) {stronger : Prop}
    (hpre : stronger → pre) : KeepsStep T N setting stronger action P :=
  Keeps.weaken h hpre

/-- A render without a fault keeps the same as a step. -/
theorem asStep {action : Render α} (h : Keeps T N setting pre action P) :
    KeepsStep T N setting pre action.asStep P :=
  h.bind fun _ => Keeps.pure fun hpre => gives_pure hpre.2

/-- A value or a fault keeps the state. -/
theorem ofExcept {result : Except Fault α} (gives : pre → Gives result P) :
    KeepsStep T N setting pre (Step.ofExcept result) P :=
  Keeps.pure gives

/-- A required operation on the writer keeps the state. -/
theorem require {operation : Attempt Writer α} :
    KeepsStep T N setting pre (Step.require operation) fun _ => True := by
  refine Keeps.attempt.bind fun result => ?_
  cases result with
  | ok a => exact Keeps.pure fun _ => gives_pure trivial
  | error error => exact Keeps.pure fun _ => rfl

end KeepsStep

/-- The entries of a row of options are sound. -/
def OptionRow.Sound (T : Template → Prop) (options : OptionRow Value) : Prop :=
  ∀ option value, options.get? option = some value → value.Sound T

/-- What an instruction asks of the frame and the cursor that it is come to with: both are sound,
its operands fit, and the names that it gives are admitted. -/
structure StepReady (T : Template → Prop) (N : String → Prop) (setting : Setting) (frame : Frame)
    (cursor : Cursor) (instr : Instr) : Prop where
  sound : frame.Sound T
  stack : cursor.stack.Sound T
  fits : frame.template.Fits instr
  admitted : ∀ name, frame.GivesNamed setting cursor.stack instr name → N name

/-- With a certain amount of fuel, all that the machine can be asked to do keeps the state sound. -/
structure MachineKeeps (T : Template → Prop) (N : String → Prop) (setting : Setting) (fuel : Nat) :
    Prop where
  exec (frame : Frame) :
    Keeps T N setting (frame.Sound T) (exec setting fuel frame) fun _ => True
  run (frame : Frame) (cursor : Cursor) :
    Keeps T N setting (frame.Sound T ∧ cursor.stack.Sound T) (run setting fuel frame cursor)
      fun _ => True
  step (frame : Frame) (cursor : Cursor) (instr : Instr) :
    KeepsStep T N setting (StepReady T N setting frame cursor instr)
      (step setting fuel frame cursor instr) fun cursor => cursor.stack.Sound T
  writeWith (frame : Frame) (value : Value) (options : OptionRow Value) :
    KeepsStep T N setting (frame.Sound T ∧ value.Sound T ∧ options.Sound T)
      (writeWith setting fuel frame value options) fun _ => True
  optionTexts (frame : Frame) (options : OptionRow Value) :
    Keeps T N setting (frame.Sound T ∧ options.Sound T) (optionTexts setting fuel frame options)
      fun _ => True
  optionText (frame : Frame) (value : Option Value) :
    Keeps T N setting (frame.Sound T ∧ ∀ v, value = some v → v.Sound T)
      (optionText setting fuel frame value) fun _ => True
  writeValue (frame : Frame) (value : Value) (options : OptionRow String) :
    Keeps T N setting (frame.Sound T ∧ value.Sound T) (writeValue setting fuel frame value options)
      fun _ => True
  writeItems (frame : Frame) (items : List Value) (options : OptionRow String) (count : Nat)
    (seen : Bool) :
    Keeps T N setting (frame.Sound T ∧ ∀ item ∈ items, item.Sound T)
      (writeItems setting fuel frame items options count seen) fun _ => True
  toText (frame : Frame) (value : Value) :
    Keeps T N setting (frame.Sound T ∧ value.Sound T) (toText setting fuel frame value)
      fun _ => True
  giveDefaults (frame : Frame) (args : List FormalArg) :
    Keeps T N setting (frame.Sound T ∧
        ∀ arg ∈ args, ∀ default, arg.default? = some default → default.Sound T)
      (giveDefaults setting fuel frame args) fun frame => frame.Sound T
  defaultValue (frame : Frame) (default : DefaultValue) :
    Keeps T N setting (frame.Sound T ∧ default.Sound T) (defaultValue setting fuel frame default)
      fun value => value.Sound T

namespace MachineKeeps

variable {fuel : Nat}

/-- Without fuel the machine does nothing. -/
theorem zero : MachineKeeps T N setting 0 := by
  constructor <;> intros <;> exact Keeps.failure

variable (hereditary : Hereditary T N) (catalog : setting.catalog.Sound T)
  (fits : ∀ template, T template → ∀ instr ∈ template.program, template.Fits instr)
  (ih : MachineKeeps T N setting fuel)

include ih in
/-- Beginning a template keeps the state sound. -/
theorem exec_succ (frame : Frame) :
    Keeps T N setting (frame.Sound T) (TemplateMachine.exec setting (fuel + 1) frame)
      fun _ => True := by
  rw [TemplateMachine.exec]
  refine (Keeps.mark fun sound _ => ⟨sound, trivial⟩).bind fun _ => ?_
  refine ((ih.giveDefaults frame _).weaken fun ⟨sound, _⟩ =>
    ⟨sound, sound.running.template.defaults⟩).bind fun given => ?_
  refine Keeps.position.bind fun start => ?_
  refine ((ih.run given .start).weaken fun ⟨⟨_, sound⟩, _⟩ =>
    ⟨sound, by simp [Stack.Sound, Cursor.start]⟩).bind fun count => ?_
  exact Keeps.record.bind fun _ => Keeps.pure fun _ => trivial

include fits ih in
/-- Running a program keeps the state sound. -/
theorem run_succ (frame : Frame) (cursor : Cursor) :
    Keeps T N setting (frame.Sound T ∧ cursor.stack.Sound T)
      (TemplateMachine.run setting (fuel + 1) frame cursor) fun _ => True := by
  rw [TemplateMachine.run]
  split
  · exact Keeps.pure fun _ => trivial
  · rename_i instr here
    have hinstr : instr ∈ frame.template.program := List.mem_of_getElem? here
    have hhere (sound : frame.Sound T) : Frame.Sound T { frame with ip := cursor.ip } :=
      sound.at cursor.ip
    -- The mark that is left here is what tells which names the instruction gives.
    refine Keeps.bind (Keeps.mark fun ⟨sound, stack⟩ _ => ⟨hhere sound, stack, hinstr⟩) fun _ => ?_
    refine Keeps.bind ((ih.step _ cursor instr).weaken fun ⟨⟨sound, stack⟩, admits⟩ =>
      ⟨hhere sound, stack, fits _ sound.running.template.holds instr hinstr,
        admits 0 cursor instr rfl⟩) fun result => ?_
    cases result with
    | ok next => exact (ih.run frame next).weaken fun ⟨⟨⟨sound, _⟩, _⟩, stack⟩ => ⟨sound, stack⟩
    | error fault =>
      refine Keeps.bind (Keeps.mark fun ⟨⟨⟨sound, _⟩, _⟩, hfault⟩ _ => ⟨hhere sound, hfault⟩)
        fun _ => ?_
      refine Keeps.bind (Keeps.report fun ⟨⟨_, hfault⟩, _⟩ => ?_) fun _ =>
        Keeps.pure fun _ => trivial
      have inRange : fault.isOutOfRange = false := hfault
      simpa [Problem.isOutOfRange] using inRange

include hereditary catalog in
/-- An instruction that only works on the operands keeps the state sound. -/
theorem step_operation (frame : Frame) (cursor : Cursor) {instr : Instr}
    (operation : instr.isOperation = true) :
    KeepsStep T N setting (StepReady T N setting frame cursor instr)
      (TemplateMachine.step setting (fuel + 1) frame cursor instr) fun cursor =>
        cursor.stack.Sound T := by
  rw [step_of_isOperation operation]
  refine (KeepsStep.ofExcept fun ready => ready.sound.gives_operate hereditary catalog ready.stack
    ready.fits ready.admitted).bind fun result => ?_
  refine (KeepsStep.asStep (Keeps.report fun ⟨_, hresult⟩ => hresult.2)).bind fun _ => ?_
  exact KeepsStep.pure fun ⟨⟨_, hresult⟩, _⟩ => hresult.1

include hereditary catalog ih in
/-- A step keeps the state sound. -/
theorem step_succ (frame : Frame) (cursor : Cursor) (instr : Instr) :
    KeepsStep T N setting (StepReady T N setting frame cursor instr)
      (TemplateMachine.step setting (fuel + 1) frame cursor instr) fun cursor =>
        cursor.stack.Sound T := by
  cases instr with
  | write =>
    rw [TemplateMachine.step]
    refine (KeepsStep.ofExcept fun ready => ready.stack.gives_pop).bind fun top => ?_
    refine (KeepsStep.asStep Keeps.position).bind fun start => ?_
    refine (KeepsStep.asStep ((ih.writeValue frame _ .empty).weaken ?_)).bind fun n => ?_
    · rintro ⟨⟨ready, top⟩, -⟩
      exact ⟨ready.sound, top.1⟩
    refine (KeepsStep.asStep Keeps.record).bind fun _ => KeepsStep.pure ?_
    rintro ⟨⟨⟨⟨-, top⟩, -⟩, -⟩, -⟩
    exact top.2
  | writeOpt =>
    rw [TemplateMachine.step]
    refine (KeepsStep.ofExcept fun ready => ready.stack.gives_popOptions).bind fun options => ?_
    refine (KeepsStep.ofExcept fun ready => ready.2.2.gives_pop).bind fun top => ?_
    refine (KeepsStep.asStep Keeps.position).bind fun start => ?_
    refine ((ih.writeWith frame _ _).weaken ?_).bind fun n => ?_
    · rintro ⟨⟨⟨ready, options⟩, top⟩, -⟩
      exact ⟨ready.sound, top.1, options.1⟩
    refine (KeepsStep.asStep Keeps.record).bind fun _ => KeepsStep.pure ?_
    rintro ⟨⟨⟨⟨-, top⟩, -⟩, -⟩, -⟩
    exact top.2
  | writeStr index =>
    rw [TemplateMachine.step]
    refine (KeepsStep.ofExcept fun ready => Template.gives_text
      (ready.fits _ (by simp [Instr.operands]))).bind fun text => ?_
    refine (KeepsStep.asStep Keeps.emit).bind fun n => KeepsStep.pure ?_
    rintro ⟨⟨ready, -⟩, -⟩
    exact ready.stack
  | writeLocal index =>
    rw [TemplateMachine.step]
    refine (KeepsStep.ofExcept fun ready => ready.sound.running.gives_readSlot
      (ready.fits _ (by simp [Instr.operands]))).bind fun value => ?_
    refine (KeepsStep.asStep ((ih.writeValue frame value .empty).weaken ?_)).bind fun n => ?_
    · rintro ⟨ready, hvalue⟩
      exact ⟨ready.sound, hvalue⟩
    refine KeepsStep.pure ?_
    rintro ⟨⟨ready, -⟩, -⟩
    exact ready.stack
  | toStr =>
    rw [TemplateMachine.step]
    refine (KeepsStep.ofExcept fun ready => ready.stack.gives_pop).bind fun top => ?_
    obtain ⟨value, rest⟩ := top
    dsimp only
    split
    · exact KeepsStep.pure fun ready => ready.2.2.push ready.2.1
    · exact KeepsStep.pure fun ready => ready.2.2.push ready.2.1
    · refine (KeepsStep.asStep ((ih.toText frame value).weaken ?_)).bind fun text => ?_
      · rintro ⟨ready, top⟩
        exact ⟨ready.sound, top.1⟩
      refine KeepsStep.pure ?_
      rintro ⟨⟨-, top⟩, -⟩
      exact top.2.push (.string text)
  | indent index =>
    rw [TemplateMachine.step]
    refine (KeepsStep.ofExcept fun ready => Template.gives_text
      (ready.fits _ (by simp [Instr.operands]))).bind fun text => ?_
    refine (KeepsStep.asStep Keeps.pushIndentation).bind fun _ => KeepsStep.pure ?_
    rintro ⟨⟨ready, -⟩, -⟩
    exact ready.stack
  | dedent =>
    rw [TemplateMachine.step]
    exact KeepsStep.require.bind fun _ => KeepsStep.pure fun ready => ready.1.stack
  | newline =>
    rw [TemplateMachine.step]
    split
    · exact (KeepsStep.asStep Keeps.emit).bind fun n => KeepsStep.pure fun ready => ready.1.stack
    · exact KeepsStep.pure fun ready => ready.stack
  | br target =>
    rw [TemplateMachine.step]
    refine (KeepsStep.ofExcept fun ready => Template.gives_jumpTarget
      (ready.fits _ (by simp [Instr.operands]))).bind fun target => ?_
    exact KeepsStep.pure fun ready => ready.1.stack
  | brf target =>
    rw [TemplateMachine.step]
    refine (KeepsStep.ofExcept fun ready => Template.gives_jumpTarget
      (ready.fits _ (by simp [Instr.operands]))).bind fun target => ?_
    refine (KeepsStep.ofExcept fun ready => ready.1.stack.gives_pop).bind fun top => ?_
    exact KeepsStep.pure fun ready => ready.2.2
  | _ => exact step_operation hereditary catalog frame cursor rfl

include ih

/-- Writing with options keeps the state sound. -/
theorem writeWith_succ (frame : Frame) (value : Value) (options : OptionRow Value) :
    KeepsStep T N setting (frame.Sound T ∧ value.Sound T ∧ options.Sound T)
      (TemplateMachine.writeWith setting (fuel + 1) frame value options) fun _ => True := by
  rw [TemplateMachine.writeWith]
  refine (KeepsStep.asStep ((ih.optionTexts frame options).weaken fun ⟨sound, _, hoptions⟩ =>
    ⟨sound, hoptions⟩)).bind fun texts => ?_
  have hwrite := KeepsStep.asStep (ih.writeValue frame value texts)
  split
  · refine (KeepsStep.asStep Keeps.pushAnchor).bind fun _ => ?_
    refine (hwrite.weaken fun ⟨⟨⟨sound, hvalue, _⟩, _⟩, _⟩ => ⟨sound, hvalue⟩).bind fun n => ?_
    exact KeepsStep.require.bind fun _ => KeepsStep.pure fun _ => trivial
  · exact hwrite.weaken fun ⟨⟨sound, hvalue, _⟩, _⟩ => ⟨sound, hvalue⟩

/-- Rendering options to texts keeps the state sound. -/
theorem optionTexts_succ (frame : Frame) (options : OptionRow Value) :
    Keeps T N setting (frame.Sound T ∧ options.Sound T)
      (TemplateMachine.optionTexts setting (fuel + 1) frame options) fun _ => True := by
  rw [TemplateMachine.optionTexts]
  have htext (option : WriteOption) : Keeps T N setting (frame.Sound T ∧ options.Sound T)
      (TemplateMachine.optionText setting fuel frame (options.get? option)) fun _ => True :=
    (ih.optionText frame _).weaken fun ⟨sound, hoptions⟩ => ⟨sound, hoptions option⟩
  refine (htext .anchor).bind fun anchor => ?_
  refine ((htext .format).weaken fun pre => pre.1).bind fun format => ?_
  refine ((htext .null).weaken fun pre => pre.1.1).bind fun null => ?_
  refine ((htext .separator).weaken fun pre => pre.1.1.1).bind fun separator => ?_
  refine ((htext .wrap).weaken fun pre => pre.1.1.1.1).bind fun wrap => ?_
  exact Keeps.pure fun _ => trivial

/-- Rendering an option to text keeps the state sound. -/
theorem optionText_succ (frame : Frame) (value : Option Value) :
    Keeps T N setting (frame.Sound T ∧ ∀ v, value = some v → v.Sound T)
      (TemplateMachine.optionText setting (fuel + 1) frame value) fun _ => True := by
  cases value with
  | none => exact Keeps.pure fun _ => trivial
  | some value =>
    rw [TemplateMachine.optionText]
    refine ((ih.toText frame value).weaken fun ⟨sound, hvalue⟩ =>
      ⟨sound, hvalue value rfl⟩).bind fun text => ?_
    exact Keeps.pure fun _ => trivial

include catalog in
/-- Writing a value keeps the state sound. -/
theorem writeValue_succ (frame : Frame) (value : Value) (options : OptionRow String) :
    Keeps T N setting (frame.Sound T ∧ value.Sound T)
      (TemplateMachine.writeValue setting (fuel + 1) frame value options) fun _ => True := by
  rw [TemplateMachine.writeValue]
  split
  · split
    · exact Keeps.writeScalar
    · exact Keeps.pure fun _ => trivial
  have hstandIn (hvalue : value.Sound T) := Frame.sound_standIn catalog frame hvalue
  split
  · rename_i inst hinst
    rw [hinst] at hstandIn
    refine Keeps.tooDeep.bind fun deep => ?_
    split
    · exact Keeps.pure fun _ => trivial
    · refine Keeps.emit.bind fun n => ?_
      refine ((ih.exec _).weaken fun ⟨⟨⟨sound, hvalue⟩, _⟩, _⟩ =>
        sound.child (Value.sound_template_iff.mp (hstandIn hvalue))).bind fun m => ?_
      exact Keeps.pure fun _ => trivial
  · rename_i items hitems
    rw [hitems] at hstandIn
    exact (ih.writeItems frame items options 0 false).weaken fun ⟨sound, hvalue⟩ =>
      ⟨sound, Value.sound_list_iff.mp (hstandIn hvalue)⟩
  · rename_i entries hentries
    rw [hentries] at hstandIn
    exact (ih.writeItems frame _ options 0 false).weaken fun ⟨sound, hvalue⟩ =>
      ⟨sound, (hstandIn hvalue).elements⟩
  · exact Keeps.writeScalar

/-- Writing the elements of a collection keeps the state sound. -/
theorem writeItems_succ (frame : Frame) (items : List Value) (options : OptionRow String)
    (count : Nat) (seen : Bool) :
    Keeps T N setting (frame.Sound T ∧ ∀ item ∈ items, item.Sound T)
      (TemplateMachine.writeItems setting (fuel + 1) frame items options count seen)
      fun _ => True := by
  cases items with
  | nil => exact Keeps.pure fun _ => trivial
  | cons item rest =>
    have hrest (hitems : ∀ other ∈ item :: rest, other.Sound T) : ∀ other ∈ rest, other.Sound T :=
      (List.forall_mem_cons.mp hitems).2
    rw [writeItems_cons]
    split
    · exact (ih.writeItems frame rest options count seen).weaken fun ⟨sound, hitems⟩ =>
        ⟨sound, hrest hitems⟩
    · rename_i value written
      have hvalue (hitems : ∀ other ∈ item :: rest, other.Sound T) : value.Sound T := by
        obtain rfl | ⟨text, rfl⟩ := eq_or_string_of_written written
        · exact hitems value List.mem_cons_self
        · exact .string text
      refine Keeps.separate.bind fun n => ?_
      refine ((ih.writeValue frame value options).weaken fun ⟨⟨sound, hitems⟩, _⟩ =>
        ⟨sound, hvalue hitems⟩).bind fun m => ?_
      exact (ih.writeItems frame rest options _ _).weaken fun ⟨⟨⟨sound, hitems⟩, _⟩, _⟩ =>
        ⟨sound, hrest hitems⟩

/-- Rendering a value to text keeps the state sound. -/
theorem toText_succ (frame : Frame) (value : Value) :
    Keeps T N setting (frame.Sound T ∧ value.Sound T)
      (TemplateMachine.toText setting (fuel + 1) frame value) fun _ => True :=
  Keeps.aside (ih.writeValue frame value .empty)

/-- Giving arguments their defaults keeps the state and the frame sound. -/
theorem giveDefaults_succ (frame : Frame) (args : List FormalArg) :
    Keeps T N setting (frame.Sound T ∧
        ∀ arg ∈ args, ∀ default, arg.default? = some default → default.Sound T)
      (TemplateMachine.giveDefaults setting (fuel + 1) frame args) fun frame =>
        frame.Sound T := by
  cases args with
  | nil => exact Keeps.pure fun ⟨sound, _⟩ => sound
  | cons arg rest =>
    rw [TemplateMachine.giveDefaults]
    split
    · rename_i default hdefault hunset
      refine ((ih.defaultValue frame default).weaken fun ⟨sound, defaults⟩ =>
        ⟨sound, defaults arg List.mem_cons_self default hdefault⟩).bind fun value => ?_
      exact (ih.giveDefaults _ rest).weaken fun ⟨⟨sound, defaults⟩, hvalue⟩ =>
        ⟨sound.withRunning (sound.running.setSlot hvalue _), (List.forall_mem_cons.mp defaults).2⟩
    · exact (ih.giveDefaults frame rest).weaken fun ⟨sound, defaults⟩ =>
        ⟨sound, (List.forall_mem_cons.mp defaults).2⟩

/-- Finding the value of a default keeps the state sound. -/
theorem defaultValue_succ (frame : Frame) (default : DefaultValue) :
    Keeps T N setting (frame.Sound T ∧ default.Sound T)
      (TemplateMachine.defaultValue setting (fuel + 1) frame default) fun value =>
        value.Sound T := by
  cases default with
  | literal value => exact Keeps.pure fun ⟨_, hdefault⟩ => DefaultValue.sound_literal_iff.mp hdefault
  | template template eager =>
    have hinst (hdefault : DefaultValue.Sound T (.template template eager)) :=
      (DefaultValue.sound_template_iff.mp hdefault).ofTemplate frame.running.group
    rw [TemplateMachine.defaultValue]
    split
    · refine Keeps.tooDeep.bind fun deep => ?_
      split
      · exact Keeps.pure fun _ => .string ""
      · refine (Keeps.aside ((ih.exec _).weaken fun ⟨⟨sound, hdefault⟩, _⟩ =>
          sound.child (hinst hdefault))).bind fun text => ?_
        exact Keeps.pure fun _ => .string text
    · exact Keeps.pure fun ⟨_, hdefault⟩ => .template (hinst hdefault)

omit ih in
include hereditary catalog fits in
/-- Whatever the machine is asked to do on sound data, it keeps the state sound. -/
theorem all (fuel : Nat) : MachineKeeps T N setting fuel := by
  induction fuel with
  | zero => exact zero
  | succ fuel ih =>
    exact {
      exec := exec_succ ih
      run := run_succ fits ih
      step := step_succ hereditary catalog ih
      writeWith := writeWith_succ ih
      optionTexts := optionTexts_succ ih
      optionText := optionText_succ ih
      writeValue := writeValue_succ catalog ih
      writeItems := writeItems_succ ih
      toText := toText_succ ih
      giveDefaults := giveDefaults_succ ih
      defaultValue := defaultValue_succ ih }

end MachineKeeps

/-- A render of a sound instance with sound groups comes to sound data only, if the names are
admitted that it gives to instances which declare them. -/
theorem Instance.Sound.execute_of_admits (hereditary : Hereditary T N) {catalog : Catalog}
    (groups : catalog.Sound T)
    (fits : ∀ template : Template, T template → ∀ instr ∈ template.program, template.Fits instr)
    {inst : Instance} (sound : inst.Sound T) (settings : RenderSettings) (sink : Sink)
    (withEvents : Bool) (fuel : Nat)
    (admits : ∀ mark ∈ (inst.execute catalog settings sink withEvents fuel).2.trail,
      mark.Admits N (settings.setting catalog inst)) :
    (inst.execute catalog settings sink withEvents fuel).2.Sound T := by
  have hcatalog : (settings.setting catalog inst).catalog.Sound T := groups
  have hkeeps := (MachineKeeps.all hereditary hcatalog fits fuel).exec (.root inst)
  have hstart : (RenderState.start (settings.writer sink) withEvents).Sound T :=
    ⟨by simp [RenderState.start], by simp [RenderState.start]⟩
  exact hkeeps.finish (Frame.sound_root sound) hstart admits

/-- A render of a sound instance with sound groups comes to sound data only. -/
theorem Instance.Sound.execute (hereditary : Hereditary T) {catalog : Catalog}
    (groups : catalog.Sound T)
    (fits : ∀ template : Template, T template → ∀ instr ∈ template.program, template.Fits instr)
    {inst : Instance} (sound : inst.Sound T) (settings : RenderSettings) (sink : Sink)
    (withEvents : Bool) (fuel : Nat) :
    (inst.execute catalog settings sink withEvents fuel).2.Sound T :=
  sound.execute_of_admits hereditary groups fits settings sink withEvents fuel
    fun _ _ _ _ _ _ _ => trivial

end TemplateMachine
