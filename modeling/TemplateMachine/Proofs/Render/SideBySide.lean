import TemplateMachine.Proofs.Render.Simulation

/-!
# The machine side by side

Everything that the machine can be asked to do is alike on the two sides of a simulation. Two runs of
a program go from cursor to cursor together, and these differ in what was counted only, and in that
only once the writers are apart.

The texts that are rendered to writers of their own are compared by the simulation of being the same
writer, so the induction is on all simulations at once.
-/

namespace TemplateMachine

variable {α β : Type}

/-- Two cursors at the same place with the same operands. What was counted agrees while the writers
are in step. -/
structure Cursor.Alike (i : Bool) (cursor cursor' : Cursor) : Prop where
  ip : cursor'.ip = cursor.ip
  stack : cursor'.stack = cursor.stack
  executed : cursor'.executed = cursor.executed
  same : i = true → cursor = cursor'

namespace Cursor.Alike

variable {i j : Bool} {cursor cursor' : Cursor}

/-- A cursor is like itself. -/
theorem refl : Cursor.Alike i cursor cursor :=
  ⟨rfl, rfl, rfl, fun _ => rfl⟩

/-- Cursors that are alike are so when the writers have fallen apart. -/
theorem mono (h : Cursor.Alike i cursor cursor') (hj : j ≤ i) : Cursor.Alike j cursor cursor' :=
  ⟨h.ip, h.stack, h.executed, fun htrue => h.same (hj htrue)⟩

/-- The cursors at the next instruction are alike. -/
theorem next (h : Cursor.Alike i cursor cursor') (instr : Instr) :
    Cursor.Alike i (cursor.next instr) (cursor'.next instr) :=
  ⟨congrArg (· + 1) h.ip, h.stack, congrArg (instr :: ·) h.executed,
    fun htrue => congrArg (·.next instr) (h.same htrue)⟩

/-- Counting what agrees while the writers are in step keeps cursors alike. -/
theorem counted (h : Cursor.Alike i cursor cursor') {n n' : Nat} (hn : WhileInStep i n n') :
    Cursor.Alike i (cursor.counted n) (cursor'.counted n') :=
  ⟨h.ip, h.stack, h.executed, fun htrue => by rw [h.same htrue, hn htrue]⟩

/-- Counting a newline keeps cursors alike. -/
theorem newline (h : Cursor.Alike i cursor cursor') {n n' : Nat} (hn : WhileInStep i n n') :
    Cursor.Alike i { cursor with count := cursor.count + n, sinceNewline := 0 }
      { cursor' with count := cursor'.count + n', sinceNewline := 0 } :=
  ⟨h.ip, h.stack, h.executed, fun htrue => by rw [h.same htrue, hn htrue]⟩

/-- The same operands keep cursors alike. -/
theorem withStack (h : Cursor.Alike i cursor cursor') (stack : Stack) :
    Cursor.Alike i { cursor with stack := stack } { cursor' with stack := stack } :=
  ⟨h.ip, rfl, h.executed, fun htrue => by rw [h.same htrue]⟩

/-- Jumping to the same instruction keeps cursors alike. -/
theorem jump (h : Cursor.Alike i cursor cursor') (target : Nat) :
    Cursor.Alike i { cursor with ip := target } { cursor' with ip := target } :=
  ⟨rfl, h.stack, h.executed, fun htrue => by rw [h.same htrue]⟩

end Cursor.Alike

/-- Two results of a step that are the same fault or are related. -/
def Step.Ends (Q : Bool → α → α → Prop) (j : Bool) : Except Fault α → Except Fault α → Prop
  | .ok a, .ok a' => Q j a a'
  | .error fault, .error fault' => fault = fault'
  | _, _ => False

/-- Two steps that succeed, fault or run out of fuel together. -/
def Step.Alike (B : Bool → Writer → Writer → Prop) (i : Bool) (action action' : Step α)
    (Q : Bool → α → α → Prop) : Prop :=
  Render.Alike B i action.run action'.run (Step.Ends Q)

namespace Step.Alike

variable {B : Bool → Writer → Writer → Prop} {i : Bool} {action action' : Step α}
  {f f' : α → Step β} {P : Bool → α → α → Prop} {Q : Bool → β → β → Prop}

/-- Pure steps are alike if their results are related. -/
theorem pure {a a' : α} (h : P i a a') : Step.Alike B i (pure a) (pure a') P :=
  Render.Alike.pure h

/-- Sequences of steps are alike if their parts are. -/
theorem bind (h : Step.Alike B i action action' P)
    (hf : ∀ j ≤ i, ∀ a a', P j a a' → Step.Alike B j (f a) (f' a') Q) :
    Step.Alike B i (action >>= f) (action' >>= f') Q := by
  refine Render.Alike.bind h fun j hj result result' hresult => ?_
  cases result <;> cases result'
  case error.error => exact Render.Alike.pure hresult
  case ok.ok a a' => exact hf j hj a a' hresult
  all_goals exact hresult.elim

/-- A sequence of steps goes on as it was if its first parts come to the same. -/
theorem bind_kept (h : Step.Alike B i action action' (Kept i))
    (hf : ∀ a, Step.Alike B i (f a) (f' a) Q) :
    Step.Alike B i (action >>= f) (action' >>= f') Q := by
  apply h.bind
  intro j _ a a' hkept
  obtain ⟨rfl, rfl⟩ := hkept
  exact hf a

/-- Renders without a fault are as alike as steps. -/
theorem asStep {action action' : Render α} (h : Render.Alike B i action action' P) :
    Step.Alike B i action.asStep action'.asStep P :=
  h.bind fun _ _ _ _ hresult => Render.Alike.pure hresult

/-- The same value or fault is alike. -/
theorem ofExcept {result : Except Fault α} :
    Step.Alike B i (Step.ofExcept result) (Step.ofExcept result) (Kept i) := by
  refine Render.Alike.pure ?_
  cases result with
  | ok a => exact ⟨rfl, rfl⟩
  | error fault => exact rfl

/-- Requiring what fails on both writers or on neither is alike. -/
theorem require {operation : Attempt Writer α} (h : Attempt.Matched B operation) :
    Step.Alike B i (Step.require operation) (Step.require operation) fun j _ _ => j = i := by
  intro s s' hw
  obtain ⟨hresult, hv⟩ := h i s.writer s'.writer hw
  rw [outcome_run_require, outcome_run_require]
  rcases hends : operation.outcome s.writer with ⟨error | a, v⟩ <;>
    rcases hends' : operation.outcome s'.writer with ⟨error' | a', v'⟩ <;>
    rw [hends, hends'] at hresult hv
  · exact ⟨i, le_rfl, hv, congrArg Fault.writer (Except.error.inj hresult)⟩
  · cases hresult
  · cases hresult
  · exact ⟨i, le_rfl, hv, rfl⟩

end Step.Alike

/-- With a certain amount of fuel, all that the machine can be asked to do is alike on the two sides
of a relation of writers. -/
structure MachineAlike (B : Bool → Writer → Writer → Prop) (setting : Setting) (fuel : Nat) :
    Prop where
  exec (i : Bool) (frame : Frame) :
    Render.Alike B i (exec setting fuel frame) (exec setting fuel frame) WhileInStep
  run (i : Bool) (frame : Frame) (cursor cursor' : Cursor) (alike : Cursor.Alike i cursor cursor') :
    Render.Alike B i (run setting fuel frame cursor) (run setting fuel frame cursor') WhileInStep
  step (i : Bool) (frame : Frame) (cursor cursor' : Cursor)
    (alike : Cursor.Alike i cursor cursor') (instr : Instr) :
    Step.Alike B i (step setting fuel frame cursor instr) (step setting fuel frame cursor' instr)
      Cursor.Alike
  writeWith (i : Bool) (frame : Frame) (value : Value) (options : OptionRow Value) :
    Step.Alike B i (writeWith setting fuel frame value options)
      (writeWith setting fuel frame value options) WhileInStep
  optionTexts (i : Bool) (frame : Frame) (options : OptionRow Value) :
    Render.Alike B i (optionTexts setting fuel frame options)
      (optionTexts setting fuel frame options) (Kept i)
  optionText (i : Bool) (frame : Frame) (value : Option Value) :
    Render.Alike B i (optionText setting fuel frame value) (optionText setting fuel frame value)
      (Kept i)
  writeValue (i : Bool) (frame : Frame) (value : Value) (options : OptionRow String) :
    Render.Alike B i (writeValue setting fuel frame value options)
      (writeValue setting fuel frame value options) WhileInStep
  writeItems (i : Bool) (frame : Frame) (items : List Value) (options : OptionRow String)
    (count count' : Nat) (seen seen' : Bool) (hcount : WhileInStep i count count')
    (hseen : WhileInStep i seen seen') :
    Render.Alike B i (writeItems setting fuel frame items options count seen)
      (writeItems setting fuel frame items options count' seen') WhileInStep
  toText (i : Bool) (frame : Frame) (value : Value) :
    Render.Alike B i (toText setting fuel frame value) (toText setting fuel frame value) (Kept i)
  giveDefaults (i : Bool) (frame : Frame) (args : List FormalArg) :
    Render.Alike B i (giveDefaults setting fuel frame args) (giveDefaults setting fuel frame args)
      (Kept i)
  defaultValue (i : Bool) (frame : Frame) (default : DefaultValue) :
    Render.Alike B i (defaultValue setting fuel frame default)
      (defaultValue setting fuel frame default) (Kept i)

namespace MachineAlike

variable {B : Bool → Writer → Writer → Prop} {setting : Setting} {fuel : Nat}

/-- Without fuel the machine does nothing. -/
theorem zero : MachineAlike B setting 0 := by
  constructor <;> intros <;> exact Render.Alike.failure

section Succ

variable (sim : Simulation B) (ih : MachineAlike B setting fuel)

include ih

/-- Running a template is alike. -/
theorem exec_succ (i : Bool) (frame : Frame) :
    Render.Alike B i (TemplateMachine.exec setting (fuel + 1) frame)
      (TemplateMachine.exec setting (fuel + 1) frame) WhileInStep := by
  rw [TemplateMachine.exec]
  apply Render.Alike.mark.bind_kept
  intro _
  apply (ih.giveDefaults i frame frame.template.args).bind_kept
  intro given
  apply Render.Alike.position.bind
  rintro j - start start' rfl
  apply (ih.run j given .start .start .refl).bind
  intro k _ count count' hcount
  exact Render.Alike.record.bind_kept fun _ => Render.Alike.pure hcount

/-- Running a program from cursors that are alike is alike. -/
theorem run_succ (i : Bool) (frame : Frame) (cursor cursor' : Cursor)
    (alike : Cursor.Alike i cursor cursor') :
    Render.Alike B i (TemplateMachine.run setting (fuel + 1) frame cursor)
      (TemplateMachine.run setting (fuel + 1) frame cursor') WhileInStep := by
  rw [TemplateMachine.run, TemplateMachine.run, alike.ip]
  split
  · exact Render.Alike.pure fun htrue => congrArg Cursor.count (alike.same htrue)
  · rename_i instr _
    apply Render.Alike.mark.bind_kept
    intro _
    refine Render.Alike.bind (ih.step i _ cursor cursor' alike instr)
      fun j hj result result' hresult => ?_
    cases result <;> cases result'
    case ok.ok moved moved' => exact ih.run j frame moved moved' hresult
    case error.error fault fault' =>
      obtain rfl : fault = fault' := hresult
      apply Render.Alike.mark.bind_kept
      intro _
      exact Render.Alike.report.bind_kept fun _ => Render.Alike.pure fun _ => rfl
    all_goals exact hresult.elim

include sim

/-- Executing an instruction at cursors that are alike is alike. -/
theorem step_succ (i : Bool) (frame : Frame) (cursor cursor' : Cursor)
    (alike : Cursor.Alike i cursor cursor') (instr : Instr) :
    Step.Alike B i (TemplateMachine.step setting (fuel + 1) frame cursor instr)
      (TemplateMachine.step setting (fuel + 1) frame cursor' instr) Cursor.Alike := by
  have hnext := alike.next instr
  cases instr with
  | write =>
    rw [TemplateMachine.step, TemplateMachine.step, alike.stack]
    apply Step.Alike.ofExcept.bind_kept
    intro top
    apply (Step.Alike.asStep Render.Alike.position).bind
    rintro j hj start start' rfl
    apply (Step.Alike.asStep (ih.writeValue j frame _ .empty)).bind
    intro k hk n n' hn
    apply (Step.Alike.asStep Render.Alike.record).bind_kept
    intro _
    exact Step.Alike.pure (((hnext.mono hk).counted hn).withStack _)
  | writeOpt =>
    rw [TemplateMachine.step, TemplateMachine.step, alike.stack]
    apply Step.Alike.ofExcept.bind_kept
    intro options
    apply Step.Alike.ofExcept.bind_kept
    intro top
    apply (Step.Alike.asStep Render.Alike.position).bind
    rintro j hj start start' rfl
    apply (ih.writeWith j frame _ _).bind
    intro k hk n n' hn
    apply (Step.Alike.asStep Render.Alike.record).bind_kept
    intro _
    exact Step.Alike.pure (((hnext.mono hk).counted hn).withStack _)
  | writeStr index =>
    rw [TemplateMachine.step, TemplateMachine.step]
    apply Step.Alike.ofExcept.bind_kept
    intro text
    apply (Step.Alike.asStep (Render.Alike.emit (sim.write text))).bind
    intro j hj n n' hn
    exact Step.Alike.pure ((hnext.mono hj).counted hn)
  | writeLocal index =>
    rw [TemplateMachine.step, TemplateMachine.step]
    apply Step.Alike.ofExcept.bind_kept
    intro value
    apply (Step.Alike.asStep (ih.writeValue i frame value .empty)).bind
    intro j hj n n' hn
    exact Step.Alike.pure ((hnext.mono hj).counted hn)
  | toStr =>
    rw [TemplateMachine.step, TemplateMachine.step, alike.stack]
    apply Step.Alike.ofExcept.bind_kept
    intro top
    dsimp only
    split
    · exact Step.Alike.pure (hnext.withStack _)
    · exact Step.Alike.pure (hnext.withStack _)
    · apply (Step.Alike.asStep (ih.toText i frame _)).bind_kept
      intro text
      exact Step.Alike.pure (hnext.withStack _)
  | indent index =>
    rw [TemplateMachine.step, TemplateMachine.step]
    apply Step.Alike.ofExcept.bind_kept
    intro text
    apply (Step.Alike.asStep (Render.Alike.pushIndentation sim)).bind_kept
    intro _
    exact Step.Alike.pure hnext
  | dedent =>
    rw [TemplateMachine.step, TemplateMachine.step]
    apply (Step.Alike.require sim.popIndentation).bind
    rintro j - indent indent' rfl
    exact Step.Alike.pure hnext
  | newline =>
    rw [step_newline, step_newline]
    have hwanted : i = true → cursor.wantsNewline = cursor'.wantsNewline :=
      fun htrue => congrArg Cursor.wantsNewline (alike.same htrue)
    have hemit := Render.Alike.emitIf frame (sim.write "\n") hwanted
    apply (Step.Alike.asStep hemit).bind
    intro j hj n n' hn
    exact Step.Alike.pure ((hnext.mono hj).newline hn)
  | br target =>
    rw [TemplateMachine.step, TemplateMachine.step]
    apply Step.Alike.ofExcept.bind_kept
    intro target
    exact Step.Alike.pure (hnext.jump target)
  | brf target =>
    rw [TemplateMachine.step, TemplateMachine.step, alike.stack]
    apply Step.Alike.ofExcept.bind_kept
    intro target
    apply Step.Alike.ofExcept.bind_kept
    intro top
    rw [hnext.ip]
    exact Step.Alike.pure ((hnext.jump _).withStack _)
  | _ =>
    rw [step_of_isOperation rfl, step_of_isOperation rfl, alike.stack]
    apply Step.Alike.ofExcept.bind_kept
    intro result
    apply (Step.Alike.asStep Render.Alike.report).bind_kept
    intro _
    exact Step.Alike.pure (hnext.withStack _)

/-- Writing with options is alike. -/
theorem writeWith_succ (i : Bool) (frame : Frame) (value : Value) (options : OptionRow Value) :
    Step.Alike B i (TemplateMachine.writeWith setting (fuel + 1) frame value options)
      (TemplateMachine.writeWith setting (fuel + 1) frame value options) WhileInStep := by
  rw [TemplateMachine.writeWith]
  apply (Step.Alike.asStep (ih.optionTexts i frame options)).bind_kept
  intro texts
  have hwrite := Step.Alike.asStep (ih.writeValue i frame value texts)
  split
  · apply (Step.Alike.asStep (Render.Alike.pushAnchor sim)).bind_kept
    intro _
    apply hwrite.bind
    intro j _ n n' hn
    apply (Step.Alike.require sim.popAnchor).bind
    rintro k - anchor anchor' rfl
    exact Step.Alike.pure hn
  · exact hwrite

omit sim in
/-- Rendering options to texts comes to the same. -/
theorem optionTexts_succ (i : Bool) (frame : Frame) (options : OptionRow Value) :
    Render.Alike B i (TemplateMachine.optionTexts setting (fuel + 1) frame options)
      (TemplateMachine.optionTexts setting (fuel + 1) frame options) (Kept i) := by
  rw [TemplateMachine.optionTexts]
  apply (ih.optionText i frame _).bind_kept
  intro anchor
  apply (ih.optionText i frame _).bind_kept
  intro format
  apply (ih.optionText i frame _).bind_kept
  intro null
  apply (ih.optionText i frame _).bind_kept
  intro separator
  exact (ih.optionText i frame _).bind_kept fun wrap => Render.Alike.pure ⟨rfl, rfl⟩

omit sim in
/-- Rendering an option to text comes to the same. -/
theorem optionText_succ (i : Bool) (frame : Frame) (value : Option Value) :
    Render.Alike B i (TemplateMachine.optionText setting (fuel + 1) frame value)
      (TemplateMachine.optionText setting (fuel + 1) frame value) (Kept i) := by
  cases value with
  | none => exact Render.Alike.pure ⟨rfl, rfl⟩
  | some value =>
    rw [TemplateMachine.optionText]
    exact (ih.toText i frame value).bind_kept fun text => Render.Alike.pure ⟨rfl, rfl⟩

/-- Writing a value is alike. -/
theorem writeValue_succ (i : Bool) (frame : Frame) (value : Value) (options : OptionRow String) :
    Render.Alike B i (TemplateMachine.writeValue setting (fuel + 1) frame value options)
      (TemplateMachine.writeValue setting (fuel + 1) frame value options) WhileInStep := by
  rw [TemplateMachine.writeValue]
  have hnothing : Render.Alike B i (pure 0) (pure 0) WhileInStep :=
    Render.Alike.pure fun _ => rfl
  split
  · split
    · exact Render.Alike.writeScalar sim
    · exact hnothing
  split
  · apply Render.Alike.tooDeep.bind_kept
    intro deep
    split
    · exact hnothing
    · apply (Render.Alike.emit (sim.writeWrap _)).bind
      intro j _ n n' hn
      apply (ih.exec j _).bind
      intro k hk m m' hm
      exact Render.Alike.pure fun htrue => by rw [hn (hk htrue), hm htrue]
  · exact ih.writeItems i frame _ options 0 0 false false (fun _ => rfl) fun _ => rfl
  · exact ih.writeItems i frame _ options 0 0 false false (fun _ => rfl) fun _ => rfl
  · exact Render.Alike.writeScalar sim

/-- Writing the elements of a collection is alike. What was counted and whether something was
written before agree while the writers are in step, and so does whether a separator is written. -/
theorem writeItems_succ (i : Bool) (frame : Frame) (items : List Value)
    (options : OptionRow String) (count count' : Nat) (seen seen' : Bool)
    (hcount : WhileInStep i count count') (hseen : WhileInStep i seen seen') :
    Render.Alike B i
      (TemplateMachine.writeItems setting (fuel + 1) frame items options count seen)
      (TemplateMachine.writeItems setting (fuel + 1) frame items options count' seen')
      WhileInStep := by
  cases items with
  | nil => exact Render.Alike.pure hcount
  | cons item rest =>
    have hseparate : Render.Alike B i (separate frame options seen)
        (separate frame options seen') WhileInStep := by
      unfold separate
      split
      · exact Render.Alike.emitIf frame (sim.write _) hseen
      · exact Render.Alike.pure fun _ => rfl
    rw [writeItems_cons, writeItems_cons]
    split
    · exact ih.writeItems i frame rest options count count' seen seen' hcount hseen
    · apply hseparate.bind
      intro j hj n n' hn
      apply (ih.writeValue j frame _ options).bind
      intro k hk m m' hm
      refine ih.writeItems k frame rest options _ _ _ _ (fun htrue => ?_) fun htrue => ?_
      · rw [hcount (hj (hk htrue)), hn (hk htrue), hm htrue]
      · rw [hseen (hj (hk htrue)), hm htrue]

omit ih in
/-- Rendering a value to text comes to the same. -/
theorem toText_succ (own : MachineAlike Simulation.Same setting fuel) (i : Bool) (frame : Frame)
    (value : Value) :
    Render.Alike B i (TemplateMachine.toText setting (fuel + 1) frame value)
      (TemplateMachine.toText setting (fuel + 1) frame value) (Kept i) :=
  Render.Alike.aside sim (own.writeValue true frame value .empty)

omit sim in
/-- Giving arguments their defaults comes to the same. -/
theorem giveDefaults_succ (i : Bool) (frame : Frame) (args : List FormalArg) :
    Render.Alike B i (TemplateMachine.giveDefaults setting (fuel + 1) frame args)
      (TemplateMachine.giveDefaults setting (fuel + 1) frame args) (Kept i) := by
  cases args with
  | nil => exact Render.Alike.pure ⟨rfl, rfl⟩
  | cons arg rest =>
    rw [TemplateMachine.giveDefaults]
    split
    · exact (ih.defaultValue i frame _).bind_kept fun value => ih.giveDefaults i _ rest
    · exact ih.giveDefaults i frame rest

omit ih in
/-- Finding the value of a default comes to the same. -/
theorem defaultValue_succ (own : MachineAlike Simulation.Same setting fuel) (i : Bool)
    (frame : Frame) (default : DefaultValue) :
    Render.Alike B i (TemplateMachine.defaultValue setting (fuel + 1) frame default)
      (TemplateMachine.defaultValue setting (fuel + 1) frame default) (Kept i) := by
  cases default with
  | literal value => exact Render.Alike.pure ⟨rfl, rfl⟩
  | template template eager =>
    rw [TemplateMachine.defaultValue]
    split
    · apply Render.Alike.tooDeep.bind_kept
      intro deep
      split
      · exact Render.Alike.pure ⟨rfl, rfl⟩
      · apply (Render.Alike.aside sim (own.exec true _)).bind_kept
        intro text
        exact Render.Alike.pure ⟨rfl, rfl⟩
    · exact Render.Alike.pure ⟨rfl, rfl⟩

end Succ

/-- Whatever the machine is asked to do is alike on the two sides of a simulation. -/
theorem all (sim : Simulation B) (fuel : Nat) : MachineAlike B setting fuel := by
  -- Texts of their own are compared by another simulation than the one at hand.
  induction fuel generalizing B with
  | zero => exact zero
  | succ fuel ih =>
    exact {
      exec := exec_succ (ih sim)
      run := run_succ (ih sim)
      step := step_succ sim (ih sim)
      writeWith := writeWith_succ sim (ih sim)
      optionTexts := optionTexts_succ (ih sim)
      optionText := optionText_succ (ih sim)
      writeValue := writeValue_succ sim (ih sim)
      writeItems := writeItems_succ sim (ih sim)
      toText := toText_succ sim (ih Simulation.same)
      giveDefaults := giveDefaults_succ (ih sim)
      defaultValue := defaultValue_succ sim (ih Simulation.same) }

end MachineAlike

end TemplateMachine
