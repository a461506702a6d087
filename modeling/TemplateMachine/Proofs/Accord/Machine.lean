import TemplateMachine.Proofs.Accord.Rows

/-!
# The machine in accord

Whatever the machine is asked to do is in accord on two writers that are kept related by what is not
excluded, in settings of which the second one leaves at least as much room for nesting. If it leaves
more, then that there is no room must be excluded.

An option that no instruction may set is set in no row on the operand stack, and so in no row of
texts either. This is all that has to be known of operands.
-/

namespace TemplateMachine

/-- With a certain amount of fuel, all that the machine can be asked to do in a setting is in accord
with doing it where there is other room for nesting. -/
structure MachineAccords (excluded : Exclusions) (B : Writer → Writer → Prop) (setting : Setting)
    (deeper fuel : Nat) : Prop where
  exec (frame : Frame) :
    Render.Accords excluded B True (execHands setting fuel frame) (exec setting fuel frame)
      (exec (setting.withDepth deeper) fuel frame) fun _ => True
  run (frame : Frame) (cursor : Cursor) :
    Render.Accords excluded B (cursor.stack.Spares excluded) (runHands setting fuel frame cursor)
      (run setting fuel frame cursor) (run (setting.withDepth deeper) fuel frame cursor)
      fun _ => True
  step (frame : Frame) (cursor : Cursor) (instr : Instr) :
    Step.Accords excluded B (cursor.stack.Spares excluded ∧ ¬excluded.instr instr)
      (stepHands setting fuel frame cursor instr) (step setting fuel frame cursor instr)
      (step (setting.withDepth deeper) fuel frame cursor instr)
      fun moved => moved.stack.Spares excluded
  writeWith (frame : Frame) (value : Value) (options : OptionRow Value) :
    Step.Accords excluded B (options.Spares excluded) (writeWithHands setting fuel frame value options)
      (writeWith setting fuel frame value options)
      (writeWith (setting.withDepth deeper) fuel frame value options) fun _ => True
  optionTexts (frame : Frame) (options : OptionRow Value) :
    Render.Accords excluded B (options.Spares excluded) (optionTextsHands setting fuel frame options)
      (optionTexts setting fuel frame options)
      (optionTexts (setting.withDepth deeper) fuel frame options) fun texts => texts.Spares excluded
  optionText (frame : Frame) (value : Option Value) :
    Render.Accords excluded B True (optionTextHands setting fuel frame value)
      (optionText setting fuel frame value)
      (optionText (setting.withDepth deeper) fuel frame value) fun text => value = none → text = none
  writeValue (frame : Frame) (value : Value) (options : OptionRow String) :
    Render.Accords excluded B (options.Spares excluded)
      (writeValueHands setting fuel frame value options)
      (writeValue setting fuel frame value options)
      (writeValue (setting.withDepth deeper) fuel frame value options) fun _ => True
  writeItems (frame : Frame) (items : List Value) (options : OptionRow String) (count : Nat)
    (seen : Bool) :
    Render.Accords excluded B (options.Spares excluded)
      (writeItemsHands setting fuel frame items options count seen)
      (writeItems setting fuel frame items options count seen)
      (writeItems (setting.withDepth deeper) fuel frame items options count seen) fun _ => True
  toText (frame : Frame) (value : Value) :
    Render.Accords excluded B True (toTextHands setting fuel frame value)
      (toText setting fuel frame value) (toText (setting.withDepth deeper) fuel frame value)
      fun _ => True
  giveDefaults (frame : Frame) (args : List FormalArg) :
    Render.Accords excluded B True (giveDefaultsHands setting fuel frame args)
      (giveDefaults setting fuel frame args)
      (giveDefaults (setting.withDepth deeper) fuel frame args) fun _ => True
  defaultValue (frame : Frame) (default : DefaultValue) :
    Render.Accords excluded B True (defaultValueHands setting fuel frame default)
      (defaultValue setting fuel frame default)
      (defaultValue (setting.withDepth deeper) fuel frame default) fun _ => True

variable {excluded : Exclusions} {B : Writer → Writer → Prop} {setting : Setting}
  {deeper fuel : Nat}

namespace MachineAccords

/-- Without fuel the machine does nothing. -/
theorem zero : MachineAccords excluded B setting deeper 0 := by
  constructor <;> intros <;> exact Render.Accords.failure

section Succ

variable (ih : MachineAccords excluded B setting deeper fuel)

include ih

/-- Running a program is in accord. An instruction that the program comes to is not excluded. -/
theorem run_succ (frame : Frame) (cursor : Cursor) :
    Render.Accords excluded B (cursor.stack.Spares excluded)
      (runHands setting (fuel + 1) frame cursor)
      (TemplateMachine.run setting (fuel + 1) frame cursor)
      (TemplateMachine.run (setting.withDepth deeper) (fuel + 1) frame cursor) fun _ => True := by
  rw [TemplateMachine.run, TemplateMachine.run, runHands]
  cases frame.template.program[cursor.ip]? with
  | none => exact Render.Accords.pure fun _ => trivial
  | some instr =>
    apply Render.Accords.mark.bind
    intro _
    refine Render.Accords.bind ((ih.step _ cursor instr).weaken ?_) fun result => ?_
    · exact fun holds => ⟨holds.1, holds.2 instr rfl⟩
    cases result with
    | ok moved => exact (ih.run frame moved).weaken fun holds => holds.2 moved rfl
    | error fault =>
      apply Render.Accords.mark.bind_last
      intro _
      exact Render.Accords.report.bind_last fun _ => Render.Accords.pure fun _ => trivial

/-- Rendering options to texts is in accord. An option that is not set has no text. -/
theorem optionTexts_succ (frame : Frame) (options : OptionRow Value) :
    Render.Accords excluded B (options.Spares excluded)
      (optionTextsHands setting (fuel + 1) frame options)
      (TemplateMachine.optionTexts setting (fuel + 1) frame options)
      (TemplateMachine.optionTexts (setting.withDepth deeper) (fuel + 1) frame options)
      fun texts => texts.Spares excluded := by
  rw [TemplateMachine.optionTexts, TemplateMachine.optionTexts, optionTextsHands]
  apply ((ih.optionText frame options.anchor).weaken fun _ => trivial).bind
  intro anchor
  apply ((ih.optionText frame options.format).weaken fun _ => trivial).bind
  intro format
  apply ((ih.optionText frame options.null).weaken fun _ => trivial).bind
  intro null
  apply ((ih.optionText frame options.separator).weaken fun _ => trivial).bind
  intro separator
  apply ((ih.optionText frame options.wrap).weaken fun _ => trivial).bind_last
  intro wrap
  apply Render.Accords.pure
  rintro ⟨⟨⟨⟨⟨unset, hanchor⟩, hformat⟩, hnull⟩, hseparator⟩, hwrap⟩ option hexcluded
  have hunset := unset option hexcluded
  cases option with
  | anchor => exact hanchor hunset
  | format => exact hformat hunset
  | null => exact hnull hunset
  | separator => exact hseparator hunset
  | wrap => exact hwrap hunset

/-- Rendering an option to text is in accord. -/
theorem optionText_succ (frame : Frame) (value : Option Value) :
    Render.Accords excluded B True (optionTextHands setting (fuel + 1) frame value)
      (TemplateMachine.optionText setting (fuel + 1) frame value)
      (TemplateMachine.optionText (setting.withDepth deeper) (fuel + 1) frame value)
      fun text => value = none → text = none := by
  cases value with
  | none => exact Render.Accords.pure fun _ _ => rfl
  | some value =>
    rw [TemplateMachine.optionText, TemplateMachine.optionText, optionTextHands]
    apply (ih.toText frame value).bind_last
    intro text
    exact Render.Accords.pure fun _ unset => by cases unset

/-- Giving arguments their defaults is in accord. -/
theorem giveDefaults_succ (frame : Frame) (args : List FormalArg) :
    Render.Accords excluded B True (giveDefaultsHands setting (fuel + 1) frame args)
      (TemplateMachine.giveDefaults setting (fuel + 1) frame args)
      (TemplateMachine.giveDefaults (setting.withDepth deeper) (fuel + 1) frame args)
      fun _ => True := by
  cases args with
  | nil => exact Render.Accords.pure fun _ => trivial
  | cons arg rest =>
    rw [TemplateMachine.giveDefaults, TemplateMachine.giveDefaults, giveDefaultsHands]
    rcases arg.default? with _ | default <;>
      rcases frame.running.locals[arg.slot]? with _ | _ | held
    case some.some.none =>
      apply (ih.defaultValue frame default).bind
      intro value
      exact (ih.giveDefaults _ rest).weaken fun _ => trivial
    all_goals exact ih.giveDefaults frame rest

variable (sim : excluded.Bisimulation B)

include sim

/-- Running a template is in accord. -/
theorem exec_succ (frame : Frame) :
    Render.Accords excluded B True (execHands setting (fuel + 1) frame)
      (TemplateMachine.exec setting (fuel + 1) frame)
      (TemplateMachine.exec (setting.withDepth deeper) (fuel + 1) frame) fun _ => True := by
  rw [TemplateMachine.exec, TemplateMachine.exec, execHands]
  apply Render.Accords.mark.bind
  intro _
  apply ((ih.giveDefaults frame frame.template.args).weaken fun _ => trivial).bind
  intro given
  apply (Render.Accords.position sim).bind
  intro start
  apply ((ih.run given .start).weaken fun _ => List.forall_mem_nil _).bind_last
  intro count
  exact (Render.Accords.record sim).bind_last fun _ => Render.Accords.pure fun _ => trivial

/-- Executing an instruction that is not excluded is in accord, and no option is set by it whose
setting is excluded. -/
theorem step_succ (frame : Frame) (cursor : Cursor) (instr : Instr) :
    Step.Accords excluded B (cursor.stack.Spares excluded ∧ ¬excluded.instr instr)
      (stepHands setting (fuel + 1) frame cursor instr)
      (TemplateMachine.step setting (fuel + 1) frame cursor instr)
      (TemplateMachine.step (setting.withDepth deeper) (fuel + 1) frame cursor instr)
      fun moved => moved.stack.Spares excluded := by
  have hrecord {pre : Prop} (start : Nat) :
      Step.Accords excluded B pre .nothing (Render.record frame .expr start).asStep
        (Render.record frame .expr start).asStep fun _ => True :=
    Step.Accords.asStep (Render.Accords.record sim)
  cases instr with
  | write =>
    rw [TemplateMachine.step, TemplateMachine.step, stepHands]
    apply Step.Accords.given
    rintro ⟨value, beneath⟩ htop
    dsimp only
    have hbeneath : beneath.rows = cursor.stack.rows := Stack.rows_of_pop htop
    apply (Step.Accords.asStep_bind (Render.Accords.position sim))
    intro start
    apply (Step.Accords.asStep ((ih.writeValue frame value .empty).weaken
      fun _ => OptionRow.spares_empty)).bind_last
    intro n
    apply (hrecord start).bind_last
    intro _
    exact Step.Accords.pure fun holds row mem => holds.1.1.1.1 row (hbeneath ▸ mem)
  | writeOpt =>
    rw [TemplateMachine.step, TemplateMachine.step, stepHands]
    apply Step.Accords.given
    rintro ⟨options, rest⟩ hoptions
    apply Step.Accords.given
    rintro ⟨value, beneath⟩ htop
    dsimp only
    have hrows : cursor.stack.rows = options :: beneath.rows :=
      (Stack.rows_of_popOptions hoptions).trans (congrArg _ (Stack.rows_of_pop htop).symm)
    apply (Step.Accords.asStep_bind (Render.Accords.position sim))
    intro start
    apply ((ih.writeWith frame value options).weaken
      fun holds => holds.1.1 options (hrows ▸ List.mem_cons_self)).bind_last
    intro n
    apply (hrecord start).bind_last
    intro _
    exact Step.Accords.pure fun holds row mem =>
      holds.1.1.1.1 row (hrows ▸ List.mem_cons_of_mem _ mem)
  | writeStr index =>
    rw [TemplateMachine.step, TemplateMachine.step, stepHands]
    apply Step.Accords.given
    intro text _
    apply (Step.Accords.asStep (Render.Accords.write sim)).bind_last
    intro n
    exact Step.Accords.pure fun holds => holds.1.1
  | writeLocal index =>
    rw [TemplateMachine.step, TemplateMachine.step, stepHands]
    apply Step.Accords.given
    intro value _
    apply (Step.Accords.asStep ((ih.writeValue frame value .empty).weaken
      fun _ => OptionRow.spares_empty)).bind_last
    intro n
    exact Step.Accords.pure fun holds => holds.1.1
  | toStr =>
    rw [TemplateMachine.step, TemplateMachine.step, stepHands]
    apply Step.Accords.given
    rintro ⟨value, beneath⟩ htop
    dsimp only
    have hbeneath : beneath.rows = cursor.stack.rows := Stack.rows_of_pop htop
    have hspares (holds : cursor.stack.Spares excluded ∧ ¬excluded.instr .toStr) :
        beneath.Spares excluded := fun row mem => holds.1 row (hbeneath ▸ mem)
    cases value with
    | none => exact Step.Accords.pure hspares
    | string text => exact Step.Accords.pure hspares
    | _ =>
      apply (Step.Accords.asStep ((ih.toText frame _).weaken fun _ => trivial)).bind_last
      intro text
      exact Step.Accords.pure fun holds => hspares holds.1
  | indent index =>
    rw [TemplateMachine.step, TemplateMachine.step]
    apply Step.Accords.ofExcept_bind
    intro text _
    apply (Step.Accords.asStep (Render.Accords.pushIndentation sim fun holds => holds.2)).bind_last
    intro _
    exact Step.Accords.pure fun holds => holds.1.1
  | dedent =>
    rw [TemplateMachine.step, TemplateMachine.step]
    apply (Step.Accords.require fun _ => sim.popIndentation).bind_last
    intro indent
    exact Step.Accords.pure fun holds => holds.1.1
  | newline =>
    rw [step_newline, step_newline, stepHands]
    have hemit : Render.Accords excluded B (cursor.stack.Spares excluded ∧ ¬excluded.instr .newline)
        (if cursor.wantsNewline then .one "\n" else .nothing)
        (if cursor.wantsNewline then Render.emit frame (Writer.write "\n") else pure 0)
        (if cursor.wantsNewline then Render.emit frame (Writer.write "\n") else pure 0)
        fun _ => True := by
      split
      · exact Render.Accords.write sim
      · exact Render.Accords.pure fun _ => trivial
    apply (Step.Accords.asStep hemit).bind_last
    intro n
    exact Step.Accords.pure fun holds => holds.1.1
  | br target =>
    rw [TemplateMachine.step, TemplateMachine.step]
    apply Step.Accords.ofExcept_bind
    intro target _
    exact Step.Accords.pure fun holds => holds.1
  | brf target =>
    rw [TemplateMachine.step, TemplateMachine.step]
    apply Step.Accords.ofExcept_bind
    intro target _
    apply Step.Accords.ofExcept_bind
    rintro ⟨value, beneath⟩ htop
    have hbeneath : beneath.rows = cursor.stack.rows := Stack.rows_of_pop htop
    exact Step.Accords.pure fun holds row mem => holds.1 row (hbeneath ▸ mem)
  | _ =>
    rw [step_of_isOperation rfl, step_of_isOperation rfl]
    apply Step.Accords.ofExcept_bind
    rintro ⟨left, problems⟩ hends
    apply (Step.Accords.asStep Render.Accords.report).bind_last
    intro _
    exact Step.Accords.pure fun holds => Frame.spares_of_operate holds.1.2 holds.1.1 hends

/-- Writing with options is in accord. -/
theorem writeWith_succ (frame : Frame) (value : Value) (options : OptionRow Value) :
    Step.Accords excluded B (options.Spares excluded)
      (writeWithHands setting (fuel + 1) frame value options)
      (TemplateMachine.writeWith setting (fuel + 1) frame value options)
      (TemplateMachine.writeWith (setting.withDepth deeper) (fuel + 1) frame value options)
      fun _ => True := by
  rw [TemplateMachine.writeWith, TemplateMachine.writeWith, writeWithHands]
  apply Step.Accords.asStep_bind (ih.optionTexts frame options)
  intro texts
  have hwrite := ih.writeValue frame value texts
  cases hanchor : texts.anchor with
  | none => exact Step.Accords.asStep (hwrite.weaken fun holds => holds.2)
  | some anchor =>
    -- An anchor is only there if it may be put.
    have allowed (spares : texts.Spares excluded) :
        ¬excluded.instr (.storeOption WriteOption.anchor.index) := fun hexcluded => by
      have hunset : texts.anchor = none := spares .anchor hexcluded
      rw [hanchor] at hunset
      cases hunset
    apply Step.Accords.asStep_bind (Render.Accords.pushAnchor sim fun holds => allowed holds.2)
    intro _
    apply (Step.Accords.asStep (hwrite.weaken fun holds => holds.1.2)).bind_last
    intro n
    apply (Step.Accords.require fun holds => sim.popAnchor (allowed holds.1.1.2)).bind_last
    intro column
    exact Step.Accords.pure fun _ => trivial

/-- Writing a value is in accord. -/
theorem writeValue_succ (le : setting.maxDepth ≤ deeper)
    (room : setting.maxDepth = deeper ∨ ∀ limit, excluded.problem (.stackOverflow limit))
    (frame : Frame) (value : Value) (options : OptionRow String) :
    Render.Accords excluded B (options.Spares excluded)
      (writeValueHands setting (fuel + 1) frame value options)
      (TemplateMachine.writeValue setting (fuel + 1) frame value options)
      (TemplateMachine.writeValue (setting.withDepth deeper) (fuel + 1) frame value options)
      fun _ => True := by
  have hscalar (value : Value) : Render.Accords excluded B (options.Spares excluded)
      (.one (frame.scalarText setting value options.format))
      (Render.writeScalar setting frame value options)
      (Render.writeScalar (setting.withDepth deeper) frame value options) fun _ => True :=
    Render.Accords.writeScalar sim fun spares => spares .wrap
  have hstandIn : frame.standIn (setting.withDepth deeper) value = frame.standIn setting value := rfl
  rw [TemplateMachine.writeValue, TemplateMachine.writeValue, writeValueHands, hstandIn]
  cases value.isNone with
  | true =>
    cases options.null with
    | some null => exact hscalar _
    | none => exact Render.Accords.pure fun _ => trivial
  | false =>
    cases frame.standIn setting value with
    | template inst =>
      apply (Render.Accords.tooDeep le room).bind
      intro deep
      cases deep with
      | true => exact Render.Accords.pure fun _ => trivial
      | false =>
        apply (Render.Accords.writeWrap sim fun holds => holds.1 .wrap).bind
        intro n
        apply ((ih.exec (frame.child inst)).weaken fun _ => trivial).bind_last
        intro m
        exact Render.Accords.pure fun _ => trivial
    | list items => exact ih.writeItems frame items options 0 false
    | map entries => exact ih.writeItems frame _ options 0 false
    | _ => exact hscalar _

omit ih in
/-- Writing a separator is in accord. -/
theorem separate_accords {pre : Prop} (frame : Frame) (options : OptionRow String) (seen : Bool) :
    Render.Accords excluded B pre (separateHands options seen) (separate frame options seen)
      (separate frame options seen) fun _ => True := by
  unfold separate separateHands
  cases options.separator with
  | none => exact Render.Accords.pure fun _ => trivial
  | some separator =>
    cases seen with
    | true => exact Render.Accords.write sim
    | false => exact Render.Accords.pure fun _ => trivial

/-- Writing the elements of a collection is in accord. -/
theorem writeItems_succ (frame : Frame) (items : List Value) (options : OptionRow String)
    (count : Nat) (seen : Bool) :
    Render.Accords excluded B (options.Spares excluded)
      (writeItemsHands setting (fuel + 1) frame items options count seen)
      (TemplateMachine.writeItems setting (fuel + 1) frame items options count seen)
      (TemplateMachine.writeItems (setting.withDepth deeper) (fuel + 1) frame items options count
        seen) fun _ => True := by
  cases items with
  | nil => exact Render.Accords.pure fun _ => trivial
  | cons item rest =>
    rw [writeItems_cons, writeItems_cons, writeItemsHands]
    cases (if item.isNone then options.null.map Value.string else some item : Option Value) with
    | none => exact ih.writeItems frame rest options count seen
    | some v =>
      apply (separate_accords sim frame options seen).bind
      intro n
      apply ((ih.writeValue frame v options).weaken fun holds => holds.1).bind
      intro m
      exact (ih.writeItems frame rest options _ _).weaken fun holds => holds.1.1

/-- Finding the value of a default is in accord. -/
theorem defaultValue_succ (le : setting.maxDepth ≤ deeper)
    (room : setting.maxDepth = deeper ∨ ∀ limit, excluded.problem (.stackOverflow limit))
    (frame : Frame) (default : DefaultValue) :
    Render.Accords excluded B True (defaultValueHands setting (fuel + 1) frame default)
      (TemplateMachine.defaultValue setting (fuel + 1) frame default)
      (TemplateMachine.defaultValue (setting.withDepth deeper) (fuel + 1) frame default)
      fun _ => True := by
  cases default with
  | literal value => exact Render.Accords.pure fun _ => trivial
  | template template eager =>
    rw [TemplateMachine.defaultValue, TemplateMachine.defaultValue, defaultValueHands]
    cases eager with
    | false => exact Render.Accords.pure fun _ => trivial
    | true =>
      apply (Render.Accords.tooDeep le room).bind
      intro deep
      cases deep with
      | true => exact Render.Accords.pure fun _ => trivial
      | false =>
        have hexec := ih.exec (frame.child (.ofTemplate template frame.running.group))
        apply (Render.Accords.aside sim (hexec.weaken fun _ => trivial)).bind_last
        intro text
        exact Render.Accords.pure fun _ => trivial

/-- Rendering a value to text is in accord. -/
theorem toText_succ (frame : Frame) (value : Value) :
    Render.Accords excluded B True (toTextHands setting (fuel + 1) frame value)
      (TemplateMachine.toText setting (fuel + 1) frame value)
      (TemplateMachine.toText (setting.withDepth deeper) (fuel + 1) frame value) fun _ => True :=
  Render.Accords.aside sim ((ih.writeValue frame value .empty).weaken
    fun _ => OptionRow.spares_empty)

end Succ

/-- Whatever the machine is asked to do is in accord. -/
theorem all (sim : excluded.Bisimulation B) (le : setting.maxDepth ≤ deeper)
    (room : setting.maxDepth = deeper ∨ ∀ limit, excluded.problem (.stackOverflow limit))
    (fuel : Nat) : MachineAccords excluded B setting deeper fuel := by
  induction fuel with
  | zero => exact zero
  | succ fuel ih =>
    exact {
      exec := exec_succ ih sim
      run := run_succ ih
      step := step_succ ih sim
      writeWith := writeWith_succ ih sim
      optionTexts := optionTexts_succ ih
      optionText := optionText_succ ih
      writeValue := writeValue_succ ih sim le room
      writeItems := writeItems_succ ih sim
      toText := toText_succ ih sim
      giveDefaults := giveDefaults_succ ih
      defaultValue := defaultValue_succ ih sim le room }

end MachineAccords

/-- Two renders of an instance, with settings that differ in what becomes of the output only, come to
the same from writers that are related, if nothing excluded is come across in the first one. -/
theorem Instance.execute_accord (sim : excluded.Bisimulation B) (inst : Instance)
    (catalog : Catalog) {settings settings' : RenderSettings} {sink sink' : Sink}
    {withEvents : Bool} {fuel : Nat}
    (same : settings'.setting catalog inst = settings.setting catalog inst)
    (writers : B (settings.writer sink) (settings'.writer sink'))
    (clean : ∀ text ∈ inst.hands catalog settings sink withEvents fuel, ¬excluded.text text)
    (unmet : ¬excluded.Met (inst.execute catalog settings sink withEvents fuel).2) :
    (inst.execute catalog settings' sink' withEvents fuel).1 =
        (inst.execute catalog settings sink withEvents fuel).1 ∧
      RenderState.Matches B (inst.execute catalog settings sink withEvents fuel).2
        (inst.execute catalog settings' sink' withEvents fuel).2 := by
  have hall : MachineAccords excluded B (settings.setting catalog inst) _ fuel :=
    MachineAccords.all sim (Nat.le_refl _) (Or.inl rfl) fuel
  have haccords := hall.exec (.root inst)
  rw [execute_eq_outcome] at unmet
  rw [execute_eq_outcome, execute_eq_outcome, same]
  obtain ⟨hresult, hmatches, -⟩ := haccords.agrees trivial
    (.start (settings.writer sink) withEvents) (.start (settings'.writer sink') withEvents)
    ⟨writers, rfl, rfl, rfl, rfl⟩ clean unmet
  exact ⟨hresult, hmatches⟩

end TemplateMachine
