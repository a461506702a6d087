import TemplateMachine.Proofs.Sound.Operation

/-!
# Operations stay away from the writer

The instructions that work on the operand stack alone fault for want of an operand, because of one of
the wrong sort, or because an index leads nowhere. A failure of the writer is never the reason, and
what they report goes to the runtime channel of a listener. Nothing is asked of the frame or the stack
for this.
-/

namespace TemplateMachine

variable {α β : Type}

/-- Whether a fault is a failure of the writer. -/
def Fault.isWriter : Fault → Bool
  | .writer _ => true
  | _ => false

/-- A result with a property, or a fault that is no failure of the writer. -/
def Aloof (result : Except Fault α) (P : α → Prop) : Prop :=
  match result with
  | .ok a => P a
  | .error fault => fault.isWriter = false

/-- Problems that a listener is told of on the runtime channel. -/
def OnRuntimeChannel (problems : List Problem) : Prop :=
  ∀ problem ∈ problems, problem.channel = .runtime

/-- Ordinary problems go to the runtime channel. -/
theorem Ordinary.onRuntimeChannel {problems : List Problem} (ordinary : Ordinary problems) :
    OnRuntimeChannel problems := by
  intro problem mem
  have hordinary := ordinary problem mem
  cases problem <;> first | rfl | simp [Problem.isOrdinary] at hordinary

section Aloof

variable {x : Except Fault α} {f : α → Except Fault β} {P : β → Prop}

/-- A pure result is aloof. -/
theorem aloof_pure {b : β} (h : P b) : Aloof (pure b) P := h

/-- A sequence is aloof if its parts are. -/
theorem Aloof.bind (hx : Aloof x fun _ => True) (hf : ∀ a, Aloof (f a) P) :
    Aloof (x >>= f) P := by
  cases x with
  | ok a => exact hf a
  | error fault => exact hx

end Aloof

/-- Finding a pooled text is aloof. -/
theorem Template.aloof_text (template : Template) (index : Nat) :
    Aloof (template.text index) fun _ => True := by
  unfold text
  split
  · trivial
  · rfl

/-- Finding the target of a jump is aloof. -/
theorem Template.aloof_jumpTarget (template : Template) (index : Nat) :
    Aloof (template.jumpTarget index) fun _ => True := by
  unfold jumpTarget
  split
  · rfl
  · trivial

/-- Reading a slot is aloof. -/
theorem Instance.aloof_readSlot (inst : Instance) (index : Nat) :
    Aloof (inst.readSlot index) fun _ => True := by
  unfold readSlot
  split
  · trivial
  · rfl

/-- Taking a value as an instance is aloof. -/
theorem Value.aloof_toInstance (value : Value) : Aloof value.toInstance fun _ => True := by
  unfold toInstance
  split
  · trivial
  · rfl

/-- Taking values as instances is aloof. -/
theorem aloof_mapM_toInstance (values : List Value) :
    Aloof (values.mapM Value.toInstance) fun _ => True := by
  induction values with
  | nil => simpa using aloof_pure trivial
  | cons value rest ih =>
    rw [List.mapM_cons]
    exact value.aloof_toInstance.bind fun inst => ih.bind fun insts => aloof_pure trivial

namespace Stack

/-- Taking a value is aloof. -/
theorem aloof_pop (stack : Stack) : Aloof stack.pop fun _ => True := by
  unfold pop
  split <;> trivial

/-- Taking a number of values is aloof. -/
theorem aloof_popMany (count : Nat) (later : List Value) (stack : Stack) :
    Aloof (popMany count later stack) fun _ => True := by
  induction count generalizing later stack with
  | zero => trivial
  | succ count ih => exact stack.aloof_pop.bind fun popped => ih _ popped.2

/-- Taking a number of values is aloof. -/
theorem aloof_popN (stack : Stack) (count : Nat) : Aloof (stack.popN count) fun _ => True :=
  aloof_popMany count [] stack

/-- Taking options is aloof. -/
theorem aloof_popOptions (stack : Stack) : Aloof stack.popOptions fun _ => True := by
  unfold popOptions
  split <;> trivial

/-- Taking named arguments is aloof. -/
theorem aloof_popArguments (stack : Stack) : Aloof stack.popArguments fun _ => True := by
  unfold popArguments
  split <;> trivial

/-- Taking a list is aloof. -/
theorem aloof_popList (stack : Stack) : Aloof stack.popList fun _ => True := by
  unfold popList
  split <;> trivial

/-- An outcome that is aloof and reports on the runtime channel only. -/
def AloofOutcome (outcome : Outcome) : Prop :=
  Aloof outcome fun left => OnRuntimeChannel left.2

variable (stack : Stack)

/-- A stack without problems is aloof. -/
theorem aloof_unproblematic : AloofOutcome (pure (stack, [])) :=
  aloof_pure (by simp [OnRuntimeChannel])

/-- Pushing a value is aloof. -/
theorem aloof_pushed (value : Value) : AloofOutcome (stack.pushed value) :=
  (stack.push value).aloof_unproblematic

/-- Pushing a value with ordinary problems is aloof. -/
theorem aloof_pushReported {result : Reported Value} (ordinary : Ordinary result.2) :
    AloofOutcome (stack.pushReported result) :=
  aloof_pure ordinary.onRuntimeChannel

/-- Replacing the top value is aloof. -/
theorem aloof_mapTop (f : Value → Value) : AloofOutcome (stack.mapTop f) :=
  stack.aloof_pop.bind fun popped => popped.2.aloof_pushed _

/-- Combining the two top values is aloof. -/
theorem aloof_combineTop (f : Bool → Bool → Bool) : AloofOutcome (stack.combineTop f) :=
  stack.aloof_pop.bind fun right => right.2.aloof_pop.bind fun left => left.2.aloof_pushed _

/-- Pushing an instance is aloof if giving it arguments and missing it are ordinary. -/
theorem aloof_pushInstance {found : Option Instance} {give : Instance → Reported Instance}
    {blank : Instance} {missing : Problem} (hgive : ∀ inst, Ordinary (give inst).2)
    (hmissing : missing.isOrdinary = true) :
    AloofOutcome (stack.pushInstance found give blank missing) := by
  cases found with
  | none => exact aloof_pure (Ordinary.onRuntimeChannel (by simpa using hmissing))
  | some inst => exact aloof_pure (hgive inst).onRuntimeChannel

end Stack

open Stack in
/-- Whatever an instruction does to the operand stack, it faults for no failure of the writer and
reports on the runtime channel only. -/
theorem Frame.aloof_operate (frame : Frame) (setting : Setting) (stack : Stack) (instr : Instr) :
    AloofOutcome (frame.operate setting stack instr) := by
  have hpositional (values : List Value) (inst : Instance) :
      Ordinary (inst.givePositional values).2 := inst.ordinary_givePositional values
  have hnamed (entries : Entries Value) (inst : Instance) : Ordinary (inst.giveNamed entries).2 :=
    inst.ordinary_giveNamed entries
  cases instr with
  | loadStr index => exact (frame.template.aloof_text index).bind fun text => stack.aloof_pushed _
  | loadAttr index =>
    refine (frame.template.aloof_text index).bind fun name => ?_
    split
    · exact stack.aloof_pushed _
    · exact stack.aloof_pushReported (by simp [Problem.isOrdinary])
  | loadLocal index => exact (frame.running.aloof_readSlot index).bind fun _ => stack.aloof_pushed _
  | loadProp index =>
    refine (frame.template.aloof_text index).bind fun name => stack.aloof_pop.bind fun owner => ?_
    exact owner.2.aloof_pushReported (frame.ordinary_property setting owner.1 name)
  | loadPropInd =>
    refine stack.aloof_pop.bind fun key => key.2.aloof_pop.bind fun owner => ?_
    exact owner.2.aloof_pushReported (frame.ordinary_property setting owner.1 _)
  | storeOption index =>
    refine stack.aloof_pop.bind fun value => value.2.aloof_popOptions.bind fun row => ?_
    dsimp only
    split
    · exact aloof_unproblematic _
    · exact aloof_pure (by simp [OnRuntimeChannel, Problem.channel])
  | storeArg index =>
    refine (frame.template.aloof_text index).bind fun name => stack.aloof_pop.bind fun value => ?_
    exact value.2.aloof_popArguments.bind fun entries => aloof_unproblematic _
  | newNamed index count =>
    refine (frame.template.aloof_text index).bind fun name => (stack.aloof_popN count).bind fun values => ?_
    exact values.2.aloof_pushInstance (hpositional values.1) rfl
  | newInd count =>
    refine (stack.aloof_popN count).bind fun values => values.2.aloof_pop.bind fun key => ?_
    exact key.2.aloof_pushInstance (hpositional values.1) rfl
  | newBoxArgs index =>
    refine (frame.template.aloof_text index).bind fun name => stack.aloof_popArguments.bind fun entries => ?_
    exact entries.2.aloof_pushInstance (hnamed entries.1) rfl
  | superNew index count =>
    refine (frame.template.aloof_text index).bind fun name => (stack.aloof_popN count).bind fun values => ?_
    exact values.2.aloof_pushInstance (hpositional values.1) rfl
  | superNewBoxArgs index =>
    refine (frame.template.aloof_text index).bind fun name => stack.aloof_popArguments.bind fun entries => ?_
    exact entries.2.aloof_pushInstance (hnamed entries.1) rfl
  | map =>
    refine stack.aloof_pop.bind fun top => top.1.aloof_toInstance.bind fun prototype => ?_
    refine top.2.aloof_pop.bind fun value => ?_
    exact value.2.aloof_pushReported (prototype.ordinary_rotateOver [] _ value.1)
  | rotMap count =>
    refine (stack.aloof_popN count).bind fun values => ?_
    refine (aloof_mapM_toInstance values.1).bind fun prototypes => ?_
    cases prototypes with
    | nil => exact rfl
    | cons first others =>
      refine values.2.aloof_pop.bind fun value => ?_
      exact value.2.aloof_pushReported (first.ordinary_rotateOver others _ value.1)
  | zipMap count =>
    refine stack.aloof_pop.bind fun top => top.1.aloof_toInstance.bind fun prototype => ?_
    refine (top.2.aloof_popN count).bind fun values => ?_
    exact values.2.aloof_pushReported (prototype.ordinary_zipOver _ values.1)
  | options => exact aloof_unproblematic _
  | args => exact aloof_unproblematic _
  | passThru index =>
    refine (frame.template.aloof_text index).bind fun name => stack.aloof_popArguments.bind fun entries => ?_
    exact aloof_pure (frame.ordinary_passThrough setting name entries.1).onRuntimeChannel
  | list => exact stack.aloof_pushed _
  | add =>
    refine stack.aloof_pop.bind fun value => value.2.aloof_popList.bind fun items => ?_
    exact items.2.aloof_pushed _
  | first => exact stack.aloof_mapTop _
  | last => exact stack.aloof_mapTop _
  | rest => exact stack.aloof_mapTop _
  | trunc => exact stack.aloof_mapTop _
  | strip => exact stack.aloof_mapTop _
  | reverse => exact stack.aloof_mapTop _
  | length => exact stack.aloof_mapTop fun value => .ofCount value.size
  | strlen =>
    exact stack.aloof_pop.bind fun value => value.2.aloof_pushReported (ordinary_textLength value.1)
  | trim =>
    exact stack.aloof_pop.bind fun value =>
      value.2.aloof_pushReported (ordinary_trimmedValue value.1)
  | negate => exact stack.aloof_mapTop fun value => .bool !value.isTruthy
  | disjoin => exact stack.aloof_combineTop _
  | conjoin => exact stack.aloof_combineTop _
  | pop => exact stack.aloof_pop.bind fun value => aloof_unproblematic _
  | pushNull => exact stack.aloof_pushed _
  | pushTrue => exact stack.aloof_pushed _
  | pushFalse => exact stack.aloof_pushed _
  | _ => exact stack.aloof_unproblematic

end TemplateMachine
