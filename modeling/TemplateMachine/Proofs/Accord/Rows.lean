import TemplateMachine.Proofs.Accord.Rules
import TemplateMachine.Proofs.Except

/-!
# Options that are not set

The rows of options on an operand stack. Only two instructions add to them: one begins an empty row
and one sets an option of the row on top, so an option that no instruction sets is unset in all rows.
-/

namespace TemplateMachine

variable {α : Type}

/-- The rows of options on a stack with the top one first. -/
def Stack.rows : Stack → List (OptionRow Value)
  | [] => []
  | .options row :: rest => row :: Stack.rows rest
  | .value _ :: rest => Stack.rows rest
  | .arguments _ :: rest => Stack.rows rest

namespace Stack

variable {stack : Stack}

/-- Taking a value leaves the rows. -/
theorem rows_of_pop {popped : Value × Stack} (ends : stack.pop = .ok popped) :
    popped.2.rows = stack.rows := by
  unfold pop at ends
  split at ends
  · obtain rfl := Except.ok.inj ends
    rfl
  all_goals cases ends

/-- Taking values leaves the rows. -/
theorem rows_of_popMany {count : Nat} {later : List Value} {popped : List Value × Stack}
    (ends : popMany count later stack = .ok popped) : popped.2.rows = stack.rows := by
  induction count generalizing later stack with
  | zero =>
    obtain rfl := Except.ok.inj ends
    rfl
  | succ count ih =>
    obtain ⟨top, htop, hrest⟩ := bind_eq_ok_iff.mp ends
    exact (ih hrest).trans (rows_of_pop htop)

/-- Taking arguments leaves the rows. -/
theorem rows_of_popArguments {popped : Entries Value × Stack}
    (ends : stack.popArguments = .ok popped) : popped.2.rows = stack.rows := by
  unfold popArguments at ends
  split at ends
  · obtain rfl := Except.ok.inj ends
    rfl
  all_goals cases ends

/-- Taking a list leaves the rows. -/
theorem rows_of_popList {popped : List Value × Stack} (ends : stack.popList = .ok popped) :
    popped.2.rows = stack.rows := by
  unfold popList at ends
  split at ends
  · obtain rfl := Except.ok.inj ends
    rfl
  all_goals cases ends

/-- Taking options takes the first row. -/
theorem rows_of_popOptions {popped : OptionRow Value × Stack}
    (ends : stack.popOptions = .ok popped) : stack.rows = popped.1 :: popped.2.rows := by
  unfold popOptions at ends
  split at ends
  · obtain rfl := Except.ok.inj ends
    rfl
  all_goals cases ends

/-- An outcome that is a fault or a stack with certain rows. -/
def Leaves (rows : List (OptionRow Value)) (result : Outcome) : Prop :=
  ∀ left, result = .ok left → left.1.rows = rows

section Leaves

variable {rows : List (OptionRow Value)}

/-- A stack has the rows that it has. -/
theorem leaves_pure (problems : List Problem) : Leaves stack.rows (pure (stack, problems)) := by
  intro left ends
  obtain rfl := Except.ok.inj ends
  rfl

/-- A sequence leaves certain rows if its second part does whenever it is come to. -/
theorem leaves_bind {x : Except Fault α} {f : α → Outcome}
    (hf : ∀ a, x = .ok a → Leaves rows (f a)) : Leaves rows (x >>= f) := by
  intro left ends
  obtain ⟨a, ha, hrest⟩ := bind_eq_ok_iff.mp ends
  exact hf a ha left hrest

/-- Taking a value first leaves the rows to the rest. -/
theorem leaves_pop {f : Value × Stack → Outcome}
    (hf : ∀ popped, Leaves popped.2.rows (f popped)) : Leaves stack.rows (stack.pop >>= f) :=
  leaves_bind fun popped ends => rows_of_pop ends ▸ hf popped

/-- Taking values first leaves the rows to the rest. -/
theorem leaves_popN {f : List Value × Stack → Outcome} (count : Nat)
    (hf : ∀ popped, Leaves popped.2.rows (f popped)) : Leaves stack.rows (stack.popN count >>= f) :=
  leaves_bind fun popped ends => rows_of_popMany ends ▸ hf popped

/-- Taking arguments first leaves the rows to the rest. -/
theorem leaves_popArguments {f : Entries Value × Stack → Outcome}
    (hf : ∀ popped, Leaves popped.2.rows (f popped)) :
    Leaves stack.rows (stack.popArguments >>= f) :=
  leaves_bind fun popped ends => rows_of_popArguments ends ▸ hf popped

/-- Taking a list first leaves the rows to the rest. -/
theorem leaves_popList {f : List Value × Stack → Outcome}
    (hf : ∀ popped, Leaves popped.2.rows (f popped)) : Leaves stack.rows (stack.popList >>= f) :=
  leaves_bind fun popped ends => rows_of_popList ends ▸ hf popped

/-- Pushing a value leaves the rows. -/
theorem leaves_pushed (value : Value) : Leaves stack.rows (stack.pushed value) :=
  leaves_pure []

/-- Pushing a value with problems leaves the rows. -/
theorem leaves_pushReported (result : Reported Value) :
    Leaves stack.rows (stack.pushReported result) :=
  leaves_pure result.2

/-- Pushing an instance leaves the rows. -/
theorem leaves_pushInstance (found : Option Instance) (give : Instance → Reported Instance)
    (blank : Instance) (missing : Problem) :
    Leaves stack.rows (stack.pushInstance found give blank missing) := by
  cases found with
  | none => exact leaves_pure _
  | some inst => exact leaves_pure _

/-- Replacing the top value leaves the rows. -/
theorem leaves_mapTop (f : Value → Value) : Leaves stack.rows (stack.mapTop f) :=
  leaves_pop fun _ => leaves_pushed _

/-- Combining the two top values leaves the rows. -/
theorem leaves_combineTop (f : Bool → Bool → Bool) : Leaves stack.rows (stack.combineTop f) :=
  leaves_pop fun _ => leaves_pop fun _ => leaves_pushed _

end Leaves

end Stack

open Stack

/-- An instruction leaves the rows of options on the stack as they are, unless it begins a row or sets
an option of one. -/
theorem Frame.leaves_operate (frame : Frame) (setting : Setting) (stack : Stack) {instr : Instr}
    (begins : instr ≠ .options) (sets : ∀ index, instr ≠ .storeOption index) :
    Leaves stack.rows (frame.operate setting stack instr) := by
  cases instr with
  | options => exact absurd rfl begins
  | storeOption index => exact absurd rfl (sets index)
  | loadStr index => exact leaves_bind fun _ _ => leaves_pushed _
  | loadAttr index =>
    refine leaves_bind fun name _ => ?_
    split
    · exact leaves_pushed _
    · exact leaves_pushReported _
  | loadLocal index => exact leaves_bind fun _ _ => leaves_pushed _
  | loadProp index => exact leaves_bind fun _ _ => leaves_pop fun _ => leaves_pushReported _
  | loadPropInd => exact leaves_pop fun _ => leaves_pop fun _ => leaves_pushReported _
  | storeArg index =>
    exact leaves_bind fun _ _ => leaves_pop fun _ => leaves_popArguments fun _ => leaves_pure []
  | newNamed index count =>
    exact leaves_bind fun _ _ => leaves_popN count fun _ => leaves_pushInstance _ _ _ _
  | newInd count => exact leaves_popN count fun _ => leaves_pop fun _ => leaves_pushInstance _ _ _ _
  | newBoxArgs index =>
    exact leaves_bind fun _ _ => leaves_popArguments fun _ => leaves_pushInstance _ _ _ _
  | superNew index count =>
    exact leaves_bind fun _ _ => leaves_popN count fun _ => leaves_pushInstance _ _ _ _
  | superNewBoxArgs index =>
    exact leaves_bind fun _ _ => leaves_popArguments fun _ => leaves_pushInstance _ _ _ _
  | map =>
    exact leaves_pop fun _ => leaves_bind fun _ _ => leaves_pop fun _ => leaves_pushReported _
  | rotMap count =>
    refine leaves_popN count fun _ => leaves_bind fun prototypes _ => ?_
    cases prototypes with
    | nil => exact fun _ ends => by cases ends
    | cons first others => exact leaves_pop fun _ => leaves_pushReported _
  | zipMap count =>
    exact leaves_pop fun _ => leaves_bind fun _ _ => leaves_popN count fun _ =>
      leaves_pushReported _
  | args => exact leaves_pure []
  | passThru index =>
    exact leaves_bind fun _ _ => leaves_popArguments fun _ => leaves_pure _
  | list => exact leaves_pushed _
  | add => exact leaves_pop fun _ => leaves_popList fun _ => leaves_pushed _
  | first => exact leaves_mapTop _
  | last => exact leaves_mapTop _
  | rest => exact leaves_mapTop _
  | trunc => exact leaves_mapTop _
  | strip => exact leaves_mapTop _
  | reverse => exact leaves_mapTop _
  | length => exact leaves_mapTop fun value => .ofCount value.size
  | strlen => exact leaves_pop fun _ => leaves_pushReported _
  | trim => exact leaves_pop fun _ => leaves_pushReported _
  | negate => exact leaves_mapTop fun value => .bool !value.isTruthy
  | disjoin => exact leaves_combineTop _
  | conjoin => exact leaves_combineTop _
  | pop => exact leaves_pop fun _ => leaves_pure []
  | pushNull => exact leaves_pushed _
  | pushTrue => exact leaves_pushed _
  | pushFalse => exact leaves_pushed _
  | _ => exact leaves_pure []

/-- No option is set whose setting is excluded. -/
def OptionRow.Spares (excluded : Exclusions) (row : OptionRow α) : Prop :=
  ∀ option : WriteOption, excluded.instr (.storeOption option.index) → row.get? option = none

/-- No option is set in any row on the stack whose setting is excluded. -/
def Stack.Spares (excluded : Exclusions) (stack : Stack) : Prop :=
  ∀ row ∈ stack.rows, row.Spares excluded

variable {excluded : Exclusions}

/-- Nothing is set in an empty row. -/
theorem OptionRow.spares_empty : (OptionRow.empty : OptionRow α).Spares excluded := by
  intro option _
  cases option <;> rfl

/-- Setting an option that may be set keeps a row from having others. -/
theorem OptionRow.Spares.set {row : OptionRow α} (h : row.Spares excluded) {option : WriteOption}
    (allowed : ¬excluded.instr (.storeOption option.index)) (entry : α) :
    (row.set option entry).Spares excluded := by
  intro other hexcluded
  have hother : option ≠ other := fun same => allowed (same ▸ hexcluded)
  rw [get?_set, if_neg hother]
  exact h other hexcluded

/-- The index of an option is where it is found. -/
theorem WriteOption.index_of_ofIndex? {index : Nat} {option : WriteOption}
    (found : ofIndex? index = some option) : option.index = index := by
  have heach : ∀ i : Fin all.length, all[i].index = i := by decide
  obtain ⟨inside, rfl⟩ := List.getElem?_eq_some_iff.mp found
  exact heach ⟨index, inside⟩

/-- An instruction that is not excluded sets no option that is. -/
theorem Frame.spares_of_operate {frame : Frame} {setting : Setting} {stack : Stack} {instr : Instr}
    (allowed : ¬excluded.instr instr) (h : stack.Spares excluded) {left : Reported Stack}
    (ends : frame.operate setting stack instr = .ok left) : left.1.Spares excluded := by
  by_cases begins : instr = .options
  · subst begins
    obtain rfl := Except.ok.inj ends
    exact List.forall_mem_cons.mpr ⟨OptionRow.spares_empty, h⟩
  by_cases sets : ∃ index, instr = .storeOption index
  · obtain ⟨index, rfl⟩ := sets
    obtain ⟨⟨value, beneath⟩, hpop, hrest⟩ := bind_eq_ok_iff.mp ends
    obtain ⟨⟨row, rest⟩, hoptions, hset⟩ := bind_eq_ok_iff.mp hrest
    have hrows : stack.rows = row :: rest.rows :=
      (rows_of_pop hpop).symm.trans (rows_of_popOptions hoptions)
    rw [Stack.Spares, hrows, List.forall_mem_cons] at h
    dsimp only at hset
    split at hset
    · rename_i option found
      obtain rfl := Except.ok.inj hset
      rw [← WriteOption.index_of_ofIndex? found] at allowed
      exact List.forall_mem_cons.mpr ⟨h.1.set allowed value, h.2⟩
    · obtain rfl := Except.ok.inj hset
      exact List.forall_mem_cons.mpr h
  · rw [Stack.Spares, frame.leaves_operate setting stack begins
      (fun index hindex => sets ⟨index, hindex⟩) left ends]
    exact h

end TemplateMachine
