import TemplateMachine.Proofs.Except
import TemplateMachine.Proofs.Render.Computation

/-!
# Paired indentations

The paths through a program, by the instructions executed on them, and how many indentations a path
leaves open. A program is paired if no path from its start ends an indentation that it did not
begin, and none that comes to the end leaves one open. The machine follows such a path.

Whether a path is taken depends on values; all paths are considered here.
-/

namespace TemplateMachine

/-- The indices to which an instruction leads. -/
def Instr.successors (ip : Nat) : Instr → List Nat
  | .br target => [target]
  | .brf target => [ip + 1, target]
  | _ => [ip + 1]

/-- A path from the start of a program to an index, with the executed instructions, the last one
first. -/
inductive Path (program : List Instr) : List Instr → Nat → Prop where
  | start : Path program [] 0
  | go {executed : List Instr} {ip next : Nat} {instr : Instr} (path : Path program executed ip)
    (here : program[ip]? = some instr) (leads : next ∈ instr.successors ip)
    (inside : next ≤ program.length) : Path program (instr :: executed) next

/-- The number of indentations that executed instructions leave open, the last one first. -/
def unclosed : List Instr → Nat
  | [] => 0
  | .indent _ :: executed => unclosed executed + 1
  | .dedent :: executed => unclosed executed - 1
  | _ :: executed => unclosed executed

/-- On every path of a program, an indentation that is ended was begun, and at the end of the
program none is open. -/
structure Paired (program : List Instr) : Prop where
  begun : ∀ executed ip, Path program executed ip → program[ip]? = some .dedent →
    0 < unclosed executed
  ended : ∀ executed, Path program executed program.length → unclosed executed = 0

/-- A path stays inside its program or comes to its end. -/
theorem Path.le_length {program executed : List Instr} {ip : Nat}
    (path : Path program executed ip) : ip ≤ program.length := by
  cases path with
  | start => exact Nat.zero_le _
  | go path here leads inside => exact inside

/-- In a paired program, nothing is open where a path has no instruction to go on with. -/
theorem Paired.unclosed_eq_zero {program executed : List Instr} {ip : Nat}
    (paired : Paired program) (path : Path program executed ip) (stops : program[ip]? = none) :
    unclosed executed = 0 := by
  have hip : ip = program.length :=
    Nat.le_antisymm path.le_length (List.getElem?_eq_none_iff.mp stops)
  exact paired.ended executed (hip ▸ path)

/-- The number of indentations that an instruction begins. -/
def Instr.opens : Instr → Nat
  | .indent _ => 1
  | _ => 0

/-- An instruction that ends no indentation leaves open what was open and what it begins. -/
theorem unclosed_cons {instr : Instr} (other : instr ≠ .dedent) (executed : List Instr) :
    unclosed (instr :: executed) = unclosed executed + instr.opens := by
  cases instr <;> first | rfl | exact absurd rfl other

/-- An instruction that is no jump leads to the next one. -/
theorem Instr.successors_of_noJump {instr : Instr} (noJump : instr.target? = none) (ip : Nat) :
    instr.successors ip = [ip + 1] := by
  cases instr <;> first | rfl | simp [Instr.target?] at noJump

/-- In a program without jumps, the instructions executed on a path are those before its index. -/
theorem Path.executed_eq {program executed : List Instr} {ip : Nat}
    (straight : ∀ instr ∈ program, instr.target? = none) (path : Path program executed ip) :
    executed = (program.take ip).reverse := by
  induction path with
  | start => rfl
  | @go executed ip next instr path here leads inside ih =>
    rw [Instr.successors_of_noJump (straight instr (List.mem_of_getElem? here)),
      List.mem_singleton] at leads
    rw [leads, List.take_add_one, here, ih]
    simp

/-- A program without jumps is paired if this can be seen going through it once. -/
theorem paired_of_straight {program : List Instr}
    (straight : ∀ instr ∈ program, instr.target? = none)
    (begun : ∀ ip < program.length, program[ip]? = some .dedent →
      0 < unclosed (program.take ip).reverse)
    (ended : unclosed program.reverse = 0) : Paired program where
  begun := by
    intro executed ip path here
    obtain ⟨inside, -⟩ := List.getElem?_eq_some_iff.mp here
    rw [path.executed_eq straight]
    exact begun ip inside here
  ended := by
    intro executed path
    rw [path.executed_eq straight, List.take_length]
    exact ended

/-- A cursor that has moved on from another one by an instruction. -/
def Cursor.Follows (program : List Instr) (cursor : Cursor) (instr : Instr) (moved : Cursor) :
    Prop :=
  moved.executed = instr :: cursor.executed ∧ moved.ip ∈ instr.successors cursor.ip ∧
    moved.ip ≤ program.length

/-- A step that succeeds only with results that have a property. -/
def Step.Yields {α : Type} (action : Step α) (P : α → Prop) : Prop :=
  ∀ s, Render.Spec action.run s (fun result _ => ∀ a, result = .ok a → P a) fun _ => True

namespace Step

variable {α β : Type} {action : Step α} {P : α → Prop} {Q : β → Prop}

/-- Nothing is asked of a result. -/
theorem yields_trivial : action.Yields fun _ => True :=
  fun _ => Render.spec_trivial.mono (fun _ _ _ _ _ => trivial) fun _ => id

/-- A pure step yields its value. -/
theorem yields_pure {a : α} (h : P a) : (pure a : Step α).Yields P :=
  fun _ _ same => Except.ok.inj same ▸ h

/-- A value or a fault yields the value. -/
theorem yields_ofExcept {result : Except Fault α} (h : ∀ a, result = .ok a → P a) :
    (ofExcept result).Yields P :=
  fun _ => h

/-- A sequence yields what its second part yields after its first part. -/
theorem Yields.bind (h : action.Yields P) {f : α → Step β} (hf : ∀ a, P a → (f a).Yields Q) :
    (action >>= f).Yields Q := by
  intro s
  refine Render.Spec.bind (h s) fun result t hresult => ?_
  cases result with
  | ok a => exact hf a (hresult a rfl) t
  | error fault => exact Render.spec_of_eq rfl fun b same => by simp at same

end Step

/-- A jump that has a target goes there, and the target is in the program or at its end. -/
theorem Template.eq_of_jumpTarget_eq_ok {template : Template} {index target : Nat}
    (found : template.jumpTarget index = .ok target) :
    target = index ∧ target ≤ template.program.length := by
  unfold jumpTarget at found
  split at found
  · simp at found
  · obtain rfl := pure_eq_ok_iff.mp found
    exact ⟨rfl, by omega⟩

/-- A step that succeeds moves on by the instruction. -/
theorem step_follows (setting : Setting) (fuel : Nat) {frame : Frame} {cursor : Cursor}
    {instr : Instr} (here : frame.template.program[cursor.ip]? = some instr) :
    (step setting fuel frame cursor instr).Yields
      (cursor.Follows frame.template.program instr) := by
  have hnext : cursor.ip + 1 ≤ frame.template.program.length := by
    obtain ⟨inside, -⟩ := List.getElem?_eq_some_iff.mp here
    exact inside
  cases fuel with
  | zero => exact fun _ => trivial
  | succ fuel =>
    have hmoved {moved : Cursor} (noJump : instr.target? = none)
        (executed : moved.executed = instr :: cursor.executed) (ip : moved.ip = cursor.ip + 1) :
        cursor.Follows frame.template.program instr moved :=
      ⟨executed, by rw [Instr.successors_of_noJump noJump, ip]; exact List.mem_singleton_self _,
        ip ▸ hnext⟩
    cases instr with
    | br target =>
      rw [step]
      refine (Step.yields_ofExcept fun _ => Template.eq_of_jumpTarget_eq_ok).bind
        fun found hfound => ?_
      exact Step.yields_pure ⟨rfl, by simp [Instr.successors, hfound.1], hfound.2⟩
    | brf target =>
      rw [step]
      refine (Step.yields_ofExcept fun _ => Template.eq_of_jumpTarget_eq_ok).bind
        fun found hfound => ?_
      refine Step.yields_trivial.bind fun top _ => Step.yields_pure ⟨rfl, ?_, ?_⟩
      · dsimp only
        split <;> simp [Instr.successors, hfound.1, Cursor.next]
      · dsimp only
        split
        · exact hnext
        · exact hfound.2
    | write =>
      rw [step]
      apply Step.yields_trivial.bind
      intro top _
      apply Step.yields_trivial.bind
      intro start _
      apply Step.yields_trivial.bind
      intro n _
      apply Step.yields_trivial.bind
      intro _ _
      exact Step.yields_pure (hmoved rfl rfl rfl)
    | writeOpt =>
      rw [step]
      apply Step.yields_trivial.bind
      intro options _
      apply Step.yields_trivial.bind
      intro top _
      apply Step.yields_trivial.bind
      intro start _
      apply Step.yields_trivial.bind
      intro n _
      apply Step.yields_trivial.bind
      intro _ _
      exact Step.yields_pure (hmoved rfl rfl rfl)
    | writeStr index =>
      rw [step]
      apply Step.yields_trivial.bind
      intro text _
      apply Step.yields_trivial.bind
      intro n _
      exact Step.yields_pure (hmoved rfl rfl rfl)
    | writeLocal index =>
      rw [step]
      apply Step.yields_trivial.bind
      intro value _
      apply Step.yields_trivial.bind
      intro n _
      exact Step.yields_pure (hmoved rfl rfl rfl)
    | toStr =>
      rw [step]
      apply Step.yields_trivial.bind
      intro top _
      dsimp only
      split
      · exact Step.yields_pure (hmoved rfl rfl rfl)
      · exact Step.yields_pure (hmoved rfl rfl rfl)
      · apply Step.yields_trivial.bind
        intro text _
        exact Step.yields_pure (hmoved rfl rfl rfl)
    | indent index =>
      rw [step]
      apply Step.yields_trivial.bind
      intro text _
      apply Step.yields_trivial.bind
      intro _ _
      exact Step.yields_pure (hmoved rfl rfl rfl)
    | dedent =>
      rw [step]
      apply Step.yields_trivial.bind
      intro _ _
      exact Step.yields_pure (hmoved rfl rfl rfl)
    | newline =>
      rw [step]
      split
      · apply Step.yields_trivial.bind
        intro n _
        exact Step.yields_pure (hmoved rfl rfl rfl)
      · exact Step.yields_pure (hmoved rfl rfl rfl)
    | _ =>
      rw [step_of_isOperation rfl]
      apply Step.yields_trivial.bind
      intro result _
      apply Step.yields_trivial.bind
      intro _ _
      exact Step.yields_pure (hmoved rfl rfl rfl)

end TemplateMachine
