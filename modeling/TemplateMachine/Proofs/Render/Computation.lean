import TemplateMachine.Proofs.Output.Attempt
import TemplateMachine.Render.Rendering

/-!
# Laws of computations

What a computation on the state of a render comes to when it is started in a state: its result,
unless it is out of fuel, and the state in which it ends or stops. The equations say what each
operation of the machine does to the state. The rules after them say what holds after a computation
in terms of its parts, so that proofs about the machine can follow its text.

A computation that is out of fuel has done something all the same, and the rules keep track of it.
-/

namespace TemplateMachine

variable {α β : Type}

namespace Render

/-- The result of a computation, unless it is out of fuel, and the state in which it ends or
stops. -/
def outcome (action : Render α) (s : RenderState) : Option α × RenderState :=
  action.run.run s

/-- A sequence goes on in the state in which its first part ends. -/
theorem outcome_bind (action : Render α) (f : α → Render β) (s : RenderState) :
    outcome (action >>= f) s =
      match outcome action s with
      | (some a, t) => outcome (f a) t
      | (none, t) => (none, t) := by
  unfold outcome
  simp only [OptionT.run_bind, Option.elimM, StateT.run_bind]
  rcases (OptionT.run action).run s with ⟨_ | _, _⟩ <;> rfl

/-- A sequence that ends has a first part that ends and goes on to where the sequence ends. -/
theorem outcome_bind_eq_some_iff {action : Render α} {f : α → Render β} {s u : RenderState} {b : β} :
    outcome (action >>= f) s = (some b, u) ↔
      ∃ a t, outcome action s = (some a, t) ∧ outcome (f a) t = (some b, u) := by
  rw [outcome_bind]
  rcases outcome action s with ⟨_ | a, t⟩
  · simp
  · constructor
    · exact fun ends => ⟨a, t, rfl, ends⟩
    · rintro ⟨_, _, same, ends⟩
      cases same
      exact ends

/-- Reporting adds messages. -/
@[simp] theorem outcome_report (frame : Frame) (problems : List Problem) (s : RenderState) :
    outcome (report frame problems) s =
      (some (), { s with messages := (problems.map frame.message).reverse ++ s.messages }) := rfl

/-- An operation is tried on the writer of the state. -/
@[simp] theorem outcome_attempt (operation : Attempt Writer α) (s : RenderState) :
    outcome (attempt operation) s =
      (some (operation.outcome s.writer).1, { s with writer := (operation.outcome s.writer).2 }) :=
  rfl

/-- Recording adds an event if events are wanted. -/
@[simp] theorem outcome_record (frame : Frame) (kind : EventKind) (start : Nat) (s : RenderState) :
    outcome (record frame kind start) s =
      (some (), { s with
        events := s.events.map fun events =>
          ⟨kind, frame.running.name, start, s.writer.index⟩ :: events }) := rfl

/-- Marking adds a mark. -/
@[simp] theorem outcome_mark (frame : Frame) (deed : Deed) (s : RenderState) :
    outcome (mark frame deed) s = (some (), { s with trail := ⟨s.aside, frame, deed⟩ :: s.trail }) :=
  rfl

/-- The position is read off the writer. -/
@[simp] theorem outcome_position (s : RenderState) :
    outcome position s = (some s.writer.index, s) := rfl

/-- Beginning an indentation is done by the writer. -/
@[simp] theorem outcome_pushIndentation (indent : String) (s : RenderState) :
    outcome (pushIndentation indent) s =
      (some (), { s with writer := s.writer.pushIndentation indent }) := rfl

/-- Putting an anchor is done by the writer. -/
@[simp] theorem outcome_pushAnchor (s : RenderState) :
    outcome pushAnchor s = (some (), { s with writer := s.writer.pushAnchor }) := rfl

/-- Writing is an operation on the writer, and its failure is reported. -/
theorem outcome_emit (frame : Frame) (operation : Attempt Writer Nat) (s : RenderState) :
    outcome (emit frame operation) s =
      match operation.outcome s.writer with
      | (.ok n, w) => (some n, { s with writer := w })
      | (.error error, w) =>
        (some 0, { s with
          writer := w
          messages := frame.message (.ioError error) :: s.messages }) := by
  rw [emit, outcome_bind, outcome_attempt]
  rcases operation.outcome s.writer with ⟨_ | _, _⟩ <;> rfl

/-- What is rendered to a text of its own has the writer and the events to itself. -/
theorem outcome_aside (inner : Render Nat) (s : RenderState) :
    outcome (aside inner) s =
      match outcome inner
        { s with writer := s.writer.fork, events := none, aside := s.aside + 1 } with
      | (some _, t) =>
        (some t.writer.text, { t with writer := s.writer, events := s.events, aside := s.aside })
      | (none, t) => (none, t) := by
  unfold aside
  rw [outcome_bind]
  change outcome (inner >>= _) _ = _
  rw [outcome_bind]
  rcases outcome inner _ with ⟨_ | _, _⟩ <;> rfl

/-- A computation that ends has a result with `Q`, and one that is out of fuel stops with `E`. -/
def Spec (action : Render α) (s : RenderState) (Q : α → RenderState → Prop)
    (E : RenderState → Prop) : Prop :=
  match outcome action s with
  | (some a, t) => Q a t
  | (none, t) => E t

section Spec

variable {action : Render α} {f : α → Render β} {s : RenderState}
  {P : α → RenderState → Prop} {Q : β → RenderState → Prop} {E : RenderState → Prop}

/-- A computation is specified by what it comes to. -/
theorem spec_of_eq {a : α} {t : RenderState} (ends : outcome action s = (some a, t)) (h : P a t) :
    Spec action s P E := by
  rw [Spec, ends]
  exact h

/-- What a computation that ends comes to. -/
theorem Spec.result (h : Spec action s P E) {a : α} {t : RenderState}
    (ends : outcome action s = (some a, t)) : P a t := by
  rw [Spec, ends] at h
  exact h

/-- Nothing is asked of a computation. -/
theorem spec_trivial : Spec action s (fun _ _ => True) fun _ => True := by
  unfold Spec
  split <;> trivial

/-- A specification that asks for less is met as well. -/
theorem Spec.mono (h : Spec action s P E) {P' : α → RenderState → Prop} {E' : RenderState → Prop}
    (hP : ∀ a t, P a t → P' a t) (hE : ∀ t, E t → E' t) : Spec action s P' E' := by
  unfold Spec at h ⊢
  rcases hends : outcome action s with ⟨_ | a, t⟩ <;> rw [hends] at h
  · exact hE t h
  · exact hP a t h

/-- Two specifications of a computation are met together. -/
theorem Spec.and (h : Spec action s P E) {P' : α → RenderState → Prop} {E' : RenderState → Prop}
    (h' : Spec action s P' E') : Spec action s (fun a t => P a t ∧ P' a t) fun t => E t ∧ E' t := by
  unfold Spec at h h' ⊢
  rcases hends : outcome action s with ⟨_ | a, t⟩ <;> rw [hends] at h h' <;> exact ⟨h, h'⟩

/-- A sequence meets what its second part meets after its first part. -/
theorem Spec.bind (h : Spec action s P E) (hf : ∀ a t, P a t → Spec (f a) t Q E) :
    Spec (action >>= f) s Q E := by
  unfold Spec at h hf ⊢
  rw [outcome_bind]
  rcases hends : outcome action s with ⟨_ | a, t⟩ <;> rw [hends] at h
  · exact h
  · exact hf a t h

end Spec

end Render

namespace Step

/-- A step goes on where its first part ends, unless that ends in a fault. -/
theorem outcome_run_bind (action : Step α) (f : α → Step β) (s : RenderState) :
    Render.outcome (action >>= f).run s =
      match Render.outcome action.run s with
      | (some (.ok a), t) => Render.outcome (f a).run t
      | (some (.error fault), t) => (some (.error fault), t)
      | (none, t) => (none, t) := by
  change Render.outcome (action.run >>= ExceptT.bindCont f) s = _
  rw [Render.outcome_bind]
  rcases Render.outcome action.run s with ⟨_ | _ | _, _⟩ <;> rfl

/-- A step goes on with what its first part comes to if that succeeds. -/
theorem outcome_run_bind_of_ends {action : Step α} {f : α → Step β} {s t : RenderState} {a : α}
    (ends : Render.outcome action.run s = (some (.ok a), t)) :
    Render.outcome (action >>= f).run s = Render.outcome (f a).run t := by
  rw [outcome_run_bind, ends]

/-- A value is a step that changes nothing. -/
theorem outcome_run_ofExcept (a : α) (s : RenderState) :
    Render.outcome (ofExcept (.ok a)).run s = (some (.ok a), s) := rfl

/-- A computation that ends does so as a step. -/
theorem outcome_run_asStep {action : Render α} {s t : RenderState} {a : α}
    (ends : Render.outcome action s = (some a, t)) :
    Render.outcome action.asStep.run s = (some (.ok a), t) := by
  change Render.outcome (action >>= fun a => pure (Except.ok a)) s = _
  rw [Render.outcome_bind, ends]
  rfl

/-- A computation that is out of fuel is so as a step. -/
theorem outcome_run_asStep_of_stops {action : Render α} {s t : RenderState}
    (stops : Render.outcome action s = (none, t)) :
    Render.outcome action.asStep.run s = (none, t) := by
  change Render.outcome (action >>= fun a => pure (Except.ok a)) s = _
  rw [Render.outcome_bind, stops]

/-- A step goes on where a computation ends. -/
theorem outcome_run_asStep_bind (action : Render α) (f : α → Step β) (s : RenderState) :
    Render.outcome (action.asStep >>= f).run s =
      match Render.outcome action s with
      | (some a, t) => Render.outcome (f a).run t
      | (none, t) => (none, t) := by
  rcases hends : Render.outcome action s with ⟨_ | a, t⟩
  · rw [outcome_run_bind, outcome_run_asStep_of_stops hends]
  · rw [outcome_run_bind_of_ends (outcome_run_asStep hends)]

/-- A required operation is tried on the writer of the state, and its failure is a fault. -/
theorem outcome_run_require (operation : Attempt Writer α) (s : RenderState) :
    Render.outcome (require operation).run s =
      match operation.outcome s.writer with
      | (.ok a, w) => (some (.ok a), { s with writer := w })
      | (.error error, w) => (some (.error (.writer error)), { s with writer := w }) := by
  change Render.outcome (Render.attempt operation >>= _) s = _
  rw [Render.outcome_bind, Render.outcome_attempt]
  rcases operation.outcome s.writer with ⟨_ | _, _⟩ <;> rfl

end Step

/-- Whether an instruction works on the operand stack alone. -/
def Instr.isOperation : Instr → Bool
  | .write | .writeOpt | .writeStr _ | .writeLocal _ | .toStr | .indent _ | .dedent | .newline
  | .br _ | .brf _ => false
  | _ => true

/-- An instruction that works on the operand stack alone takes the step of its operation. -/
theorem step_of_isOperation {instr : Instr} (operation : instr.isOperation = true)
    (setting : Setting) (fuel : Nat) (frame : Frame) (cursor : Cursor) :
    step setting (fuel + 1) frame cursor instr = (do
      let (stack, problems) ← Step.ofExcept (frame.operate setting cursor.stack instr)
      (Render.report frame problems).asStep
      pure { cursor.next instr with stack := stack }) := by
  cases instr <;> first | rfl | simp [Instr.isOperation] at operation

/-- A newline instruction writes a newline or nothing. -/
theorem step_newline (setting : Setting) (fuel : Nat) (frame : Frame) (cursor : Cursor) :
    step setting (fuel + 1) frame cursor .newline = (do
      let n ← (if cursor.wantsNewline then Render.emit frame (Writer.write "\n")
        else pure 0 : Render Nat).asStep
      let next := cursor.next .newline
      pure { next with count := next.count + n, sinceNewline := 0 }) := by
  rw [step]
  split <;> rfl

/-- Write the separator before an element if something was written before that element. -/
def separate (frame : Frame) (options : OptionRow String) (seen : Bool) : Render Nat :=
  match options.separator with
  | some separator =>
    if seen then Render.emit frame (Writer.writeSeparator separator) else pure 0
  | none => pure 0

/-- What is written of an element is the element itself or a text in its place. -/
theorem eq_or_string_of_written {item value : Value} {null : Option String}
    (written : (if item.isNone then null.map Value.string else some item) = some value) :
    value = item ∨ ∃ text, value = .string text := by
  split at written
  · obtain ⟨text, -, rfl⟩ := Option.map_eq_some_iff.mp written
    exact Or.inr ⟨text, rfl⟩
  · exact Or.inl (Option.some.inj written).symm

/-- An element that is missing is left out or replaced; any other one is written after the separator,
and the elements after it follow. -/
theorem writeItems_cons (setting : Setting) (fuel : Nat) (frame : Frame) (item : Value)
    (rest : List Value) (options : OptionRow String) (count : Nat) (seen : Bool) :
    writeItems setting (fuel + 1) frame (item :: rest) options count seen =
      match (if item.isNone then options.null.map Value.string else some item : Option Value) with
      | none => writeItems setting fuel frame rest options count seen
      | some item => (do
        let n ← separate frame options seen
        let m ← writeValue setting fuel frame item options
        writeItems setting fuel frame rest options (count + n + m) (seen || 0 < m)) := by
  rw [writeItems]
  dsimp only
  cases (if item.isNone then options.null.map Value.string else some item : Option Value) with
  | none => rfl
  | some item =>
    unfold separate
    cases options.separator with
    | none => rfl
    | some separator => cases seen <;> rfl

/-- To run an instance from the outside is to run its template. -/
theorem Instance.execute_eq_outcome (inst : Instance) (catalog : Catalog)
    (settings : RenderSettings) (sink : Sink) (withEvents : Bool) (fuel : Nat) :
    inst.execute catalog settings sink withEvents fuel =
      Render.outcome (exec (settings.setting catalog inst) fuel (.root inst))
        (.start (settings.writer sink) withEvents) := rfl

end TemplateMachine
