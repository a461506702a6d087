import TemplateMachine.Proofs.Indentation.Pairing

/-!
# Computations that end

A computation that uses fuel ends if from some amount of it on, it always has the same result in the
same state. A sequence ends if its first part does and its second part ends after every result that
the first part can have; so ending composes without any word on how much fuel is used, and it need
not be shown apart that more fuel does no harm.

How much fuel is enough may depend on the state in which a computation starts.
-/

namespace TemplateMachine

variable {α β : Type}

/-- From any state, a computation ends with a result that has a property, in the same way for every
amount of fuel that is large enough. -/
def Terminates (action : Nat → Render α) (P : α → Prop) : Prop :=
  ∀ s, ∃ enough a t, (∀ fuel ≥ enough, Render.outcome (action fuel) s = (some a, t)) ∧ P a

namespace Terminates

variable {action : Nat → Render α} {P : α → Prop} {Q : β → Prop}

/-- A computation that ends with one unit of fuel more ends. -/
theorem of_succ (h : Terminates (fun fuel => action (fuel + 1)) P) : Terminates action P := by
  intro s
  obtain ⟨enough, a, t, hends, ha⟩ := h s
  refine ⟨enough + 1, a, t, fun fuel le => ?_, ha⟩
  obtain ⟨fuel, rfl⟩ := Nat.exists_eq_add_of_le' (Nat.one_le_of_lt le)
  exact hends fuel (Nat.le_of_succ_le_succ le)

/-- A computation that ends without any fuel ends. -/
theorem of_ends {action : Render α}
    (h : ∀ s, ∃ a t, Render.outcome action s = (some a, t) ∧ P a) :
    Terminates (fun _ => action) P := by
  intro s
  obtain ⟨a, t, hends, ha⟩ := h s
  exact ⟨0, a, t, fun _ _ => hends, ha⟩

/-- A pure computation ends. -/
theorem pure {a : α} (h : P a) : Terminates (fun _ => pure a) P :=
  of_ends fun s => ⟨a, s, rfl, h⟩

/-- A sequence ends if its second part ends after its first part. -/
theorem bind (h : Terminates action P) {f : Nat → α → Render β}
    (hf : ∀ a, P a → Terminates (fun fuel => f fuel a) Q) :
    Terminates (fun fuel => action fuel >>= f fuel) Q := by
  intro s
  obtain ⟨first, a, t, hends, ha⟩ := h s
  obtain ⟨second, b, u, hrest, hb⟩ := hf a ha t
  refine ⟨max first second, b, u, fun fuel le => ?_, hb⟩
  rw [Render.outcome_bind, hends fuel (Nat.le_trans (Nat.le_max_left first second) le)]
  exact hrest fuel (Nat.le_trans (Nat.le_max_right first second) le)

variable {frame : Frame}

/-- Reporting ends. -/
theorem report {problems : List Problem} :
    Terminates (fun _ => Render.report frame problems) fun _ => True :=
  of_ends fun s => ⟨_, _, Render.outcome_report frame problems s, trivial⟩

/-- Trying an operation on the writer ends. -/
theorem attempt {operation : Attempt Writer α} :
    Terminates (fun _ => Render.attempt operation) fun _ => True :=
  of_ends fun s => ⟨_, _, Render.outcome_attempt operation s, trivial⟩

/-- Writing ends. -/
theorem emit {operation : Attempt Writer Nat} :
    Terminates (fun _ => Render.emit frame operation) fun _ => True := by
  refine of_ends fun s => ?_
  rw [Render.outcome_emit]
  rcases operation.outcome s.writer with ⟨_ | n, w⟩
  · exact ⟨_, _, rfl, trivial⟩
  · exact ⟨_, _, rfl, trivial⟩

/-- Recording an event ends. -/
theorem record {kind : EventKind} {start : Nat} :
    Terminates (fun _ => Render.record frame kind start) fun _ => True :=
  of_ends fun s => ⟨_, _, Render.outcome_record frame kind start s, trivial⟩

/-- Leaving a mark ends. -/
theorem mark {deed : Deed} : Terminates (fun _ => Render.mark frame deed) fun _ => True :=
  of_ends fun s => ⟨_, _, Render.outcome_mark frame deed s, trivial⟩

/-- Reading the position ends. -/
theorem position : Terminates (fun _ => Render.position) fun _ => True :=
  of_ends fun s => ⟨_, _, Render.outcome_position s, trivial⟩

/-- Beginning an indentation ends. -/
theorem pushIndentation {indent : String} :
    Terminates (fun _ => Render.pushIndentation indent) fun _ => True :=
  of_ends fun s => ⟨_, _, Render.outcome_pushIndentation indent s, trivial⟩

/-- Putting an anchor ends. -/
theorem pushAnchor : Terminates (fun _ => Render.pushAnchor) fun _ => True :=
  of_ends fun s => ⟨_, _, Render.outcome_pushAnchor s, trivial⟩

/-- Looking out for nesting that is too deep ends, and where it lets a template through there is room
for it. -/
theorem tooDeep {setting : Setting} :
    Terminates (fun _ => Render.tooDeep setting frame) fun deep =>
      deep = false → frame.depth + 1 ≤ setting.maxDepth := by
  unfold Render.tooDeep
  split
  · exact report.bind fun _ _ => pure (by simp)
  · exact pure fun _ => by omega

/-- Writing a scalar value ends. -/
theorem writeScalar {setting : Setting} {value : Value} {options : OptionRow String} :
    Terminates (fun _ => Render.writeScalar setting frame value options) fun _ => True :=
  emit

/-- Writing a separator, or none, ends. -/
theorem separate {options : OptionRow String} {seen : Bool} :
    Terminates (fun _ => TemplateMachine.separate frame options seen) fun _ => True := by
  unfold TemplateMachine.separate
  split
  · split
    · exact emit
    · exact pure trivial
  · exact pure trivial

/-- Rendering to a text of its own ends if what is rendered does. -/
theorem aside {inner : Nat → Render Nat} (h : Terminates inner fun _ => True) :
    Terminates (fun fuel => Render.aside (inner fuel)) fun _ => True := by
  intro s
  obtain ⟨enough, n, t, hends, -⟩ :=
    h { s with writer := s.writer.fork, events := none, aside := s.aside + 1 }
  refine ⟨enough, t.writer.text, { t with writer := s.writer, events := s.events, aside := s.aside },
    fun fuel le => ?_, trivial⟩
  rw [Render.outcome_aside, hends fuel le]

end Terminates

/-- From any state, a step ends in a fault or with a result that has a property, in the same way for
every amount of fuel that is large enough. -/
def StepTerminates (action : Nat → Step α) (P : α → Prop) : Prop :=
  Terminates (fun fuel => (action fuel).run) fun result => ∀ a, result = .ok a → P a

namespace StepTerminates

variable {action : Nat → Step α} {P : α → Prop} {Q : β → Prop}

/-- A pure step ends. -/
theorem pure {a : α} (h : P a) : StepTerminates (fun _ => pure a) P :=
  Terminates.pure fun _ same => Except.ok.inj same ▸ h

/-- A sequence of steps ends if its second part ends after its first part. -/
theorem bind (h : StepTerminates action P) {f : Nat → α → Step β}
    (hf : ∀ a, P a → StepTerminates (fun fuel => f fuel a) Q) :
    StepTerminates (fun fuel => action fuel >>= f fuel) Q := by
  refine Terminates.bind h fun result hresult => ?_
  cases result with
  | ok a => exact hf a (hresult a rfl)
  | error fault => exact Terminates.pure (by simp)

/-- A computation that ends does so as a step. -/
theorem asStep {action : Nat → Render α} (h : Terminates action P) :
    StepTerminates (fun fuel => (action fuel).asStep) P :=
  Terminates.bind h fun _ ha => Terminates.pure fun _ same => Except.ok.inj same ▸ ha

/-- A value or a fault ends. -/
theorem ofExcept {result : Except Fault α} (h : ∀ a, result = .ok a → P a) :
    StepTerminates (fun _ => Step.ofExcept result) P :=
  Terminates.pure h

/-- A required operation on the writer ends. -/
theorem require {operation : Attempt Writer α} :
    StepTerminates (fun _ => Step.require operation) fun _ => True := by
  refine Terminates.attempt.bind fun result _ => ?_
  cases result with
  | ok a => exact Terminates.pure fun _ _ => trivial
  | error error => exact Terminates.pure fun _ _ => trivial

/-- The result of a step that ends has what the step yields, too. -/
theorem yields (h : StepTerminates action P) {P' : α → Prop}
    (hyields : ∀ fuel, (action fuel).Yields P') : StepTerminates action fun a => P a ∧ P' a := by
  intro s
  obtain ⟨enough, result, t, hends, hresult⟩ := h s
  have hyielded := (hyields enough s).result (hends enough (Nat.le_refl enough))
  exact ⟨enough, result, t, hends, fun a same => ⟨hresult a same, hyielded a same⟩⟩

end StepTerminates

end TemplateMachine
