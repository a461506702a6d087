import Mathlib.Data.Bool.Basic
import TemplateMachine.Proofs.Output.Simulation
import TemplateMachine.Proofs.Render.Computation

/-!
# Renders side by side

Two renders that are asked for the same with writers on the two sides of a simulation. They take the
same course: they begin the same templates, come to the same instructions with the same operands and
end, fault or run out of fuel together. The characters counted and the positions agree only while
the writers are in step. They decide where newlines and separators are written and nothing else, so
that writers that are apart may be written different texts, but values are the same all along.

The messages, events and marks of the two renders are not compared.
-/

namespace TemplateMachine

variable {α β : Type}

/-- Two results that are the same, after which the writers are in step or apart as they were. -/
def Kept (i j : Bool) (a a' : α) : Prop :=
  j = i ∧ a = a'

/-- Two results that are the same if the writers are in step. -/
def WhileInStep (j : Bool) (a a' : α) : Prop :=
  j = true → a = a'

/-- Two computations, started with related writers, that both end or are both out of fuel. Writers
that are apart stay apart. The results are related by `Q`, and so they are in one way if the writers
are in step at the end and in another way if they are apart. -/
def Render.Alike (B : Bool → Writer → Writer → Prop) (i : Bool) (action action' : Render α)
    (Q : Bool → α → α → Prop) : Prop :=
  ∀ s s', B i s.writer s'.writer →
    match Render.outcome action s, Render.outcome action' s' with
    | (some a, t), (some a', t') => ∃ j ≤ i, B j t.writer t'.writer ∧ Q j a a'
    | (none, _), (none, _) => True
    | _, _ => False

namespace Render.Alike

variable {B : Bool → Writer → Writer → Prop} {i : Bool} {action action' : Render α}
  {f f' : α → Render β} {P : Bool → α → α → Prop} {Q : Bool → β → β → Prop} {frame : Frame}

/-- Pure computations are alike if their results are related. -/
theorem pure {a a' : α} (h : P i a a') : Render.Alike B i (pure a) (pure a') P :=
  fun _ _ hw => ⟨i, le_rfl, hw, h⟩

/-- Being out of fuel is alike on both sides. -/
theorem failure : Render.Alike B i (failure : Render α) failure P :=
  fun _ _ _ => trivial

/-- Sequences are alike if their parts are. -/
theorem bind (h : Render.Alike B i action action' P)
    (hf : ∀ j ≤ i, ∀ a a', P j a a' → Render.Alike B j (f a) (f' a') Q) :
    Render.Alike B i (action >>= f) (action' >>= f') Q := by
  intro s s' hw
  have hfirst := h s s' hw
  rw [outcome_bind, outcome_bind]
  rcases hends : outcome action s with ⟨_ | a, t⟩ <;>
    rcases hends' : outcome action' s' with ⟨_ | a', t'⟩ <;>
    rw [hends, hends'] at hfirst
  · trivial
  · exact hfirst.elim
  · exact hfirst.elim
  · obtain ⟨j, hj, hv, hresult⟩ := hfirst
    have hsecond := hf j hj a a' hresult t t' hv
    dsimp only
    rcases hlast : outcome (f a) t with ⟨_ | b, u⟩ <;>
      rcases hlast' : outcome (f' a') t' with ⟨_ | b', u'⟩ <;>
      rw [hlast, hlast'] at hsecond
    · trivial
    · exact hsecond.elim
    · exact hsecond.elim
    · obtain ⟨k, hk, hu, hb⟩ := hsecond
      exact ⟨k, le_trans hk hj, hu, hb⟩

/-- A sequence goes on as it was if its first parts come to the same. -/
theorem bind_kept (h : Render.Alike B i action action' (Kept i))
    (hf : ∀ a, Render.Alike B i (f a) (f' a) Q) :
    Render.Alike B i (action >>= f) (action' >>= f') Q := by
  refine h.bind fun j _ a a' hkept => ?_
  obtain ⟨rfl, rfl⟩ := hkept
  exact hf a

/-- Computations that end are alike if they leave the writers and the results related. -/
theorem of_ends (h : ∀ s s', B i s.writer s'.writer → ∃ a a' t t',
      outcome action s = (some a, t) ∧ outcome action' s' = (some a', t') ∧
      ∃ j ≤ i, B j t.writer t'.writer ∧ P j a a') :
    Render.Alike B i action action' P := by
  intro s s' hw
  obtain ⟨a, a', t, t', hends, hends', hrelated⟩ := h s s' hw
  rw [hends, hends']
  exact hrelated

/-- Reporting the same is alike. -/
theorem report {problems : List Problem} :
    Render.Alike B i (Render.report frame problems) (Render.report frame problems) (Kept i) :=
  of_ends fun s s' hw => ⟨_, _, _, _, outcome_report frame problems s,
    outcome_report frame problems s', i, le_rfl, hw, rfl, rfl⟩

/-- Marking is alike. -/
theorem mark {deed deed' : Deed} :
    Render.Alike B i (Render.mark frame deed) (Render.mark frame deed') (Kept i) :=
  of_ends fun s s' hw => ⟨_, _, _, _, outcome_mark frame deed s, outcome_mark frame deed' s', i,
    le_rfl, hw, rfl, rfl⟩

/-- Recording is alike. -/
theorem record {kind : EventKind} {start start' : Nat} :
    Render.Alike B i (Render.record frame kind start) (Render.record frame kind start') (Kept i) :=
  of_ends fun s s' hw => ⟨_, _, _, _, outcome_record frame kind start s,
    outcome_record frame kind start' s', i, le_rfl, hw, rfl, rfl⟩

/-- Reading the positions is alike, whatever they are. -/
theorem position :
    Render.Alike B i Render.position Render.position fun j _ _ => j = i :=
  of_ends fun s s' hw => ⟨_, _, _, _, outcome_position s, outcome_position s', i, le_rfl, hw, rfl⟩

/-- Looking out for nesting that is too deep is alike. -/
theorem tooDeep {setting : Setting} :
    Render.Alike B i (Render.tooDeep setting frame) (Render.tooDeep setting frame) (Kept i) := by
  unfold Render.tooDeep
  split
  · exact report.bind_kept fun _ => pure ⟨rfl, rfl⟩
  · exact pure ⟨rfl, rfl⟩

variable {operation : Attempt Writer Nat}

/-- Writing ends with what the operation on the writer comes to. -/
theorem outcome_emit_ends (frame : Frame) (operation : Attempt Writer Nat) (s : RenderState) :
    ∃ t, outcome (Render.emit frame operation) s =
        (some ((operation.outcome s.writer).1.toOption.getD 0), t) ∧
      t.writer = (operation.outcome s.writer).2 := by
  rw [outcome_emit]
  rcases operation.outcome s.writer with ⟨error | n, w⟩ <;> exact ⟨_, rfl, rfl⟩

/-- Writing the same is alike, and what is counted agrees while the writers are in step. -/
theorem emit (h : Attempt.Coupled B operation) :
    Render.Alike B i (Render.emit frame operation) (Render.emit frame operation) WhileInStep := by
  refine of_ends fun s s' hw => ?_
  obtain ⟨t, hends, ht⟩ := outcome_emit_ends frame operation s
  obtain ⟨t', hends', ht'⟩ := outcome_emit_ends frame operation s'
  refine ⟨_, _, t, t', hends, hends', ?_⟩
  rw [ht, ht']
  have happart (hv : B false (operation.outcome s.writer).2 (operation.outcome s'.writer).2) :
      ∃ j ≤ i, B j (operation.outcome s.writer).2 (operation.outcome s'.writer).2 ∧
        WhileInStep j ((operation.outcome s.writer).1.toOption.getD 0)
          ((operation.outcome s'.writer).1.toOption.getD 0) :=
    ⟨false, Bool.false_le i, hv, by simp [WhileInStep]⟩
  cases i with
  | false => exact happart (h.right _ _ (h.left _ _ hw))
  | true =>
    obtain ⟨hsame, hv⟩ | hv := h.inStep hw
    · exact ⟨true, le_rfl, hv, fun _ => by rw [hsame]⟩
    · exact happart hv

/-- Writing the same or nothing is alike even if it is written to one of two writers that are
apart. -/
theorem emitIf (frame : Frame) (h : Attempt.Coupled B operation) {wanted wanted' : Bool}
    (same : i = true → wanted = wanted') :
    Render.Alike B i (if wanted then Render.emit frame operation else Pure.pure 0)
      (if wanted' then Render.emit frame operation else Pure.pure 0) WhileInStep := by
  by_cases hwanted : wanted = wanted'
  · subst hwanted
    cases wanted with
    | true => exact emit h
    | false => exact pure fun _ => rfl
  obtain rfl : i = false := by
    cases i with
    | false => rfl
    | true => exact absurd (same rfl) hwanted
  refine of_ends fun s s' hw => ?_
  cases wanted with
  | true =>
    obtain rfl : wanted' = false := by simpa using hwanted
    obtain ⟨t, hends, ht⟩ := outcome_emit_ends frame operation s
    exact ⟨_, _, t, s', hends, rfl, false, le_rfl, ht ▸ h.left _ _ hw, by simp [WhileInStep]⟩
  | false =>
    obtain rfl : wanted' = true := by simpa using hwanted
    obtain ⟨t', hends', ht'⟩ := outcome_emit_ends frame operation s'
    exact ⟨_, _, s, t', rfl, hends', false, le_rfl, ht' ▸ h.right _ _ hw, by simp [WhileInStep]⟩

variable (sim : Simulation B)

include sim

/-- Writing a scalar value is alike. -/
theorem writeScalar {setting : Setting} {value : Value} {options : OptionRow String} :
    Render.Alike B i (Render.writeScalar setting frame value options)
      (Render.writeScalar setting frame value options) WhileInStep :=
  emit (sim.writeWrapped _ _)

/-- Beginning an indentation is alike. -/
theorem pushIndentation {indent : String} :
    Render.Alike B i (Render.pushIndentation indent) (Render.pushIndentation indent) (Kept i) :=
  of_ends fun s s' hw => ⟨_, _, _, _, outcome_pushIndentation indent s,
    outcome_pushIndentation indent s', i, le_rfl, sim.pushIndentation indent hw, rfl, rfl⟩

/-- Putting an anchor is alike. -/
theorem pushAnchor : Render.Alike B i Render.pushAnchor Render.pushAnchor (Kept i) :=
  of_ends fun s s' hw => ⟨_, _, _, _, outcome_pushAnchor s, outcome_pushAnchor s', i, le_rfl,
    sim.pushAnchor hw, rfl, rfl⟩

/-- Rendering to a text of its own comes to the same text. The writers on which this is done are the
same, whether the others are in step or apart. -/
theorem aside {inner inner' : Render Nat} {P : Bool → Nat → Nat → Prop}
    (h : Render.Alike Simulation.Same true inner inner' P) :
    Render.Alike B i (Render.aside inner) (Render.aside inner') (Kept i) := by
  intro s s' hw
  have hinner := h { s with writer := s.writer.fork, events := none, aside := s.aside + 1 }
    { s' with writer := s'.writer.fork, events := none, aside := s'.aside + 1 }
    ⟨rfl, sim.fork hw⟩
  rw [outcome_aside, outcome_aside]
  rcases hends : outcome inner _ with ⟨_ | n, t⟩ <;>
    rcases hends' : outcome inner' _ with ⟨_ | n', t'⟩ <;>
    rw [hends, hends'] at hinner
  · trivial
  · exact hinner.elim
  · exact hinner.elim
  · obtain ⟨j, -, ⟨-, hwriter⟩, -⟩ := hinner
    exact ⟨i, le_rfl, hw, rfl, congrArg Writer.text hwriter⟩

end Render.Alike

end TemplateMachine
