import TemplateMachine.Proofs.Indentation.Machine
import TemplateMachine.Render.Rendering

/-!
# What an abandoned template leaves behind

A template gives back the indentations that it found exactly if neither it nor a template that it
invoked on the same writer was abandoned between the beginning and the end of an indentation. What
it found is always still there underneath.

The operand stack of an abandoned template is its own and goes with it; the indentations are the
writer's, and nothing takes them back.
-/

namespace TemplateMachine

/-- The marks that a render left between two states. -/
def RenderState.since (s t : RenderState) : List Mark :=
  t.trail.take (t.trail.length - s.trail.length)

/-- The marks between two states are those by which the trail has grown. -/
theorem RenderState.since_eq_of_append {s t : RenderState} {marks : List Mark}
    (trail : t.trail = marks ++ s.trail) : s.since t = marks := by
  simp [since, trail]

/-- A mark leaves something open exactly if it is of a fault on the writer of the level that came
while an indentation was open. -/
theorem Mark.leftOpen_eq_zero_iff {aside : Nat} {mark : Mark} :
    mark.leftOpen aside = 0 ↔ ∀ cursor fault, mark.aside = aside →
      mark.deed = .abandoned cursor fault → unclosed cursor.executed = 0 := by
  obtain ⟨level, frame, deed⟩ := mark
  cases deed with
  | abandoned cursor fault => by_cases same : level = aside <;> simp [leftOpen, same]
  | _ => simp [leftOpen]

/-- A template that comes to an end, all templates being paired that began until then, leaves the
indentations that it found underneath. It leaves no others exactly if no fault abandoned a template
that writes to the same writer while an indentation of that template was open. -/
theorem exec_indentation_eq_iff {setting : Setting} {fuel : Nat} {frame : Frame}
    {s t : RenderState} {n : Nat}
    (ends : Render.outcome (exec setting fuel frame) s = (some n, t))
    (paired : AllPaired (s.since t)) :
    s.writer.layout.indentation <:+ t.writer.layout.indentation ∧
      (t.writer.layout.indentation = s.writer.layout.indentation ↔
        ∀ mark ∈ s.since t, ∀ cursor fault, mark.aside = s.aside →
          mark.deed = .abandoned cursor fault → unclosed cursor.executed = 0) := by
  obtain ⟨⟨marks, htrail, -, -, habove⟩, -⟩ := ((MachineBalances.all fuel).exec frame s).result ends
  rw [RenderState.since_eq_of_append htrail] at paired ⊢
  obtain ⟨above, hindentation, hlength⟩ := habove trivial paired
  refine ⟨⟨above, hindentation.symm⟩, ?_⟩
  rw [hindentation, List.append_left_eq_self, ← List.length_eq_zero_iff, hlength, Nat.zero_add,
    leftOpen_eq_zero_iff]
  exact forall₂_congr fun mark _ => Mark.leftOpen_eq_zero_iff

/-- A template that a fault abandons while an indentation is open. -/
def strayTemplate : Template :=
  { Template.blank "stray" with program := [.indent 0, .pop, .dedent], pool := ["  "] }

/-- A template that invokes the abandoned one and writes something after it. -/
def callerTemplate : Template :=
  { Template.blank "caller" with
    program := [.newNamed 0 0, .write, .writeStr 1], pool := ["stray", "x"] }

/-- What stays the same while the two run. -/
def straySetting : Setting :=
  let group := { Group.empty ⟨0⟩ with
    templates := [("caller", callerTemplate), ("stray", strayTemplate)] }
  ⟨⟨[group]⟩, "en", 200⟩

/-- The frame of the caller, which nothing invoked. -/
def strayFrame : Frame := .root (.ofTemplate callerTemplate ⟨0⟩)

/-- The state in which the caller starts. -/
def strayStart : RenderState := .start (RenderSettings.standard.writer .boundless) false

/-- The state in which the caller ends. -/
def strayFinish : RenderState := (Render.outcome (exec straySetting 20 strayFrame) strayStart).2

/-- The abandoned template is paired, but it leaves its indentation to the one that invoked it,
which writes under it. -/
theorem stray_indentation_ne : strayFinish.writer.text = "  x" ∧
    strayStart.writer.layout.indentation <:+ strayFinish.writer.layout.indentation ∧
    strayFinish.writer.layout.indentation ≠ strayStart.writer.layout.indentation := by
  have hends : Render.outcome (exec straySetting 20 strayFrame) strayStart =
      (some 3, strayFinish) := Prod.ext (by decide +kernel) rfl
  have hcaller : Paired callerTemplate.program :=
    paired_of_straight (by decide) (by decide) (by decide)
  have hstray : Paired strayTemplate.program :=
    paired_of_straight (by decide) (by decide) (by decide)
  have hprograms : ∀ mark ∈ strayStart.since strayFinish,
      mark.frame.template.program ∈ [callerTemplate.program, strayTemplate.program] := by
    decide +kernel
  have hpaired : AllPaired (strayStart.since strayFinish) := by
    intro mark mem _
    have hprogram := hprograms mark mem
    simp only [List.mem_cons, List.not_mem_nil, or_false] at hprogram
    rcases hprogram with hprogram | hprogram <;> rw [hprogram] <;> assumption
  obtain ⟨hunderneath, -⟩ := exec_indentation_eq_iff hends hpaired
  exact ⟨by decide +kernel, hunderneath, by decide +kernel⟩

end TemplateMachine
