import TemplateMachine.Proofs.Accord.Machine

/-!
# More room for nesting

A render that never runs out of room for nesting is the same with more room: the limit is looked at
where a template is invoked and nowhere else, and where it lets everything through a higher one does
so too.

Nothing is said of a render that reports an overflow. With more room it may go on very differently
from there, as what an overflow leaves out also counts for newlines and separators.
-/

namespace TemplateMachine

/-- What a render must not report if it is to be the same with more room. -/
def Exclusions.overflows : Exclusions where
  problem problem := ∃ limit, problem = .stackOverflow limit
  instr _ := False
  text _ := False

/-- Operations come to the same on the same writer. -/
theorem Attempt.agrees_eq {α : Type} (excuse : Prop) (operation : Attempt Writer α) :
    Attempt.Agrees excuse Eq operation := by
  rintro w _ rfl
  exact Or.inr ⟨rfl, rfl⟩

/-- A writer stays the same, whatever is excluded. -/
theorem Exclusions.bisimulation_eq (excluded : Exclusions) : excluded.Bisimulation Eq where
  index h := congrArg Writer.index h.symm
  text h := congrArg Writer.text h.symm
  fork h := congrArg Writer.fork h
  write _ := Attempt.agrees_eq _ _
  writeWrap _ := Attempt.agrees_eq _ _
  pushIndentation _ indent _ _ h := congrArg (Writer.pushIndentation indent) h
  popIndentation := Attempt.agrees_eq _ _
  pushAnchor _ _ _ h := congrArg Writer.pushAnchor h
  popAnchor _ := Attempt.agrees_eq _ _

/-- States that agree and have the same writer are the same. -/
theorem RenderState.Matches.eq {s s' : RenderState} (h : RenderState.Matches Eq s s') : s' = s := by
  calc s' = ⟨s'.writer, s'.events, s'.messages, s'.aside, s'.trail⟩ := rfl
    _ = ⟨s.writer, s.events, s.messages, s.aside, s.trail⟩ := by
      rw [← h.writer, h.events, h.messages, h.aside, h.trail]

/-- Running a template without an overflow comes to the same where there is more room. -/
theorem exec_deeper {setting : Setting} {deeper : Nat} (le : setting.maxDepth ≤ deeper)
    (fuel : Nat) (frame : Frame) (s : RenderState)
    (fits : ∀ message ∈ (Render.outcome (exec setting fuel frame) s).2.messages,
      ∀ limit, message.problem ≠ .stackOverflow limit) :
    Render.outcome (exec (setting.withDepth deeper) fuel frame) s =
      Render.outcome (exec setting fuel frame) s := by
  have haccords := (MachineAccords.all Exclusions.overflows.bisimulation_eq le
    (Or.inr fun limit => ⟨limit, rfl⟩) fuel).exec frame
  have hunmet : ¬Exclusions.overflows.Met (Render.outcome (exec setting fuel frame) s).2 := by
    rintro (⟨message, mem, limit, hoverflow⟩ | ⟨instr, mem, hnever⟩)
    · exact fits message mem limit hoverflow
    · exact hnever
  obtain ⟨hresult, hmatches, -⟩ := haccords.agrees trivial s s ⟨rfl, rfl, rfl, rfl, rfl⟩
    (fun _ _ => id) hunmet
  exact Prod.ext hresult hmatches.eq

/-- If a render with some room for nesting reports no overflow, then with at least as much room it
comes to the very same: it ends with the same output, events and messages, or is out of fuel in the
same state. -/
theorem Instance.render_deeper (inst : Instance) (catalog : Catalog) (settings : RenderSettings)
    (sink : Sink) (withEvents : Bool) (fuel : Nat) {depth deeper : Option Nat}
    (le : depth.getD (catalog.group inst.group).maxDepth ≤
      deeper.getD (catalog.group inst.group).maxDepth)
    (fits : ∀ message ∈ (inst.execute catalog { settings with maxDepth := depth } sink withEvents
      fuel).2.messages, ∀ limit, message.problem ≠ .stackOverflow limit) :
    inst.execute catalog { settings with maxDepth := deeper } sink withEvents fuel =
      inst.execute catalog { settings with maxDepth := depth } sink withEvents fuel ∧
    inst.render catalog { settings with maxDepth := deeper } sink withEvents fuel =
      inst.render catalog { settings with maxDepth := depth } sink withEvents fuel := by
  have hexecute : inst.execute catalog { settings with maxDepth := deeper } sink withEvents fuel =
      inst.execute catalog { settings with maxDepth := depth } sink withEvents fuel :=
    exec_deeper le fuel (.root inst) _ fits
  exact ⟨hexecute, by rw [Instance.render, Instance.render, hexecute]⟩

/-- A template that invokes another one, which writes a text. -/
def outerTemplate : Template :=
  { Template.blank "outer" with program := [.newNamed 0 0, .write], pool := ["inner"] }

/-- An instance of it. -/
def outerInstance : Instance := .ofTemplate outerTemplate ⟨0⟩

/-- The group of the two templates. -/
def outerCatalog : Catalog :=
  ⟨[{ Group.empty ⟨0⟩ with templates := [("outer", outerTemplate),
      ("inner", { Template.blank "inner" with program := [.writeStr 0], pool := ["text"] })] }]⟩

/-- Two templates fit where there is room for two, so the output is the same where there is room for
nine. Where there is room for one they do not fit, and nothing is written. -/
theorem outer_render_deeper :
    (outerInstance.render outerCatalog { RenderSettings.standard with maxDepth := some 2 }
      .boundless true 20).map Rendering.text = some "text" ∧
    outerInstance.render outerCatalog { RenderSettings.standard with maxDepth := some 9 }
        .boundless true 20 =
      outerInstance.render outerCatalog { RenderSettings.standard with maxDepth := some 2 }
        .boundless true 20 ∧
    (outerInstance.render outerCatalog { RenderSettings.standard with maxDepth := some 1 }
      .boundless true 20).map Rendering.text = some "" := by
  have hquiet : (outerInstance.execute outerCatalog
      { RenderSettings.standard with maxDepth := some 2 } .boundless true 20).2.messages.map
        Message.problem = [] := by decide +kernel
  have hdeeper : outerInstance.render outerCatalog
      { RenderSettings.standard with maxDepth := some 9 } .boundless true 20 =
        outerInstance.render outerCatalog
          { RenderSettings.standard with maxDepth := some 2 } .boundless true 20 :=
    (outerInstance.render_deeper outerCatalog .standard .boundless true 20 (by decide)
      (by simp [List.map_eq_nil_iff.mp hquiet])).2
  exact ⟨by decide +kernel, hdeeper, by decide +kernel⟩

end TemplateMachine
