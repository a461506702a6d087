import TemplateMachine.Proofs.Anchors.Machine

/-!
# Anchors during renders

Every template that a render runs leaves the anchors of the writer as it found them, and no render
reports that there was no anchor to take away.
-/

namespace TemplateMachine

/-- Running a template in any frame and any state leaves the anchors that it found, be the template
abandoned or not. No render reports that an anchor was to be taken away where there was none, also if
it is out of fuel. -/
theorem Instance.execute_anchors (inst : Instance) (catalog : Catalog) (settings : RenderSettings)
    (sink : Sink) (withEvents : Bool) (fuel : Nat) :
    (∀ (frame : Frame) (budget : Nat) (s t : RenderState) (count : Nat),
      Render.outcome (exec (settings.setting catalog inst) budget frame) s = (some count, t) →
      t.writer.layout.anchors = s.writer.layout.anchors) ∧
    ∀ message ∈ (inst.execute catalog settings sink withEvents fuel).2.messages,
      message.problem ≠ .internalError (.writer .noAnchor) := by
  have hexec (budget : Nat) (frame : Frame) :
      Render.KeepsAnchors (exec (settings.setting catalog inst) budget frame) fun _ => True :=
    (MachineKeepsAnchors.all budget).exec frame
  refine ⟨fun frame budget s t count ends => ((hexec budget frame s).result ends).1.anchors, ?_⟩
  intro message mem
  rcases (hexec fuel (.root inst)).reports (.start (settings.writer sink) withEvents) message mem
    with before | harmless
  · simp [RenderState.start] at before
  · exact harmless

/-- A template that puts an anchor to write a text, writes the text and is then abandoned. -/
def anchoringTemplate : Template :=
  { Template.blank "anchoring" with
    program := [.loadStr 0, .options, .pushTrue, .storeOption 0, .writeOpt, .pop]
    pool := ["text"] }

/-- A template that invokes the abandoned one in a write with an anchor of its own. -/
def anchoredTemplate : Template :=
  { Template.blank "anchored" with
    program := [.newNamed 0 0, .options, .pushTrue, .storeOption 0, .writeOpt]
    pool := ["anchoring"] }

/-- A group with the two. -/
def anchoringGroup : Group :=
  { Group.empty ⟨0⟩ with
    templates := [("anchored", anchoredTemplate), ("anchoring", anchoringTemplate)] }

/-- An instance of the template that invokes the other one. -/
def anchoredInstance : Instance :=
  anchoringGroup.create anchoredTemplate

/-- A state with an anchor, in which the instance begins. -/
def anchoredStart : RenderState :=
  .start (.indenting { IndentingWriter.ofSink .boundless "\n" with anchors := [2] }) false

/-- The state in which it ends. -/
def anchoredFinish : RenderState :=
  (Render.outcome (exec (RenderSettings.standard.setting ⟨[anchoringGroup]⟩ anchoredInstance) 30
    (.root anchoredInstance)) anchoredStart).2

/-- Two anchors are put and taken away and a template is abandoned in between. The anchor that was
there stays, and all that is reported is that the operand stack was empty. -/
theorem anchored_execute_anchors :
    anchoredFinish.writer.text = "text" ∧
    anchoredFinish.messages.map Message.problem = [.internalError .underflow] ∧
    anchoredFinish.writer.layout.anchors = [2] ∧
    ∀ message ∈
        (anchoredInstance.execute ⟨[anchoringGroup]⟩ .standard .boundless true 30).2.messages,
      message.problem ≠ .internalError (.writer .noAnchor) := by
  have hends : Render.outcome (exec (RenderSettings.standard.setting ⟨[anchoringGroup]⟩
      anchoredInstance) 30 (.root anchoredInstance)) anchoredStart = (some 0, anchoredFinish) :=
    Prod.ext (by decide +kernel) (by rw [anchoredFinish])
  obtain ⟨hanchors, hmessages⟩ :=
    anchoredInstance.execute_anchors ⟨[anchoringGroup]⟩ .standard .boundless true 30
  exact ⟨by decide +kernel, by decide +kernel,
    hanchors (.root anchoredInstance) 30 anchoredStart anchoredFinish 0 hends, hmessages⟩

end TemplateMachine
