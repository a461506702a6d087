import TemplateMachine.Proofs.Cutoff.Writer
import TemplateMachine.Proofs.Render.SideBySide

/-!
# A render that is cut off

A render to a sink that takes a number of pieces and refuses all later ones, beside the same render
to a sink that takes everything. Both terminate or neither does. The limited sink ends up with the
first pieces of the full output, however the render goes on after the first failure, and the failure
is remembered.

What the two renders report is not compared: the one that is cut off reports every failure, and it
may write other separators and newlines after the first one.
-/

namespace TemplateMachine

/-- The pieces of the output in the order in which the sink took them. -/
def Rendering.pieces (rendering : Rendering) : List String :=
  rendering.writer.sink.pieces

/-- A rendering to a limited sink beside the full one. The limited sink holds the first pieces of the
full output, which is the beginning of it. The render failed exactly if there are more pieces than
the limit, and otherwise the sink holds the full output. -/
structure Rendering.CutAt (limit : Nat) (full cut : Rendering) : Prop where
  text : cut.text = String.join (full.pieces.take limit)
  beginning : ∃ rest, full.text = cut.text ++ rest
  failed : cut.failed = false ↔ full.pieces.length ≤ limit
  whole : cut.failed = false → cut.text = full.text

/-- Renderings with writers on either side of a limit are cut off at the limit. -/
theorem Rendering.cutAt {limit : Nat} {full cut : Rendering}
    (h : full.writer.sink.CutOff limit cut.writer.sink) : Rendering.CutAt limit full cut := by
  have htext : cut.text = String.join (full.pieces.take limit) := by
    rw [Rendering.text, Writer.text, Sink.text_eq_join_pieces, h.pieces, Rendering.pieces]
  have hfull : full.text = String.join full.pieces :=
    full.writer.sink.text_eq_join_pieces
  exact {
    text := htext
    beginning := by
      refine ⟨String.join (full.pieces.drop limit), ?_⟩
      rw [hfull, htext, ← String.join_append, List.take_append_drop]
    failed := h.refused
    whole := fun hfine => by
      have hall : full.pieces.length ≤ limit := h.refused.mp hfine
      rw [htext, hfull, List.take_of_length_le hall] }

/-- The writers with which a render starts on a boundless sink and on a limited one are in step. -/
theorem RenderSettings.cutAt_writer (settings : RenderSettings) (limit : Nat) :
    Writer.CutAt limit true (settings.writer .boundless) (settings.writer (.limited limit)) := by
  refine ⟨.limited limit, ?_, ?_⟩
  · unfold RenderSettings.writer
    split <;> rfl
  · unfold RenderSettings.writer
    split <;> exact Sink.inStep_start limit

/-- A render to a sink that takes a number of pieces terminates exactly if the render to a boundless
sink does, and then it is cut off at that number of pieces. -/
theorem Instance.render_limited (inst : Instance) (catalog : Catalog) (settings : RenderSettings)
    (withEvents : Bool) (fuel limit : Nat) :
    Option.Rel (Rendering.CutAt limit)
      (inst.render catalog settings .boundless withEvents fuel)
      (inst.render catalog settings (.limited limit) withEvents fuel) := by
  have halike : Render.Alike (Writer.CutAt limit) true
      (exec (settings.setting catalog inst) fuel (.root inst))
      (exec (settings.setting catalog inst) fuel (.root inst)) WhileInStep :=
    (MachineAlike.all (Writer.simulation_cutAt limit) fuel).exec true (.root inst)
  have hends := halike (.start (settings.writer .boundless) withEvents)
    (.start (settings.writer (.limited limit)) withEvents) (settings.cutAt_writer limit)
  rw [← execute_eq_outcome, ← execute_eq_outcome] at hends
  unfold Instance.render
  rcases hfull : inst.execute catalog settings .boundless withEvents fuel with ⟨_ | n, t⟩ <;>
    rcases hcut : inst.execute catalog settings (.limited limit) withEvents fuel with
      ⟨_ | n', t'⟩ <;>
    rw [hfull, hcut] at hends
  · exact .none
  · exact hends.elim
  · exact hends.elim
  · obtain ⟨i, -, hwriters, -⟩ := hends
    exact .some (Rendering.cutAt hwriters.cutOff)

/-- An indenting writer offers its text character by character, so that three pieces are three
characters. -/
example :
    let template := { Template.blank "pair" with
      program := [.writeStr 0, .writeStr 1], pool := ["ab", "cd"] }
    let rendering := (Instance.ofTemplate template ⟨0⟩).render ⟨[]⟩ .standard (.limited 3) false 10
    rendering.map (fun cut => (cut.text, cut.failed)) = some ("abc", true) := by
  decide +kernel

end TemplateMachine
