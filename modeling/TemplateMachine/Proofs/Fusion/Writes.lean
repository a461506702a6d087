import TemplateMachine.Proofs.Fusion.Places
import TemplateMachine.Proofs.Render.Course

/-!
# Instructions that write

A value is written by one of three instructions: one that takes it off the stack, one that takes
options with it, and one that takes it from a slot at once. The one with options does what the plain
one does if the options are fresh. The one that takes the value from a slot writes what loading the
value and writing it does, counts the same and reports the same. But it records no event, while the
other two record the part of the output that they wrote. So the two ways come to the same only where
no events are wanted.

The instructions stand at different places in a program, so that the places in the messages and the
trail are left out of the comparison.
-/

namespace TemplateMachine

open Render

/-- Two steps that come to the same from two states, once what the first one ends with is completed:
both succeed with the same operands and counts, or both are out of fuel. -/
def Step.SameEffect (action action' : Step Cursor) (s s' : RenderState)
    (complete : RenderState → RenderState) : Prop :=
  match outcome action.run s, outcome action'.run s' with
  | (some (.ok moved), t), (some (.ok moved'), t') =>
    moved'.stack = moved.stack ∧ moved'.count = moved.count ∧
      moved'.sinceNewline = moved.sinceNewline ∧ (complete t).Concurs t'
  | (none, t), (none, t') => t.Concurs t'
  | _, _ => False

/-- What a step comes to that writes a value and then does something to the state, given what writing
the value comes to. -/
def Step.written (moved : Nat → Cursor) (after : RenderState → RenderState) :
    Option Nat × RenderState → Option (Except Fault Cursor) × RenderState
  | (some n, t) => (some (.ok (moved n)), after t)
  | (none, t) => (none, t)

variable {setting : Setting} {fuel : Nat} {frame : Frame} {cursor : Cursor} {value : Value}
  {rest : Stack}

/-- Loading a slot pushes its value and changes nothing. -/
theorem outcome_step_loadLocal {index : Nat} (held : frame.running.readSlot index = .ok value)
    (s : RenderState) :
    outcome (step setting (fuel + 1) frame cursor (.loadLocal index)).run s =
      (some (.ok { cursor.next (.loadLocal index) with stack := .value value :: cursor.stack }),
        s) := by
  have hoperate : frame.operate setting cursor.stack (.loadLocal index) =
      .ok (.value value :: cursor.stack, []) := by
    simp only [Frame.operate, held]
    rfl
  rw [step_of_isOperation rfl, hoperate]
  rfl

/-- Writing a slot writes its value and records nothing. -/
theorem outcome_step_writeLocal {index : Nat} (held : frame.running.readSlot index = .ok value)
    (s : RenderState) :
    outcome (step setting (fuel + 1) frame cursor (.writeLocal index)).run s =
      Step.written (cursor.next (.writeLocal index)).counted id
        (outcome (writeValue setting fuel frame value .empty) s) := by
  rw [step, held]
  change outcome ((writeValue setting fuel frame value .empty).asStep >>= _).run s = _
  rw [Step.outcome_run_asStep_bind]
  rcases outcome (writeValue setting fuel frame value .empty) s with ⟨_ | n, t⟩ <;> rfl

/-- Writing what is on top of the stack writes it and records what was written. -/
theorem outcome_step_write (top : cursor.stack = .value value :: rest) (s : RenderState) :
    outcome (step setting (fuel + 1) frame cursor .write).run s =
      Step.written (fun n => { (cursor.next .write).counted n with stack := rest })
        (fun t => t.recorded frame .expr s.writer.index)
        (outcome (writeValue setting fuel frame value .empty) s) := by
  rw [step, top]
  change outcome ((writeValue setting fuel frame value .empty).asStep >>= _).run s = _
  rw [Step.outcome_run_asStep_bind]
  rcases outcome (writeValue setting fuel frame value .empty) s with ⟨_ | n, t⟩ <;> rfl

/-- Loading a slot and writing what is then on top writes the value of the slot and records it. -/
theorem outcome_step_loadLocal_write {index : Nat} (held : frame.running.readSlot index = .ok value)
    (b c : Nat) (s : RenderState) :
    outcome (step setting (fuel + 1) { frame with ip := b } cursor (.loadLocal index) >>=
        fun loaded => step setting (fuel + 1) { frame with ip := c } loaded .write).run s =
      Step.written
        (fun n => { ((cursor.next (.loadLocal index)).next .write).counted n with
          stack := cursor.stack })
        (fun t => t.recorded frame .expr s.writer.index)
        (outcome (writeValue setting fuel { frame with ip := c } value .empty) s) := by
  have hloaded := @outcome_step_loadLocal setting fuel { frame with ip := b } cursor value index held
  rw [Step.outcome_run_bind_of_ends (hloaded s), outcome_step_write rfl]
  rfl

/-- Options that are not set are no texts, and to write with them is to write. -/
theorem writeWith_empty (setting : Setting) (fuel : Nat) (frame : Frame) (value : Value) :
    writeWith setting (fuel + 3) frame value .empty =
      (writeValue setting (fuel + 2) frame value .empty).asStep := by
  have htexts : optionTexts setting (fuel + 2) frame .empty = pure .empty := by
    simp only [optionTexts, OptionRow.empty, optionText, pure_bind]
  rw [writeWith, htexts]
  rfl

/-- Writing with fresh options writes the value and records what was written. -/
theorem outcome_step_writeOpt_fresh (top : cursor.stack = .options .empty :: .value value :: rest)
    (s : RenderState) :
    outcome (step setting (fuel + 4) frame cursor .writeOpt).run s =
      Step.written (fun n => { (cursor.next .writeOpt).counted n with stack := rest })
        (fun t => t.recorded frame .expr s.writer.index)
        (outcome (writeValue setting (fuel + 2) frame value .empty) s) := by
  rw [step, top]
  change outcome (writeWith setting (fuel + 3) frame value .empty >>= _).run s = _
  rw [writeWith_empty, Step.outcome_run_asStep_bind]
  rcases outcome (writeValue setting (fuel + 2) frame value .empty) s with ⟨_ | n, t⟩ <;> rfl

/-- What is recorded of the same part of the output is the same. -/
theorem RenderState.Concurs.recorded {t t' : RenderState} (h : t.Concurs t') (frame : Frame)
    (ip : Nat) (kind : EventKind) (start : Nat) :
    (t.recorded frame kind start).Concurs (t'.recorded { frame with ip := ip } kind start) := by
  refine ⟨h.writer, ?_, h.messages, h.aside⟩
  simp only [RenderState.recorded, h.events, h.writer]

/-- Steps have the same effect if each of them writes the same value, if they go on alike and if what
they then do to the state is the same. -/
theorem sameEffect_of_writeValue {action action' : Step Cursor} {s s' : RenderState}
    (concurs : s.Concurs s') {a b : Nat} {moved moved' : Nat → Cursor}
    {after after' complete : RenderState → RenderState}
    (writes : outcome action.run s =
      Step.written moved after
        (outcome (writeValue setting fuel { frame with ip := a } value .empty) s))
    (writes' : outcome action'.run s' =
      Step.written moved' after'
        (outcome (writeValue setting fuel { frame with ip := b } value .empty) s'))
    (alike : ∀ n, (moved' n).stack = (moved n).stack ∧ (moved' n).count = (moved n).count ∧
      (moved' n).sinceNewline = (moved n).sinceNewline)
    (states : ∀ t t', t.Concurs t' → (complete (after t)).Concurs (after' t')) :
    Step.SameEffect action action' s s' complete := by
  have hwrite : Render.Concurs (writeValue setting fuel { frame with ip := a } value .empty)
      (writeValue setting fuel { frame with ip := b } value .empty) :=
    (MachineConcurs.all setting fuel).writeValue { frame with ip := a } b value .empty
  obtain ⟨hresult, hstate⟩ := hwrite s s' concurs
  unfold Step.SameEffect
  rw [writes, writes']
  rcases hends : outcome (writeValue setting fuel { frame with ip := a } value .empty) s
    with ⟨_ | n, t⟩ <;>
    rcases hends' : outcome (writeValue setting fuel { frame with ip := b } value .empty) s'
      with ⟨_ | n', t'⟩ <;>
    rw [hends, hends'] at hresult hstate
  · exact hstate
  · cases hresult
  · cases hresult
  · obtain rfl : n' = n := Option.some.inj hresult
    obtain ⟨hstack, hcount, hsince⟩ := alike n'
    exact ⟨hstack, hcount, hsince, states t t' hstate⟩

/-- Writing a slot comes to the same as loading it and writing the value, but for the part of the
output that only the latter records. Writing with fresh options comes to the same as writing, in all
that is recorded, too; it only takes one unit of fuel more. -/
theorem writes_sameEffect (setting : Setting) (frame : Frame) {index : Nat}
    (inSlots : index < frame.running.locals.length) (cursor : Cursor) {s s' : RenderState}
    (concurs : s.Concurs s') (a b c fuel : Nat) :
    Step.SameEffect (step setting (fuel + 1) { frame with ip := a } cursor (.writeLocal index))
      (step setting (fuel + 1) { frame with ip := b } cursor (.loadLocal index) >>= fun loaded =>
        step setting (fuel + 1) { frame with ip := c } loaded .write)
      s s' (fun t => t.recorded frame .expr s.writer.index) ∧
    ∀ value rest, Step.SameEffect
      (step setting (fuel + 4) { frame with ip := a }
        { cursor with stack := .options .empty :: .value value :: rest } .writeOpt)
      (step setting (fuel + 3) { frame with ip := b }
        { cursor with stack := .value value :: rest } .write)
      s s' id := by
  constructor
  · obtain ⟨value, held⟩ : ∃ value, frame.running.readSlot index = .ok value :=
      ⟨_, by rw [Instance.readSlot, List.getElem?_eq_getElem inSlots]; rfl⟩
    have hslot := @outcome_step_writeLocal setting fuel { frame with ip := a } cursor value index
      held s
    have hloaded := @outcome_step_loadLocal_write setting fuel frame cursor value index held b c s'
    refine sameEffect_of_writeValue concurs hslot hloaded ?_ ?_
    · exact fun n => ⟨rfl, rfl, rfl⟩
    intro t t' hstate
    rw [concurs.writer]
    exact hstate.recorded frame c .expr s.writer.index
  · intro value rest
    refine sameEffect_of_writeValue concurs (outcome_step_writeOpt_fresh rfl s)
      (outcome_step_write rfl s') (fun n => ⟨rfl, rfl, rfl⟩) fun t t' hstate => ?_
    rw [concurs.writer]
    exact hstate.recorded { frame with ip := a } b .expr s.writer.index

/-- A frame whose template has one slot, which holds a text. -/
def slotFrame : Frame :=
  .root { Instance.ofTemplate (Template.blank "slot") ⟨0⟩ with locals := [some (.string "abc")] }

/-- A setting without anything special. -/
def slotSetting : Setting :=
  ⟨⟨[Group.empty ⟨0⟩]⟩, "en", 200⟩

/-- The start of a render with events. -/
def slotStart : RenderState :=
  .start (.indenting (.ofSink .boundless "\n")) true

/-- Both ways write the text in the slot, and only loading and writing it records an event. -/
theorem slot_writes_sameEffect :
    let fused := step slotSetting 4 { slotFrame with ip := 0 } .start (.writeLocal 0)
    let loaded := step slotSetting 4 { slotFrame with ip := 0 } .start (.loadLocal 0) >>=
      fun loaded => step slotSetting 4 { slotFrame with ip := 1 } loaded .write
    (0 < slotFrame.running.locals.length ∧ slotStart.Concurs slotStart) ∧
    Step.SameEffect fused loaded slotStart slotStart
      (fun t => t.recorded slotFrame .expr slotStart.writer.index) ∧
    (outcome fused.run slotStart).2.writer.text = "abc" ∧
    (outcome fused.run slotStart).2.events = some [] ∧
    (outcome loaded.run slotStart).2.writer.text = "abc" ∧
    (outcome loaded.run slotStart).2.events = some [⟨.expr, "slot", 0, 3⟩] := by
  intro fused loaded
  have hslot : 0 < slotFrame.running.locals.length := by decide
  have hconcurs := RenderState.Concurs.refl slotStart
  have hsame := (writes_sameEffect slotSetting slotFrame hslot .start hconcurs 0 0 1 3).1
  exact ⟨⟨hslot, hconcurs⟩, hsame, by decide +kernel, by decide +kernel, by decide +kernel,
    by decide +kernel⟩

end TemplateMachine
