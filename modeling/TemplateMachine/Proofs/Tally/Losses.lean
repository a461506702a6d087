import TemplateMachine.Proofs.Indentation.Abandonment
import TemplateMachine.Proofs.Newline.Writing
import TemplateMachine.Proofs.Tally.Machine

/-!
# What abandoned templates do not hand on

On a sink that takes everything, what is counted and how far the index of the writer moves differ by
one thing only. A template that a fault abandons hands on nothing, and what it had counted until then
is lost to the one that invoked it: it has been written all the same.

What an abandoned template wrote to a text of its own is counted nowhere in any case, and so it is
not lost. On a sink that refuses something, a call that fails loses what it wrote before; this is not
looked into.
-/

namespace TemplateMachine

variable {α β : Type}

namespace Writer

open Attempt

/-- An operation that succeeds on a sink that takes everything and leaves a sink that does so. -/
def Succeeds (operation : Attempt Writer α) : Prop :=
  ∀ w : Writer, w.sink.TakesAll → ∃ a v, outcome operation w = (.ok a, v) ∧ v.sink.TakesAll

/-- A sequence succeeds if its parts do. -/
theorem Succeeds.bind {operation : Attempt Writer α} {f : α → Attempt Writer β}
    (h : Succeeds operation) (hf : ∀ a, Succeeds (f a)) : Succeeds (operation >>= f) := by
  intro w takesAll
  obtain ⟨a, v, hends, hv⟩ := h w takesAll
  obtain ⟨b, u, hends', hu⟩ := hf a v hv
  refine ⟨b, u, ?_, hu⟩
  rw [outcome_bind, hends]
  exact hends'

/-- Writing succeeds. -/
theorem succeeds_write (text : String) : Succeeds (write text) := by
  intro w takesAll
  obtain ⟨n, hends, hwrites⟩ := writes_writeTo text takesAll
  exact ⟨n, _, hends, hwrites.takesAll⟩

/-- Wrapping a line succeeds. -/
theorem succeeds_writeWrap (wrap : Option String) : Succeeds (writeWrap wrap) := by
  intro w takesAll
  cases w with
  | indenting w =>
    obtain ⟨n, v, hends, hv, -⟩ := IndentingWriter.writing_succeeds.writeWrap wrap w takesAll
    refine ⟨n, .indenting v, ?_, hv⟩
    rw [writeWrap, outcome_dispatch_indenting, hends]
  | verbatim w => exact ⟨0, .verbatim w, rfl, takesAll⟩

/-- A call that writes succeeds. -/
theorem succeeds_attempt (call : TextCall) : Succeeds call.attempt := by
  cases call with
  | write text => exact succeeds_write text
  | writeWrapped text wrap =>
    refine (succeeds_writeWrap wrap).bind fun n => (succeeds_write text).bind fun m => ?_
    exact fun w takesAll => ⟨n + m, w, rfl, takesAll⟩
  | writeWrap wrap => exact succeeds_writeWrap wrap
  | writeSeparator text => exact succeeds_write text

end Writer

/-- The number of characters that the fault of a mark loses on the writer of a level: those that the
abandoned template had counted. -/
def Mark.lost (aside : Nat) (mark : Mark) : Nat :=
  match mark.deed with
  | .abandoned cursor _ => if mark.aside = aside then cursor.count else 0
  | _ => 0

/-- The number of characters that faults lose on the writer of a level. -/
def losses (aside : Nat) : List Mark → Nat
  | [] => 0
  | mark :: rest => mark.lost aside + losses aside rest

@[simp] theorem losses_nil (aside : Nat) : losses aside [] = 0 := rfl

/-- What faults lose one after the other adds up. -/
theorem losses_append (aside : Nat) (after before : List Mark) :
    losses aside (after ++ before) = losses aside after + losses aside before := by
  induction after with
  | nil => simp
  | cons mark rest ih =>
    rw [List.cons_append, losses, losses, ih]
    omega

/-- Marks of other levels lose nothing. -/
theorem losses_eq_zero {aside : Nat} {marks : List Mark}
    (others : ∀ mark ∈ marks, mark.aside ≠ aside) : losses aside marks = 0 := by
  induction marks with
  | nil => rfl
  | cons mark rest ih =>
    obtain ⟨hother, hothers⟩ := List.forall_mem_cons.mp others
    rw [losses, ih hothers, Mark.lost]
    split
    · rw [if_neg hother]
    · rfl

/-- The number of characters that faults lose between two states on the writer of the first one. -/
def RenderState.lost (s t : RenderState) : Nat :=
  losses s.aside (s.since t)

/-- Between two states, in which the characters counted were `before` and `after`, the index of a
writer whose sink takes everything has moved by what was counted and by what was lost. -/
structure RenderState.Gains (before after : Nat) (s t : RenderState) : Prop where
  takesAll : t.writer.sink.TakesAll
  aside : t.aside = s.aside
  trail : ∃ fresh, t.trail = fresh ++ s.trail ∧ (∀ mark ∈ fresh, s.aside ≤ mark.aside) ∧
    t.writer.index + before = s.writer.index + after + losses s.aside fresh

namespace RenderState.Gains

variable {before after last n : Nat} {s t u : RenderState}

/-- How far the index has moved. -/
theorem index (h : s.Gains before after t) :
    t.writer.index + before = s.writer.index + after + s.lost t := by
  obtain ⟨fresh, htrail, -, hindex⟩ := h.trail
  rw [RenderState.lost, since_eq_of_append htrail]
  exact hindex

/-- Nothing is gained where neither the index moves nor a mark is left. -/
theorem of_still (takesAll : t.writer.sink.TakesAll) (aside : t.aside = s.aside)
    (trail : t.trail = s.trail) (index : t.writer.index = s.writer.index) : s.Gains n n t :=
  ⟨takesAll, aside, [], trail, by simp, by simp [index]⟩

/-- What is gained adds up. -/
theorem trans (first : s.Gains before after t) (second : t.Gains after last u) :
    s.Gains before last u := by
  obtain ⟨old, hold, holdLevels, hfirst⟩ := first.trail
  obtain ⟨new, hnew, hnewLevels, hsecond⟩ := second.trail
  rw [first.aside] at hnewLevels hsecond
  refine ⟨second.takesAll, second.aside.trans first.aside, new ++ old, ?_, ?_, ?_⟩
  · rw [hnew, hold, List.append_assoc]
  · intro mark mem
    rcases List.mem_append.mp mem with mem | mem
    · exact hnewLevels mark mem
    · exact holdLevels mark mem
  · rw [losses_append]
    omega

/-- What was counted before does not matter. -/
theorem shift (h : s.Gains before after t) (extra : Nat) :
    s.Gains (extra + before) (extra + after) t := by
  obtain ⟨fresh, htrail, hlevels, hindex⟩ := h.trail
  exact ⟨h.takesAll, h.aside, fresh, htrail, hlevels, by omega⟩

/-- A mark is left, and what is lost by it is not counted any more. -/
theorem mark (h : s.Gains before after t) (frame : Frame) (deed : Deed)
    (kept : after = last + (Mark.mk s.aside frame deed).lost s.aside) :
    s.Gains before last (t.marked frame deed) := by
  obtain ⟨fresh, htrail, hlevels, hindex⟩ := h.trail
  refine ⟨h.takesAll, h.aside, ⟨s.aside, frame, deed⟩ :: fresh, ?_, ?_, ?_⟩
  · rw [marked, htrail, h.aside, List.cons_append]
  · exact List.forall_mem_cons.mpr ⟨Nat.le_refl s.aside, hlevels⟩
  · rw [losses]
    change t.writer.index + before = _
    omega

/-- What is rendered to a text of its own is neither counted nor lost. -/
theorem rejoined (inner : s.forked.Gains before after t) (takesAll : s.writer.sink.TakesAll) :
    s.Gains n n (s.rejoined t) := by
  obtain ⟨fresh, htrail, hlevels, -⟩ := inner.trail
  have hdeeper : ∀ mark ∈ fresh, s.aside + 1 ≤ mark.aside := hlevels
  have hlost : losses s.aside fresh = 0 :=
    losses_eq_zero fun mark mem => Nat.ne_of_gt (hdeeper mark mem)
  refine ⟨takesAll, rfl, fresh, htrail, fun mark mem => ?_, ?_⟩
  · exact Nat.le_of_succ_le (hdeeper mark mem)
  · rw [hlost]
    simp [RenderState.rejoined]

end RenderState.Gains

/-- What is gained on a sink that takes everything is a ledger. -/
theorem RenderState.ledger_gains :
    Ledger fun before after s t => s.writer.sink.TakesAll → s.Gains before after t where
  refl _ _ takesAll := .of_still takesAll rfl rfl rfl
  trans first second takesAll := (first takesAll).trans (second (first takesAll).takesAll)
  shift extra h takesAll := (h takesAll).shift extra
  report _ _ _ _ takesAll := .of_still takesAll rfl rfl rfl
  marked n frame deed goesOn s takesAll := by
    refine (Gains.of_still takesAll rfl rfl rfl : s.Gains n n s).mark frame deed ?_
    cases deed with
    | abandoned cursor fault => exact absurd rfl (goesOn cursor fault)
    | _ => rfl
  recorded _ _ _ _ _ takesAll := .of_still takesAll rfl rfl rfl
  pushIndentation _ indent s takesAll :=
    .of_still (s.writer.sink_pushIndentation indent ▸ takesAll) rfl rfl
      (Writer.gauge_index.pushIndentation indent s.writer)
  popIndentation _ s takesAll :=
    .of_still (s.writer.sink_popIndentation ▸ takesAll) rfl rfl
      (Writer.gauge_index.popIndentation s.writer)
  pushAnchor _ s takesAll :=
    .of_still (s.writer.sink_pushAnchor ▸ takesAll) rfl rfl
      (Writer.gauge_index.pushAnchor s.writer)
  popAnchor _ s takesAll :=
    .of_still (s.writer.sink_popAnchor ▸ takesAll) rfl rfl
      (Writer.gauge_index.popAnchor s.writer)
  written call s n w ends takesAll := by
    obtain ⟨m, v, hends, hv⟩ := Writer.succeeds_attempt call s.writer takesAll
    obtain ⟨-, rfl⟩ := Prod.mk.inj (hends.symm.trans ends)
    have hindex := Writer.gauge_index.tallies_attempt call s.writer n v ends
    exact ⟨hv, rfl, [], rfl, by simp, by simpa using hindex⟩
  refused frame call s error w ends takesAll := by
    obtain ⟨m, v, hends, -⟩ := Writer.succeeds_attempt call s.writer takesAll
    cases hends.symm.trans ends
  aside _ _ _ s _ inner takesAll := (inner s.writer.takesAll_fork).rejoined takesAll
  abandoned {_ s _} frame cursor fault until_here takesAll := by
    have hmarked := (until_here takesAll).mark frame (.abandoned cursor fault)
      (show cursor.count = 0 + _ by simp [Mark.lost])
    exact ⟨hmarked.takesAll, hmarked.aside, hmarked.trail⟩

/-- Running the template of a frame on a sink that takes everything moves the index of the writer by
the number of characters that is handed on and by those that abandoned templates have lost. -/
theorem exec_index_eq_add_lost {setting : Setting} {fuel : Nat} {frame : Frame} {s t : RenderState}
    {n : Nat} (takesAll : s.writer.sink.TakesAll)
    (ends : Render.outcome (exec setting fuel frame) s = (some n, t)) :
    t.writer.index = s.writer.index + n + s.lost t :=
  (((MachineBooks.all RenderState.ledger_gains setting fuel).exec frame s).result ends takesAll).index

end TemplateMachine
