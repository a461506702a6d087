import Mathlib.Logic.Relation
import TemplateMachine.Proofs.Accord.Machine
import TemplateMachine.Proofs.Cutoff.Writer
import TemplateMachine.Proofs.Output.Counting

/-!
# Sinks that refuse nothing

A render during which the sink refuses nothing is the same on a boundless sink. So what is to be
compared on arbitrary sinks can be compared on boundless ones, as long as no failure of the output is
reported. To this end relations of writers are composed.
-/

namespace TemplateMachine

variable {ω α β : Type}

open Attempt

namespace Attempt.Agrees

variable {excuse : Prop} {B C : ω → ω → Prop} {operation : Attempt ω α}

/-- An operation that sees the same in related writers comes to the same. -/
theorem get_bind {f : ω → Attempt ω β} (hsame : ∀ w w', B w w' → f w' = f w)
    (hf : ∀ w, Agrees excuse B (f w)) : Agrees excuse B (get >>= f) := by
  intro w w' hw
  rw [outcome_get_bind, outcome_get_bind, hsame w w' hw]
  exact hf w w w' hw

/-- Another excuse may be given where the first one holds. -/
theorem mono {other : Prop} (h : Agrees excuse B operation) (hexcuse : excuse → other) :
    Agrees other B operation :=
  fun w w' hw => (h w w' hw).imp_left fun refused => ⟨hexcuse refused.1, refused.2⟩

/-- An operation comes to the same on related writers if it does so with a writer between them. The
excuse that it is refused is needed on the way to that one only. -/
theorem comp (first : Agrees excuse B operation) (second : Agrees False C operation) :
    Agrees excuse (Relation.Comp B C) operation := by
  rintro w u ⟨v, hv, hu⟩
  obtain hrefused | ⟨hsame, hleft⟩ := first w v hv
  · exact Or.inl hrefused
  obtain ⟨hnever, -⟩ | ⟨hsame', hright⟩ := second v u hu
  · exact hnever.elim
  · exact Or.inr ⟨hsame'.trans hsame, _, hleft, hright⟩

end Attempt.Agrees

namespace Exclusions

variable {excluded : Exclusions} {B C : Writer → Writer → Prop}

/-- Two relations of writers are kept one after the other if they are kept each. A part of the output
may be refused on the way to the writers between them only. -/
theorem Bisimulation.comp (first : excluded.Bisimulation B) (second : excluded.Bisimulation C)
    (write : ∀ text, ¬excluded.text text → Agrees False C (Writer.write text))
    (writeWrap : ∀ wrap, (excluded.instr (.storeOption WriteOption.wrap.index) → wrap = none) →
      Agrees False C (Writer.writeWrap wrap)) :
    excluded.Bisimulation (Relation.Comp B C) where
  index := fun ⟨_, hv, hu⟩ => (second.index hu).trans (first.index hv)
  text := fun ⟨_, hv, hu⟩ => (second.text hu).trans (first.text hv)
  fork := fun ⟨_, hv, hu⟩ => ⟨_, first.fork hv, second.fork hu⟩
  write allowed := (first.write allowed).comp (write _ allowed)
  writeWrap allowed := (first.writeWrap allowed).comp (writeWrap _ allowed)
  pushIndentation allowed indent := fun ⟨_, hv, hu⟩ =>
    ⟨_, first.pushIndentation allowed indent hv, second.pushIndentation allowed indent hu⟩
  popIndentation := first.popIndentation.comp second.popIndentation
  pushAnchor allowed := fun ⟨_, hv, hu⟩ =>
    ⟨_, first.pushAnchor allowed hv, second.pushAnchor allowed hu⟩
  popAnchor allowed := (first.popAnchor allowed).comp (second.popAnchor allowed)

end Exclusions

namespace IndentingWriter

variable {excuse : Prop} {B : IndentingWriter → IndentingWriter → Prop}

/-- What comes to the same by the two ways of offering comes to the same by everything that writes,
if related writers differ in their sinks and line widths only. -/
theorem Writing.agrees
    (hsame : ∀ w w', B w w' → w' = { w with sink := w'.sink, lineWidth := w'.lineWidth })
    (hstart : ∀ w w' atLineStart, B w w' →
      B { w with atLineStart := atLineStart } { w' with atLineStart := atLineStart })
    (hput : ∀ text, Agrees excuse B (IndentingWriter.put text))
    (hnewline : Agrees excuse B IndentingWriter.putNewline) :
    Writing fun _ operation => Agrees excuse B operation where
  pure := .pure
  bind h hf := h.bind hf
  look {_ f} blind hf := .get_bind
    (fun w w' hw => (congrArg f (hsame w w' hw)).trans (blind w w'.sink w'.lineWidth)) hf
  start atLineStart := fun w w' hw => Or.inr ⟨rfl, hstart w w' atLineStart hw⟩
  put := hput
  putNewline := hnewline

/-- It comes to the same by everything that wraps, too, if related writers differ in their sinks
only. -/
theorem Wrapping.agrees (hsink : ∀ w w', B w w' → w' = { w with sink := w'.sink })
    (hstart : ∀ w w' atLineStart, B w w' →
      B { w with atLineStart := atLineStart } { w' with atLineStart := atLineStart })
    (hput : ∀ text, Agrees excuse B (IndentingWriter.put text))
    (hnewline : Agrees excuse B IndentingWriter.putNewline) :
    Wrapping fun _ operation => Agrees excuse B operation where
  toWriting := .agrees (fun w w' hw => by rw [hsink w w' hw]) hstart hput hnewline
  lookWidth {_ f} blind hf :=
    .get_bind (fun w w' hw => (congrArg f (hsink w w' hw)).trans (blind w w'.sink)) hf

end IndentingWriter

namespace Writer

/-- Two writers that are the same but for their sinks, which took the same text. The sink of the
second one takes everything. -/
def Freed (w w' : Writer) : Prop :=
  ∃ sink : Sink, w' = w.onto sink ∧ sink.TakesAll ∧ sink.text = w.text

/-- Writers that are the same but for their sinks have the same text. -/
theorem Freed.text {w w' : Writer} (h : Freed w w') : w'.text = w.text := by
  obtain ⟨sink, rfl, -, htext⟩ := h
  rw [← htext]
  cases w <;> rfl

/-- What comes of offering a text to the sinks of two writers of which the second one takes
everything: the same, unless the first one refuses it. -/
theorem agrees_offer {view : ω → Writer} {sink free : Sink} (htakes : free.TakesAll)
    (htext : free.text = sink.text) (text : String)
    {taken taken' refused refused' : Except WriterError Nat × ω}
    (hrefused : refused.1 = .error .refused) (hsame : taken'.1 = taken.1)
    (hfreed : (free.offer text).TakesAll → (free.offer text).text = (sink.offer text).text →
      Freed (view taken.2) (view taken'.2)) :
    (True ∧ (if sink.accepts text then taken else refused).1 = .error .refused) ∨
      (if free.accepts text then taken' else refused').1 =
          (if sink.accepts text then taken else refused).1 ∧
        Freed (view (if sink.accepts text then taken else refused).2)
          (view (if free.accepts text then taken' else refused').2) := by
  rw [if_pos (htakes.accepts text)]
  by_cases haccepts : sink.accepts text = true
  · rw [if_pos haccepts]
    refine Or.inr ⟨hsame, hfreed (htakes.offer text) ?_⟩
    rw [htakes.text_offer, Sink.text_offer haccepts, htext]
  · rw [if_neg haccepts]
    exact Or.inl ⟨trivial, hrefused⟩

/-- Whatever an indenting writer writes comes to the same on a sink that takes everything, unless it
is refused. -/
theorem writing_freed :
    IndentingWriter.Wrapping fun _ =>
      Agrees True fun w w' => Freed (.indenting w) (.indenting w') := by
  refine .agrees ?_ ?_ (fun text => ?_) ?_
  · rintro w w' ⟨sink, hw', -⟩
    obtain rfl := Writer.indenting.inj hw'
    rfl
  · rintro w w' atLineStart ⟨sink, hw', hsink⟩
    obtain rfl := Writer.indenting.inj hw'
    exact ⟨sink, rfl, hsink⟩
  · rintro w w' ⟨sink, hw', htakes, htext⟩
    obtain rfl := Writer.indenting.inj hw'
    rw [IndentingWriter.outcome_put, IndentingWriter.outcome_put]
    exact agrees_offer htakes htext text rfl rfl fun htakes htext => ⟨_, rfl, htakes, htext⟩
  · rintro w w' ⟨sink, hw', htakes, htext⟩
    obtain rfl := Writer.indenting.inj hw'
    rw [IndentingWriter.outcome_putNewline, IndentingWriter.outcome_putNewline]
    exact agrees_offer htakes htext w.newline rfl rfl fun htakes htext => ⟨_, rfl, htakes, htext⟩

/-- An operation comes to the same if it does for either sort of writer, and only writers that fork
alike, and so are of the same sort, are related. -/
theorem agrees_dispatch {excuse : Prop} {B : Writer → Writer → Prop}
    {indenting : Attempt IndentingWriter α} {verbatim : Attempt VerbatimWriter α}
    (hfork : ∀ w w', B w w' → w'.fork = w.fork)
    (hindenting : Agrees excuse (fun w w' => B (.indenting w) (.indenting w')) indenting)
    (hverbatim : Agrees excuse (fun w w' => B (.verbatim w) (.verbatim w')) verbatim) :
    Agrees excuse B (dispatch indenting verbatim) := by
  intro w w' h
  cases w <;> cases w'
  case indenting.indenting => exact hindenting _ _ h
  case verbatim.verbatim => exact hverbatim _ _ h
  all_goals simpa [fork] using hfork _ _ h

/-- Writers that are the same but for their sinks fork alike. -/
theorem Freed.fork_eq {w w' : Writer} (h : Freed w w') : w'.fork = w.fork := by
  obtain ⟨sink, rfl, -⟩ := h
  cases w <;> rfl

/-- Writers that are the same but for their sinks stay so until the first one refuses a part of the
output, if that is excluded. -/
theorem bisimulation_freed {excluded : Exclusions} (refusal : excluded.problem (.ioError .refused)) :
    excluded.Bisimulation Freed where
  index := by
    rintro w _ ⟨sink, rfl, -⟩
    cases w <;> rfl
  text := Freed.text
  fork := by
    rintro w _ ⟨sink, rfl, -⟩
    cases w <;> exact ⟨.boundless, rfl, Sink.takesAll_boundless, rfl⟩
  write {text} _ := by
    refine (agrees_dispatch (fun _ _ => Freed.fork_eq) (writing_freed.write text) ?_).mono
      fun _ => refusal
    rintro w w' ⟨sink, hw', htakes, htext⟩
    obtain rfl := Writer.verbatim.inj hw'
    rw [VerbatimWriter.outcome_write, VerbatimWriter.outcome_write]
    exact agrees_offer htakes htext text rfl rfl fun htakes htext => ⟨_, rfl, htakes, htext⟩
  writeWrap {wrap} _ :=
    (agrees_dispatch (fun _ _ => Freed.fork_eq) (writing_freed.writeWrap wrap) (.pure 0)).mono
      fun _ => refusal
  pushIndentation _ indent w _ := by
    rintro ⟨sink, rfl, hsink⟩
    cases w <;> exact ⟨sink, rfl, hsink⟩
  popIndentation := by
    refine agrees_dispatch (fun _ _ => Freed.fork_eq) ?_ ?_
    · rintro w w' ⟨sink, hw', hsink⟩
      obtain rfl := Writer.indenting.inj hw'
      obtain ⟨_, _, _, indents, _, _, _, _⟩ := w
      rw [IndentingWriter.outcome_popIndentation, IndentingWriter.outcome_popIndentation]
      cases indents <;> exact Or.inr ⟨rfl, sink, rfl, hsink⟩
    · rintro w w' ⟨sink, hw', hsink⟩
      obtain rfl := Writer.verbatim.inj hw'
      obtain ⟨_, indents, _, _⟩ := w
      rw [VerbatimWriter.outcome_popIndentation, VerbatimWriter.outcome_popIndentation]
      cases indents <;> exact Or.inr ⟨rfl, sink, rfl, hsink⟩
  pushAnchor _ w _ := by
    rintro ⟨sink, rfl, hsink⟩
    cases w <;> exact ⟨sink, rfl, hsink⟩
  popAnchor _ := by
    refine agrees_dispatch (fun _ _ => Freed.fork_eq) ?_ ?_
    · rintro w w' ⟨sink, hw', hsink⟩
      obtain rfl := Writer.indenting.inj hw'
      obtain ⟨_, _, _, _, anchors, _, _, _⟩ := w
      rw [IndentingWriter.outcome_popAnchor, IndentingWriter.outcome_popAnchor]
      cases anchors <;> exact Or.inr ⟨rfl, sink, rfl, hsink⟩
    · rintro w w' ⟨sink, hw', hsink⟩
      obtain rfl := Writer.verbatim.inj hw'
      obtain ⟨_, _, anchors, _⟩ := w
      rw [VerbatimWriter.outcome_popAnchor, VerbatimWriter.outcome_popAnchor]
      cases anchors <;> exact Or.inr ⟨rfl, sink, rfl, hsink⟩

end Writer

/-- A sink that goes on from what another one took and takes everything. -/
def Sink.freed (sink : Sink) : Sink :=
  { sink with admits := fun _ _ _ => true }

/-- A sink that is freed takes everything. -/
theorem Sink.takesAll_freed (sink : Sink) : sink.freed.TakesAll :=
  fun _ _ _ => rfl

/-- The writer of a render on a sink that is freed is the same otherwise. -/
theorem RenderSettings.freed_writer (settings : RenderSettings) (sink : Sink) :
    Writer.Freed (settings.writer sink) (settings.writer sink.freed) := by
  refine ⟨sink.freed, ?_, sink.takesAll_freed, ?_⟩
  · unfold writer
    split <;> rfl
  · unfold writer
    split <;> rfl

/-- A render that is refused nothing by its sink is the same if the sink is freed. -/
theorem Instance.execute_freed {inst : Instance} {catalog : Catalog} {settings : RenderSettings}
    {sink : Sink} {withEvents : Bool} {fuel : Nat}
    (taken : ∀ message ∈ (inst.execute catalog settings sink withEvents fuel).2.messages,
      message.problem ≠ .ioError .refused) :
    (inst.execute catalog settings sink.freed withEvents fuel).1 =
        (inst.execute catalog settings sink withEvents fuel).1 ∧
      RenderState.Matches Writer.Freed (inst.execute catalog settings sink withEvents fuel).2
        (inst.execute catalog settings sink.freed withEvents fuel).2 := by
  let refusal : Exclusions := ⟨(· = .ioError .refused), fun _ => False, fun _ => False⟩
  have hsim : refusal.Bisimulation Writer.Freed := Writer.bisimulation_freed rfl
  refine inst.execute_accord hsim catalog rfl (settings.freed_writer sink) (fun _ _ => id) ?_
  rintro (⟨message, mem, hrefused⟩ | ⟨instr, mem, hnever⟩)
  · exact taken message mem hrefused
  · exact hnever

end TemplateMachine
