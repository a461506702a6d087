import TemplateMachine.Proofs.Output.Counting
import TemplateMachine.Proofs.Render.Course
import TemplateMachine.Proofs.Render.SideBySide

/-!
# The intervals of a render

The events of a render name the part of the output that each template and each write produced. An
event is recorded when its part is finished, with the position at which it began, so that the list
is a post-order of nested intervals: everything that was recorded since the beginning of a part lies
inside it. Texts of their own are rendered to other writers and record nothing.

The root is recorded last. Its defaults are given before its beginning is looked up, but they only
write to texts of their own, so that its interval is the whole output.

The output is one that takes everything. Where a sink refuses a part, positions are of what was
taken, and this is not shown here.
-/

namespace TemplateMachine

namespace Event

/-- The part of an event ends before the part of a later one begins, or lies inside it. -/
def Precedes (event later : Event) : Prop :=
  event.stop ≤ later.start ∨ later.start ≤ event.start ∧ event.stop ≤ later.stop

/-- Events with the newest first that were recorded between two positions. -/
structure Recorded (start stop : Nat) (events : List Event) : Prop where
  inside : ∀ event ∈ events, start ≤ event.start ∧ event.start ≤ event.stop ∧ event.stop ≤ stop
  ordered : events.Pairwise fun later event => event.stop ≤ later.stop
  nested : events.Pairwise fun later event => event.Precedes later

namespace Recorded

variable {start middle stop : Nat} {events old new : List Event}

/-- Nothing was recorded anywhere. -/
theorem nil : Recorded start stop [] :=
  ⟨by simp, .nil, .nil⟩

/-- What is recorded from a position on comes after what was recorded up to it. -/
theorem append (before : Recorded start middle old) (after : Recorded middle stop new)
    (first : start ≤ middle) (second : middle ≤ stop) : Recorded start stop (new ++ old) := by
  have hordered (later : Event) (hlater : later ∈ new) (event : Event) (hevent : event ∈ old) :
      event.stop ≤ later.start ∧ later.start ≤ later.stop := by
    have hbefore := before.inside event hevent
    have hafter := after.inside later hlater
    omega
  refine ⟨fun event mem => ?_, ?_, ?_⟩
  · rcases List.mem_append.mp mem with mem | mem
    · have hafter := after.inside event mem
      omega
    · have hbefore := before.inside event mem
      omega
  · refine List.pairwise_append.mpr ⟨after.ordered, before.ordered, fun later hl event he => ?_⟩
    have hends := hordered later hl event he
    omega
  · exact List.pairwise_append.mpr ⟨after.nested, before.nested,
      fun later hl event he => Or.inl (hordered later hl event he).1⟩

/-- An event that encloses all that was recorded since its beginning. -/
theorem enclose (kind : EventKind) (template : String) (h : Recorded start stop events)
    (forwards : start ≤ stop) : Recorded start stop (⟨kind, template, start, stop⟩ :: events) where
  inside := List.forall_mem_cons.mpr ⟨⟨Nat.le_refl _, forwards, Nat.le_refl _⟩, h.inside⟩
  ordered := List.pairwise_cons.mpr ⟨fun event mem => (h.inside event mem).2.2, h.ordered⟩
  nested := List.pairwise_cons.mpr ⟨fun event mem =>
    Or.inr ⟨(h.inside event mem).1, (h.inside event mem).2.2⟩, h.nested⟩

end Recorded

end Event

/-- Between two states, the writer went forwards, counting what it wrote, and the events that were
recorded are of parts of what it wrote. Nothing is said of work that is out of fuel. -/
def RenderState.Recounts (ended : Bool) (s t : RenderState) : Prop :=
  ended = true → Writer.Counts 0 s.writer →
    Writer.Counts s.writer.index t.writer ∧
      ∃ events, t.events = s.events.map (events ++ ·) ∧
        Event.Recorded s.writer.index t.writer.index events

namespace RenderState.Recounts

variable {ended : Bool} {s t u : RenderState}

/-- Where the writer and the events stay as they are, nothing is recorded. -/
theorem of_unseen (writer : t.writer = s.writer) (events : t.events = s.events) :
    Recounts ended s t := by
  intro _ hs
  rw [writer, events]
  exact ⟨hs.start, [], by simp, .nil⟩

/-- What is counted and recorded adds up. -/
theorem trans (first : Recounts true s t) (second : Recounts ended t u) : Recounts ended s u := by
  intro hended hs
  obtain ⟨ht, old, hold, hbefore⟩ := first rfl hs
  obtain ⟨hu, new, hnew, hafter⟩ := second hended ⟨ht.takesAll, ht.length, Nat.zero_le _⟩
  have hforwards : s.writer.index ≤ t.writer.index := ht.least
  have hforwards' : t.writer.index ≤ u.writer.index := hu.least
  refine ⟨⟨hu.takesAll, hu.length, by omega⟩, new ++ old, ?_, ?_⟩
  · simp [hnew, hold, Function.comp_def]
  · exact hbefore.append hafter hforwards hforwards'

/-- What the machine does to a writer is counted and not recorded. -/
theorem moves {w : Writer} (moves : s.writer.Moves w) : Recounts true s { s with writer := w } := by
  intro _ hs
  have hkept : Writer.Counts s.writer.index w := by
    cases moves with
    | write text => exact Writer.counts_write _ text _ hs.start
    | writeWrap wrap => exact Writer.counts_writeWrap _ wrap _ hs.start
    | pushIndentation indent => exact hs.start.pushIndentation indent
    | popIndentation => exact Writer.counts_popIndentation _ _ hs.start
    | pushAnchor => exact hs.start.pushAnchor
    | popAnchor => exact Writer.counts_popAnchor _ _ hs.start
  exact ⟨hkept, [], by simp, .nil⟩

/-- What was recorded since the beginning of a part lies inside the part. -/
theorem recorded (frame : Frame) (kind : EventKind) (during : Recounts true s t) :
    Recounts true s (t.recorded frame kind s.writer.index) := by
  intro _ hs
  obtain ⟨ht, events, hevents, hinside⟩ := during rfl hs
  refine ⟨ht, _ :: events, ?_, hinside.enclose kind frame.running.name ht.least⟩
  simp [RenderState.recorded, hevents, Function.comp_def]

end RenderState.Recounts

/-- Whatever the machine does, it counts what it writes and records nested parts of it. -/
theorem course_recounts (setting : Setting) :
    Course setting fun ended _ => RenderState.Recounts ended where
  refl _ _ _ := .of_unseen rfl rfl
  trans := .trans
  report _ _ _ := .of_unseen rfl rfl
  moves _ _ _ := .moves
  recorded {frame} _ _ kind := .recorded frame kind
  aside _ := .of_unseen rfl rfl
  asideStopped _ := by simp [RenderState.Recounts]
  reached _ after := after
  abandoned _ _ _ _ := .of_unseen rfl rfl
  invoked _ after := after
  withLocals _ h := h

/-- A computation that may report and may render to texts of its own, but leaves the writer and the
events alone. -/
def Render.Unwritten {α : Type} (action : Render α) (P : α → Prop) : Prop :=
  ∀ s, Render.Spec action s (fun a t => t.writer = s.writer ∧ t.events = s.events ∧ P a)
    fun _ => True

namespace Render.Unwritten

variable {α β : Type} {action : Render α} {P : α → Prop} {Q : β → Prop}

/-- A pure computation writes nothing. -/
theorem pure {a : α} (h : P a) : Render.Unwritten (pure a) P :=
  fun _ => ⟨rfl, rfl, h⟩

/-- Sequences write nothing if their parts do not. -/
theorem bind (h : Render.Unwritten action P) {f : α → Render β}
    (hf : ∀ a, P a → Render.Unwritten (f a) Q) : Render.Unwritten (action >>= f) Q := by
  intro s
  refine Render.Spec.bind (h s) fun a t ha => ?_
  obtain ⟨hwriter, hevents, ha⟩ := ha
  refine (hf a ha t).mono (fun b u hb => ?_) fun _ => id
  rw [← hwriter, ← hevents]
  exact hb

/-- Looking out for nesting that is too deep writes nothing. -/
theorem tooDeep {setting : Setting} {frame : Frame} :
    Render.Unwritten (Render.tooDeep setting frame) fun _ => True := by
  unfold Render.tooDeep
  split
  · exact fun s => ⟨rfl, rfl, trivial⟩
  · exact pure trivial

/-- Rendering to a text of its own writes nothing to the writer that is there. -/
theorem aside {inner : Render Nat} : Render.Unwritten (Render.aside inner) fun _ => True := by
  intro s
  unfold Render.Spec
  rw [outcome_aside]
  rcases outcome inner _ with ⟨_ | n, t⟩
  · trivial
  · exact ⟨rfl, rfl, trivial⟩

/-- The value of a default is found without writing. -/
theorem defaultValue (setting : Setting) (fuel : Nat) (frame : Frame) (default : DefaultValue) :
    Render.Unwritten (defaultValue setting fuel frame default) fun _ => True := by
  cases fuel with
  | zero => exact fun _ => trivial
  | succ fuel =>
    cases default with
    | literal value => exact pure trivial
    | template template eager =>
      rw [TemplateMachine.defaultValue]
      split
      · refine tooDeep.bind fun deep _ => ?_
        split
        · exact pure trivial
        · exact aside.bind fun text _ => pure trivial
      · exact pure trivial

/-- Giving defaults to a frame writes nothing, and the frame runs the same template. -/
theorem giveDefaults (setting : Setting) (fuel : Nat) (frame : Frame) (args : List FormalArg) :
    Render.Unwritten (giveDefaults setting fuel frame args) fun given =>
      given.running.name = frame.running.name := by
  induction fuel generalizing frame args with
  | zero => exact fun _ => trivial
  | succ fuel ih =>
    cases args with
    | nil => exact pure rfl
    | cons arg rest =>
      rw [TemplateMachine.giveDefaults]
      split
      · exact (defaultValue setting fuel frame _).bind fun value _ => ih _ rest
      · exact ih frame rest

end Render.Unwritten

/-- A template is recorded last, and its part is all that was written since it began. -/
theorem exec_recorded (setting : Setting) (fuel : Nat) (frame : Frame) (s : RenderState)
    (counts : Writer.Counts 0 s.writer) :
    Render.Spec (exec setting fuel frame) s (fun _ t =>
      Writer.Counts s.writer.index t.writer ∧ ∃ events,
        Event.Recorded s.writer.index t.writer.index events ∧
        t.events = s.events.map fun old =>
          ⟨.template, frame.running.name, s.writer.index, t.writer.index⟩ :: (events ++ old))
      fun _ => True := by
  cases fuel with
  | zero => trivial
  | succ fuel =>
    rw [exec]
    refine Render.Spec.bind (P := fun _ t => t = s.marked frame .begun)
      (Render.spec_of_eq (Render.outcome_mark frame .begun s) rfl) fun _ begun hbegun => ?_
    subst hbegun
    refine Render.Spec.bind (Render.Unwritten.giveDefaults setting fuel frame _ _)
      fun given t hgiven => ?_
    obtain ⟨hwriter, hevents, hname⟩ := hgiven
    have hwriter : t.writer = s.writer := hwriter
    have hevents : t.events = s.events := hevents
    refine Render.Spec.bind (P := fun start u => start = t.writer.index ∧ u = t)
      (Render.spec_of_eq (Render.outcome_position t) ⟨rfl, rfl⟩) fun start u hstart => ?_
    obtain ⟨rfl, rfl⟩ := hstart
    have hrun := (MachineTakes.all (course_recounts setting) fuel).run given .start u
    refine Render.Spec.bind (hrun.mono (fun _ v h => h.1) fun _ _ => trivial) fun count v hv => ?_
    obtain ⟨hcounts, events, hrecorded, hinside⟩ := hv rfl (hwriter ▸ counts)
    rw [hwriter] at hcounts hinside
    refine ⟨hcounts, events, hinside, ?_⟩
    simp [hrecorded, hevents, hname, hwriter, Function.comp_def]

/-- A rendering with events whose text is that of a rendering without them. The events are of parts
of the text, in the order in which the parts end, and of any two parts the one that is recorded
first ends before the other begins or lies inside it. The last event is that of the whole text. -/
structure Rendering.Recorded (name : String) (rendering plain : Rendering) : Prop where
  text : rendering.text = plain.text
  inside : ∀ event ∈ rendering.events, event.start ≤ event.stop ∧ event.stop ≤ rendering.text.length
  ordered : rendering.events.Pairwise fun event later => event.stop ≤ later.stop
  nested : rendering.events.Pairwise fun event later =>
    event.stop ≤ later.start ∨ later.start ≤ event.start ∧ event.stop ≤ later.stop
  whole : rendering.events.getLast? = some ⟨.template, name, 0, rendering.text.length⟩

/-- The writer of a render on a boundless sink has counted nothing, and there is nothing. -/
theorem RenderSettings.counts_writer (settings : RenderSettings) :
    Writer.Counts 0 (settings.writer .boundless) ∧ (settings.writer .boundless).index = 0 := by
  unfold RenderSettings.writer
  split <;> exact ⟨⟨Sink.takesAll_boundless, rfl, Nat.le_refl _⟩, rfl⟩

/-- A render with events and one without them end together, with the same text. -/
theorem Instance.execute_alike (inst : Instance) (catalog : Catalog) (settings : RenderSettings)
    (sink : Sink) (fuel : Nat) :
    match inst.execute catalog settings sink true fuel,
      inst.execute catalog settings sink false fuel with
    | (some _, t), (some _, t') => t.writer = t'.writer
    | (none, _), (none, _) => True
    | _, _ => False := by
  have halike : Render.Alike Simulation.Same true
      (exec (settings.setting catalog inst) fuel (.root inst))
      (exec (settings.setting catalog inst) fuel (.root inst)) WhileInStep :=
    (MachineAlike.all Simulation.same fuel).exec true (.root inst)
  have hends := halike (.start (settings.writer sink) true) (.start (settings.writer sink) false)
    ⟨rfl, rfl⟩
  rw [← execute_eq_outcome, ← execute_eq_outcome] at hends
  rcases hends' : inst.execute catalog settings sink true fuel with ⟨_ | n, t⟩ <;>
    rcases hplain : inst.execute catalog settings sink false fuel with ⟨_ | n', t'⟩ <;>
    rw [hends', hplain] at hends
  · trivial
  · exact hends
  · exact hends
  · obtain ⟨i, -, ⟨-, hwriters⟩, -⟩ := hends
    exact hwriters

/-- The events of a render that ended are of nested parts of its text, and the last one is that of
the root. -/
theorem Instance.execute_recorded {inst : Instance} {catalog : Catalog} {settings : RenderSettings}
    {fuel count : Nat} {finish : RenderState}
    (ends : inst.execute catalog settings .boundless true fuel = (some count, finish)) :
    finish.writer.index = finish.writer.text.length ∧ ∃ events,
      Event.Recorded 0 finish.writer.index events ∧
      finish.events = some (⟨.template, inst.name, 0, finish.writer.index⟩ :: events) := by
  obtain ⟨hcounts, hzero⟩ := settings.counts_writer
  rw [execute_eq_outcome] at ends
  obtain ⟨hfinish, events, hinside, hevents⟩ :=
    (exec_recorded _ fuel (.root inst) (.start (settings.writer .boundless) true) hcounts).result ends
  have hstart : (RenderState.start (settings.writer .boundless) true).writer.index = 0 := hzero
  rw [hstart] at hinside hevents
  refine ⟨hfinish.length.symm, events, hinside, ?_⟩
  simpa [RenderState.start, Frame.root] using hevents

/-- A render with events terminates exactly if the render without them does. Its text is the same,
and its events are a post-order of nested parts of the text, ending with the whole of it. -/
theorem Instance.render_withEvents (inst : Instance) (catalog : Catalog) (settings : RenderSettings)
    (fuel : Nat) :
    Option.Rel (Rendering.Recorded inst.name)
      (inst.render catalog settings .boundless true fuel)
      (inst.render catalog settings .boundless false fuel) := by
  have halike := inst.execute_alike catalog settings .boundless fuel
  unfold Instance.render
  rcases hends : inst.execute catalog settings .boundless true fuel with ⟨_ | n, t⟩ <;>
    rcases hplain : inst.execute catalog settings .boundless false fuel with ⟨_ | n', t'⟩ <;>
    rw [hends, hplain] at halike
  · exact .none
  · exact halike.elim
  · exact halike.elim
  have hwriters : t.writer = t'.writer := halike
  obtain ⟨hlength, events, hinside, hevents⟩ := execute_recorded hends
  have hall := hinside.enclose .template inst.name (Nat.zero_le _)
  rw [hlength] at hall hevents
  simp only [hevents, Option.getD_some]
  refine .some ⟨congrArg Writer.text hwriters, fun event mem => ?_, ?_, ?_, ?_⟩
  · exact (hall.inside event (List.mem_reverse.mp mem)).2
  · exact List.pairwise_reverse.mpr hall.ordered
  · exact List.pairwise_reverse.mpr hall.nested
  · simp [Rendering.text]

/-- An invoked template comes first, then the write that invoked it, and the root comes last. -/
example :
    let inner := { Template.blank "inner" with program := [.writeStr 0], pool := ["xy"] }
    let outer := { Template.blank "outer" with
      program := [.writeStr 0, .newNamed 1 0, .write], pool := ["a", "inner"] }
    let group := { Group.empty ⟨0⟩ with templates := [("inner", inner), ("outer", outer)] }
    let rendering := (Instance.ofTemplate outer ⟨0⟩).render ⟨[group]⟩ .standard .boundless true 20
    rendering.map Rendering.events = some
      [⟨.template, "inner", 1, 3⟩, ⟨.expr, "outer", 1, 3⟩, ⟨.template, "outer", 0, 3⟩] := by
  decide +kernel

end TemplateMachine
