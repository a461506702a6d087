import TemplateMachine.Proofs.Accord.Sinks
import TemplateMachine.Proofs.Newline.Writing
import TemplateMachine.Proofs.Tally.Writing

/-!
# Rendering without indentation

Where nothing is indented or anchored, no line is wrapped and newlines are written as they are, the
indenting writer writes what the verbatim writer writes, apart from the carriage returns that it
drops. A render that begins no indentation, anchors no write and hands over no carriage return is
therefore the same with indentation and without, also in what it renders to texts of its own.

Ending an indentation is no exception: there is none to be ended, and both writers fail.
-/

namespace TemplateMachine

open Attempt

/-- Whether an instruction has a part in how lines begin: it begins an indentation or sets the anchor
of a write. -/
def Instr.laysOut : Instr → Bool
  | .indent _ => true
  | .storeOption index => index == WriteOption.anchor.index
  | _ => false

/-- What a render must not come across if it is to be the same without indentation, with the problems
that it must not report. -/
def Exclusions.layout (problem : Problem → Prop) : Exclusions where
  problem := problem
  instr instr := instr.laysOut = true
  text text := '\r' ∈ text.toList

/-- Without carriage returns, a newline text that is a newline changes nothing. -/
theorem translateChars_of_clean {chars : List Char} (clean : '\r' ∉ chars) :
    translateChars ['\n'] chars = chars := by
  induction chars with
  | nil => rfl
  | cons c rest ih =>
    simp only [List.mem_cons, not_or] at clean
    rw [translateChars_cons, ih clean.2, translateChar, if_neg (Ne.symm clean.1)]
    by_cases ends : c = '\n' <;> simp [ends]

namespace Writer

/-- A writer on a sink that takes everything, whose lines begin with nothing, are not wrapped and are
ended by a newline if by anything else than what they are told to be. -/
structure Plain (w : Writer) : Prop where
  takesAll : w.sink.TakesAll
  newline : ∀ newline, w.layout.newline = some newline → newline = "\n"
  lineWidth : w.layout.lineWidth = none
  indentation : w.layout.indentation = []
  anchors : w.layout.anchors = []

namespace Plain

variable {w : Writer} (plain : w.Plain)

include plain

/-- A plain writer translates nothing. -/
theorem translate_eq {text : String} (clean : '\r' ∉ text.toList) : w.translate text = text := by
  unfold translate
  split
  · rename_i newline hnewline
    rw [plain.newline newline hnewline]
    change String.ofList (translateChars ['\n'] text.toList) = text
    rw [translateChars_of_clean clean, String.ofList_toList]
  · rfl

/-- A plain writer writes a text as it is, counts its characters, and stays plain. -/
theorem outcome_write {text : String} (clean : '\r' ∉ text.toList) :
    outcome (write text) w = (.ok text.length, w.writeTo text) ∧ (w.writeTo text).Plain ∧
      (w.writeTo text).index = w.index + text.length ∧
      (w.writeTo text).text = w.text ++ text := by
  obtain ⟨n, hends, hwrites⟩ := writes_writeTo text plain.takesAll
  have htext : (w.writeTo text).text = w.text ++ text := by
    rw [hwrites.text plain.indentation plain.anchors, plain.translate_eq clean]
  have hlength : (w.writeTo text).text.length + 0 = w.text.length + n :=
    gauge_length.write text w n _ hends
  have hindex : (w.writeTo text).index + 0 = w.index + n := gauge_index.write text w n _ hends
  obtain rfl : n = text.length := by
    rw [htext, String.length_append] at hlength
    omega
  have hlayout := hwrites.layout
  refine ⟨hends, ?_, by omega, htext⟩
  exact ⟨hwrites.takesAll, hlayout ▸ plain.newline, hlayout ▸ plain.lineWidth,
    hlayout ▸ plain.indentation, hlayout ▸ plain.anchors⟩

/-- A plain writer wraps no line. -/
theorem outcome_writeWrap (wrap : Option String) : outcome (writeWrap wrap) w = (.ok 0, w) := by
  cases w with
  | verbatim w => rfl
  | indenting w =>
    have hwidth : w.lineWidth = none := plain.lineWidth
    have hwrap : outcome (IndentingWriter.writeWrap wrap) w = (.ok 0, w) := by
      rw [IndentingWriter.writeWrap, outcome_get_bind, hwidth]
      rfl
    rw [writeWrap, outcome_dispatch_indenting, hwrap]

/-- A writer forked from a plain one is plain. -/
theorem fork : w.fork.Plain := by
  cases w with
  | indenting w => exact ⟨Sink.takesAll_boundless, plain.newline, rfl, rfl, rfl⟩
  | verbatim w => exact ⟨Sink.takesAll_boundless, plain.newline, rfl, rfl, rfl⟩

end Plain

/-- Two plain writers of either sort that have written the same. -/
structure PlainAlike (w w' : Writer) : Prop where
  left : w.Plain
  right : w'.Plain
  index : w'.index = w.index
  text : w'.text = w.text

namespace PlainAlike

/-- Writing a text without carriage returns comes to the same and is not refused. -/
theorem agrees_write {text : String} (clean : '\r' ∉ text.toList) :
    Agrees False PlainAlike (write text) := by
  intro w w' h
  obtain ⟨hends, hplain, hindex, htext⟩ := h.left.outcome_write clean
  obtain ⟨hends', hplain', hindex', htext'⟩ := h.right.outcome_write clean
  rw [hends, hends']
  refine Or.inr ⟨rfl, hplain, hplain', ?_, ?_⟩
  · rw [hindex, hindex', h.index]
  · rw [htext, htext', h.text]

/-- Wrapping a line comes to the same, as no line is wrapped. -/
theorem agrees_writeWrap (wrap : Option String) : Agrees False PlainAlike (writeWrap wrap) := by
  intro w w' h
  rw [h.left.outcome_writeWrap, h.right.outcome_writeWrap]
  exact Or.inr ⟨rfl, h⟩

/-- Ending an indentation fails on both, as there is none. -/
theorem agrees_popIndentation : Agrees False PlainAlike popIndentation := by
  intro w w' h
  have hpop := w.outcome_popIndentation
  have hpop' := w'.outcome_popIndentation
  rw [h.left.indentation] at hpop
  rw [h.right.indentation] at hpop'
  rw [hpop, hpop']
  exact Or.inr ⟨rfl, h⟩

/-- Plain writers that have written the same stay so until something is come across that tells them
apart, and they are refused nothing. -/
theorem bisimulation (problem : Problem → Prop) :
    (Exclusions.layout problem).Bisimulation PlainAlike where
  index h := h.index
  text h := h.text
  fork h := by
    have htext (w : Writer) : w.fork.text = "" := by
      cases w <;> rfl
    have hindex (w : Writer) : w.fork.index = 0 := by
      cases w <;> rfl
    exact ⟨h.left.fork, h.right.fork, by rw [hindex, hindex], by rw [htext, htext]⟩
  write allowed := (agrees_write allowed).mono False.elim
  writeWrap _ := (agrees_writeWrap _).mono False.elim
  pushIndentation allowed := absurd rfl allowed
  popIndentation := agrees_popIndentation
  pushAnchor allowed := absurd rfl allowed
  popAnchor allowed := absurd rfl allowed

end PlainAlike

end Writer

namespace RenderSettings

variable {settings : RenderSettings} {sink : Sink}

/-- The writer of a render is plain, on a sink that takes everything, if newlines are written as they
are and no lines are wrapped. -/
theorem plain_writer (htakes : sink.TakesAll) (newline : settings.newline = "\n")
    (lineWidth : settings.lineWidth = none) : (settings.writer sink).Plain := by
  unfold writer
  split
  · exact ⟨htakes, fun _ h => newline ▸ (Option.some.inj h).symm, lineWidth, rfl, rfl⟩
  · exact ⟨htakes, fun _ h => (by cases h), rfl, rfl, rfl⟩

/-- The writers of a render on a sink that takes everything, with indentation or without, have
written the same. -/
theorem plainAlike_writer (htakes : sink.TakesAll) (newline : settings.newline = "\n")
    (lineWidth : settings.lineWidth = none) (indent other : Bool) :
    Writer.PlainAlike ({ settings with indent := indent }.writer sink)
      ({ settings with indent := other }.writer sink) where
  left := plain_writer htakes newline lineWidth
  right := plain_writer htakes newline lineWidth
  index := by cases indent <;> cases other <;> rfl
  text := by cases indent <;> cases other <;> rfl

end RenderSettings

/-- What a render shows for: the characters counted, the output, the events and the messages. -/
def Rendering.contents (rendering : Rendering) : Nat × String × List Event × List Message :=
  (rendering.count, rendering.text, rendering.events, rendering.messages)

/-- Two renders show the same if they count the same and end in states that agree but for the
writers, which have written the same. -/
theorem Instance.map_contents_render_eq {inst : Instance} {catalog : Catalog}
    {settings settings' : RenderSettings} {sink sink' : Sink} {withEvents : Bool} {fuel : Nat}
    (result : (inst.execute catalog settings' sink' withEvents fuel).1 =
      (inst.execute catalog settings sink withEvents fuel).1)
    (finish : RenderState.Matches (fun w w' => w'.text = w.text)
      (inst.execute catalog settings sink withEvents fuel).2
      (inst.execute catalog settings' sink' withEvents fuel).2) :
    (inst.render catalog settings' sink' withEvents fuel).map Rendering.contents =
      (inst.render catalog settings sink withEvents fuel).map Rendering.contents := by
  unfold Instance.render
  rcases hends : inst.execute catalog settings sink withEvents fuel with ⟨_ | n, t⟩ <;>
    rcases hends' : inst.execute catalog settings' sink' withEvents fuel with ⟨_ | n', t'⟩ <;>
    rw [hends, hends'] at result finish
  case some.some =>
    obtain rfl : n' = n := Option.some.inj result
    have htext : t'.writer.text = t.writer.text := finish.writer
    have hevents : t'.events = t.events := finish.events
    have hmessages : t'.messages = t.messages := finish.messages
    simp [Rendering.contents, Rendering.text, htext, hevents, hmessages]
  all_goals cases result

/-- With newlines written as they are and no lines wrapped, a render is the same with indentation and
without if, with or without, it comes to no instruction that has a part in how lines begin and hands
over no carriage return: it ends in either case or in none, with the same output, events and
messages. This is so on every sink that takes everything, and on others as long as they refuse
nothing in the two renders. -/
theorem Instance.render_indent (inst : Instance) (catalog : Catalog) (settings : RenderSettings)
    (sink : Sink) (withEvents : Bool) (fuel : Nat) (indent other : Bool)
    (newline : settings.newline = "\n") (lineWidth : settings.lineWidth = none)
    (unlaid : ∀ instr ∈ (inst.execute catalog { settings with indent := indent } sink withEvents
      fuel).2.instrs, instr.laysOut = false)
    (clean : ∀ text ∈ inst.hands catalog { settings with indent := indent } sink withEvents fuel,
      '\r' ∉ text.toList)
    (taken : sink.TakesAll ∨ ∀ flag, ∀ message ∈ (inst.execute catalog
      { settings with indent := flag } sink withEvents fuel).2.messages,
      message.problem ≠ .ioError .refused) :
    (inst.render catalog { settings with indent := other } sink withEvents fuel).map
        Rendering.contents =
      (inst.render catalog { settings with indent := indent } sink withEvents fuel).map
        Rendering.contents := by
  have hnotLaid {problem : Problem → Prop} (quiet : ∀ message ∈ (inst.execute catalog
      { settings with indent := indent } sink withEvents fuel).2.messages,
      ¬problem message.problem) : ¬(Exclusions.layout problem).Met (inst.execute catalog
        { settings with indent := indent } sink withEvents fuel).2 := by
    rintro (⟨message, mem, hproblem⟩ | ⟨instr, mem, hlaid⟩)
    · exact quiet message mem hproblem
    · exact Bool.false_ne_true ((unlaid instr mem).symm.trans hlaid)
  have hsame : RenderSettings.setting { settings with indent := other } catalog inst =
      RenderSettings.setting { settings with indent := indent } catalog inst := rfl
  rcases taken with htakes | taken
  · obtain ⟨hresult, hfinish⟩ := inst.execute_accord
      (Writer.PlainAlike.bisimulation fun _ => False) catalog hsame
      (RenderSettings.plainAlike_writer htakes newline lineWidth indent other) clean
      (hnotLaid fun _ _ => id)
    exact map_contents_render_eq hresult (hfinish.mono fun _ _ h => h.text)
  · -- Both renders are compared with the second one on a sink that takes everything.
    have hsim : (Exclusions.layout (· = .ioError .refused)).Bisimulation
        (Relation.Comp Writer.Freed Writer.PlainAlike) :=
      (Writer.bisimulation_freed rfl).comp (Writer.PlainAlike.bisimulation _)
        (fun _ => Writer.PlainAlike.agrees_write)
        fun wrap _ => Writer.PlainAlike.agrees_writeWrap wrap
    have hwriters : Relation.Comp Writer.Freed Writer.PlainAlike
        (RenderSettings.writer { settings with indent := indent } sink)
        (RenderSettings.writer { settings with indent := other } sink.freed) :=
      ⟨_, RenderSettings.freed_writer _ sink,
        RenderSettings.plainAlike_writer sink.takesAll_freed newline lineWidth indent other⟩
    obtain ⟨hresult, hfinish⟩ :=
      inst.execute_accord hsim catalog hsame hwriters clean (hnotLaid (taken indent))
    obtain ⟨hresult', hfinish'⟩ := Instance.execute_freed (taken other)
    calc
      _ = (inst.render catalog { settings with indent := other } sink.freed withEvents fuel).map
            Rendering.contents :=
        (map_contents_render_eq hresult' (hfinish'.mono fun _ _ h => Writer.Freed.text h)).symm
      _ = _ := map_contents_render_eq hresult (hfinish.mono fun _ _ h => hsim.text h)

/-- A template that writes a text of two lines and a list with a separator, and then ends an
indentation that it did not begin. -/
def unlaidTemplate : Template :=
  { Template.blank "unlaid" with
    program := [.writeStr 0, .list, .pushTrue, .add, .loadStr 1, .add, .options, .loadStr 2,
      .storeOption 3, .writeOpt, .newline, .dedent]
    pool := ["a\nb", "c", ", "] }

/-- An instance of it. -/
def unlaidInstance : Instance := .ofTemplate unlaidTemplate ⟨0⟩

/-- It is rendered the same with indentation and without, up to the fault that is reported in either
case. -/
theorem unlaid_render_indent :
    (unlaidInstance.render ⟨[]⟩ { RenderSettings.standard with indent := false } .boundless true
        40).map Rendering.contents =
      (unlaidInstance.render ⟨[]⟩ { RenderSettings.standard with indent := true } .boundless true
        40).map Rendering.contents ∧
    (unlaidInstance.render ⟨[]⟩ { RenderSettings.standard with indent := true } .boundless true
        40).map (fun rendering => (rendering.text, rendering.messages.map Message.problem)) =
      some ("a\nbtrue, c\n", [.internalError (.writer .noIndentation)]) := by
  refine ⟨unlaidInstance.render_indent ⟨[]⟩ .standard .boundless true 40 true false rfl rfl ?_ ?_
    (Or.inl Sink.takesAll_boundless), by decide +kernel⟩
  · decide +kernel
  · decide +kernel

end TemplateMachine
