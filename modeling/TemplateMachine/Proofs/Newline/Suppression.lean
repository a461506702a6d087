import Mathlib.Computability.StateTransition
import TemplateMachine.Proofs.Newline.Separator
import TemplateMachine.Proofs.Tally.Losses

/-!
# Which newlines are suppressed

A newline instruction decides by what its frame has noted: the instruction executed just before it,
and how many characters were counted since the last newline instruction. Here the decision is
expressed by the writer. On a sink that takes everything, the newline is written exactly if the
instruction before it was a newline or began an indentation, or if the index of the writer has moved,
since just after the last newline instruction or since the run started, by more than what abandoned
templates have lost. So a line that holds nothing but what an abandoned template wrote is not ended.

A run is followed from point to point, each instruction being executed by a step that succeeds. The
defaults of the arguments, which are filled in before a run starts, are not part of it.
-/

namespace TemplateMachine

/-- A newline is wanted after a newline or the start of an indentation, or if something was counted
since the last newline instruction. -/
theorem Cursor.wantsNewline_iff (cursor : Cursor) :
    cursor.wantsNewline = true ↔ cursor.executed.head? = some .newline ∨
      (∃ index, cursor.executed.head? = some (.indent index)) ∨ 0 < cursor.sinceNewline := by
  obtain ⟨ip, stack, count, sinceNewline, executed⟩ := cursor
  cases executed with
  | nil => simp [wantsNewline]
  | cons instr rest => cases instr <;> simp [wantsNewline]

/-- On a sink that takes everything, a newline instruction writes a newline if one is wanted, and
succeeds in any case. -/
theorem outcome_step_newline {s : RenderState} (takesAll : s.writer.sink.TakesAll)
    (setting : Setting) (fuel : Nat) (frame : Frame) (cursor : Cursor) :
    ∃ moved, Render.outcome (step setting (fuel + 1) frame cursor .newline).run s =
      (some (.ok moved), if cursor.wantsNewline then s.writeTo "\n" else s) := by
  rw [step_newline]
  cases cursor.wantsNewline with
  | true =>
    obtain ⟨n, hends, -⟩ := outcome_emit_write takesAll frame "\n"
    rw [if_pos rfl, Step.outcome_run_bind_of_ends (Step.outcome_run_asStep hends)]
    exact ⟨_, rfl⟩
  | false => exact ⟨_, rfl⟩

/-- The frame at the instruction of a cursor. -/
def Frame.movedTo (frame : Frame) (cursor : Cursor) : Frame :=
  { frame with ip := cursor.ip }

/-- A point of the run of a frame: the fuel that is left, the cursor and the state. With it comes the
state just after the newline instruction executed last, or the one in which the run started, and the
instruction executed just before. -/
structure RunPoint where
  fuel : Nat
  cursor : Cursor
  state : RenderState
  origin : RenderState
  previous : Option Instr

namespace RunPoint

/-- The point in which a run starts. -/
def start (fuel : Nat) (s : RenderState) : RunPoint :=
  ⟨fuel, .start, s, s, none⟩

/-- The state after coming to an instruction at a point. -/
def reached (frame : Frame) (point : RunPoint) (instr : Instr) : RenderState :=
  point.state.marked (frame.movedTo point.cursor) (.reached point.cursor instr)

/-- The point to which a run goes on, if an instruction is executed and does not fault. -/
def next? (setting : Setting) (frame : Frame) (point : RunPoint) : Option RunPoint :=
  match point.fuel, frame.template.program[point.cursor.ip]? with
  | fuel + 1, some instr =>
    match Render.outcome (step setting fuel (frame.movedTo point.cursor) point.cursor instr).run
        (point.reached frame instr) with
    | (some (.ok moved), t) =>
      some ⟨fuel, moved, t, if instr = .newline then t else point.origin, some instr⟩
    | _ => none
  | _, _ => none

/-- Whether a newline instruction at the point writes: the instruction before it is a newline or
begins an indentation, or more was written since the origin than abandoned templates have lost. -/
def WritesNewline (point : RunPoint) : Prop :=
  point.previous = some .newline ∨ (∃ index, point.previous = some (.indent index)) ∨
    point.origin.writer.index + point.origin.lost point.state < point.state.writer.index

variable {setting : Setting} {frame : Frame} {point later : RunPoint}

/-- A run goes on to a point exactly if the step of an instruction leads there. -/
theorem next?_eq_some_iff :
    point.next? setting frame = some later ↔
      ∃ fuel instr moved t, point.fuel = fuel + 1 ∧
        frame.template.program[point.cursor.ip]? = some instr ∧
        Render.outcome (step setting fuel (frame.movedTo point.cursor) point.cursor instr).run
          (point.reached frame instr) = (some (.ok moved), t) ∧
        later = ⟨fuel, moved, t, if instr = .newline then t else point.origin, some instr⟩ := by
  unfold next?
  constructor
  · intro goes
    split at goes
    · rename_i fuel instr hfuel here
      split at goes
      · rename_i moved t ends
        exact ⟨fuel, instr, moved, t, hfuel, here, ends, (Option.some.inj goes).symm⟩
      · cases goes
    · cases goes
  · rintro ⟨fuel, instr, moved, t, hfuel, here, ends, rfl⟩
    rw [hfuel, here]
    dsimp only
    rw [ends]

/-- Running a program from a point comes to the same as running it from where it goes on to. -/
theorem outcome_run_of_next (goes : point.next? setting frame = some later) :
    Render.outcome (run setting point.fuel frame point.cursor) point.state =
      Render.outcome (run setting later.fuel frame later.cursor) later.state := by
  obtain ⟨fuel, instr, moved, t, hfuel, here, ends, rfl⟩ := next?_eq_some_iff.mp goes
  rw [hfuel, run, here]
  dsimp only
  rw [Render.outcome_bind, Render.outcome_mark]
  dsimp only
  rw [reached, Frame.movedTo, RenderState.marked] at ends
  rw [Render.outcome_bind, ends]

/-- What a run keeps from point to point: the cursor has counted what was gained since the origin, and
it knows the instruction before. -/
structure Kept (point : RunPoint) : Prop where
  takesAll : point.origin.writer.sink.TakesAll
  gains : point.origin.Gains 0 point.cursor.sinceNewline point.state
  previous : point.cursor.executed.head? = point.previous

/-- A run starts with nothing gained and nothing executed. -/
theorem kept_start (fuel : Nat) {s : RenderState} (takesAll : s.writer.sink.TakesAll) :
    (start fuel s).Kept :=
  ⟨takesAll, .of_still takesAll rfl rfl rfl, rfl⟩

/-- The next point keeps what a point keeps. A newline instruction starts anew, and any other one adds
to what was gained. -/
theorem Kept.next (h : point.Kept) (goes : point.next? setting frame = some later) : later.Kept := by
  obtain ⟨fuel, instr, moved, t, -, here, ends, rfl⟩ := next?_eq_some_iff.mp goes
  have hbooks := MachineBooks.all RenderState.ledger_gains setting fuel
  have hanchors : MachineKeepsAnchors setting fuel := MachineKeepsAnchors.all fuel
  obtain ⟨n, hn, -, hsince⟩ :=
    ((hbooks.step _ point.cursor instr).counted (hanchors.step _ _ _) _).result ends
  have here' : (frame.movedTo point.cursor).template.program[point.cursor.ip]? = some instr := here
  obtain ⟨hexecuted, -⟩ := (step_follows setting fuel here' _).result ends moved rfl
  have hreached : point.origin.Gains 0 point.cursor.sinceNewline (point.reached frame instr) :=
    h.gains.trans (RenderState.ledger_gains.marked _ _ (by simp) point.state h.gains.takesAll)
  have hgains : point.origin.Gains 0 (point.cursor.sinceNewline + n) t :=
    hreached.trans ((hn hreached.takesAll).shift point.cursor.sinceNewline)
  refine ⟨?_, ?_, by rw [hexecuted, List.head?_cons]⟩
  · split
    · exact hgains.takesAll
    · exact h.takesAll
  · rw [hsince]
    split
    · exact .of_still hgains.takesAll rfl rfl rfl
    · exact hgains

/-- Every point that a run comes to keeps what the start keeps. -/
theorem Kept.of_reaches (h : point.Kept)
    (comes : StateTransition.Reaches (next? setting frame) point later) : later.Kept := by
  induction comes with
  | refl => exact h
  | tail _ goes ih => exact ih.next goes

/-- Running a program from a point comes to the same as running it from any point that it comes to. -/
theorem outcome_run_of_reaches
    (comes : StateTransition.Reaches (next? setting frame) point later) :
    Render.outcome (run setting point.fuel frame point.cursor) point.state =
      Render.outcome (run setting later.fuel frame later.cursor) later.state := by
  induction comes with
  | refl => rfl
  | tail _ goes ih => exact ih.trans (outcome_run_of_next goes)

/-- What the cursor of a point wants is what the writer tells. -/
theorem Kept.wantsNewline_iff (h : point.Kept) :
    point.cursor.wantsNewline = true ↔ point.WritesNewline := by
  have hindex := h.gains.index
  rw [Cursor.wantsNewline_iff, h.previous, WritesNewline]
  refine or_congr_right (or_congr_right ?_)
  omega

/-- Wherever the run of a frame on a sink that takes everything comes to a newline instruction, the
instruction succeeds. The newline is written exactly if the instruction executed before it was a
newline or began an indentation, or if the index of the writer has moved by more than abandoned
templates have lost since just after the last newline instruction or since the start; otherwise
nothing is written. The run goes on from there. -/
theorem next_newline {budget : Nat} {s : RenderState} (takesAll : s.writer.sink.TakesAll)
    (comes : StateTransition.Reaches (next? setting frame) (.start budget s) point)
    (here : frame.template.program[point.cursor.ip]? = some .newline) (fuel : 2 ≤ point.fuel) :
    ∃ later, point.next? setting frame = some later ∧
      Render.outcome (run setting budget frame .start) s =
        Render.outcome (run setting later.fuel frame later.cursor) later.state ∧
      (point.WritesNewline → later.state = (point.reached frame .newline).writeTo "\n") ∧
      (¬point.WritesNewline → later.state = point.reached frame .newline) := by
  have hkept := (kept_start budget takesAll).of_reaches comes
  have htakes : (point.reached frame .newline).writer.sink.TakesAll := hkept.gains.takesAll
  obtain ⟨left, hleft⟩ : ∃ left, point.fuel = left + 2 := ⟨point.fuel - 2, by omega⟩
  obtain ⟨moved, hends⟩ :=
    outcome_step_newline htakes setting left (frame.movedTo point.cursor) point.cursor
  have hgoes := next?_eq_some_iff.mpr ⟨_, _, _, _, hleft, here, hends, rfl⟩
  refine ⟨_, hgoes, outcome_run_of_reaches (comes.tail hgoes), fun writes => ?_, fun still => ?_⟩
  · exact if_pos (hkept.wantsNewline_iff.mpr writes)
  · exact if_neg (mt hkept.wantsNewline_iff.mp still)

end RunPoint

/-- A template that writes a character before a fault abandons it. -/
def brokenTemplate : Template :=
  { Template.blank "broken" with program := [.writeStr 0, .pop], pool := ["a"] }

/-- A template that invokes the broken one on a line and writes a text on the next line. -/
def sheetTemplate : Template :=
  { Template.blank "sheet" with
    program := [.newNamed 0 0, .write, .newline, .writeStr 1], pool := ["broken", "next"] }

/-- What stays the same while the two run. -/
def sheetSetting : Setting :=
  let group := { Group.empty ⟨0⟩ with
    templates := [("sheet", sheetTemplate), ("broken", brokenTemplate)] }
  ⟨⟨[group]⟩, "en", 200⟩

/-- The frame of the sheet, which nothing invoked. -/
def sheetFrame : Frame := .root (.ofTemplate sheetTemplate ⟨0⟩)

/-- The state in which the sheet starts. -/
def sheetStart : RenderState := .start (RenderSettings.standard.writer .boundless) false

namespace RunPoint

/-- The point of the newline instruction of the sheet, if the run comes to it. -/
def sheet? : Option RunPoint :=
  ((start 20 sheetStart).next? sheetSetting sheetFrame).bind (next? sheetSetting sheetFrame)

/-- The point of the newline instruction of the sheet. -/
def sheet : RunPoint :=
  sheet?.getD (start 20 sheetStart)

/-- The run of the sheet comes to its newline instruction. -/
theorem reaches_sheet :
    StateTransition.Reaches (next? sheetSetting sheetFrame) (start 20 sheetStart) sheet := by
  have hsome : sheet?.isSome = true := by decide +kernel
  obtain ⟨point, hpoint⟩ := Option.isSome_iff_exists.mp hsome
  rw [sheet, hpoint, Option.getD_some]
  rw [sheet?] at hpoint
  obtain ⟨second, hsecond, hthird⟩ := Option.bind_eq_some_iff.mp hpoint
  exact .tail (.tail .refl hsecond) hthird

/-- When the line of the sheet is to be ended it is not empty, but the abandoned template has lost all
of it, and so the newline is suppressed. -/
theorem sheet_next_newline :
    sheet.origin.writer.index < sheet.state.writer.index ∧ ¬sheet.WritesNewline ∧
      (∃ later, sheet.next? sheetSetting sheetFrame = some later ∧
        later.state = sheet.reached sheetFrame .newline) ∧
      (Render.outcome (run sheetSetting 20 sheetFrame .start) sheetStart).2.writer.text =
        "anext" := by
  have htakes : sheetStart.writer.sink.TakesAll := Sink.takesAll_boundless
  have hprevious : sheet.previous = some .write := by decide +kernel
  have hlost : ¬sheet.origin.writer.index + sheet.origin.lost sheet.state <
      sheet.state.writer.index := by
    decide +kernel
  have hstill : ¬sheet.WritesNewline := by
    rintro (same | ⟨index, same⟩ | more)
    · simp [hprevious] at same
    · simp [hprevious] at same
    · exact hlost more
  obtain ⟨later, hgoes, -, -, hsuppressed⟩ :=
    next_newline htakes reaches_sheet (by decide +kernel) (by decide +kernel)
  exact ⟨by decide +kernel, hstill, ⟨later, hgoes, hsuppressed hstill⟩, by decide +kernel⟩

end RunPoint

end TemplateMachine
