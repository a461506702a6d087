import TemplateMachine.Proofs.Tally.Ledger
import TemplateMachine.Proofs.Tally.Writing

/-!
# What the machine counts

The characters that the machine counts, by hand, for everything that it writes: literal texts,
values, replacements of missing values, separators, wraps, newlines and nested templates. As long as
no failure of the output and no fault is reported, the count is how far the writer has moved, by its
index and by what its sink has taken. What is rendered to a text of its own is counted in neither.

After a failure the count is too low, since what was written before the failure is not counted.
-/

namespace TemplateMachine

variable {α β : Type} {gauge : Writer → Nat}

/-- Between two states, in which the characters counted were `before` and `after`, messages have only
been added. If none of these is about a failure of the output or a fault, then a number read off the
writer has grown by what was counted. -/
def RenderState.Advances (gauge : Writer → Nat) (before after : Nat) (s t : RenderState) : Prop :=
  ∃ fresh, t.messages = fresh ++ s.messages ∧
    ((∀ message ∈ fresh, message.problem.channel = .runtime) →
      gauge t.writer + before = gauge s.writer + after)

namespace RenderState.Advances

variable {before after last : Nat} {s t u : RenderState}

/-- Nothing is counted where the writer stays as it is, whatever is reported. -/
theorem of_still (messages : s.messages <:+ t.messages) (writer : gauge t.writer = gauge s.writer) :
    Advances gauge before before s t := by
  obtain ⟨fresh, hfresh⟩ := messages
  exact ⟨fresh, hfresh.symm, fun _ => by rw [writer]⟩

/-- Messages have only been added. -/
theorem messages (h : Advances gauge before after s t) : s.messages <:+ t.messages := by
  obtain ⟨fresh, hfresh, -⟩ := h
  exact ⟨fresh, hfresh.symm⟩

/-- What is counted adds up. -/
theorem trans (first : Advances gauge before after s t) (second : Advances gauge after last t u) :
    Advances gauge before last s u := by
  obtain ⟨old, hold, hfirst⟩ := first
  obtain ⟨new, hnew, hsecond⟩ := second
  refine ⟨new ++ old, by rw [hnew, hold, List.append_assoc], fun quiet => ?_⟩
  have hold := hfirst fun message mem => quiet message (List.mem_append_right _ mem)
  have hnew := hsecond fun message mem => quiet message (List.mem_append_left _ mem)
  omega

/-- Nothing is said where a failure or a fault was reported. -/
theorem of_failure {message : Message} (messages : s.messages <:+ t.messages)
    (failure : message.problem.channel ≠ .runtime) (last : u.messages = message :: t.messages) :
    Advances gauge before after s u := by
  obtain ⟨fresh, hfresh⟩ := messages
  refine ⟨message :: fresh, by rw [last, ← hfresh, List.cons_append], fun quiet => ?_⟩
  exact absurd (quiet message List.mem_cons_self) failure

/-- What was counted before does not matter. -/
theorem shift (h : Advances gauge before after s t) (extra : Nat) :
    Advances gauge (extra + before) (extra + after) s t := by
  obtain ⟨fresh, hfresh, hcount⟩ := h
  refine ⟨fresh, hfresh, fun quiet => ?_⟩
  have := hcount quiet
  omega

end RenderState.Advances

/-- A call that writes counts what is written if it succeeds. -/
theorem Writer.Gauge.tallies_attempt (sim : Writer.Gauge gauge) (call : TextCall) :
    Attempt.Tallies gauge 0 call.attempt := by
  cases call with
  | write text => exact sim.write text
  | writeWrapped text wrap => exact sim.writeWrapped text wrap
  | writeWrap wrap => exact sim.writeWrap wrap
  | writeSeparator text => exact sim.write text

/-- How far a gauge advances is a ledger, which breaks off where a failure or a fault is reported. -/
theorem Writer.Gauge.ledger (sim : Writer.Gauge gauge) :
    Ledger (RenderState.Advances gauge) where
  refl _ _ := .of_still List.suffix_rfl rfl
  trans first second := first.trans second
  shift extra h := h.shift extra
  report _ _ _ _ := .of_still (List.suffix_append _ _) rfl
  marked _ _ _ _ _ := .of_still List.suffix_rfl rfl
  recorded _ _ _ _ _ := .of_still List.suffix_rfl rfl
  pushIndentation _ indent s := .of_still List.suffix_rfl (sim.pushIndentation indent s.writer)
  popIndentation _ s := .of_still List.suffix_rfl (sim.popIndentation s.writer)
  pushAnchor _ s := .of_still List.suffix_rfl (sim.pushAnchor s.writer)
  popAnchor _ s := .of_still List.suffix_rfl (sim.popAnchor s.writer)
  written call s n w ends := ⟨[], rfl, fun _ => sim.tallies_attempt call s.writer n w ends⟩
  refused _ _ _ _ _ _ :=
    .of_failure List.suffix_rfl (by simp [Frame.message, Problem.channel]) rfl
  aside _ _ _ _ _ inner := .of_still inner.messages rfl
  abandoned _ _ _ until_here :=
    .of_failure until_here.messages (by simp [Frame.message, Problem.channel]) rfl

/-- A computation that goes on from a count, and whose result says what has been counted after it. -/
def Render.Tallies (gauge : Writer → Nat) (before : Nat) (action : Render α) (count : α → Nat) :
    Prop :=
  ∀ s, Render.Spec action s (fun a t => RenderState.Advances gauge before (count a) s t)
    fun _ => True

/-- A step that goes on from a count, and whose result says what has been counted after it unless it
faults. Messages are only added in any case. -/
def Step.Tallies (gauge : Writer → Nat) (before : Nat) (action : Step α) (count : α → Nat) : Prop :=
  ∀ s, Render.Spec action.run s
    (fun result t =>
      match result with
      | .ok a => RenderState.Advances gauge before (count a) s t
      | .error _ => s.messages <:+ t.messages)
    fun _ => True

/-- With a certain amount of fuel, all that the machine can be asked to do counts what it writes. -/
structure MachineTallies (gauge : Writer → Nat) (setting : Setting) (fuel : Nat) : Prop where
  exec (frame : Frame) : Render.Tallies gauge 0 (exec setting fuel frame) id
  run (frame : Frame) (cursor : Cursor) :
    Render.Tallies gauge cursor.count (run setting fuel frame cursor) id
  step (frame : Frame) (cursor : Cursor) (instr : Instr) :
    Step.Tallies gauge cursor.count (step setting fuel frame cursor instr) Cursor.count
  writeWith (frame : Frame) (value : Value) (options : OptionRow Value) :
    Step.Tallies gauge 0 (writeWith setting fuel frame value options) id
  optionTexts (frame : Frame) (options : OptionRow Value) :
    Render.Tallies gauge 0 (optionTexts setting fuel frame options) fun _ => 0
  optionText (frame : Frame) (value : Option Value) :
    Render.Tallies gauge 0 (optionText setting fuel frame value) fun _ => 0
  writeValue (frame : Frame) (value : Value) (options : OptionRow String) :
    Render.Tallies gauge 0 (writeValue setting fuel frame value options) id
  writeItems (frame : Frame) (items : List Value) (options : OptionRow String) (count : Nat)
    (seen : Bool) :
    Render.Tallies gauge count (writeItems setting fuel frame items options count seen) id
  toText (frame : Frame) (value : Value) :
    Render.Tallies gauge 0 (toText setting fuel frame value) fun _ => 0
  giveDefaults (frame : Frame) (args : List FormalArg) :
    Render.Tallies gauge 0 (giveDefaults setting fuel frame args) fun _ => 0
  defaultValue (frame : Frame) (default : DefaultValue) :
    Render.Tallies gauge 0 (defaultValue setting fuel frame default) fun _ => 0

namespace MachineTallies

/-- Whatever the machine is asked to do counts what it writes. -/
theorem all (sim : Writer.Gauge gauge) (setting : Setting) (fuel : Nat) :
    MachineTallies gauge setting fuel := by
  have books := MachineBooks.all sim.ledger setting fuel
  have anchors : MachineKeepsAnchors setting fuel := MachineKeepsAnchors.all fuel
  exact {
    exec := books.exec
    run := books.run
    step := fun frame cursor instr s => by
      refine ((books.step frame cursor instr).counted (anchors.step frame cursor instr) s).mono
        (fun result t booked => ?_) fun _ => id
      cases result with
      | ok moved =>
        obtain ⟨n, hn, hcount, -⟩ := booked
        dsimp only
        rw [hcount]
        exact hn.shift cursor.count
      | error fault => exact booked.messages
    writeWith := fun frame value options s => by
      refine ((books.writeWith frame value options).books.counted
        (anchors.writeWith frame value options) s).mono (fun result t booked => ?_) fun _ => id
      cases result with
      | ok n =>
        obtain ⟨m, hm, rfl⟩ := booked
        exact hm
      | error fault => exact booked.messages
    optionTexts := books.optionTexts
    optionText := books.optionText
    writeValue := books.writeValue
    writeItems := books.writeItems
    toText := books.toText
    giveDefaults := books.giveDefaults
    defaultValue := books.defaultValue }

end MachineTallies

/-- Running the template of a frame, on whatever writer and sink, counts exactly how far the index of
the writer has moved, which is how many characters the sink took in the meantime, unless a failure of
the output or a fault was reported in the course of it. -/
theorem exec_count {setting : Setting} {fuel : Nat} {frame : Frame} {s t : RenderState} {n : Nat}
    (ends : Render.outcome (exec setting fuel frame) s = (some n, t)) {fresh : List Message}
    (reported : t.messages = fresh ++ s.messages)
    (quiet : ∀ message ∈ fresh, message.problem.channel = .runtime) :
    t.writer.index = s.writer.index + n ∧
      t.writer.text.length = s.writer.text.length + n := by
  have htally {gauge : Writer → Nat} (sim : Writer.Gauge gauge) :
      gauge t.writer = gauge s.writer + n := by
    obtain ⟨added, hadded, hcount⟩ :=
      ((MachineTallies.all sim setting fuel).exec frame s).result ends
    obtain rfl : fresh = added := List.append_cancel_right (reported.symm.trans hadded)
    exact hcount quiet
  exact ⟨htally Writer.gauge_index, htally Writer.gauge_length⟩

/-- A template that writes two lines, the first one in two texts, after looking for an attribute that
is not there. -/
def talliedTemplate : Template :=
  { Template.blank "tallied" with
    program := [.loadAttr 0, .write, .writeStr 1, .writeStr 2, .newline], pool := ["x", "a", "b\nc"] }

/-- The setting in which its lines are counted. -/
def talliedSetting : Setting := ⟨⟨[]⟩, "en", 100⟩

/-- The frame of an instance of it. -/
def talliedFrame : Frame := .root (.ofTemplate talliedTemplate ⟨0⟩)

/-- The state before its lines are written, each ended by two characters. -/
def talliedStart : RenderState := .start (.indenting (.ofSink .boundless "\r\n")) false

/-- The state after its lines are written. -/
def talliedFinish : RenderState := (Render.outcome (exec talliedSetting 20 talliedFrame) talliedStart).2

/-- The seven characters of the two lines are counted, the attribute that is not there being reported
by the way. -/
theorem tallied_exec_count :
    talliedFinish.messages.map Message.problem = [.noSuchAttribute "x"] ∧
    talliedFinish.writer.text = "ab\r\nc\r\n" ∧
    talliedFinish.writer.index = talliedStart.writer.index + 7 ∧
    talliedFinish.writer.text.length = talliedStart.writer.text.length + 7 := by
  have hends : Render.outcome (exec talliedSetting 20 talliedFrame) talliedStart =
      (some 7, talliedFinish) := Prod.ext (by decide +kernel) rfl
  have hreported : talliedFinish.messages = talliedFinish.messages ++ talliedStart.messages :=
    (List.append_nil _).symm
  have hquiet : ∀ message ∈ talliedFinish.messages, message.problem.channel = .runtime := by
    decide +kernel
  exact ⟨by decide +kernel, by decide +kernel, exec_count hends hreported hquiet⟩

end TemplateMachine
