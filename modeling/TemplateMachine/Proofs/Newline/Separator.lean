import TemplateMachine.Proofs.Newline.Sequence
import TemplateMachine.Proofs.Render.Computation

/-!
# Separators

A list that is written with a separator is written element by element, with the separator before
each one that comes after something was written. But the separator is rendered to a text of its own
first, and it is this text that is written: its newlines are translated when it is rendered and
again when it is written.

This is compared with writing the same texts one after the other. Nothing differs if the second
translation changes nothing, and where nothing is indented only then.

The group has no renderer and no proxy for what is written, and no option but the separator is set.
-/

namespace TemplateMachine

/-- A group without renderers and proxies. -/
structure Group.Bare (group : Group) : Prop where
  renderer? (kind : ValueKind) : group.renderer? kind = none
  proxy? (kind : ValueKind) : group.proxy? kind = none

/-- The options of a write that only sets the separator. -/
def OptionRow.onlySeparator {α : Type} (separator : α) : OptionRow α :=
  { OptionRow.empty with separator := some separator }

section Machine

variable {setting : Setting} {frame : Frame} (bare : (frame.group setting).Bare) {s : RenderState}
  (htakes : s.writer.sink.TakesAll)

/-- The state after a text is written. -/
def RenderState.writeTo (s : RenderState) (text : String) : RenderState :=
  { s with writer := s.writer.writeTo text }

/-- The state after texts are written one after the other. -/
def RenderState.writeAll (s : RenderState) (texts : List String) : RenderState :=
  { s with writer := s.writer.writeAll texts }

include htakes in
/-- A text is written without a problem. -/
theorem outcome_emit_write (frame : Frame) (text : String) :
    ∃ n, Render.outcome (Render.emit frame (Writer.write text)) s = (some n, s.writeTo text) ∧
      Writer.Writes text s.writer n (s.writeTo text).writer := by
  obtain ⟨n, hends, hwrites⟩ := Writer.writes_writeTo text htakes
  refine ⟨n, ?_, hwrites⟩
  rw [Render.outcome_emit, hends]
  rfl

include bare htakes in
/-- A text value is written as it is. -/
theorem outcome_writeValue_string (fuel : Nat) {options : OptionRow String}
    (hwrap : options.wrap = none) (text : String) :
    ∃ n, Render.outcome (writeValue setting (fuel + 1) frame (.string text) options) s =
        (some n, s.writeTo text) ∧
      Writer.Writes text s.writer n (s.writeTo text).writer := by
  have hvalue : writeValue setting (fuel + 1) frame (.string text) options =
      Render.emit frame (Writer.writeWrapped text none) := by
    rw [writeValue]
    simp only [Value.isNone, Frame.standIn, bare.proxy?, Render.writeScalar, Frame.scalarText,
      bare.renderer?, hwrap, Value.display]
    rfl
  obtain ⟨n, hends, hwrites⟩ := Writer.writes_writeTo text htakes
  refine ⟨n, ?_, hwrites⟩
  rw [hvalue, Render.outcome_emit, Writer.outcome_writeWrapped_none hends]
  rfl

include bare htakes in
/-- The elements of a list of texts are written with the separator before each one that comes after
something was written. -/
theorem outcome_writeItems_string (fuel : Nat) {options : OptionRow String} {separator : String}
    (hwrap : options.wrap = none) (hseparator : options.separator = some separator)
    (texts : List String) (count : Nat) (seen : Bool) :
    ∃ n, Render.outcome (writeItems setting (fuel + texts.length + 1) frame
        (texts.map .string) options count seen) s =
      (some n, s.writeAll
        (separated separator (fun text => s.writer.translate text != "") seen texts)) := by
  induction texts generalizing s count seen with
  | nil => exact ⟨count, rfl⟩
  | cons text rest ih =>
    have hitems (n : Nat) (t : RenderState) (ht : t.writer.sink.TakesAll)
        (hlayout : t.writer.layout = s.writer.layout) :
        ∃ m, Render.outcome (do
            let m ← writeValue setting (fuel + rest.length + 1) frame (.string text) options
            writeItems setting (fuel + rest.length + 1) frame (rest.map .string) options
              (count + n + m) (seen || 0 < m)) t =
          (some m, (t.writeTo text).writeAll (separated separator
            (fun text => s.writer.translate text != "")
            (seen || s.writer.translate text != "") rest)) := by
      obtain ⟨m, hends, hwrites⟩ := outcome_writeValue_string bare ht (fuel + rest.length) hwrap text
      have hsame := Writer.translate_eq_of_layout hlayout
      obtain ⟨k, hrest⟩ := ih hwrites.takesAll (count + n + m) (seen || 0 < m)
      refine ⟨k, ?_⟩
      rw [Render.outcome_bind, hends]
      dsimp only
      rw [hrest, hwrites.decide_pos, Writer.translate_eq_of_layout hwrites.layout, hsame]
    rw [List.map_cons, List.length_cons, ← Nat.add_assoc, writeItems]
    simp only [Value.isNone, hseparator, Bool.false_eq_true, if_false]
    cases seen with
    | false =>
      obtain ⟨m, hm⟩ := hitems 0 s htakes rfl
      exact ⟨m, hm⟩
    | true =>
      obtain ⟨n, hsep, hwrites⟩ := outcome_emit_write htakes frame separator
      obtain ⟨m, hm⟩ := hitems n _ hwrites.takesAll hwrites.layout
      refine ⟨m, ?_⟩
      rw [if_pos rfl, Render.outcome_bind, Writer.writeSeparator, hsep]
      exact hm

include bare in
/-- A text value that is rendered to a text of its own comes out translated. -/
theorem outcome_toText_string (s : RenderState) (fuel : Nat) (text : String) :
    Render.outcome (toText setting (fuel + 2) frame (.string text)) s =
      (some (s.writer.translate text), s) := by
  obtain ⟨n, hends, -⟩ := @outcome_writeValue_string setting frame bare
    { s with writer := s.writer.fork, events := none, aside := s.aside + 1 }
    s.writer.takesAll_fork fuel .empty rfl text
  rw [toText, Render.outcome_aside, hends, ← Writer.text_writeTo_fork]
  rfl

include bare in
/-- The separator is the only option that is rendered, and it is translated. -/
theorem outcome_optionTexts (s : RenderState) (fuel : Nat) (separator : String) :
    Render.outcome
        (optionTexts setting (fuel + 4) frame (.onlySeparator (.string separator))) s =
      (some (.onlySeparator (s.writer.translate separator)), s) := by
  have hunset : optionText setting (fuel + 3) frame none = pure none := by
    rw [optionText]
  have hset : Render.outcome (optionText setting (fuel + 3) frame (some (.string separator))) s =
      (some (some (s.writer.translate separator)), s) := by
    rw [optionText, Render.outcome_bind, outcome_toText_string bare]
    rfl
  rw [optionTexts]
  simp only [OptionRow.onlySeparator, OptionRow.empty, hunset, pure_bind]
  rw [Render.outcome_bind, hset]
  rfl

include bare htakes in
/-- A list of texts that is written with a separator is written element by element with the
translated separator. -/
theorem outcome_step_writeOpt (fuel : Nat) {cursor : Cursor} {rest : Stack} {separator : String}
    {texts : List String}
    (operands : cursor.stack = .options (.onlySeparator (.string separator)) ::
      .value (.list (texts.map .string)) :: rest) :
    ∃ next t, Render.outcome
        (step setting (fuel + texts.length + 6) frame cursor .writeOpt).run s = (some (.ok next), t) ∧
      t.writer = s.writer.writeAll (separated (s.writer.translate separator)
        (fun text => s.writer.translate text != "") false texts) := by
  let options : OptionRow String := .onlySeparator (s.writer.translate separator)
  obtain ⟨n, hitems⟩ := @outcome_writeItems_string setting frame bare s htakes (fuel + 2) options _
    rfl rfl texts 0 false
  have hvalue : writeValue setting (fuel + texts.length + 4) frame (.list (texts.map .string))
      options = writeItems setting (fuel + 2 + texts.length + 1) frame (texts.map .string)
        options 0 false := by
    rw [writeValue, Nat.add_right_comm fuel 2]
    simp [Value.isNone, Frame.standIn, bare.proxy?]
  have htexts := outcome_optionTexts bare s (fuel + texts.length) separator
  have hwith : Render.outcome (writeWith setting (fuel + texts.length + 5) frame
      (.list (texts.map .string)) (.onlySeparator (.string separator))).run s =
      (some (.ok n), s.writeAll (separated (s.writer.translate separator)
        (fun text => s.writer.translate text != "") false texts)) := by
    rw [writeWith, Step.outcome_run_bind_of_ends (Step.outcome_run_asStep htexts)]
    exact Step.outcome_run_asStep (hvalue ▸ hitems)
  have hpopOptions : cursor.stack.popOptions = .ok (.onlySeparator (.string separator),
      .value (.list (texts.map .string)) :: rest) := by
    rw [operands]
    rfl
  have hpop : Stack.pop (.value (.list (texts.map .string)) :: rest) =
      .ok (.list (texts.map .string), rest) := rfl
  have hposition : Render.outcome Render.position.asStep.run s =
      (some (.ok s.writer.index), s) := rfl
  rw [step, hpopOptions, Step.outcome_run_bind_of_ends (Step.outcome_run_ofExcept _ s)]
  dsimp only
  rw [hpop, Step.outcome_run_bind_of_ends (Step.outcome_run_ofExcept _ s)]
  dsimp only
  rw [Step.outcome_run_bind_of_ends hposition, Step.outcome_run_bind_of_ends hwith]
  exact ⟨_, _, rfl, rfl⟩

/-- The steps of instructions taken one after the other. -/
def stepAll (setting : Setting) (fuel : Nat) (frame : Frame) : Cursor → List Instr → Step Cursor
  | cursor, [] => pure cursor
  | cursor, instr :: rest => do
    let cursor ← step setting fuel frame cursor instr
    stepAll setting fuel frame cursor rest

include htakes in
/-- Pooled texts are written one after the other. -/
theorem outcome_stepAll_writeStr (setting : Setting) (fuel : Nat) (frame : Frame) (cursor : Cursor)
    {indices : List Nat} {texts : List String}
    (pooled : indices.map (frame.template.pool[·]?) = texts.map some) :
    ∃ next, Render.outcome
        (stepAll setting (fuel + 1) frame cursor (indices.map .writeStr)).run s =
      (some (.ok next), s.writeAll texts) := by
  induction texts generalizing s cursor indices with
  | nil =>
    obtain rfl : indices = [] := by simpa using pooled
    exact ⟨cursor, rfl⟩
  | cons text rest ih =>
    cases indices with
    | nil => simp at pooled
    | cons index others =>
      obtain ⟨hindex, hothers⟩ := List.cons.inj pooled
      have htext : frame.template.text index = .ok text := by
        have hindex : frame.template.pool[index]? = some text := hindex
        rw [Template.text, hindex]
        rfl
      obtain ⟨n, hends, hwrites⟩ := outcome_emit_write htakes frame text
      have hstep : Render.outcome (step setting (fuel + 1) frame cursor (.writeStr index)).run s =
          (some (.ok ((cursor.next (.writeStr index)).counted n)), s.writeTo text) := by
        rw [step, htext, Step.outcome_run_bind_of_ends (Step.outcome_run_ofExcept _ s),
          Step.outcome_run_bind_of_ends (Step.outcome_run_asStep hends)]
        rfl
      obtain ⟨next, hrest⟩ := ih hwrites.takesAll ((cursor.next (.writeStr index)).counted n) hothers
      refine ⟨next, ?_⟩
      rw [List.map_cons, stepAll, Step.outcome_run_bind, hstep]
      exact hrest

end Machine

/-- To write a list of texts with a separator, and to write the texts with the separator between them
one after the other, both succeed. The separator is translated before it is written, and it stands
before each text that comes after something was written. If the first text shows, it does not matter
that the separator is translated twice if the separator is settled; where nothing is indented, the
two come to the same text exactly if the separator is stable. -/
theorem step_writeOpt_separator {setting : Setting} {frame other : Frame}
    (bare : (frame.group setting).Bare) {cursor start : Cursor} {rest : Stack} {separator : String}
    {texts : List String} (operands : cursor.stack = .options (.onlySeparator (.string separator)) ::
      .value (.list (texts.map .string)) :: rest) {indices : List Nat}
    (pooled : indices.map (other.template.pool[·]?) = (texts.intersperse separator).map some)
    {s : RenderState} (takesAll : s.writer.sink.TakesAll) (fuel : Nat) :
    ∃ next t next' t',
      Render.outcome (step setting (fuel + texts.length + 6) frame cursor .writeOpt).run s =
        (some (.ok next), t) ∧
      Render.outcome (stepAll setting (fuel + 1) other start (indices.map .writeStr)).run s =
        (some (.ok next'), t') ∧
      t.writer = s.writer.writeAll (separated (s.writer.translate separator)
        (fun text => s.writer.translate text != "") false texts) ∧
      ((∃ first ∈ texts.head?, s.writer.translate first ≠ "") →
        (s.writer.Settles separator → t.writer = t'.writer) ∧
        (2 ≤ texts.length → s.writer.layout.indentation = [] → s.writer.layout.anchors = [] →
          (t.writer.text = t'.writer.text ↔ s.writer.Stable separator))) := by
  obtain ⟨next, t, hends, hwriter⟩ := outcome_step_writeOpt bare takesAll fuel operands
  obtain ⟨next', hends'⟩ := outcome_stepAll_writeStr takesAll setting fuel other start pooled
  refine ⟨next, t, next', _, hends, hends', hwriter, ?_⟩
  rintro ⟨first, hfirst, hshows⟩
  obtain ⟨tail, rfl⟩ : ∃ tail, texts = first :: tail := List.head?_eq_some_iff.mp hfirst
  rw [separated_eq_intersperse _ tail (by simpa using hshows)] at hwriter
  constructor
  · intro settled
    rw [hwriter, settled.writeAll_intersperse takesAll]
    rfl
  · intro two hindents hanchors
    rw [hwriter, ← Writer.translate_translate_iff]
    exact Writer.text_writeAll_intersperse_inj takesAll hindents hanchors two

/-- A template with the two texts and the separator in its pool. -/
def linesTemplate : Template :=
  { Template.blank "lines" with pool := ["a", "\n", "b"] }

/-- A frame that runs it. -/
def linesFrame : Frame := .root (.ofTemplate linesTemplate ⟨0⟩)

/-- What stays the same while it runs. -/
def linesSetting : Setting := ⟨⟨[]⟩, "en", 200⟩

/-- The cursor with two texts that are to be written with a newline between them. -/
def linesCursor : Cursor :=
  { Cursor.start with
    stack := [.options (.onlySeparator (.string "\n")), .value (.list [.string "a", .string "b"])] }

/-- The start of a render that writes two newlines for each. -/
def doubledStart : RenderState :=
  .start ({ RenderSettings.standard with newline := "\n\n" }.writer .boundless) false

/-- The state after the texts are written as a list with a separator. -/
def doubledState : RenderState :=
  (Render.outcome (step linesSetting 8 linesFrame linesCursor .writeOpt).run doubledStart).2

/-- The state after the texts and the separator are written one after the other. -/
def onceState : RenderState :=
  (Render.outcome (stepAll linesSetting 1 linesFrame .start
    ([0, 1, 2].map .writeStr)).run doubledStart).2

/-- A newline that separates two texts is doubled twice, and doubled once if it is written like the
texts. -/
theorem doubled_separator :
    doubledState.writer.text ≠ onceState.writer.text ∧
    doubledState.writer.text = "a\n\n\n\nb" ∧ onceState.writer.text = "a\n\nb" := by
  have bare : (linesFrame.group linesSetting).Bare := ⟨fun _ => rfl, fun _ => rfl⟩
  have takesAll : doubledStart.writer.sink.TakesAll := Sink.takesAll_boundless
  obtain ⟨next, t, next', t', hends, hends', -, hcompare⟩ :=
    @step_writeOpt_separator linesSetting linesFrame linesFrame bare linesCursor .start [] "\n"
      ["a", "b"] rfl [0, 1, 2] rfl doubledStart takesAll 0
  obtain ⟨-, hiff⟩ := hcompare ⟨"a", rfl, by decide +kernel⟩
  have hdoubled : t = doubledState := congrArg Prod.snd hends.symm
  have honce : t' = onceState := congrArg Prod.snd hends'.symm
  refine ⟨fun same => ?_, by decide +kernel, by decide +kernel⟩
  rw [← hdoubled, ← honce, hiff (by decide) rfl rfl] at same
  exact absurd (same "\n\n" rfl) (by decide +kernel)

end TemplateMachine
