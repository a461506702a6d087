import Mathlib.Order.MinMax
import TemplateMachine.Proofs.Nesting.Depth
import TemplateMachine.Proofs.Sound.Operation
import TemplateMachine.Proofs.Termination.Rules

/-!
# Renders that end

A render ends if every jump of every template goes forward and no proxy puts other values in the
place of those that are written. Templates may invoke each other without end all the same, by
writes, as options, as conversions to text and as eager defaults; the limit on their nesting stops
them.

Three things get smaller, one inside the other: the room that is left for nesting from a frame to
the frames that it invokes, the rest of the program from one instruction of a frame to the next, and
the value at hand from a collection to its elements. Values grow during a run, but no step waits for
a value that it makes itself: what is written was there when the instruction was come to. Mapping
values side by side is a loop within one operation, and each of its rounds takes an element off some
stream (`Round.pending_left_lt`).

A proxy could wrap each element of a list in a new list and so never come to an end.
-/

namespace TemplateMachine

/-- Every jump of a template goes to an instruction after the jump or to the end. -/
def Template.JumpsForward (template : Template) : Prop :=
  ∀ ip (inside : ip < template.program.length), ∀ target ∈ template.program[ip].target?, ip < target

/-- Whether all jumps go forward can be seen going through the program once. -/
instance (template : Template) : Decidable template.JumpsForward :=
  inferInstanceAs (Decidable (∀ ip (inside : ip < template.program.length),
    ∀ target ∈ template.program[ip].target?, ip < target))

/-- Jumps keep going forward when a template gets arguments or an identity. -/
theorem Template.hereditary_jumpsForward : Hereditary JumpsForward where
  blank := by simp [JumpsForward, blank]
  withArg holds _ _ _ := holds
  identified _ holds := holds

/-- No group puts other values in the place of those that are written. -/
def Catalog.Unproxied (catalog : Catalog) : Prop :=
  ∀ group ∈ catalog.groups, ∀ kind, group.proxy? kind = none

/-- Without proxies a value is written as it is. -/
theorem Frame.standIn_of_unproxied {setting : Setting} (unproxied : setting.catalog.Unproxied)
    (frame : Frame) (value : Value) : frame.standIn setting value = value := by
  have hproxy : (frame.group setting).proxy? value.kind = none := by
    unfold Frame.group Catalog.group
    cases found : setting.catalog.groups[frame.running.group.index]? with
    | none => rfl
    | some group => exact unproxied group (List.mem_of_getElem? found) _
  exact standIn_eq_self hproxy

/-- Where all jumps go forward, every instruction leads to later ones. -/
theorem Template.JumpsForward.lt_of_mem_successors {template : Template}
    (forward : template.JumpsForward) {ip next : Nat} {instr : Instr}
    (here : template.program[ip]? = some instr) (leads : next ∈ instr.successors ip) :
    ip < next := by
  obtain ⟨inside, rfl⟩ := List.getElem?_eq_some_iff.mp here
  have hjumps := forward ip inside
  generalize template.program[ip] = instr at hjumps leads
  cases instr with
  | br target =>
    rw [List.mem_singleton.mp leads]
    exact hjumps target rfl
  | brf target =>
    rcases List.mem_cons.mp leads with rfl | jumps
    · exact Nat.lt_succ_self ip
    · rw [List.mem_singleton.mp jumps]
      exact hjumps target rfl
  | _ =>
    rw [List.mem_singleton.mp leads]
    exact Nat.lt_succ_self ip

/-- The elements of a map are the values of its entries or texts. -/
theorem Value.entry_or_string_of_mem_elements {mapValues : Bool} {entries : Entries Value}
    {item : Value} (mem : item ∈ Value.elements mapValues (.map entries)) :
    (∃ entry ∈ entries, entry.2 = item) ∨ ∃ key, item = .string key := by
  cases mapValues with
  | true =>
    obtain ⟨entry, hentry, same⟩ := List.mem_map.mp mem
    exact Or.inl ⟨entry, hentry, same⟩
  | false =>
    obtain ⟨key, -, same⟩ := List.mem_map.mp mem
    exact Or.inr ⟨key, same.symm⟩

/-- Running a template ends in every frame of forward templates that is deeper than a certain depth
and not too deep. -/
def Setting.DeeperTerminates (setting : Setting) (depth : Nat) : Prop :=
  ∀ frame : Frame, frame.Sound Template.JumpsForward → depth < frame.depth →
    frame.depth ≤ setting.maxDepth → Terminates (fun fuel => exec setting fuel frame) fun _ => True

section Frame

variable {setting : Setting} {frame : Frame} (sound : frame.Sound Template.JumpsForward)
  (deeper : setting.DeeperTerminates frame.depth)

include sound deeper

/-- Running a template that a frame invokes ends if there is room for it. -/
theorem exec_child_terminates {inst : Instance} (hinst : inst.Sound Template.JumpsForward)
    (room : frame.depth + 1 ≤ setting.maxDepth) :
    Terminates (fun fuel => exec setting fuel (frame.child inst)) fun _ => True :=
  deeper _ (sound.child hinst) (Nat.lt_succ_self frame.depth) room

/-- Finding the value of a default ends with a sound value. -/
theorem defaultValue_terminates {default : DefaultValue}
    (hdefault : default.Sound Template.JumpsForward) :
    Terminates (fun fuel => defaultValue setting fuel frame default) fun value =>
      value.Sound Template.JumpsForward := by
  apply Terminates.of_succ
  cases hdefault with
  | literal hvalue => exact Terminates.pure hvalue
  | @template template htemplate eager =>
    have hinst := htemplate.ofTemplate frame.running.group
    cases eager with
    | false => exact Terminates.pure (.template hinst)
    | true =>
      simp only [defaultValue, if_true]
      refine Terminates.tooDeep.bind fun deep room => ?_
      cases deep with
      | true => exact Terminates.pure (.string "")
      | false =>
        have hexec := exec_child_terminates sound deeper hinst (room rfl)
        exact hexec.aside.bind fun text _ => Terminates.pure (.string text)

variable (unproxied : setting.catalog.Unproxied)

include unproxied

omit sound deeper in
/-- Writing a text ends. -/
theorem writeString_terminates (text : String) (options : OptionRow String) :
    Terminates (fun fuel => writeValue setting fuel frame (.string text) options)
      fun _ => True := by
  apply Terminates.of_succ
  simp only [writeValue, Value.isNone, Frame.standIn_of_unproxied unproxied]
  exact Terminates.writeScalar

omit sound deeper unproxied in
/-- Writing the elements of a collection ends if writing what is written of each of them does. -/
theorem writeItems_terminates_of_written {items : List Value} {options : OptionRow String}
    (each : ∀ item ∈ items, ∀ value,
      (if item.isNone then options.null.map Value.string else some item) = some value →
        Terminates (fun fuel => writeValue setting fuel frame value options) fun _ => True)
    (count : Nat) (seen : Bool) :
    Terminates (fun fuel => writeItems setting fuel frame items options count seen)
      fun _ => True := by
  induction items generalizing count seen with
  | nil => exact Terminates.of_succ (Terminates.pure trivial)
  | cons item rest ih =>
    obtain ⟨hitem, hrest⟩ := List.forall_mem_cons.mp each
    apply Terminates.of_succ
    simp only [writeItems_cons]
    split
    · exact ih hrest count seen
    · rename_i value written
      apply Terminates.separate.bind
      intro n _
      apply (hitem value written).bind
      intro m _
      exact ih hrest _ _

omit sound deeper in
/-- Writing the elements of a collection ends if writing each of them does. -/
theorem writeItems_terminates {items : List Value} {options : OptionRow String}
    (each : ∀ item ∈ items, Terminates (fun fuel => writeValue setting fuel frame item options)
      fun _ => True) (count : Nat) (seen : Bool) :
    Terminates (fun fuel => writeItems setting fuel frame items options count seen)
      fun _ => True := by
  refine writeItems_terminates_of_written (fun item mem value written => ?_) count seen
  obtain rfl | ⟨text, rfl⟩ := eq_or_string_of_written written
  · exact each _ mem
  · exact writeString_terminates unproxied text options

/-- Writing a value ends. -/
theorem writeValue_terminates {value : Value} (hvalue : value.Sound Template.JumpsForward)
    (options : OptionRow String) :
    Terminates (fun fuel => writeValue setting fuel frame value options) fun _ => True := by
  -- The elements of a collection are smaller than it is, while the template of an instance is run
  -- in a deeper frame; so the induction stops at instances.
  induction hvalue using Value.Sound.induction with
  | single value hvalue noList noMap =>
    apply Terminates.of_succ
    cases value with
    | none =>
      simp only [writeValue, Value.isNone, if_true]
      split
      · exact Terminates.writeScalar
      · exact Terminates.pure trivial
    | list items => exact absurd rfl (noList items)
    | map entries => exact absurd rfl (noMap entries)
    | template inst =>
      simp only [writeValue, Value.isNone, Frame.standIn_of_unproxied unproxied]
      refine Terminates.tooDeep.bind fun deep room => ?_
      cases deep with
      | true => exact Terminates.pure trivial
      | false =>
        apply Terminates.emit.bind
        intro n _
        have hinst := Value.sound_template_iff.mp hvalue
        exact (exec_child_terminates sound deeper hinst (room rfl)).bind fun m _ =>
          Terminates.pure trivial
    | _ =>
      simp only [writeValue, Value.isNone, Frame.standIn_of_unproxied unproxied]
      exact Terminates.writeScalar
  | list items _ each =>
    apply Terminates.of_succ
    simp only [writeValue, Value.isNone, Frame.standIn_of_unproxied unproxied]
    exact writeItems_terminates unproxied each 0 false
  | map entries _ each =>
    apply Terminates.of_succ
    simp only [writeValue, Value.isNone, Frame.standIn_of_unproxied unproxied]
    refine writeItems_terminates unproxied (fun item mem => ?_) 0 false
    obtain ⟨entry, hentry, rfl⟩ | ⟨key, rfl⟩ := Value.entry_or_string_of_mem_elements mem
    · exact each entry hentry
    · exact writeString_terminates unproxied key options

/-- Rendering a value to text ends. -/
theorem toText_terminates {value : Value} (hvalue : value.Sound Template.JumpsForward) :
    Terminates (fun fuel => toText setting fuel frame value) fun _ => True := by
  apply Terminates.of_succ
  simp only [toText]
  exact (writeValue_terminates sound deeper unproxied hvalue .empty).aside

/-- Rendering an option to text ends. -/
theorem optionText_terminates {value : Option Value}
    (hvalue : ∀ v, value = some v → v.Sound Template.JumpsForward) :
    Terminates (fun fuel => optionText setting fuel frame value) fun _ => True := by
  apply Terminates.of_succ
  cases value with
  | none => exact Terminates.pure trivial
  | some value =>
    simp only [optionText]
    exact (toText_terminates sound deeper unproxied (hvalue value rfl)).bind fun _ _ =>
      Terminates.pure trivial

/-- Rendering the options of a write to texts ends. -/
theorem optionTexts_terminates {options : OptionRow Value}
    (hoptions : ∀ option value, options.get? option = some value →
      value.Sound Template.JumpsForward) :
    Terminates (fun fuel => optionTexts setting fuel frame options) fun _ => True := by
  have hoption (option : WriteOption) :
      Terminates (fun fuel => optionText setting fuel frame (options.get? option))
        fun _ => True :=
    optionText_terminates sound deeper unproxied (hoptions option)
  apply Terminates.of_succ
  simp only [optionTexts]
  apply (hoption .anchor).bind
  intro anchor _
  apply (hoption .format).bind
  intro format _
  apply (hoption .null).bind
  intro null _
  apply (hoption .separator).bind
  intro separator _
  apply (hoption .wrap).bind
  intro wrap _
  exact Terminates.pure trivial

/-- Writing a value with options ends. -/
theorem writeWith_terminates {value : Value} {options : OptionRow Value}
    (hvalue : value.Sound Template.JumpsForward)
    (hoptions : ∀ option value, options.get? option = some value →
      value.Sound Template.JumpsForward) :
    StepTerminates (fun fuel => writeWith setting fuel frame value options) fun _ => True := by
  apply Terminates.of_succ
  simp only [writeWith]
  apply (StepTerminates.asStep (optionTexts_terminates sound deeper unproxied hoptions)).bind
  intro texts _
  have hwrite := StepTerminates.asStep (writeValue_terminates sound deeper unproxied hvalue texts)
  split
  · apply (StepTerminates.asStep Terminates.pushAnchor).bind
    intro _ _
    apply hwrite.bind
    intro n _
    exact StepTerminates.require.bind fun _ _ => StepTerminates.pure trivial
  · exact hwrite

variable (catalog : setting.catalog.Sound Template.JumpsForward)

include catalog

omit deeper unproxied in
/-- The step of an operation ends, and one that succeeds leaves a sound stack. -/
theorem step_terminates_of_isOperation {cursor : Cursor}
    (stack : cursor.stack.Sound Template.JumpsForward) {instr : Instr}
    (operation : instr.isOperation = true) :
    StepTerminates (fun fuel => step setting (fuel + 1) frame cursor instr) fun moved =>
      moved.stack.Sound Template.JumpsForward := by
  simp only [step_of_isOperation operation]
  refine (StepTerminates.ofExcept fun left ends =>
    sound.operate Template.hereditary_jumpsForward catalog stack ends).bind fun left hleft => ?_
  apply (StepTerminates.asStep Terminates.report).bind
  intro _ _
  exact StepTerminates.pure hleft

/-- A step ends, and one that succeeds leaves a sound stack. -/
theorem step_terminates {cursor : Cursor} (stack : cursor.stack.Sound Template.JumpsForward)
    (instr : Instr) :
    StepTerminates (fun fuel => step setting fuel frame cursor instr) fun moved =>
      moved.stack.Sound Template.JumpsForward := by
  apply Terminates.of_succ
  cases instr with
  | write =>
    simp only [step]
    apply (StepTerminates.ofExcept fun _ => stack.gives_pop.of_eq_ok).bind
    intro top htop
    apply (StepTerminates.asStep Terminates.position).bind
    intro start _
    apply (StepTerminates.asStep
      (writeValue_terminates sound deeper unproxied htop.1 .empty)).bind
    intro n _
    apply (StepTerminates.asStep Terminates.record).bind
    intro _ _
    exact StepTerminates.pure htop.2
  | writeOpt =>
    simp only [step]
    apply (StepTerminates.ofExcept fun _ => stack.gives_popOptions.of_eq_ok).bind
    intro options hoptions
    apply (StepTerminates.ofExcept fun _ => hoptions.2.gives_pop.of_eq_ok).bind
    intro top htop
    apply (StepTerminates.asStep Terminates.position).bind
    intro start _
    apply (writeWith_terminates sound deeper unproxied htop.1 hoptions.1).bind
    intro n _
    apply (StepTerminates.asStep Terminates.record).bind
    intro _ _
    exact StepTerminates.pure htop.2
  | writeStr index =>
    simp only [step]
    apply (StepTerminates.ofExcept fun _ _ => trivial).bind
    intro text _
    apply (StepTerminates.asStep Terminates.emit).bind
    intro n _
    exact StepTerminates.pure stack
  | writeLocal index =>
    simp only [step]
    apply (StepTerminates.ofExcept fun _ => sound.running.readSlot).bind
    intro value hvalue
    apply (StepTerminates.asStep
      (writeValue_terminates sound deeper unproxied hvalue .empty)).bind
    intro n _
    exact StepTerminates.pure stack
  | toStr =>
    simp only [step]
    apply (StepTerminates.ofExcept fun _ => stack.gives_pop.of_eq_ok).bind
    intro top htop
    split
    · exact StepTerminates.pure (htop.2.push .none)
    · exact StepTerminates.pure (htop.2.push (.string _))
    · apply (StepTerminates.asStep (toText_terminates sound deeper unproxied htop.1)).bind
      intro text _
      exact StepTerminates.pure (htop.2.push (.string text))
  | indent index =>
    simp only [step]
    apply (StepTerminates.ofExcept fun _ _ => trivial).bind
    intro text _
    apply (StepTerminates.asStep Terminates.pushIndentation).bind
    intro _ _
    exact StepTerminates.pure stack
  | dedent =>
    simp only [step]
    apply StepTerminates.require.bind
    intro _ _
    exact StepTerminates.pure stack
  | newline =>
    simp only [step_newline]
    have hnewline : Terminates (fun _ => (if cursor.wantsNewline then
        Render.emit frame (Writer.write "\n") else pure 0 : Render Nat)) fun _ => True := by
      split
      · exact Terminates.emit
      · exact Terminates.pure trivial
    apply (StepTerminates.asStep hnewline).bind
    intro n _
    exact StepTerminates.pure stack
  | br target =>
    simp only [step]
    apply (StepTerminates.ofExcept fun _ _ => trivial).bind
    intro target _
    exact StepTerminates.pure stack
  | brf target =>
    simp only [step]
    apply (StepTerminates.ofExcept fun _ _ => trivial).bind
    intro target _
    apply (StepTerminates.ofExcept fun _ => stack.gives_pop.of_eq_ok).bind
    intro top htop
    exact StepTerminates.pure htop.2
  | _ => exact step_terminates_of_isOperation sound catalog stack rfl

/-- Running a program ends, as every instruction is followed by a later one. -/
theorem run_terminates {cursor : Cursor} (stack : cursor.stack.Sound Template.JumpsForward) :
    Terminates (fun fuel => run setting fuel frame cursor) fun _ => True := by
  -- Jumps may leave out any number of instructions.
  induction hleft : frame.template.program.length - cursor.ip using Nat.strongRecOn
    generalizing cursor with
  | ind left ih =>
    apply Terminates.of_succ
    simp only [run]
    split
    · exact Terminates.pure trivial
    · rename_i instr here
      apply Terminates.mark.bind
      intro _ _
      have hstep : StepTerminates
          (fun fuel => step setting fuel { frame with ip := cursor.ip } cursor instr) _ :=
        (step_terminates (sound.at cursor.ip) deeper unproxied catalog stack instr).yields
          fun fuel => step_follows setting fuel here
      refine Terminates.bind hstep fun result hresult => ?_
      cases result with
      | ok moved =>
        obtain ⟨hstack, -, hleads, -⟩ := hresult moved rfl
        have hlater : cursor.ip < moved.ip :=
          sound.running.template.holds.lt_of_mem_successors here hleads
        obtain ⟨inside, -⟩ := List.getElem?_eq_some_iff.mp here
        exact ih _ (by omega) hstack rfl
      | error fault =>
        apply Terminates.mark.bind
        intro _ _
        apply Terminates.report.bind
        intro _ _
        exact Terminates.pure trivial

end Frame

/-- Giving arguments their defaults ends in a sound frame of the same depth. -/
theorem giveDefaults_terminates {setting : Setting} {frame : Frame}
    (sound : frame.Sound Template.JumpsForward) (deeper : setting.DeeperTerminates frame.depth)
    {args : List FormalArg} (defaults : ∀ arg ∈ args, ∀ default, arg.default? = some default →
      default.Sound Template.JumpsForward) :
    Terminates (fun fuel => giveDefaults setting fuel frame args) fun given =>
      given.Sound Template.JumpsForward ∧ given.depth = frame.depth := by
  induction args generalizing frame with
  | nil => exact Terminates.of_succ (Terminates.pure ⟨sound, rfl⟩)
  | cons arg rest ih =>
    obtain ⟨harg, hrest⟩ := List.forall_mem_cons.mp defaults
    apply Terminates.of_succ
    simp only [giveDefaults]
    split
    · rename_i default hdefault _
      apply (defaultValue_terminates sound deeper (harg default hdefault)).bind
      intro value hvalue
      exact ih (sound.withRunning (sound.running.setSlot hvalue arg.slot)) deeper hrest
    · exact ih sound deeper hrest

/-- Running a template ends in every frame of forward templates, however deep. -/
theorem exec_terminates {setting : Setting} (unproxied : setting.catalog.Unproxied)
    (catalog : setting.catalog.Sound Template.JumpsForward) {frame : Frame}
    (sound : frame.Sound Template.JumpsForward) :
    Terminates (fun fuel => exec setting fuel frame) fun _ => True := by
  -- The frame itself may be deeper than the limit, as the root is where the limit is zero. What it
  -- invokes is not, and is deeper than the frame.
  induction hroom : setting.maxDepth - frame.depth using Nat.strongRecOn
    generalizing frame with
  | ind room ih =>
    have hdeeper : setting.DeeperTerminates frame.depth :=
      fun child hchild below fits => ih _ (by omega) hchild rfl
    apply Terminates.of_succ
    simp only [exec]
    apply Terminates.mark.bind
    intro _ _
    apply (giveDefaults_terminates sound hdeeper sound.running.template.defaults).bind
    rintro given ⟨hgiven, hdepth⟩
    apply Terminates.position.bind
    intro start _
    have hstart : Cursor.start.stack.Sound Template.JumpsForward := by
      simp [Stack.Sound, Cursor.start]
    apply (run_terminates hgiven (hdepth ▸ hdeeper) unproxied catalog hstart).bind
    intro count _
    exact Terminates.record.bind fun _ _ => Terminates.pure trivial

/-- If every jump of every template goes forward and there are no proxies, then every instance has a
rendering, whatever its attributes are and whatever the limit on the nesting of templates is: with
enough fuel a render ends, and more fuel makes no difference. -/
theorem Instance.render_terminates {catalog : Catalog} {inst : Instance}
    (unproxied : catalog.Unproxied) (hcatalog : catalog.Sound Template.JumpsForward)
    (hinst : inst.Sound Template.JumpsForward) (settings : RenderSettings) (sink : Sink)
    (withEvents : Bool) :
    ∃ enough rendering, ∀ fuel ≥ enough,
      inst.render catalog settings sink withEvents fuel = some rendering := by
  have hexec : Terminates (fun fuel => exec (settings.setting catalog inst) fuel (.root inst))
      fun _ => True :=
    exec_terminates unproxied hcatalog (Frame.sound_root hinst)
  obtain ⟨enough, count, finish, hends, -⟩ := hexec (.start (settings.writer sink) withEvents)
  refine ⟨enough, ⟨count, finish.writer, (finish.events.getD []).reverse,
    finish.messages.reverse⟩, fun fuel le => ?_⟩
  rw [Instance.render, Instance.execute_eq_outcome, hends fuel le]

/-- A template that invokes another one, which has it as a default. -/
def defaultTemplate : Template :=
  { Template.blank "default" with program := [.newNamed 0 0, .write], pool := ["again"] }

/-- A template that invokes itself again and again: to find the default of its argument, and once
more to write itself unless the argument is false. -/
def againTemplate : Template :=
  { Template.blank "again" with
    program := [.loadLocal 0, .brf 4, .newNamed 0 0, .write]
    pool := ["again"]
    args := [⟨"first", 0, some (.template defaultTemplate true)⟩] }

/-- An instance of it. -/
def againInstance : Instance := .ofTemplate againTemplate ⟨0⟩

/-- The group of the template. -/
def againCatalog : Catalog :=
  ⟨[{ Group.empty ⟨0⟩ with templates := [("again", againTemplate)] }]⟩

/-- The template that invokes itself in two ways is sound. -/
theorem sound_againTemplate : againTemplate.Sound Template.JumpsForward := by
  have hdefault : defaultTemplate.Sound Template.JumpsForward :=
    .intro (by decide) rfl (by simp [defaultTemplate, Template.blank])
      (by simp [defaultTemplate, Template.blank])
  refine .intro (by decide) rfl (fun arg mem default found => ?_)
    (by simp [againTemplate, Template.blank])
  obtain rfl := List.mem_singleton.mp mem
  obtain rfl := Option.some.inj found
  exact .template hdefault true

/-- The template that invokes itself in two ways only jumps forward, so it has a rendering with as
much room as its group allows, though not one to wait for. Where there is room for three templates,
the render reports five times that there is no room for a fourth. -/
theorem again_render_terminates :
    againCatalog.Unproxied ∧ againCatalog.Sound Template.JumpsForward ∧
    againInstance.Sound Template.JumpsForward ∧
    (∃ enough rendering, ∀ fuel ≥ enough,
      againInstance.render againCatalog .standard .boundless true fuel = some rendering) ∧
    ((againInstance.render againCatalog { RenderSettings.standard with maxDepth := some 3 }
      .boundless true 21).map fun rendering => rendering.messages.map Message.problem) =
        some (.replicate 5 (.stackOverflow 3)) := by
  have hcatalog : againCatalog.Sound Template.JumpsForward := by
    intro group mem
    obtain rfl := List.mem_singleton.mp mem
    exact .intro (by simpa using sound_againTemplate) (by simp [Group.empty]) (by simp [Group.empty])
      (by simp [Group.empty]) (by simp [Group.empty])
  have hunproxied : againCatalog.Unproxied := by
    intro group mem kind
    obtain rfl := List.mem_singleton.mp mem
    rfl
  have hinst : againInstance.Sound Template.JumpsForward := sound_againTemplate.ofTemplate ⟨0⟩
  exact ⟨hunproxied, hcatalog, hinst,
    Instance.render_terminates hunproxied hcatalog hinst .standard .boundless true,
    by decide +kernel⟩

end TemplateMachine
