import TemplateMachine.Proofs.Sound.Frame
import TemplateMachine.Render.Operation
import TemplateMachine.Template.Assembler

/-!
# Sound operations

In a sound frame and on a sound stack, an instruction whose operands fit its template leaves a sound
stack, reports nothing about an operand out of range, and if it faults then for another reason.
Operands fit if the texts, slots, options and instructions to which they refer exist.

Only the instructions that work on the stack alone are treated here. What they compute is left open.
-/

namespace TemplateMachine

/-- Whether everything exists to which the operands of an instruction refer. -/
def Template.Fits (template : Template) (instr : Instr) : Prop :=
  ∀ operand ∈ instr.operands, Draft.operandFits template.pool.length template.args.length
    template.program.length operand = true

/-- A result that satisfies a property, or a fault that is not about an operand out of range. -/
def Gives {α : Type} (result : Except Fault α) (P : α → Prop) : Prop :=
  match result with
  | .ok a => P a
  | .error fault => fault.isOutOfRange = false

section Gives

variable {α β : Type} {P : α → Prop} {Q : β → Prop}

/-- A pure result is given if it satisfies the property. -/
theorem gives_pure {a : α} (h : P a) : Gives (pure a) P := h

/-- A result that is given and succeeds satisfies the property. -/
theorem Gives.of_eq_ok {x : Except Fault α} {a : α} (h : Gives x P) (ends : x = .ok a) : P a := by
  subst ends
  exact h

/-- What a sequence gives is given by its second part for what its first part gives. -/
theorem Gives.bind {x : Except Fault α} {f : α → Except Fault β} (hx : Gives x P)
    (hf : ∀ a, P a → Gives (f a) Q) : Gives (x >>= f) Q := by
  cases x with
  | ok a => exact hf a hx
  | error fault => exact hx

/-- The second part of a sequence may refer to what the first part gives. -/
theorem Gives.bind_of_eq {x : Except Fault α} {f : α → Except Fault β} (hx : Gives x P)
    (hf : ∀ a, x = .ok a → P a → Gives (f a) Q) : Gives (x >>= f) Q := by
  cases x with
  | ok a => exact hf a rfl hx
  | error fault => exact hx

end Gives

variable {T : Template → Prop} {N : String → Prop}

/-- All data in an operand are sound. -/
def Operand.Sound (T : Template → Prop) : Operand → Prop
  | .value content => content.Sound T
  | .options row => ∀ option value, row.get? option = some value → value.Sound T
  | .arguments entries => ∀ entry ∈ entries, entry.2.Sound T

/-- All data in the operands of a stack are sound. -/
def Stack.Sound (T : Template → Prop) (stack : Stack) : Prop :=
  ∀ operand ∈ stack, operand.Sound T

namespace Template

variable {template : Template} {index : Nat}

/-- A text operand that fits gives a text. -/
theorem gives_text (fits : Draft.operandFits template.pool.length template.args.length
    template.program.length (.text, index) = true) : Gives (template.text index) fun _ => True := by
  have hlt : index < template.pool.length := by simpa [Draft.operandFits] using fits
  rw [text, List.getElem?_eq_getElem hlt]
  exact trivial

/-- A text that is found is referred to by an operand that fits. -/
theorem operandFits_of_text {text : String} (found : template.text index = .ok text) :
    Draft.operandFits template.pool.length template.args.length template.program.length
      (.text, index) = true := by
  unfold Template.text at found
  split at found
  · rename_i hpooled
    obtain ⟨inside, -⟩ := List.getElem?_eq_some_iff.mp hpooled
    simpa [Draft.operandFits] using inside
  · cases found

/-- An address operand that fits gives an instruction or the end of the program. -/
theorem gives_jumpTarget (fits : Draft.operandFits template.pool.length template.args.length
    template.program.length (.address, index) = true) :
    Gives (template.jumpTarget index) fun _ => True := by
  have hle : index ≤ template.program.length := by simpa [Draft.operandFits] using fits
  rw [jumpTarget, if_neg (Nat.not_lt.mpr hle)]
  exact trivial

end Template

/-- A slot operand that fits the template of a sound instance gives a sound value. -/
theorem Instance.Sound.gives_readSlot {inst : Instance} (sound : inst.Sound T) {index : Nat}
    (fits : Draft.operandFits inst.template.pool.length inst.template.args.length
      inst.template.program.length (.slot, index) = true) :
    Gives (inst.readSlot index) fun value => value.Sound T := by
  have hlt : index < inst.locals.length := by
    rw [sound.length_locals]
    simpa [Draft.operandFits] using fits
  rw [readSlot, List.getElem?_eq_getElem hlt]
  refine gives_pure (Value.sound_getD_none fun value held => sound.locals value ?_)
  exact held ▸ List.getElem_mem hlt

/-- A value that is found in a slot of a sound instance is sound. -/
theorem Instance.Sound.readSlot {inst : Instance} (sound : inst.Sound T) {index : Nat}
    {value : Value} (found : inst.readSlot index = .ok value) : value.Sound T := by
  unfold Instance.readSlot at found
  split at found
  · rename_i slot hslot
    obtain rfl := Except.ok.inj found
    exact Value.sound_getD_none fun value held => sound.locals value
      (List.mem_of_getElem? (held ▸ hslot))
  · cases found

/-- An instance is sound if the value that it is taken from is. -/
theorem Value.Sound.gives_toInstance {value : Value} (sound : value.Sound T) :
    Gives value.toInstance fun inst => inst.Sound T := by
  cases sound with
  | template inst => exact inst
  | _ => rfl

/-- Instances are sound if the values that they are taken from are. -/
theorem gives_mapM_toInstance {values : List Value} (sound : ∀ value ∈ values, value.Sound T) :
    Gives (values.mapM Value.toInstance) fun insts => ∀ inst ∈ insts, inst.Sound T := by
  induction values with
  | nil => simpa using gives_pure (by simp)
  | cons value rest ih =>
    obtain ⟨hvalue, hrest⟩ := List.forall_mem_cons.mp sound
    rw [List.mapM_cons]
    apply hvalue.gives_toInstance.bind
    intro inst hinst
    apply (ih hrest).bind
    intro insts hinsts
    exact gives_pure (List.forall_mem_cons.mpr ⟨hinst, hinsts⟩)

namespace Stack

variable {stack : Stack}

/-- A stack is sound with a sound value on top. -/
theorem Sound.push (sound : stack.Sound T) {value : Value} (hvalue : value.Sound T) :
    (stack.push value).Sound T :=
  List.forall_mem_cons.mpr ⟨hvalue, sound⟩

/-- The value on top of a sound stack and what is beneath it are sound. -/
theorem Sound.gives_pop (sound : stack.Sound T) :
    Gives stack.pop fun popped => popped.1.Sound T ∧ popped.2.Sound T := by
  cases stack with
  | nil => exact rfl
  | cons top rest =>
    have hparts := List.forall_mem_cons.mp sound
    cases top with
    | value value => exact hparts
    | options row => exact rfl
    | arguments entries => exact rfl

/-- A number of values from the top of a sound stack and what is beneath them are sound. -/
theorem Sound.gives_popMany (sound : stack.Sound T) {later : List Value}
    (hlater : ∀ value ∈ later, value.Sound T) (count : Nat) :
    Gives (popMany count later stack) fun popped =>
      (∀ value ∈ popped.1, value.Sound T) ∧ popped.2.Sound T := by
  induction count generalizing later stack with
  | zero => exact gives_pure ⟨hlater, sound⟩
  | succ count ih =>
    apply sound.gives_pop.bind
    intro popped hpopped
    exact ih hpopped.2 (List.forall_mem_cons.mpr ⟨hpopped.1, hlater⟩)

/-- A number of values from the top of a sound stack and what is beneath them are sound. -/
theorem Sound.gives_popN (sound : stack.Sound T) (count : Nat) :
    Gives (stack.popN count) fun popped =>
      (∀ value ∈ popped.1, value.Sound T) ∧ popped.2.Sound T :=
  sound.gives_popMany (by simp) count

/-- The options on top of a sound stack and what is beneath them are sound. -/
theorem Sound.gives_popOptions (sound : stack.Sound T) :
    Gives stack.popOptions fun popped =>
      (∀ option value, popped.1.get? option = some value → value.Sound T) ∧ popped.2.Sound T := by
  cases stack with
  | nil => exact rfl
  | cons top rest =>
    have hparts := List.forall_mem_cons.mp sound
    cases top with
    | options row => exact hparts
    | value value => exact rfl
    | arguments entries => exact rfl

/-- The named arguments on top of a sound stack and what is beneath them are sound. -/
theorem Sound.gives_popArguments (sound : stack.Sound T) :
    Gives stack.popArguments fun popped =>
      (∀ entry ∈ popped.1, entry.2.Sound T) ∧ popped.2.Sound T := by
  cases stack with
  | nil => exact rfl
  | cons top rest =>
    have hparts := List.forall_mem_cons.mp sound
    cases top with
    | arguments entries => exact hparts
    | value value => exact rfl
    | options row => exact rfl

/-- The list on top of a sound stack and what is beneath it are sound. -/
theorem Sound.gives_popList (sound : stack.Sound T) :
    Gives stack.popList fun popped => (∀ item ∈ popped.1, item.Sound T) ∧ popped.2.Sound T := by
  cases stack with
  | nil => exact rfl
  | cons top rest =>
    have hparts := List.forall_mem_cons.mp sound
    cases top with
    | value value =>
      cases value with
      | list items => exact ⟨Value.sound_list_iff.mp hparts.1, hparts.2⟩
      | _ => exact rfl
    | options row => exact rfl
    | arguments entries => exact rfl

variable {value : Value} {problems : List Problem}

/-- Pushing a sound value on a sound stack gives a sound stack. -/
theorem Sound.gives_pushed (sound : stack.Sound T) (hvalue : value.Sound T) :
    Gives (stack.pushed value) fun result => result.1.Sound T ∧ InRange result.2 :=
  gives_pure ⟨sound.push hvalue, inRange_nil⟩

/-- Pushing a sound value found without operands out of range gives a sound stack. -/
theorem Sound.gives_pushReported (sound : stack.Sound T) {result : Reported Value}
    (hresult : result.1.Sound T ∧ InRange result.2) :
    Gives (stack.pushReported result) fun result => result.1.Sound T ∧ InRange result.2 :=
  gives_pure ⟨sound.push hresult.1, hresult.2⟩

/-- Replacing the top of a sound stack by a sound value gives a sound stack. -/
theorem Sound.gives_mapTop (sound : stack.Sound T) {f : Value → Value}
    (hf : ∀ value, value.Sound T → (f value).Sound T) :
    Gives (stack.mapTop f) fun result => result.1.Sound T ∧ InRange result.2 := by
  apply sound.gives_pop.bind
  intro popped hpopped
  exact hpopped.2.gives_pushed (hf _ hpopped.1)

/-- Replacing the two top values of a sound stack by a truth value gives a sound stack. -/
theorem Sound.gives_combineTop (sound : stack.Sound T) (f : Bool → Bool → Bool) :
    Gives (stack.combineTop f) fun result => result.1.Sound T ∧ InRange result.2 := by
  apply sound.gives_pop.bind
  intro right hright
  apply hright.2.gives_pop.bind
  intro left hleft
  exact hleft.2.gives_pushed (.bool _)

/-- Pushing a sound instance on a sound stack, given sound arguments or blank, gives a sound
stack. -/
theorem Sound.gives_pushInstance (sound : stack.Sound T) {found : Option Instance}
    {give : Instance → Reported Instance} {blank : Instance} {missing : Problem}
    (hfound : ∀ inst, found = some inst → inst.Sound T)
    (hgive : ∀ inst, found = some inst → inst.Sound T →
      (give inst).1.Sound T ∧ InRange (give inst).2)
    (hblank : blank.Sound T) (hmissing : missing.isOutOfRange = false) :
    Gives (stack.pushInstance found give blank missing) fun result =>
      result.1.Sound T ∧ InRange result.2 := by
  cases found with
  | none => exact gives_pure ⟨sound.push (.template hblank), by simpa using hmissing⟩
  | some inst =>
    obtain ⟨hinst, hproblems⟩ := hgive inst rfl (hfound inst rfl)
    exact gives_pure ⟨sound.push (.template hinst), hproblems⟩

end Stack

/-- Setting an entry to a sound value keeps a row of options sound. -/
theorem OptionRow.sound_set {row : OptionRow Value}
    (sound : ∀ option value, row.get? option = some value → value.Sound T) (option : WriteOption)
    {value : Value} (hvalue : value.Sound T) :
    ∀ other v, (row.set option value).get? other = some v → v.Sound T := by
  intro other v found
  rw [get?_set] at found
  split at found
  · exact Option.some.inj found ▸ hvalue
  · exact sound other v found

/-- The text of a sound value without blanks at its ends is sound. -/
theorem Value.Sound.trimmedValue {value : Value} (sound : value.Sound T) :
    (trimmedValue value).1.Sound T := by
  unfold TemplateMachine.trimmedValue
  split
  · exact .none
  · exact .string _
  · exact sound

/-- Taking blanks from the ends of a text reports ordinary problems only. -/
theorem ordinary_trimmedValue (value : Value) : Ordinary (trimmedValue value).2 := by
  unfold trimmedValue
  split <;> simp [Problem.isOrdinary]

/-- The length of a text is sound. -/
theorem sound_textLength (value : Value) : (textLength value).1.Sound T := by
  unfold textLength
  split <;> exact Value.sound_ofCount _

/-- Counting the characters of a text reports ordinary problems only. -/
theorem ordinary_textLength (value : Value) : Ordinary (textLength value).2 := by
  unfold textLength
  split <;> simp [Problem.isOrdinary]

namespace Frame

/-- An instruction gives an argument of a name to an instance that declares whatever it is given:
the arguments on the stack have one of that name, and the template that is found for them has no
argument list of its own. -/
inductive GivesNamed (frame : Frame) (setting : Setting) (stack : Stack) :
    Instr → String → Prop where
  | newBoxArgs {index : Nat} {text name : String} {entries : Entries Value} {rest : Stack}
    {inst : Instance} (pooled : frame.template.text index = .ok text)
    (popped : stack.popArguments = .ok (entries, rest))
    (found : frame.instanceOf? setting text = some inst)
    (informal : inst.template.hasFormalArgs = false) (mem : name ∈ entries.map Prod.fst) :
    GivesNamed frame setting stack (.newBoxArgs index) name
  | superNewBoxArgs {index : Nat} {text name : String} {entries : Entries Value} {rest : Stack}
    {inst : Instance} (pooled : frame.template.text index = .ok text)
    (popped : stack.popArguments = .ok (entries, rest))
    (found : frame.superInstanceOf? setting text = some inst)
    (informal : inst.template.hasFormalArgs = false) (mem : name ∈ entries.map Prod.fst) :
    GivesNamed frame setting stack (.superNewBoxArgs index) name

variable {frame : Frame} {setting : Setting} {stack : Stack}

/-- In a sound frame, an instruction whose operands fit turns a sound stack into a sound stack, if
the names that it gives are admitted. It neither reports an operand out of range nor faults because
of one. -/
theorem Sound.gives_operate (hereditary : Hereditary T N) (catalog : setting.catalog.Sound T)
    (sound : frame.Sound T) (hstack : stack.Sound T) {instr : Instr}
    (fits : frame.template.Fits instr)
    (admitted : ∀ name, frame.GivesNamed setting stack instr name → N name) :
    Gives (frame.operate setting stack instr) fun result =>
      result.1.Sound T ∧ InRange result.2 := by
  have hinstanceOf (name : String) (inst : Instance)
      (made : frame.instanceOf? setting name = some inst) : inst.Sound T :=
    (sound_group catalog frame).instanceOf? made
  have hpositional {found : Option Instance} {values : List Value}
      (hvalues : ∀ value ∈ values, value.Sound T) (inst : Instance) (_ : found = some inst)
      (hinst : inst.Sound T) :
      (inst.givePositional values).1.Sound T ∧ InRange (inst.givePositional values).2 :=
    ⟨hinst.givePositional hvalues, (inst.ordinary_givePositional values).inRange⟩
  have hnamed {found : Option Instance} {entries : Entries Value}
      (hadmitted : ∀ inst, found = some inst → inst.template.hasFormalArgs = false →
        ∀ entry ∈ entries, N entry.1)
      (hentries : ∀ entry ∈ entries, entry.2.Sound T) (inst : Instance) (hfound : found = some inst)
      (hinst : inst.Sound T) :
      (inst.giveNamed entries).1.Sound T ∧ InRange (inst.giveNamed entries).2 :=
    ⟨hinst.giveNamed hereditary (hadmitted inst hfound) hentries,
      (inst.ordinary_giveNamed entries).inRange⟩
  have hblank (name : String) := sound_blankInstance hereditary frame name
  cases instr with
  | loadStr index =>
    apply (Template.gives_text (fits _ (by simp [Instr.operands]))).bind
    intro text _
    exact hstack.gives_pushed (.string text)
  | loadAttr index =>
    apply (Template.gives_text (fits _ (by simp [Instr.operands]))).bind
    intro name _
    split
    · rename_i value found
      exact hstack.gives_pushed (sound.attribute? catalog found)
    · exact hstack.gives_pushReported ⟨.none, by simp [Problem.isOutOfRange]⟩
  | loadLocal index =>
    refine (sound.running.gives_readSlot (fits _ (by simp [Instr.operands]))).bind
      fun value hvalue => ?_
    exact hstack.gives_pushed hvalue
  | loadProp index =>
    apply (Template.gives_text (fits _ (by simp [Instr.operands]))).bind
    intro name _
    apply hstack.gives_pop.bind
    intro owner howner
    exact howner.2.gives_pushReported
      ⟨sound_property catalog frame howner.1 name, (frame.ordinary_property _ _ _).inRange⟩
  | loadPropInd =>
    apply hstack.gives_pop.bind
    intro key hkey
    apply hkey.2.gives_pop.bind
    intro owner howner
    exact howner.2.gives_pushReported
      ⟨sound_property catalog frame howner.1 key.1.display, (frame.ordinary_property _ _ _).inRange⟩
  | storeOption index =>
    apply hstack.gives_pop.bind
    intro value hvalue
    apply hvalue.2.gives_popOptions.bind
    intro row hrow
    have hlt : index < WriteOption.count := by
      simpa [Draft.operandFits] using fits (.option, index) (by simp [Instr.operands])
    obtain ⟨option, hoption⟩ : ∃ option, WriteOption.ofIndex? index = some option :=
      ⟨_, List.getElem?_eq_getElem hlt⟩
    rw [hoption]
    exact gives_pure ⟨List.forall_mem_cons.mpr
      ⟨OptionRow.sound_set hrow.1 option hvalue.1, hrow.2⟩, inRange_nil⟩
  | storeArg index =>
    apply (Template.gives_text (fits _ (by simp [Instr.operands]))).bind
    intro name _
    apply hstack.gives_pop.bind
    intro value hvalue
    apply hvalue.2.gives_popArguments.bind
    intro entries hentries
    exact gives_pure ⟨List.forall_mem_cons.mpr
      ⟨Entries.forall_mem_insert hvalue.1 hentries.1, hentries.2⟩, inRange_nil⟩
  | newNamed index count =>
    apply (Template.gives_text (fits _ (by simp [Instr.operands]))).bind
    intro name _
    apply (hstack.gives_popN count).bind
    intro values hvalues
    exact hvalues.2.gives_pushInstance (hinstanceOf name) (hpositional hvalues.1) (hblank name) rfl
  | newInd count =>
    apply (hstack.gives_popN count).bind
    intro values hvalues
    apply hvalues.2.gives_pop.bind
    intro key hkey
    exact hkey.2.gives_pushInstance (hinstanceOf _) (hpositional hvalues.1) (hblank _) rfl
  | newBoxArgs index =>
    refine (Template.gives_text (fits _ (by simp [Instr.operands]))).bind_of_eq
      fun name pooled _ => ?_
    refine hstack.gives_popArguments.bind_of_eq fun entries popped hentries => ?_
    have hadmitted (inst : Instance) (found : frame.instanceOf? setting name = some inst)
        (informal : inst.template.hasFormalArgs = false) : ∀ entry ∈ entries.1, N entry.1 :=
      fun entry mem => admitted entry.1 <|
        .newBoxArgs pooled popped found informal (List.mem_map_of_mem mem)
    exact hentries.2.gives_pushInstance (hinstanceOf name) (hnamed hadmitted hentries.1)
      (hblank name) rfl
  | superNew index count =>
    apply (Template.gives_text (fits _ (by simp [Instr.operands]))).bind
    intro name _
    apply (hstack.gives_popN count).bind
    intro values hvalues
    exact hvalues.2.gives_pushInstance (fun _ => sound_of_superInstanceOf? catalog)
      (hpositional hvalues.1) (hblank name) rfl
  | superNewBoxArgs index =>
    refine (Template.gives_text (fits _ (by simp [Instr.operands]))).bind_of_eq
      fun name pooled _ => ?_
    refine hstack.gives_popArguments.bind_of_eq fun entries popped hentries => ?_
    have hadmitted (inst : Instance) (found : frame.superInstanceOf? setting name = some inst)
        (informal : inst.template.hasFormalArgs = false) : ∀ entry ∈ entries.1, N entry.1 :=
      fun entry mem => admitted entry.1 <|
        .superNewBoxArgs pooled popped found informal (List.mem_map_of_mem mem)
    exact hentries.2.gives_pushInstance (fun _ => sound_of_superInstanceOf? catalog)
      (hnamed hadmitted hentries.1) (hblank name) rfl
  | map =>
    apply hstack.gives_pop.bind
    intro top htop
    apply htop.1.gives_toInstance.bind
    intro prototype hprototype
    apply htop.2.gives_pop.bind
    intro value hvalue
    exact hvalue.2.gives_pushReported
      ⟨Instance.Sound.rotateOver hereditary (by simpa using hprototype) hvalue.1 _,
        (Instance.ordinary_rotateOver _ _ _ _).inRange⟩
  | rotMap count =>
    apply (hstack.gives_popN count).bind
    intro values hvalues
    apply (gives_mapM_toInstance hvalues.1).bind
    intro prototypes hprototypes
    cases prototypes with
    | nil => exact rfl
    | cons first others =>
      apply hvalues.2.gives_pop.bind
      intro value hvalue
      exact hvalue.2.gives_pushReported
        ⟨Instance.Sound.rotateOver hereditary hprototypes hvalue.1 _,
          (Instance.ordinary_rotateOver _ _ _ _).inRange⟩
  | zipMap count =>
    apply hstack.gives_pop.bind
    intro top htop
    apply htop.1.gives_toInstance.bind
    intro prototype hprototype
    apply (htop.2.gives_popN count).bind
    intro values hvalues
    exact hvalues.2.gives_pushReported
      ⟨hprototype.zipOver hvalues.1 _, (Instance.ordinary_zipOver _ _ _).inRange⟩
  | options =>
    have hempty (option : WriteOption) (value : Value)
        (found : (OptionRow.empty : OptionRow Value).get? option = some value) : value.Sound T := by
      cases option <;> simp [OptionRow.get?, OptionRow.empty] at found
    exact gives_pure ⟨List.forall_mem_cons.mpr ⟨hempty, hstack⟩, inRange_nil⟩
  | args =>
    exact gives_pure ⟨List.forall_mem_cons.mpr ⟨by simp [Operand.Sound], hstack⟩, inRange_nil⟩
  | passThru index =>
    apply (Template.gives_text (fits _ (by simp [Instr.operands]))).bind
    intro name _
    apply hstack.gives_popArguments.bind
    intro entries hentries
    exact gives_pure ⟨List.forall_mem_cons.mpr ⟨sound.passThrough name hentries.1, hentries.2⟩,
      (frame.ordinary_passThrough _ _ _).inRange⟩
  | list => exact hstack.gives_pushed (.list (by simp))
  | add =>
    apply hstack.gives_pop.bind
    intro value hvalue
    apply hvalue.2.gives_popList.bind
    intro items hitems
    exact hitems.2.gives_pushed (.list (hvalue.1.appendTo hitems.1))
  | first => exact hstack.gives_mapTop fun value hvalue => hvalue.first
  | last => exact hstack.gives_mapTop fun value hvalue => hvalue.last
  | rest => exact hstack.gives_mapTop fun value hvalue => hvalue.rest
  | trunc => exact hstack.gives_mapTop fun value hvalue => hvalue.trunc
  | strip => exact hstack.gives_mapTop fun value hvalue => hvalue.strip
  | reverse => exact hstack.gives_mapTop fun value hvalue => hvalue.reverse
  | length => exact hstack.gives_mapTop fun value _ => Value.sound_ofCount _
  | strlen =>
    apply hstack.gives_pop.bind
    intro value hvalue
    exact hvalue.2.gives_pushReported
      ⟨sound_textLength value.1, (ordinary_textLength value.1).inRange⟩
  | trim =>
    apply hstack.gives_pop.bind
    intro value hvalue
    exact hvalue.2.gives_pushReported
      ⟨hvalue.1.trimmedValue, (ordinary_trimmedValue value.1).inRange⟩
  | negate => exact hstack.gives_mapTop fun value _ => .bool (!value.isTruthy)
  | disjoin => exact hstack.gives_combineTop _
  | conjoin => exact hstack.gives_combineTop _
  | pop =>
    apply hstack.gives_pop.bind
    intro value hvalue
    exact gives_pure ⟨hvalue.2, inRange_nil⟩
  | pushNull => exact hstack.gives_pushed .none
  | pushTrue => exact hstack.gives_pushed (.bool true)
  | pushFalse => exact hstack.gives_pushed (.bool false)
  | _ => exact gives_pure ⟨hstack, inRange_nil⟩

/-- In a sound frame, an operation that succeeds leaves a sound stack, also if the operands of its
instruction do not fit. -/
theorem Sound.operate (hereditary : Hereditary T) (catalog : setting.catalog.Sound T)
    (sound : frame.Sound T) (hstack : stack.Sound T) {instr : Instr} {left : Reported Stack}
    (ends : frame.operate setting stack instr = .ok left) : left.1.Sound T := by
  have hfits (fits : frame.template.Fits instr) : left.1.Sound T :=
    ((sound.gives_operate hereditary catalog hstack fits fun _ _ => trivial).of_eq_ok ends).1
  -- An operand that does not fit is a fault, unless it is an option, which is only reported.
  have htext (index : Nat) {f : String → Outcome}
      (reads : (frame.template.text index >>= f) = .ok left)
      (operands : ∀ operand ∈ instr.operands, operand = (.text, index) ∨ operand.1 = .count) :
      left.1.Sound T := by
    obtain ⟨text, found, -⟩ := bind_eq_ok_iff.mp reads
    refine hfits fun operand mem => ?_
    obtain ⟨kind, n⟩ := operand
    rcases operands _ mem with same | rfl
    · rw [same]
      exact Template.operandFits_of_text found
    · rfl
  cases instr with
  | loadStr index | loadAttr index | loadProp index | storeArg index | newNamed index _
  | newBoxArgs index | superNew index _ | superNewBoxArgs index | passThru index =>
    exact htext index ends (by simp [Instr.operands])
  | loadLocal index =>
    obtain ⟨value, found, hpushed⟩ := bind_eq_ok_iff.mp ends
    obtain rfl := Except.ok.inj hpushed
    exact hstack.push (sound.running.readSlot found)
  | storeOption index =>
    obtain ⟨⟨value, beneath⟩, hpop, hrest⟩ := bind_eq_ok_iff.mp ends
    obtain ⟨⟨row, rest⟩, hoptions, hset⟩ := bind_eq_ok_iff.mp hrest
    have hvalue := hstack.gives_pop.of_eq_ok hpop
    have hrow := hvalue.2.gives_popOptions.of_eq_ok hoptions
    dsimp only at hset
    split at hset
    · obtain rfl := Except.ok.inj hset
      exact List.forall_mem_cons.mpr ⟨OptionRow.sound_set hrow.1 _ hvalue.1, hrow.2⟩
    · obtain rfl := Except.ok.inj hset
      exact List.forall_mem_cons.mpr hrow
  | newInd count | rotMap count | zipMap count =>
    exact hfits (by simp [Template.Fits, Instr.operands, Draft.operandFits])
  | br _ | brf _ | indent _ | writeStr _ | writeLocal _ =>
    obtain rfl := Except.ok.inj ends
    exact hstack
  | _ => exact hfits (by simp [Template.Fits, Instr.operands])

end Frame

end TemplateMachine
