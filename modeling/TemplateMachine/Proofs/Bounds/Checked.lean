import TemplateMachine.Proofs.Sound.Operation

/-!
# Checked access

The slots of an instance and the prototypes of a rotation are reached by index, and the operations
on them assume that the index is in bounds. Here are the same operations once more, with every such
index checked: they have no result where it is out of bounds. On sound data they have one, and it is
that of the operations without checks.

A slot that is only looked at is not checked, as a slot that does not exist holds no value.
-/

namespace TemplateMachine

namespace Checked

/-- An instance with a value put into a slot that has to exist. -/
def setSlot (inst : Instance) (slot : Nat) (value : Value) : Option Instance :=
  if slot < inst.locals.length then some (inst.setSlot slot value) else none

/-- An instance with a value added to an attribute. -/
def add (inst : Instance) (name : String) (value : Value) :
    Option (Except AttributeError Instance) :=
  if name.toList.contains '.' then some (throw (.dotInName name))
  else
    match inst.template.arg? name with
    | some arg =>
      (setSlot inst arg.slot (Instance.accumulate value (inst.slot? arg.slot))).map pure
    | none =>
      if inst.template.hasFormalArgs then some (throw (.undeclared name))
      else
        let (inst, slot) := inst.declare name
        (setSlot inst slot (Instance.accumulate value (inst.slot? slot))).map pure

/-- An instance with values added in order up to the first that is rejected. -/
def addAll (inst : Instance) : List (String × Value) → Option (Instance × Option AttributeError)
  | [] => some (inst, none)
  | (name, value) :: rest =>
    match add inst name value with
    | none => none
    | some (.ok inst) => addAll inst rest
    | some (.error error) => some (inst, some error)

/-- An instance with an attribute set if the template declares it. -/
def setIfDeclared (inst : Instance) (name : String) (value : Value) : Option Instance :=
  match inst.template.arg? name with
  | some arg => setSlot inst arg.slot value
  | none => some inst

/-- An instance with an attribute set, declared first if the template does not declare it. -/
def declareAndSet (inst : Instance) (name : String) (value : Value) : Option Instance :=
  match inst.template.arg? name with
  | some arg => setSlot inst arg.slot value
  | none =>
    let (inst, slot) := inst.declare name
    setSlot inst slot value

/-- An instance with attributes set in order, declared first where need be. -/
def declareAndSetAll (inst : Instance) : Entries Value → Option Instance
  | [] => some inst
  | (name, value) :: rest => do
    let inst ← declareAndSet inst name value
    declareAndSetAll inst rest

/-- An instance with arguments set by name, those that it does not declare reported. -/
def setNamed (inst : Instance) : List (String × Value) → Option (Reported Instance)
  | [] => some (inst, [])
  | (name, value) :: rest =>
    match inst.template.arg? name with
    | some arg => do
      let inst ← setSlot inst arg.slot value
      setNamed inst rest
    | none => do
      let (inst, problems) ← setNamed inst rest
      some (inst, .noSuchAttribute name :: problems)

/-- An instance with arguments given by name. -/
def giveNamed (inst : Instance) (entries : Entries Value) : Option (Reported Instance) :=
  if !inst.template.hasFormalArgs then do
    let inst ← declareAndSetAll inst entries
    some (inst, [])
  else do
    let given := entries.length
    let (inst, problems) ← setNamed inst entries
    let declared := inst.template.arity
    if (inst.lacksArgument || declared < given) && problems.isEmpty then
      some (inst, [inst.countMismatch given declared])
    else some (inst, problems)

/-- An instance with a value for its first argument. -/
def giveFirst (inst : Instance) (value : Value) : Option (Reported Instance) :=
  if inst.template.args.isEmpty then
    if inst.template.hasFormalArgs then some (inst, [inst.countMismatch 1 0])
    else do
      let inst ← declareAndSet inst implicitArg value
      some (inst, [])
  else do
    let inst ← setSlot inst 0 value
    some (inst, [])

/-- An instance with its position in the index arguments that it declares. -/
def numbered (inst : Instance) (position : Nat) : Option Instance := do
  let inst ← setIfDeclared inst "i0" (.ofCount position)
  setIfDeclared inst "i" (.ofCount (position + 1))

/-- A prototype applied to one element. -/
def applied (prototype : Instance) (value : Value) (position : Nat) :
    Option (Reported Instance) := do
  let (inst, problems) ← giveFirst prototype value
  if inst.template.anonymous then
    let inst ← numbered inst position
    some (inst, problems)
  else some (inst, problems)

/-- Prototypes applied in turn to elements, from a position on. -/
def rotate (prototypes : List Instance) (position : Nat) :
    List Value → Option (Reported (List Value))
  | [] => some ([], [])
  | item :: rest =>
    if item.isNone then do
      let (mapped, problems) ← rotate prototypes position rest
      some (.none :: mapped, problems)
    else do
      let prototype ← prototypes[position % prototypes.length]?
      let (inst, problems) ← applied prototype item position
      let (mapped, more) ← rotate prototypes (position + 1) rest
      some (.template inst :: mapped, problems ++ more)

/-- Prototypes applied in turn to the elements of a value. -/
def rotateOver (prototypes : List Instance) (mapValues : Bool) (value : Value) :
    Option (Reported Value) :=
  match value.coerce mapValues with
  | .scalar .none => some (.none, [])
  | .scalar value => do
    let prototype ← prototypes[0]?
    let (inst, problems) ← applied prototype value 0
    some (.template inst, problems)
  | .sequence items => do
    let (mapped, problems) ← rotate prototypes 0 items
    some (.list mapped, problems)

/-- An instance with a row of elements put under their names. -/
def fillRow (inst : Instance) : List (String × Value) → Option Instance
  | [] => some inst
  | (name, value) :: rest => do
    let inst ← setIfDeclared inst name value
    fillRow inst rest

/-- A prototype applied to streams side by side, from a position on. -/
def zipFrom (prototype : Instance) (position : Nat) (streams : List (String × List Value)) :
    Option (List Value) :=
  let round := Round.next streams
  if round.exhausted = streams.length then some []
  else do
    let inst ← fillRow prototype round.row
    let inst ← numbered inst position
    let mapped ← zipFrom prototype (position + 1) round.left
    some (.template inst :: mapped)
termination_by Round.pending streams
decreasing_by exact Round.pending_left_lt ‹_›

/-- A prototype applied to the elements of several values side by side. -/
def zipOver (prototype : Instance) (mapValues : Bool) (values : List Value) :
    Option (Reported Value) :=
  if !prototype.template.hasFormalArgs then some (.none, [.missingFormalArguments])
  else do
    let names := prototype.template.callerArgs.map FormalArg.name
    let problems :=
      if names.length = values.length then []
      else [.mapArgumentCountMismatch values.length names.length]
    let mapped ← zipFrom prototype 0 (names.zip (values.map (Value.elements mapValues)))
    some (.list mapped, problems)

/-- A computation that may fault and that has no result where an index is out of bounds. -/
abbrev Access (α : Type) := ExceptT Fault Option α

/-- A computation that reaches nothing by index. -/
def Access.free {α : Type} (result : Except Fault α) : Access α :=
  ExceptT.mk (some result)

/-- A computation that does not fault. -/
def Access.bounded {α : Type} (result : Option α) : Access α :=
  ExceptT.lift result

open Access

/-- The stack with an instance pushed: one that was found and given its arguments, or a blank
one. -/
def pushInstance (stack : Stack) (found : Option Instance)
    (give : Instance → Option (Reported Instance)) (blank : Instance) (missing : Problem) :
    Access (Reported Stack) :=
  match found with
  | some inst => do
    let (inst, problems) ← bounded (give inst)
    pure (stack.push (.template inst), problems)
  | none => pure (stack.push (.template blank), [missing])

/-- What an instruction does to the operand stack in a frame. The instructions that reach something
by index are those that give arguments by name and those that map. -/
def operate (frame : Frame) (setting : Setting) (stack : Stack) (instr : Instr) :
    Access (Reported Stack) :=
  let template := frame.template
  let mapValues := (frame.group setting).iterateMapValues
  match instr with
  | .newBoxArgs index => do
    let name ← free (template.text index)
    let (entries, stack) ← free stack.popArguments
    pushInstance stack (frame.instanceOf? setting name) (giveNamed · entries)
      (frame.blankInstance name) (.noSuchTemplate name)
  | .superNewBoxArgs index => do
    let name ← free (template.text index)
    let (entries, stack) ← free stack.popArguments
    pushInstance stack (frame.superInstanceOf? setting name) (giveNamed · entries)
      (frame.blankInstance name) (.noImportedTemplate name)
  | .map => do
    let (value, stack) ← free stack.pop
    let prototype ← free value.toInstance
    let (value, stack) ← free stack.pop
    let result ← bounded (rotateOver [prototype] mapValues value)
    free (stack.pushReported result)
  | .rotMap count => do
    let (values, stack) ← free (stack.popN count)
    let prototypes ← free (values.mapM Value.toInstance)
    if prototypes.isEmpty then throw .noPrototype
    else
      let (value, stack) ← free stack.pop
      let result ← bounded (rotateOver prototypes mapValues value)
      free (stack.pushReported result)
  | .zipMap count => do
    let (value, stack) ← free stack.pop
    let prototype ← free value.toInstance
    let (values, stack) ← free (stack.popN count)
    let result ← bounded (zipOver prototype mapValues values)
    free (stack.pushReported result)
  | other => free (frame.operate setting stack other)

end Checked

variable {T : Template → Prop}

namespace Instance

variable {inst : Instance}

/-- A slot below the number of slots exists. -/
theorem checked_setSlot {slot : Nat} (inBounds : slot < inst.locals.length) (value : Value) :
    Checked.setSlot inst slot value = some (inst.setSlot slot value) :=
  if_pos inBounds

/-- Adding to an attribute of a sound instance stays in bounds. -/
theorem Sound.checked_add (sound : inst.Sound T) (name : String) (value : Value) :
    Checked.add inst name value = some (inst.add name value) := by
  unfold Checked.add Instance.add
  split
  · rfl
  cases declared : inst.template.arg? name with
  | some arg =>
    dsimp only
    rw [checked_setSlot (sound.slot_lt_of_declared declared)]
    rfl
  | none =>
    dsimp only
    split
    · rfl
    · rw [checked_setSlot (sound.declare_lt name)]
      rfl

/-- Adding to attributes of a sound instance stays in bounds. -/
theorem Sound.checked_addAll (hereditary : Hereditary T) (sound : inst.Sound T)
    {attributes : List (String × Value)} (values : ∀ pair ∈ attributes, pair.2.Sound T) :
    Checked.addAll inst attributes = some (inst.addAll attributes) := by
  induction attributes generalizing inst with
  | nil => rfl
  | cons pair rest ih =>
    obtain ⟨name, value⟩ := pair
    obtain ⟨hvalue, hrest⟩ := List.forall_mem_cons.mp values
    rw [Checked.addAll, Instance.addAll, sound.checked_add name value]
    cases added : inst.add name value with
    | ok changed => exact ih (sound.add hereditary hvalue added) hrest
    | error error => rfl

/-- Setting a declared attribute of a sound instance stays in bounds. -/
theorem Sound.checked_setIfDeclared (sound : inst.Sound T) (name : String) (value : Value) :
    Checked.setIfDeclared inst name value = some (inst.setIfDeclared name value) := by
  unfold Checked.setIfDeclared Instance.setIfDeclared Instance.setDeclared?
  cases declared : inst.template.arg? name with
  | none => rfl
  | some arg => exact checked_setSlot (sound.slot_lt_of_declared declared) value

/-- Setting an attribute of a sound instance, declared if need be, stays in bounds. -/
theorem Sound.checked_declareAndSet (sound : inst.Sound T) (name : String) (value : Value) :
    Checked.declareAndSet inst name value = some (inst.declareAndSet name value) := by
  unfold Checked.declareAndSet Instance.declareAndSet
  cases declared : inst.template.arg? name with
  | some arg => exact checked_setSlot (sound.slot_lt_of_declared declared) value
  | none => exact checked_setSlot (sound.declare_lt name) value

/-- Setting attributes of a sound instance, declared where need be, stays in bounds. -/
theorem Sound.checked_declareAndSetAll (hereditary : Hereditary T) (sound : inst.Sound T)
    (informal : inst.template.hasFormalArgs = false) {entries : Entries Value}
    (values : ∀ entry ∈ entries, entry.2.Sound T) :
    Checked.declareAndSetAll inst entries =
      some (entries.foldl (fun inst entry => inst.declareAndSet entry.1 entry.2) inst) := by
  induction entries generalizing inst with
  | nil => rfl
  | cons entry rest ih =>
    obtain ⟨name, value⟩ := entry
    obtain ⟨hvalue, hrest⟩ := List.forall_mem_cons.mp values
    rw [Checked.declareAndSetAll, sound.checked_declareAndSet name value]
    refine ih (sound.declareAndSet hereditary informal trivial hvalue) ?_ hrest
    rw [hasFormalArgs_declareAndSet, informal]

/-- Setting arguments of a sound instance by name stays in bounds. -/
theorem Sound.checked_setNamed (sound : inst.Sound T) {entries : List (String × Value)}
    (values : ∀ entry ∈ entries, entry.2.Sound T) :
    Checked.setNamed inst entries = some (inst.setNamed entries) := by
  induction entries generalizing inst with
  | nil => rfl
  | cons entry rest ih =>
    obtain ⟨name, value⟩ := entry
    obtain ⟨hvalue, hrest⟩ := List.forall_mem_cons.mp values
    unfold Checked.setNamed Instance.setNamed Instance.setDeclared?
    cases declared : inst.template.arg? name with
    | some arg =>
      dsimp only [Option.map_some]
      rw [checked_setSlot (sound.slot_lt_of_declared declared)]
      exact ih (sound.setSlot hvalue _) hrest
    | none =>
      dsimp only [Option.map_none]
      rw [ih sound hrest]
      rfl

/-- Giving a sound instance arguments by name stays in bounds. -/
theorem Sound.checked_giveNamed (hereditary : Hereditary T) (sound : inst.Sound T)
    {entries : Entries Value} (values : ∀ entry ∈ entries, entry.2.Sound T) :
    Checked.giveNamed inst entries = some (inst.giveNamed entries) := by
  unfold Checked.giveNamed Instance.giveNamed
  split
  · rename_i informal
    rw [sound.checked_declareAndSetAll hereditary (by simpa using informal) values]
    rfl
  · rw [sound.checked_setNamed values]
    dsimp only [Option.bind_eq_bind, Option.bind_some]
    split <;> rfl

/-- Giving a sound instance a first argument stays in bounds. -/
theorem Sound.checked_giveFirst (sound : inst.Sound T) (value : Value) :
    Checked.giveFirst inst value = some (inst.giveFirst value) := by
  unfold Checked.giveFirst Instance.giveFirst
  split
  · split
    · rfl
    · rw [sound.checked_declareAndSet]
      rfl
  · rename_i hargs
    have hpos : 0 < inst.locals.length := by
      rw [sound.length_locals]
      exact List.length_pos_iff.mpr (by simpa using hargs)
    rw [checked_setSlot hpos]
    rfl

/-- Numbering a sound instance stays in bounds. -/
theorem Sound.checked_numbered (sound : inst.Sound T) (position : Nat) :
    Checked.numbered inst position = some (inst.numbered position) := by
  rw [Checked.numbered, sound.checked_setIfDeclared]
  exact (sound.setIfDeclared "i0" (Value.sound_ofCount _)).checked_setIfDeclared "i" _

/-- Applying a sound prototype stays in bounds. -/
theorem Sound.checked_applied (hereditary : Hereditary T) (sound : inst.Sound T) {value : Value}
    (hvalue : value.Sound T) (position : Nat) :
    Checked.applied inst value position = some (inst.applied value position) := by
  rw [Checked.applied, sound.checked_giveFirst, Instance.applied]
  dsimp only [Option.bind_eq_bind, Option.bind_some]
  split
  · rw [(sound.giveFirst hereditary hvalue).checked_numbered]
    rfl
  · rfl

/-- Applying sound prototypes in turn stays in bounds: the turn goes round at their number. -/
theorem Sound.checked_rotate (hereditary : Hereditary T) {first : Instance} {others : List Instance}
    (prototypes : ∀ inst ∈ first :: others, inst.Sound T) {items : List Value}
    (values : ∀ item ∈ items, item.Sound T) (position : Nat) :
    Checked.rotate (first :: others) position items =
      some (Instance.rotate first others position items) := by
  induction items generalizing position with
  | nil => rfl
  | cons item rest ih =>
    obtain ⟨hitem, hrest⟩ := List.forall_mem_cons.mp values
    unfold Checked.rotate Instance.rotate
    split
    · rw [ih hrest position]
      rfl
    · have hturn : position % (first :: others).length < (first :: others).length :=
        Nat.mod_lt _ (by simp)
      dsimp only
      rw [List.getElem?_eq_getElem hturn, ih hrest (position + 1)]
      dsimp only [Option.bind_eq_bind, Option.bind_some, Option.getD_some]
      rw [(prototypes _ (List.getElem_mem hturn)).checked_applied hereditary hitem]
      rfl

/-- Applying sound prototypes in turn to a sound value stays in bounds. -/
theorem Sound.checked_rotateOver (hereditary : Hereditary T) {first : Instance}
    {others : List Instance} (prototypes : ∀ inst ∈ first :: others, inst.Sound T) {value : Value}
    (hvalue : value.Sound T) (mapValues : Bool) :
    Checked.rotateOver (first :: others) mapValues value =
      some (first.rotateOver others mapValues value) := by
  have hcoerced := hvalue.coerce mapValues
  unfold Checked.rotateOver Instance.rotateOver
  cases hstands : value.coerce mapValues with
  | sequence items =>
    rw [hstands] at hcoerced
    dsimp only
    rw [Sound.checked_rotate hereditary prototypes hcoerced]
    rfl
  | scalar single =>
    rw [hstands] at hcoerced
    have happlied := (prototypes first List.mem_cons_self).checked_applied hereditary hcoerced 0
    cases single with
    | none => rfl
    | _ =>
      dsimp only [List.getElem?_cons_zero, Option.bind_eq_bind, Option.bind_some]
      rw [happlied]
      rfl

/-- Filling a sound instance from a row of sound elements stays in bounds. -/
theorem Sound.checked_fillRow (sound : inst.Sound T) {row : List (String × Value)}
    (values : ∀ entry ∈ row, entry.2.Sound T) :
    Checked.fillRow inst row = some (inst.fillRow row) := by
  induction row generalizing inst with
  | nil => rfl
  | cons entry rest ih =>
    obtain ⟨name, value⟩ := entry
    obtain ⟨hvalue, hrest⟩ := List.forall_mem_cons.mp values
    rw [Checked.fillRow, sound.checked_setIfDeclared]
    exact ih (sound.setIfDeclared name hvalue) hrest

/-- Applying a sound prototype to sound streams side by side stays in bounds. -/
theorem Sound.checked_zipFrom (sound : inst.Sound T) (position : Nat)
    {streams : List (String × List Value)}
    (values : ∀ stream ∈ streams, ∀ item ∈ stream.2, item.Sound T) :
    Checked.zipFrom inst position streams = some (inst.zipFrom position streams) := by
  induction position, streams using Instance.zipFrom.induct with
  | case1 position streams round finished =>
    rw [Checked.zipFrom, Instance.zipFrom, if_pos finished, if_pos finished]
  | case2 position streams round unfinished ih =>
    obtain ⟨hrow, hleft⟩ := Round.forall_next values
    rw [Checked.zipFrom, Instance.zipFrom, if_neg unfinished, if_neg unfinished,
      sound.checked_fillRow hrow]
    dsimp only [Option.bind_eq_bind, Option.bind_some]
    rw [(sound.fillRow hrow).checked_numbered, ih hleft]
    rfl

/-- Applying a sound prototype to sound values side by side stays in bounds. -/
theorem Sound.checked_zipOver (sound : inst.Sound T) {values : List Value}
    (hvalues : ∀ value ∈ values, value.Sound T) (mapValues : Bool) :
    Checked.zipOver inst mapValues values = some (inst.zipOver mapValues values) := by
  unfold Checked.zipOver Instance.zipOver
  split
  · rfl
  · dsimp only
    rw [sound.checked_zipFrom 0 (sound_streams _ hvalues mapValues)]
    rfl

end Instance

namespace Checked

open Access

/-- A computation with access agrees with one without, if it goes on to after a part that reaches
nothing by index. -/
theorem run_free_bind {α β : Type} {result : Except Fault α} {P : α → Prop} (gives : Gives result P)
    {f : α → Access β} {g : α → Except Fault β} (agree : ∀ a, P a → (f a).run = some (g a)) :
    (free result >>= f).run = some (result >>= g) := by
  cases result with
  | ok a => exact agree a gives
  | error fault => rfl

/-- A computation with access goes on after a part that stays in bounds. -/
theorem run_bounded_bind {α β : Type} {result : Option α} {a : α} (inBounds : result = some a)
    (f : α → Access β) : (bounded result >>= f).run = (f a).run := by
  subst inBounds
  rfl

/-- Pushing an instance stays in bounds if giving it arguments does. -/
theorem run_pushInstance (stack : Stack) {found : Option Instance}
    {give : Instance → Option (Reported Instance)} {total : Instance → Reported Instance}
    (inBounds : ∀ inst, found = some inst → give inst = some (total inst)) (blank : Instance)
    (missing : Problem) :
    (pushInstance stack found give blank missing).run =
      some (stack.pushInstance found total blank missing) := by
  cases found with
  | none => rfl
  | some inst => exact run_bounded_bind (inBounds inst rfl) _

end Checked

/-- On a sound stack, an instruction whose operands fit stays in bounds. -/
theorem Stack.Sound.checked_operate {stack : Stack} (hereditary : Hereditary T) {setting : Setting}
    (catalog : setting.catalog.Sound T) (hstack : stack.Sound T) {frame : Frame} {instr : Instr}
    (fits : frame.template.Fits instr) :
    (Checked.operate frame setting stack instr).run =
      some (frame.operate setting stack instr) := by
  cases instr with
  | newBoxArgs index =>
    refine Checked.run_free_bind (Template.gives_text (fits _ (by simp [Instr.operands])))
      fun name _ => ?_
    refine Checked.run_free_bind hstack.gives_popArguments fun entries hentries => ?_
    refine Checked.run_pushInstance _ (fun inst made => ?_) _ _
    exact ((Frame.sound_group catalog frame).instanceOf? made).checked_giveNamed hereditary hentries.1
  | superNewBoxArgs index =>
    refine Checked.run_free_bind (Template.gives_text (fits _ (by simp [Instr.operands])))
      fun name _ => ?_
    refine Checked.run_free_bind hstack.gives_popArguments fun entries hentries => ?_
    refine Checked.run_pushInstance _ (fun inst made => ?_) _ _
    exact (Frame.sound_of_superInstanceOf? catalog made).checked_giveNamed hereditary hentries.1
  | map =>
    refine Checked.run_free_bind hstack.gives_pop fun top htop => ?_
    refine Checked.run_free_bind htop.1.gives_toInstance fun prototype hprototype => ?_
    refine Checked.run_free_bind htop.2.gives_pop fun value hvalue => ?_
    have hprototypes : ∀ inst ∈ [prototype], inst.Sound T := by simpa using hprototype
    exact Checked.run_bounded_bind
      (Instance.Sound.checked_rotateOver hereditary hprototypes hvalue.1 _) _
  | rotMap count =>
    refine Checked.run_free_bind (hstack.gives_popN count) fun values hvalues => ?_
    refine Checked.run_free_bind (gives_mapM_toInstance hvalues.1) fun prototypes hprototypes => ?_
    cases prototypes with
    | nil => rfl
    | cons first others =>
      refine Checked.run_free_bind hvalues.2.gives_pop fun value hvalue => ?_
      exact Checked.run_bounded_bind
        (Instance.Sound.checked_rotateOver hereditary hprototypes hvalue.1 _) _
  | zipMap count =>
    refine Checked.run_free_bind hstack.gives_pop fun top htop => ?_
    refine Checked.run_free_bind htop.1.gives_toInstance fun prototype hprototype => ?_
    refine Checked.run_free_bind (htop.2.gives_popN count) fun values hvalues => ?_
    exact Checked.run_bounded_bind (hprototype.checked_zipOver hvalues.1 _) _
  | _ => rfl

end TemplateMachine
