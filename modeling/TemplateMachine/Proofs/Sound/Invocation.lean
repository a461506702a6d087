import TemplateMachine.Proofs.Sound.Instance

/-!
# Sound invocations

Instances that were given their arguments, by position, by name or element by element, are sound if
what they were given is. The problems reported on the way are ordinary: an invocation has no operands
that could refer to nothing, only values, and it never touches the output.
-/

namespace TemplateMachine

/-- Whether a fault says that an operand refers to a text, a slot or an instruction that does not
exist. -/
def Fault.isOutOfRange : Fault → Bool
  | .textOutOfRange _ => true
  | .slotOutOfRange _ => true
  | .targetOutOfRange _ => true
  | _ => false

/-- Whether a problem says that an operand refers to an option, a text, a slot or an instruction
that does not exist. -/
def Problem.isOutOfRange : Problem → Bool
  | .invalidOptionValue _ => true
  | .internalError fault => fault.isOutOfRange
  | _ => false

/-- Problems none of which is that an operand refers to nothing. -/
def InRange (problems : List Problem) : Prop :=
  ∀ problem ∈ problems, problem.isOutOfRange = false

/-- No problems are in range. -/
@[simp] theorem inRange_nil : InRange [] := by
  simp [InRange]

/-- Problems are in range exactly if the first one is and the others are. -/
@[simp] theorem inRange_cons {problem : Problem} {rest : List Problem} :
    InRange (problem :: rest) ↔ problem.isOutOfRange = false ∧ InRange rest := by
  simp [InRange]

/-- Whether a problem is about the names, arguments and values that a template works with, and not
about the operand of an instruction, the depth of nesting, a fault or the output. -/
def Problem.isOrdinary : Problem → Bool
  | .invalidOptionValue _ | .stackOverflow _ | .internalError _ | .ioError _ => false
  | _ => true

/-- Problems all of which are ordinary. -/
def Ordinary (problems : List Problem) : Prop :=
  ∀ problem ∈ problems, problem.isOrdinary = true

/-- No problems are ordinary. -/
@[simp] theorem ordinary_nil : Ordinary [] := by
  simp [Ordinary]

/-- Problems are ordinary exactly if the first one is and the others are. -/
@[simp] theorem ordinary_cons {problem : Problem} {rest : List Problem} :
    Ordinary (problem :: rest) ↔ problem.isOrdinary = true ∧ Ordinary rest := by
  simp [Ordinary]

/-- Problems are ordinary together exactly if they are one by one. -/
@[simp] theorem ordinary_append {problems more : List Problem} :
    Ordinary (problems ++ more) ↔ Ordinary problems ∧ Ordinary more := by
  simp [Ordinary, or_imp, forall_and]

/-- Ordinary problems are in range. -/
theorem Ordinary.inRange {problems : List Problem} (ordinary : Ordinary problems) :
    InRange problems := by
  intro problem mem
  have hordinary := ordinary problem mem
  cases problem <;> first | rfl | simp [Problem.isOrdinary] at hordinary

variable {T : Template → Prop} {N : String → Prop}

/-- A round takes over what all elements of the streams have in common. -/
theorem Round.forall_next {P : Value → Prop}
    {streams : List (String × List Value)} (all : ∀ stream ∈ streams, ∀ item ∈ stream.2, P item) :
    (∀ entry ∈ (Round.next streams).row, P entry.2) ∧
      ∀ stream ∈ (Round.next streams).left, ∀ item ∈ stream.2, P item := by
  induction streams using Round.next.induct with
  | case1 => simp [Round.next]
  | case2 name rest ih =>
    obtain ⟨-, hrest⟩ := List.forall_mem_cons.mp all
    simpa [Round.next] using ih hrest
  | case3 name value items rest ih =>
    obtain ⟨hitems, hrest⟩ := List.forall_mem_cons.mp all
    obtain ⟨hvalue, hitems⟩ := List.forall_mem_cons.mp hitems
    obtain ⟨hrow, hleft⟩ := ih hrest
    exact ⟨List.forall_mem_cons.mpr ⟨hvalue, hrow⟩, List.forall_mem_cons.mpr ⟨hitems, hleft⟩⟩

namespace Instance

variable {inst : Instance}

/-- Filling slots keeps their number. -/
@[simp] theorem length_fillSlots (slots : List (Option Value)) (values : List Value) :
    (fillSlots slots values).length = slots.length := by
  fun_induction fillSlots slots values with
  | case1 slot slots value values ih => simp [ih]
  | case2 slots => rfl
  | case3 values => rfl

/-- A value in a filled slot was filled in or was there before. -/
theorem mem_fillSlots {slots : List (Option Value)} {values : List Value} {value : Value}
    (mem : some value ∈ fillSlots slots values) : value ∈ values ∨ some value ∈ slots := by
  fun_induction fillSlots slots values with
  | case1 slot slots first values ih =>
    rcases List.mem_cons.mp mem with here | there
    · exact .inl (Option.some.inj here ▸ List.mem_cons_self)
    · exact (ih there).imp (List.mem_cons_of_mem _) (List.mem_cons_of_mem _)
  | case2 slots => exact .inr mem
  | case3 values => simp at mem

/-- A sound instance given sound arguments by position is sound. -/
theorem Sound.givePositional (sound : inst.Sound T) {values : List Value}
    (hvalues : ∀ value ∈ values, value.Sound T) : (inst.givePositional values).1.Sound T := by
  unfold Instance.givePositional
  split
  · exact sound
  · refine sound.withLocals (by simp) fun value mem => ?_
    rcases mem_fillSlots mem with given | old
    · exact hvalues value (List.mem_of_mem_take given)
    · exact sound.locals value old

/-- Giving arguments by position reports ordinary problems only. -/
theorem ordinary_givePositional (inst : Instance) (values : List Value) :
    Ordinary (inst.givePositional values).2 := by
  unfold Instance.givePositional
  dsimp only
  split <;> split <;> simp [countMismatch, Problem.isOrdinary]

/-- A sound instance with sound arguments set by name is sound. -/
theorem Sound.setNamed (sound : inst.Sound T) {entries : List (String × Value)}
    (values : ∀ entry ∈ entries, entry.2.Sound T) : (inst.setNamed entries).1.Sound T := by
  induction entries generalizing inst with
  | nil => exact sound
  | cons entry rest ih =>
    obtain ⟨name, value⟩ := entry
    obtain ⟨hvalue, hrest⟩ := List.forall_mem_cons.mp values
    cases declared : inst.setDeclared? name value with
    | some changed =>
      simpa [Instance.setNamed, declared] using ih (sound.setDeclared? hvalue declared) hrest
    | none => simpa [Instance.setNamed, declared] using ih sound hrest

/-- Setting arguments by name reports ordinary problems only. -/
theorem ordinary_setNamed (inst : Instance) (entries : List (String × Value)) :
    Ordinary (inst.setNamed entries).2 := by
  induction entries generalizing inst with
  | nil => simp [setNamed]
  | cons entry rest ih =>
    obtain ⟨name, value⟩ := entry
    cases declared : inst.setDeclared? name value with
    | some changed => simpa [setNamed, declared] using ih changed
    | none => simpa [setNamed, declared, Problem.isOrdinary] using ih inst

/-- A sound instance without an explicit argument list is sound with sound values for admitted
names. -/
theorem Sound.foldl_declareAndSet (hereditary : Hereditary T N) (sound : inst.Sound T)
    (informal : inst.template.hasFormalArgs = false) {entries : Entries Value}
    (admitted : ∀ entry ∈ entries, N entry.1) (values : ∀ entry ∈ entries, entry.2.Sound T) :
    (entries.foldl (fun inst entry => inst.declareAndSet entry.1 entry.2) inst).Sound T := by
  induction entries generalizing inst with
  | nil => exact sound
  | cons entry rest ih =>
    obtain ⟨hadmitted, hothers⟩ := List.forall_mem_cons.mp admitted
    obtain ⟨hvalue, hrest⟩ := List.forall_mem_cons.mp values
    refine ih (sound.declareAndSet hereditary informal hadmitted hvalue) ?_ hothers hrest
    rw [hasFormalArgs_declareAndSet, informal]

/-- A sound instance given sound arguments by name is sound, if it declares admitted names only. -/
theorem Sound.giveNamed (hereditary : Hereditary T N) (sound : inst.Sound T)
    {entries : Entries Value} (admitted : inst.template.hasFormalArgs = false →
      ∀ entry ∈ entries, N entry.1) (values : ∀ entry ∈ entries, entry.2.Sound T) :
    (inst.giveNamed entries).1.Sound T := by
  unfold Instance.giveNamed
  split
  · rename_i informal
    have informal : inst.template.hasFormalArgs = false := by simpa using informal
    exact sound.foldl_declareAndSet hereditary informal (admitted informal) values
  · have hset := sound.setNamed values
    dsimp only
    split <;> exact hset

/-- Giving arguments by name reports ordinary problems only. -/
theorem ordinary_giveNamed (inst : Instance) (entries : Entries Value) :
    Ordinary (inst.giveNamed entries).2 := by
  have hset := inst.ordinary_setNamed entries
  unfold Instance.giveNamed
  split
  · simp
  · dsimp only
    split
    · simp [countMismatch, Problem.isOrdinary]
    · exact hset

/-- A sound instance given a sound first argument is sound. -/
theorem Sound.giveFirst (hereditary : Hereditary T N) (sound : inst.Sound T) {value : Value}
    (hvalue : value.Sound T) : (inst.giveFirst value).1.Sound T := by
  unfold Instance.giveFirst
  split
  · split
    · exact sound
    · rename_i informal
      exact sound.declareAndSet hereditary (by simpa using informal)
        (hereditary.undotted (by decide)) hvalue
  · exact sound.setSlot hvalue 0

/-- Giving a first argument reports ordinary problems only. -/
theorem ordinary_giveFirst (inst : Instance) (value : Value) :
    Ordinary (inst.giveFirst value).2 := by
  unfold Instance.giveFirst
  split
  · split <;> simp [countMismatch, Problem.isOrdinary]
  · simp

/-- A sound instance is sound with its position put into the index arguments. -/
theorem Sound.numbered (sound : inst.Sound T) (position : Nat) : (inst.numbered position).Sound T :=
  (sound.setIfDeclared "i0" (Value.sound_ofCount _)).setIfDeclared "i" (Value.sound_ofCount _)

/-- A sound prototype applied to a sound element is sound. -/
theorem Sound.applied (hereditary : Hereditary T N) (sound : inst.Sound T) {value : Value}
    (hvalue : value.Sound T) (position : Nat) : (inst.applied value position).1.Sound T := by
  have hgiven := sound.giveFirst hereditary hvalue
  unfold Instance.applied
  dsimp only
  split
  · exact hgiven.numbered position
  · exact hgiven

/-- Sound prototypes applied in turn to sound elements give sound elements. -/
theorem Sound.rotate (hereditary : Hereditary T N) {first : Instance} {others : List Instance}
    (prototypes : ∀ inst ∈ first :: others, inst.Sound T) {items : List Value}
    (values : ∀ item ∈ items, item.Sound T) (position : Nat) :
    ∀ item ∈ (rotate first others position items).1, item.Sound T := by
  induction items generalizing position with
  | nil => simp [Instance.rotate]
  | cons item rest ih =>
    obtain ⟨hitem, hrest⟩ := List.forall_mem_cons.mp values
    unfold Instance.rotate
    split
    · simpa using ⟨.none, ih hrest position⟩
    · have hprototype : Instance.Sound T
          (((first :: others)[position % (first :: others).length]?).getD first) := by
        rw [List.getElem?_eq_getElem (Nat.mod_lt _ (by simp)), Option.getD_some]
        exact prototypes _ (List.getElem_mem _)
      have happlied := hprototype.applied hereditary hitem position
      simpa using ⟨.template happlied, ih hrest (position + 1)⟩

/-- Applying a prototype reports ordinary problems only. -/
theorem ordinary_applied (inst : Instance) (value : Value) (position : Nat) :
    Ordinary (inst.applied value position).2 :=
  inst.ordinary_giveFirst value

/-- Applying prototypes in turn reports ordinary problems only. -/
theorem ordinary_rotate (first : Instance) (others : List Instance) (position : Nat)
    (items : List Value) : Ordinary (rotate first others position items).2 := by
  induction items generalizing position with
  | nil => simp [rotate]
  | cons item rest ih =>
    unfold rotate
    split
    · exact ih position
    · simpa using ⟨ordinary_applied _ item position, ih (position + 1)⟩

/-- Sound prototypes applied in turn to the elements of a sound value give a sound value. -/
theorem Sound.rotateOver (hereditary : Hereditary T N) {first : Instance} {others : List Instance}
    (prototypes : ∀ inst ∈ first :: others, inst.Sound T) {value : Value} (hvalue : value.Sound T)
    (mapValues : Bool) : (first.rotateOver others mapValues value).1.Sound T := by
  have hcoerced := hvalue.coerce mapValues
  unfold Instance.rotateOver
  split
  · exact .none
  · rename_i hstands
    rw [hstands] at hcoerced
    exact .template ((prototypes first List.mem_cons_self).applied hereditary hcoerced 0)
  · rename_i hstands
    rw [hstands] at hcoerced
    exact .list (Sound.rotate hereditary prototypes hcoerced 0)

/-- Applying prototypes in turn to a value reports ordinary problems only. -/
theorem ordinary_rotateOver (first : Instance) (others : List Instance) (mapValues : Bool)
    (value : Value) : Ordinary (first.rotateOver others mapValues value).2 := by
  unfold Instance.rotateOver
  split
  · simp
  · exact ordinary_applied first _ 0
  · exact ordinary_rotate first others 0 _

/-- A sound instance is sound with a row of sound elements. -/
theorem Sound.fillRow (sound : inst.Sound T) {row : List (String × Value)}
    (values : ∀ entry ∈ row, entry.2.Sound T) : (inst.fillRow row).Sound T := by
  induction row generalizing inst with
  | nil => exact sound
  | cons entry rest ih =>
    obtain ⟨hvalue, hrest⟩ := List.forall_mem_cons.mp values
    exact ih (sound.setIfDeclared entry.1 hvalue) hrest

/-- A sound prototype applied to sound streams side by side gives sound elements. -/
theorem Sound.zipFrom (sound : inst.Sound T) (position : Nat) {streams : List (String × List Value)}
    (values : ∀ stream ∈ streams, ∀ item ∈ stream.2, item.Sound T) :
    ∀ item ∈ inst.zipFrom position streams, item.Sound T := by
  induction position, streams using Instance.zipFrom.induct with
  | case1 position streams round finished =>
    rw [Instance.zipFrom, if_pos finished]
    simp
  | case2 position streams round unfinished ih =>
    obtain ⟨hrow, hleft⟩ := Round.forall_next values
    rw [Instance.zipFrom, if_neg unfinished]
    exact List.forall_mem_cons.mpr
      ⟨.template ((sound.fillRow hrow).numbered position), ih hleft⟩

/-- The streams of elements of sound values are sound. -/
theorem sound_streams (names : List String) {values : List Value}
    (hvalues : ∀ value ∈ values, value.Sound T) (mapValues : Bool) :
    ∀ stream ∈ names.zip (values.map (Value.elements mapValues)),
      ∀ item ∈ stream.2, item.Sound T := by
  intro stream mem
  obtain ⟨value, hvalue, hstream⟩ := List.mem_map.mp (List.of_mem_zip mem).2
  exact hstream ▸ (hvalues value hvalue).elements

/-- A sound prototype applied to sound values side by side gives a sound value. -/
theorem Sound.zipOver (sound : inst.Sound T) {values : List Value}
    (hvalues : ∀ value ∈ values, value.Sound T) (mapValues : Bool) :
    (inst.zipOver mapValues values).1.Sound T := by
  unfold Instance.zipOver
  split
  · exact .none
  · exact .list (sound.zipFrom 0 (sound_streams _ hvalues mapValues))

/-- Applying a prototype side by side reports ordinary problems only. -/
theorem ordinary_zipOver (inst : Instance) (mapValues : Bool) (values : List Value) :
    Ordinary (inst.zipOver mapValues values).2 := by
  unfold Instance.zipOver
  split
  · simp [Problem.isOrdinary]
  · dsimp only
    split <;> simp [Problem.isOrdinary]

end Instance

end TemplateMachine
