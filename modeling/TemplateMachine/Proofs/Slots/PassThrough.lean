import TemplateMachine.Proofs.Except
import TemplateMachine.Render.Operation

/-!
# Passing attributes through

Named arguments are filled from the scope of the running template: for each argument of the target
that is not there yet and not supplied by the machine, what the scope has under its name is stored.
An argument with a default is left out if the scope has no value for it; one without a default is
stored as nothing, and reported if no template in scope declares its name.

Loading an attribute looks further than that. A name that no template in scope declares may still
be the name of a dictionary, and then loading yields the dictionary where passing through finds
nothing. On every other name the two agree.
-/

namespace TemplateMachine

namespace Frame

variable {frame : Frame} {setting : Setting} {target : Template} {entries : Entries Value}
  {args : List FormalArg} {arg : FormalArg} {key : String}

/-- What loading an attribute yields, and what it reports. -/
def load (frame : Frame) (setting : Setting) (name : String) : Reported Value :=
  match frame.attribute? setting name with
  | some value => (value, [])
  | none => (.none, [.noSuchAttribute name])

/-- Loading an attribute pushes what it yields. -/
theorem operate_loadAttr {index : Nat} {name : String}
    (pooled : frame.template.text index = .ok name) (stack : Stack) :
    frame.operate setting stack (.loadAttr index) =
      stack.pushReported (frame.load setting name) := by
  simp only [operate, pooled, ok_bind, load]
  cases frame.attribute? setting name <;> rfl

/-- What passing through supplies an argument with: what the scope has under its name, or else
nothing, unless the argument has a default. -/
def supplied? (frame : Frame) (arg : FormalArg) : Option Value :=
  (frame.resolve? arg.name).join.or (if arg.default?.isSome then none else some .none)

/-- Passing through misses an argument if it has no default and no template in scope declares its
name. -/
def Misses (frame : Frame) (arg : FormalArg) : Prop :=
  arg.default? = none ∧ frame.resolve? arg.name = none

/-- Putting an argument in stores what it is supplied with under its name and nothing elsewhere. -/
theorem find?_passArg (key : String) : Entries.find? key (frame.passArg entries arg).1 =
    if arg.name = key then (frame.supplied? arg).or (Entries.find? key entries)
    else Entries.find? key entries := by
  rcases hresolve : frame.resolve? arg.name with _ | _ | value <;> cases hdefault : arg.default? <;>
    simp [passArg, supplied?, hresolve, hdefault, Entries.find?_insert]

/-- Putting an argument in reports it if it is missed. -/
theorem mem_passArg_problems : .noSuchAttributePassThrough key ∈ (frame.passArg entries arg).2 ↔
    arg.name = key ∧ frame.Misses arg := by
  rcases hresolve : frame.resolve? arg.name with _ | _ | value <;> cases hdefault : arg.default? <;>
    simp [passArg, Misses, hresolve, hdefault, eq_comm]

/-- Named arguments with one argument of a target put in, unless the machine supplies it or it is
there already. -/
def fillArg (frame : Frame) (target : Template) (entries : Entries Value) (arg : FormalArg) :
    Reported (Entries Value) :=
  if target.isIndexArg arg || Entries.hasKey arg.name entries then (entries, [])
  else frame.passArg entries arg

/-- Passing through fills in one argument after the other. -/
theorem passArgs_cons (frame : Frame) (target : Template) (entries : Entries Value)
    (arg : FormalArg) (rest : List FormalArg) :
    frame.passArgs target entries (arg :: rest) =
      ((frame.passArgs target (frame.fillArg target entries arg).1 rest).1,
        (frame.fillArg target entries arg).2 ++
          (frame.passArgs target (frame.fillArg target entries arg).1 rest).2) := by
  unfold fillArg
  rw [passArgs]
  split <;> rfl

/-- What passing through has for a name in an argument of a target: what the argument is supplied
with, if it has that name and is not left to the machine. -/
def suppliedAs? (frame : Frame) (target : Template) (key : String) (arg : FormalArg) :
    Option Value :=
  if arg.name = key ∧ target.isIndexArg arg = false then frame.supplied? arg else none

/-- An argument of a name that is not left to the machine is supplied with what the scope has under
the name. -/
theorem suppliedAs?_of_resolve? {value : Value} (supplied : target.isIndexArg arg = false)
    (inScope : frame.resolve? arg.name = some (some value)) :
    frame.suppliedAs? target arg.name arg = some value := by
  simp [suppliedAs?, supplied, supplied?, inScope]

/-- Whatever an argument is supplied with for a name is what the scope has under it, or nothing. -/
theorem eq_of_suppliedAs? {value : Value} (h : frame.suppliedAs? target key arg = some value) :
    value = (frame.resolve? key).join.getD .none := by
  unfold suppliedAs? at h
  split at h
  · rename_i named
    obtain ⟨rfl, -⟩ := named
    unfold supplied? at h
    cases hscope : (frame.resolve? arg.name).join <;> simp_all
  · cases h

/-- Filling in an argument keeps what is there, and stores what the argument is supplied with if
nothing is there under its name. -/
theorem find?_fillArg (key : String) : Entries.find? key (frame.fillArg target entries arg).1 =
    (Entries.find? key entries).or (frame.suppliedAs? target key arg) := by
  unfold fillArg suppliedAs?
  by_cases named : arg.name = key
  · subst named
    cases hindex : target.isIndexArg arg <;> cases held : Entries.find? arg.name entries <;>
      simp [Entries.hasKey, held, find?_passArg]
  · split <;> simp [find?_passArg, named]

/-- Filling in an argument reports it if it is missed and nothing is there under its name. -/
theorem mem_fillArg_problems :
    .noSuchAttributePassThrough key ∈ (frame.fillArg target entries arg).2 ↔
      Entries.find? key entries = none ∧
        arg.name = key ∧ target.isIndexArg arg = false ∧ frame.Misses arg := by
  unfold fillArg
  by_cases named : arg.name = key
  · subst named
    cases hindex : target.isIndexArg arg <;> cases held : Entries.find? arg.name entries <;>
      simp [Entries.hasKey, held, mem_passArg_problems]
  · split <;> simp [mem_passArg_problems, named]

/-- Passing through keeps what is there, and stores under any other name what the first argument has
that has something for that name. -/
theorem find?_passArgs (key : String) : Entries.find? key (frame.passArgs target entries args).1 =
    (Entries.find? key entries).or (args.findSome? (frame.suppliedAs? target key)) := by
  induction args generalizing entries with
  | nil => simp [passArgs]
  | cons arg rest ih =>
    rw [passArgs_cons, ih, find?_fillArg, Option.or_assoc, List.findSome?_cons]
    cases frame.suppliedAs? target key arg <;> simp

/-- Passing through reports a name if nothing is there under it and an argument of that name, not
left to the machine, is missed. -/
theorem mem_passArgs_problems :
    .noSuchAttributePassThrough key ∈ (frame.passArgs target entries args).2 ↔
      Entries.find? key entries = none ∧
        ∃ arg ∈ args, arg.name = key ∧ target.isIndexArg arg = false ∧ frame.Misses arg := by
  induction args generalizing entries with
  | nil => simp [passArgs]
  | cons arg rest ih =>
    rw [passArgs_cons, List.mem_append, ih, find?_fillArg, mem_fillArg_problems]
    -- an argument that is supplied before another of its name is missed is missed itself
    have hbefore : (∃ other ∈ rest, other.name = key ∧ target.isIndexArg other = false ∧
        frame.Misses other) → frame.suppliedAs? target key arg ≠ none →
        arg.name = key ∧ target.isIndexArg arg = false ∧ frame.Misses arg := by
      rintro ⟨other, -, hname, -, -, hresolve⟩ hsupplied
      unfold suppliedAs? at hsupplied
      split at hsupplied
      · rename_i named
        obtain ⟨rfl, hindex⟩ := named
        rw [hname] at hresolve
        refine ⟨rfl, hindex, ?_, hresolve⟩
        simpa [supplied?, hresolve] using hsupplied
      · exact absurd rfl hsupplied
    simp only [List.mem_cons, exists_eq_or_imp, Option.or_eq_none_iff]
    constructor
    · rintro (⟨absent, here⟩ | ⟨⟨absent, -⟩, later⟩)
      · exact ⟨absent, .inl here⟩
      · exact ⟨absent, .inr later⟩
    · rintro ⟨absent, here | later⟩
      · exact .inl ⟨absent, here⟩
      · by_cases supplied : frame.suppliedAs? target key arg = none
        · exact .inr ⟨⟨absent, supplied⟩, later⟩
        · exact .inl ⟨absent, hbefore later supplied⟩

/-- For an argument, passing through stores any value that loading its name yields, and reports it,
unless it has a default, if and only if loading its name reports it. -/
structure PassesAsLoaded (loaded : Reported Value) (passed : Reported (Entries Value))
    (arg : FormalArg) : Prop where
  stored : loaded.1.isNone = false → Entries.find? arg.name passed.1 = some loaded.1
  reported : arg.default? = none →
    (.noSuchAttributePassThrough arg.name ∈ passed.2 ↔ .noSuchAttribute arg.name ∈ loaded.2)

/-- Whatever passing through puts under a name is what the scope has under it, or nothing. -/
theorem eq_of_find?_passArgs {value : Value} (absent : Entries.find? key entries = none)
    (stored : Entries.find? key (frame.passArgs target entries args).1 = some value) :
    value = (frame.resolve? key).join.getD .none := by
  rw [find?_passArgs, absent, Option.none_or] at stored
  obtain ⟨arg, -, hsupplied⟩ := List.exists_of_findSome?_eq_some stored
  exact eq_of_suppliedAs? hsupplied

/-- Passing through stores a value that the scope has under the name of an argument. -/
theorem find?_passArgs_of_resolve? {value : Value} (mem : arg ∈ args)
    (supplied : target.isIndexArg arg = false) (absent : Entries.find? arg.name entries = none)
    (inScope : frame.resolve? arg.name = some (some value)) :
    Entries.find? arg.name (frame.passArgs target entries args).1 = some value := by
  cases stored : Entries.find? arg.name (frame.passArgs target entries args).1 with
  | none =>
    rw [find?_passArgs, absent, Option.none_or, List.findSome?_eq_none_iff] at stored
    have hnone := stored arg mem
    rw [suppliedAs?_of_resolve? supplied inScope] at hnone
    cases hnone
  | some other => simp [eq_of_find?_passArgs absent stored, inScope]

/-- Passing an argument through agrees with loading its name exactly if a template in scope declares
the name or no dictionary has it. -/
theorem passesAsLoaded_iff (setting : Setting) (mem : arg ∈ args)
    (supplied : target.isIndexArg arg = false) (absent : Entries.find? arg.name entries = none) :
    PassesAsLoaded (frame.load setting arg.name) (frame.passArgs target entries args) arg ↔
      frame.resolve? arg.name ≠ none ∨
        (frame.group setting).findDictionary? arg.name = none := by
  cases hscope : frame.resolve? arg.name with
  | some slot =>
    have hload : frame.load setting arg.name = (slot.getD .none, []) := by
      simp [load, attribute?, hscope]
    refine iff_of_true ⟨fun something => ?_, fun plain => ?_⟩ (.inl (by simp))
    · cases slot with
      | none => simp [hload, Value.isNone] at something
      | some value =>
        rw [hload]
        exact find?_passArgs_of_resolve? mem supplied absent hscope
    · have hkept (other : FormalArg) (same : other.name = arg.name) : ¬ frame.Misses other := by
        simp [Misses, same, hscope]
      simp only [mem_passArgs_problems, hload, List.not_mem_nil, iff_false]
      rintro ⟨-, other, -, same, -, missed⟩
      exact hkept other same missed
  | none =>
    cases hdictionary : (frame.group setting).findDictionary? arg.name with
    | none =>
      have hload : frame.load setting arg.name = (.none, [.noSuchAttribute arg.name]) := by
        simp [load, attribute?, hscope, hdictionary]
      refine iff_of_true ⟨fun something => ?_, fun plain => ?_⟩ (.inr rfl)
      · simp [hload, Value.isNone] at something
      · simp [mem_passArgs_problems, hload, absent]
        exact ⟨arg, mem, rfl, supplied, plain, hscope⟩
    | some dictionary =>
      have hload : frame.load setting arg.name = (.map dictionary, []) := by
        simp [load, attribute?, hscope, hdictionary]
      refine iff_of_false (fun passes => ?_) (by simp)
      have hstored := passes.stored (by simp [hload, Value.isNone])
      have hnothing := eq_of_find?_passArgs absent hstored
      simp [hload, hscope] at hnothing

/-- Passing through the arguments of a template fills in the named arguments on the operand stack.
Under a name that is not there yet it stores nothing but what the scope has. It agrees with loading
on an argument that it fills in if and only if a template in scope declares the name or no
dictionary has it. -/
theorem operate_passThru {index : Nat} {name : String}
    (pooled : frame.template.text index = .ok name)
    (found : (frame.group setting).lookup? name = some target) (entries : Entries Value)
    (rest : Stack) : ∃ (passed : Entries Value) (problems : List Problem),
      frame.operate setting (.arguments entries :: rest) (.passThru index) =
        .ok (.arguments passed :: rest, problems) ∧
      (∀ position key, frame.template.text position = .ok key → ∀ stack,
        frame.operate setting stack (.loadAttr position) =
          stack.pushReported (frame.load setting key)) ∧
      ∀ arg ∈ target.args, target.isIndexArg arg = false → Entries.find? arg.name entries = none →
        (∀ value, Entries.find? arg.name passed = some value →
          value = (frame.resolve? arg.name).join.getD .none) ∧
        (PassesAsLoaded (frame.load setting arg.name) (passed, problems) arg ↔
          frame.resolve? arg.name ≠ none ∨
            (frame.group setting).findDictionary? arg.name = none) := by
  refine ⟨(frame.passArgs target entries target.args).1,
    (frame.passArgs target entries target.args).2, ?_,
    fun position key pooled stack => operate_loadAttr pooled stack,
    fun arg mem supplied absent => ⟨fun value => eq_of_find?_passArgs absent,
      passesAsLoaded_iff setting mem supplied absent⟩⟩
  simp only [operate, pooled, ok_bind, Stack.popArguments, passThrough, found]
  rfl

end Frame

/-- A template that declares no argument and refers to a dictionary and to a swatch. -/
def paletteInstance : Instance :=
  .ofTemplate { Template.blank "palette" with pool := ["colors", "swatch"] } ⟨0⟩

/-- The template of a swatch, which has to be given the colors. -/
def swatchTemplate : Template :=
  { Template.blank "swatch" with
    args := [⟨"colors", 0, none⟩]
    hasFormalArgs := true }

/-- The frame of a palette in a group with a dictionary of colors, and what stays the same there. -/
def paletteFrame : Frame × Setting :=
  (.root paletteInstance,
    ⟨⟨[{ Group.empty ⟨0⟩ with
      templates := [("swatch", swatchTemplate)]
      dictionaries := [("colors", [("red", .string "#f00")])] }]⟩, "en", 10⟩)

/-- In a palette the colors are loaded from the dictionary. Passed through to a swatch they are
nothing, and reported as undefined. -/
theorem palette_operate_passThru :
    paletteFrame.1.operate paletteFrame.2 [] (.loadAttr 0) =
      .ok ([.value (.map [("red", .string "#f00")])], []) ∧
    paletteFrame.1.operate paletteFrame.2 [.arguments []] (.passThru 1) =
      .ok ([.arguments [("colors", .none)]], [.noSuchAttributePassThrough "colors"]) ∧
    ¬ Frame.PassesAsLoaded (paletteFrame.1.load paletteFrame.2 "colors")
      ([("colors", .none)], [.noSuchAttributePassThrough "colors"]) ⟨"colors", 0, none⟩ := by
  have hpooled : paletteFrame.1.template.text 1 = .ok "swatch" := rfl
  have hfound : (paletteFrame.1.group paletteFrame.2).lookup? "swatch" = some swatchTemplate := rfl
  have hoperate : paletteFrame.1.operate paletteFrame.2 [.arguments []] (.passThru 1) =
    .ok ([.arguments [("colors", .none)]], [.noSuchAttributePassThrough "colors"]) := rfl
  obtain ⟨passed, problems, hpassed, hload, hargs⟩ :=
    Frame.operate_passThru hpooled hfound [] []
  obtain ⟨rfl, rfl⟩ : passed = [("colors", .none)] ∧
      problems = [.noSuchAttributePassThrough "colors"] := by
    simpa using hpassed.symm.trans hoperate
  obtain ⟨-, hagrees⟩ := hargs ⟨"colors", 0, none⟩ (by simp [swatchTemplate]) rfl rfl
  refine ⟨hload 0 "colors" rfl [], hoperate, fun passes => ?_⟩
  rcases hagrees.mp passes with declared | missing
  · exact declared rfl
  · cases missing

end TemplateMachine
