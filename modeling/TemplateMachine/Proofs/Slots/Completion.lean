import Mathlib.Data.List.Perm.Subperm
import TemplateMachine.Proofs.Slots.Binding
import TemplateMachine.Proofs.Slots.Origin
import TemplateMachine.Proofs.Slots.PassThrough

/-!
# Completing arguments from the scope

An instance is often given some arguments by name and the others from the scope: the named arguments
are filled in for the target by passing through, and then all of them are given to an instance of
it. The two steps decide separately which arguments are declared, which belong to the machine, which
have a default and which are missing. Together they leave no gap. Whatever passing through adds is
declared, and whatever giving by name asks for has been added, so that nothing is wrong with the
arguments, whether the scope has values for them or not.

A name that no template in scope declares is still reported by the first step.
-/

namespace TemplateMachine

namespace Frame

variable {frame : Frame} {target : Template} {entries : Entries Value} {args : List FormalArg}
  {arg : FormalArg} {key : String}

/-- What the nearest template in scope that declares a name holds under it, if anything. -/
def nearest? (frame : Frame) (name : String) : Option Value :=
  (frame.scope.find? fun inst => (inst.template.arg? name).isSome).bind (·.attribute? name)

/-- The scope has for a name what the nearest template holds that declares it. -/
theorem join_resolve? (frame : Frame) (name : String) :
    (frame.resolve? name).join = frame.nearest? name := by
  unfold resolve? nearest?
  induction frame.scope with
  | nil => rfl
  | cons inst rest ih =>
    cases found : inst.template.arg? name with
    | none => simpa [resolveIn?, found] using ih
    | some arg => simp [resolveIn?, found, Instance.attribute?]

/-- Where no two arguments have the same name, what passing through has for the name of an argument
is what it has in that argument. -/
theorem findSome?_suppliedAs? (names : (args.map FormalArg.name).Nodup) (mem : arg ∈ args) :
    args.findSome? (frame.suppliedAs? target arg.name) = frame.suppliedAs? target arg.name arg := by
  have hother {other : FormalArg} (differs : other.name ≠ arg.name) :
      frame.suppliedAs? target arg.name other = none := by
    simp [suppliedAs?, differs]
  induction args with
  | nil => simp at mem
  | cons first rest ih =>
    obtain ⟨hfresh, hrest⟩ := List.nodup_cons.mp names
    rw [List.findSome?_cons]
    rcases List.mem_cons.mp mem with rfl | later
    · have hnone : rest.findSome? (frame.suppliedAs? target arg.name) = none := by
        rw [List.findSome?_eq_none_iff]
        exact fun other hmem => hother fun same => hfresh (same ▸ List.mem_map_of_mem hmem)
      cases hfirst : frame.suppliedAs? target arg.name arg <;> simp [hnone]
    · have hfirst := hother fun same : first.name = arg.name =>
        hfresh (same ▸ List.mem_map_of_mem later)
      rw [hfirst]
      exact ih hrest later

/-- Passing through has for an argument what is there under its name already, or else what it
supplies the argument with if that is not left to the machine. -/
theorem find?_passArgs_name (names : (args.map FormalArg.name).Nodup) (mem : arg ∈ args) :
    Entries.find? arg.name (frame.passArgs target entries args).1 =
      (Entries.find? arg.name entries).or
        (if target.isIndexArg arg then none else frame.supplied? arg) := by
  rw [find?_passArgs, findSome?_suppliedAs? names mem, suppliedAs?]
  cases target.isIndexArg arg <;> simp

/-- Passing through adds no names but those of arguments that are not left to the machine. -/
theorem mem_keys_passArgs (mem : key ∈ Entries.keys (frame.passArgs target entries args).1) :
    key ∈ Entries.keys entries ∨
      ∃ arg ∈ args, target.isIndexArg arg = false ∧ arg.name = key := by
  by_cases there : key ∈ Entries.keys entries
  · exact .inl there
  have hadded := mt Entries.find?_eq_none_iff.mp (not_not_intro mem)
  rw [find?_passArgs, Entries.find?_eq_none_iff.mpr there, Option.none_or,
    List.findSome?_eq_none_iff] at hadded
  push Not at hadded
  obtain ⟨arg, hmem, hsupplied⟩ := hadded
  unfold suppliedAs? at hsupplied
  split at hsupplied
  · rename_i named
    exact .inr ⟨arg, hmem, named.2, named.1⟩
  · exact absurd rfl hsupplied

/-- After passing through, nothing is missing that has no default and is not left to the machine. -/
theorem mem_keys_passArgs_of_required (names : (args.map FormalArg.name).Nodup) (mem : arg ∈ args)
    (supplied : target.isIndexArg arg = false) (plain : arg.default? = none) :
    arg.name ∈ Entries.keys (frame.passArgs target entries args).1 := by
  by_contra missing
  have hnone := Entries.find?_eq_none_iff.mpr missing
  rw [find?_passArgs_name names mem, supplied, supplied?, plain] at hnone
  simp at hnone

/-- Filling in an argument stores no name twice. -/
theorem nodup_keys_fillArg (nodup : (Entries.keys entries).Nodup) :
    (Entries.keys (frame.fillArg target entries arg).1).Nodup := by
  unfold fillArg
  split
  · exact nodup
  · rename_i skipped
    obtain ⟨-, habsent⟩ :
        target.isIndexArg arg = false ∧ Entries.hasKey arg.name entries = false := by
      simpa using skipped
    have hfresh : arg.name ∉ Entries.keys entries :=
      Entries.find?_eq_none_iff.mp (by simpa [Entries.hasKey] using habsent)
    have hinsert (value : Value) :
        (Entries.keys (Entries.insert arg.name value entries)).Nodup := by
      have hperm := (Entries.perm_insert hfresh value).map Prod.fst
      exact hperm.nodup_iff.mpr (List.nodup_cons.mpr ⟨hfresh, nodup⟩)
    unfold passArg
    split
    · exact hinsert _
    · exact hinsert _
    · exact hinsert _
    · exact nodup

/-- Passing through stores no name twice. -/
theorem nodup_keys_passArgs (nodup : (Entries.keys entries).Nodup) :
    (Entries.keys (frame.passArgs target entries args).1).Nodup := by
  induction args generalizing entries with
  | nil => exact nodup
  | cons arg rest ih =>
    rw [passArgs_cons]
    exact ih (nodup_keys_fillArg nodup)

/-- Passing through reports nothing but attributes that are not in scope. -/
theorem passArgs_problems {problem : Problem}
    (mem : problem ∈ (frame.passArgs target entries args).2) :
    ∃ name, problem = .noSuchAttributePassThrough name := by
  induction args generalizing entries with
  | nil => simp [passArgs] at mem
  | cons arg rest ih =>
    rw [passArgs_cons, List.mem_append] at mem
    rcases mem with here | later
    · unfold fillArg passArg at here
      split at here
      · simp at here
      · split at here
        · simp at here
        · simp at here
        · exact ⟨arg.name, List.mem_singleton.mp here⟩
        · simp at here
    · exact ih later

end Frame

namespace Instance

variable {inst : Instance} {entries : Entries Value}

/-- Nothing is wrong with named arguments that a caller supplies, each of them once, if none is
missing that has no default. -/
theorem Aligned.giveNamed_eq (aligned : inst.Aligned)
    (explicit : inst.template.hasFormalArgs = true) (nodup : (Entries.keys entries).Nodup)
    (declared : ∀ key ∈ Entries.keys entries, ∃ arg ∈ inst.template.callerArgs, arg.name = key)
    (enough : ∀ arg ∈ inst.template.callerArgs, arg.default? = none →
      arg.name ∈ Entries.keys entries) :
    inst.giveNamed entries = ((inst.setNamed entries).1, []) := by
  have halike := inst.alike_setNamed entries
  have hproblems : (inst.setNamed entries).2 = [] := by
    rw [setNamed_problems, List.map_eq_nil_iff, List.filter_eq_nil_iff]
    intro entry mem
    obtain ⟨arg, hcaller, hname⟩ := declared entry.1 (List.mem_map_of_mem mem)
    simp [← hname, aligned.arg?_name (List.mem_of_mem_filter hcaller)]
  have hfew : entries.length ≤ (inst.setNamed entries).1.template.arity := by
    have hsubset : Entries.keys entries ⊆ inst.template.callerArgs.map FormalArg.name :=
      fun key mem => List.mem_map.mpr (declared key mem)
    have hlength := (List.subperm_of_subset nodup hsubset).length_le
    simpa [halike.template, Template.arity, Entries.keys] using hlength
  have hlacks : (inst.setNamed entries).1.lacksArgument = false := by
    rw [lacksArgument, halike.template, List.any_eq_false]
    intro arg mem lacks
    obtain ⟨⟨hdefault, hsupplied⟩, hempty⟩ : (arg.default?.isNone = true ∧
        inst.template.isIndexArg arg = false) ∧
        (inst.setNamed entries).1.slot? arg.slot = none := by simpa using lacks
    rw [aligned.slot?_setNamed mem nodup, Option.or_eq_none_iff] at hempty
    have hcaller : arg ∈ inst.template.callerArgs := List.mem_filter.mpr ⟨mem, by simp [hsupplied]⟩
    exact Entries.find?_eq_none_iff.mp hempty.1 (enough arg hcaller (by simpa using hdefault))
  rw [giveNamed_eq_of_setNamed explicit (Prod.ext rfl hproblems) hfew, hlacks]
  rfl

/-- The arguments of an instance are completed from a scope: what was given by name is there; any
other argument that a caller supplies holds what the nearest template in scope has that declares its
name, or if that is nothing, it holds nothing and counts as set, unless there is a default for it.
Arguments of the machine are left unset. -/
structure Completed (inst : Instance) (frame : Frame) (entries : Entries Value) : Prop where
  given : ∀ arg ∈ inst.template.callerArgs, ∀ value,
    Entries.find? arg.name entries = some value → inst.attribute? arg.name = some value
  required : ∀ arg ∈ inst.template.callerArgs, Entries.find? arg.name entries = none →
    arg.default? = none →
      inst.attribute? arg.name = some ((frame.nearest? arg.name).getD .none)
  optional : ∀ arg ∈ inst.template.callerArgs, Entries.find? arg.name entries = none →
    arg.default?.isSome = true → inst.attribute? arg.name = frame.nearest? arg.name
  machine : ∀ arg ∈ inst.template.args, inst.template.isIndexArg arg = true →
    inst.attribute? arg.name = none

end Instance

namespace Frame

variable {frame : Frame} {inst : Instance} {entries : Entries Value}

/-- An instance without arguments that is given named arguments, after passing through has filled
them in for its template, has the arguments completed from the scope. -/
theorem completed_setNamed_passArgs (aligned : inst.Aligned)
    (unset : ∀ arg ∈ inst.template.args, inst.slot? arg.slot = none)
    (nodup : (Entries.keys entries).Nodup)
    (declared : ∀ key ∈ Entries.keys entries, ∃ arg ∈ inst.template.callerArgs, arg.name = key) :
    (inst.setNamed (frame.passArgs inst.template entries inst.template.args).1).1.Completed frame
      entries := by
  let passed := (frame.passArgs inst.template entries inst.template.args).1
  have halike := inst.alike_setNamed passed
  have hattribute {arg : FormalArg} (mem : arg ∈ inst.template.args) :
      (inst.setNamed passed).1.attribute? arg.name = (Entries.find? arg.name entries).or
        (if inst.template.isIndexArg arg then none else frame.supplied? arg) := by
    rw [halike.attribute?_name aligned mem, aligned.slot?_setNamed mem (nodup_keys_passArgs nodup),
      unset arg mem, Option.or_none, find?_passArgs_name aligned.names mem]
  have hcaller {arg : FormalArg} (mem : arg ∈ (inst.setNamed passed).1.template.callerArgs) :
      (inst.setNamed passed).1.attribute? arg.name =
        (Entries.find? arg.name entries).or (frame.supplied? arg) := by
    rw [halike.template] at mem
    obtain ⟨hmem, hsupplied⟩ := List.mem_filter.mp mem
    rw [hattribute hmem, if_neg (by simpa using hsupplied)]
  refine ⟨fun arg mem value given => ?_, fun arg mem absent plain => ?_,
    fun arg mem absent default => ?_, fun arg mem index => ?_⟩
  · rw [hcaller mem, given, Option.some_or]
  · rw [hcaller mem, absent, Option.none_or, supplied?, join_resolve?, plain]
    cases frame.nearest? arg.name <;> rfl
  · rw [hcaller mem, absent, Option.none_or, supplied?, join_resolve?, if_pos default,
      Option.or_none]
  · rw [halike.template] at mem index
    have habsent : Entries.find? arg.name entries = none := by
      rw [Entries.find?_eq_none_iff]
      intro there
      obtain ⟨other, hother, hname⟩ := declared arg.name there
      obtain ⟨hmem, hsupplied⟩ := List.mem_filter.mp hother
      obtain rfl := List.inj_on_of_nodup_map aligned.names hmem mem hname
      simp [index] at hsupplied
    rw [hattribute mem, habsent, if_pos index]
    rfl

/-- Passing through to a template with an explicit argument list and giving what results by name to
an instance of it completes its arguments from the scope, if the named arguments at the start are
declared and none of them belongs to the machine. The second step reports nothing, and the first
one nothing but attributes that are not in scope. -/
theorem operate_passThru_newBoxArgs {identifiers : IdentifierClass} {target : Template}
    (reachable : target.Reachable identifiers) (explicit : target.hasFormalArgs = true)
    (frame : Frame) (setting : Setting)
    {passing constructing : Nat} {name : String}
    (passed_name : frame.template.text passing = .ok name)
    (constructed_name : frame.template.text constructing = .ok name)
    (found : (frame.group setting).lookup? name = some target) {entries : Entries Value}
    (nodup : (Entries.keys entries).Nodup)
    (declared : ∀ key ∈ Entries.keys entries, ∃ arg ∈ target.callerArgs, arg.name = key)
    (rest : Stack) : ∃ (passed : Entries Value) (problems : List Problem) (inst : Instance),
      frame.operate setting (.arguments entries :: rest) (.passThru passing) =
        .ok (.arguments passed :: rest, problems) ∧
      (∀ problem ∈ problems, ∃ key, problem = .noSuchAttributePassThrough key) ∧
      frame.operate setting (.arguments passed :: rest) (.newBoxArgs constructing) =
        .ok (rest.push (.template inst), []) ∧
      inst.template = target ∧ inst.Completed frame entries := by
  let created := (frame.group setting).create target
  let passed := (frame.passArgs target entries target.args).1
  have haligned : created.Aligned := by
    have hcreated : created.Reachable identifiers := .create reachable _
    have hsound := hcreated.sound Template.buildsInto_inOrder fun _ absurd => absurd.elim
    exact hsound.aligned hsound.template.holds.names
  have hunset : ∀ arg ∈ created.template.args, created.slot? arg.slot = none :=
    fun arg _ => Instance.slot?_ofTemplate _ _ arg.slot
  have hnames : ∀ key ∈ Entries.keys passed, ∃ arg ∈ target.callerArgs, arg.name = key := by
    intro key mem
    rcases mem_keys_passArgs mem with there | ⟨arg, hmem, hsupplied, hname⟩
    · exact declared key there
    · exact ⟨arg, List.mem_filter.mpr ⟨hmem, by simp [hsupplied]⟩, hname⟩
  have henough : ∀ arg ∈ target.callerArgs, arg.default? = none →
      arg.name ∈ Entries.keys passed := by
    intro arg mem plain
    obtain ⟨hmem, hsupplied⟩ := List.mem_filter.mp mem
    exact mem_keys_passArgs_of_required haligned.names hmem (by simpa using hsupplied) plain
  have hgiven : created.giveNamed passed = ((created.setNamed passed).1, []) :=
    haligned.giveNamed_eq explicit (nodup_keys_passArgs nodup) hnames henough
  have hinst : frame.instanceOf? setting name = some created := by
    rw [instanceOf?, Group.instanceOf?, found]
    rfl
  refine ⟨passed, (frame.passArgs target entries target.args).2, (created.setNamed passed).1, ?_,
    fun problem mem => passArgs_problems mem, ?_, (created.alike_setNamed passed).template,
    completed_setNamed_passArgs haligned hunset nodup declared⟩
  · simp only [operate, passed_name, ok_bind, Stack.popArguments, passThrough, found]
    rfl
  · have hoperate : frame.operate setting (.arguments passed :: rest) (.newBoxArgs constructing) =
        .ok (rest.push (.template (created.giveNamed passed).1), (created.giveNamed passed).2) := by
      simp only [operate, constructed_name, ok_bind, Stack.popArguments, hinst, Stack.pushInstance]
      rfl
    rw [hoperate, hgiven]

end Frame

/-- A draft with an argument that is given, two that are looked for in the scope, and two with
defaults. -/
def letterDraft : Draft :=
  (((((Draft.named "letter").arg "to" none).arg "text" none).arg "from" none).arg "mark"
    (some (.literal (.string "!")))).arg "seal" (some (.literal (.string "-")))

/-- The template of a letter. -/
def letterTemplate : Template :=
  { Template.blank "letter" with
    args := [⟨"to", 0, none⟩, ⟨"text", 1, none⟩, ⟨"from", 2, none⟩,
      ⟨"mark", 3, some (.literal (.string "!"))⟩, ⟨"seal", 4, some (.literal (.string "-"))⟩]
    hasFormalArgs := true }

/-- A desk that refers to letters and has a text but no mark. -/
def deskInstance : Instance where
  template := { Template.blank "desk" with
    pool := ["letter"]
    args := [⟨"text", 0, none⟩, ⟨"mark", 1, none⟩]
    hasFormalArgs := true }
  locals := [some (.string "hello"), none]
  group := ⟨0⟩

/-- An office that has a mark and a seal. -/
def officeInstance : Instance where
  template := { Template.blank "office" with
    args := [⟨"mark", 0, none⟩, ⟨"seal", 1, none⟩]
    hasFormalArgs := true }
  locals := [some (.string "?"), some (.string "+")]
  group := ⟨0⟩

/-- The frame of a desk in an office and in a group with letters, and what stays the same there. -/
def deskFrame : Frame × Setting :=
  ((Frame.root officeInstance).child deskInstance,
    ⟨⟨[{ Group.empty ⟨0⟩ with templates := [("letter", letterTemplate)] }]⟩, "en", 10⟩)

/-- A letter that is given its addressee gets the text from the desk and the seal from the office.
It gets no mark, since the desk declares that name and leaves it unset, and nothing for the sender,
whom nobody declares; that is all that is reported. -/
theorem letter_operate_passThru : ∃ (passed : Entries Value) (inst : Instance),
    deskFrame.1.operate deskFrame.2 [.arguments [("to", .string "you")]] (.passThru 0) =
      .ok ([.arguments passed], [.noSuchAttributePassThrough "from"]) ∧
    deskFrame.1.operate deskFrame.2 [.arguments passed] (.newBoxArgs 0) =
      .ok ([.value (.template inst)], []) ∧
    inst.attribute? "to" = some (.string "you") ∧
    inst.attribute? "text" = some (.string "hello") ∧
    inst.attribute? "from" = some .none ∧
    inst.attribute? "mark" = none ∧
    inst.attribute? "seal" = some (.string "+") := by
  have hmade : letterDraft.Made unicodeIdentifiers fun _ => False :=
    (((((Draft.Made.named "letter").arg "to").arg "text").arg "from").argWithDefault "mark"
      (.literal (.string "!"))).argWithDefault "seal" (.literal (.string "-"))
  have hreachable : letterTemplate.Reachable unicodeIdentifiers := .built hmade rfl
  have hpooled : deskFrame.1.template.text 0 = .ok "letter" := rfl
  have hfound : (deskFrame.1.group deskFrame.2).lookup? "letter" = some letterTemplate := rfl
  have hnodup : (Entries.keys [("to", Value.string "you")]).Nodup := by decide
  have hcaller : letterTemplate.callerArgs = letterTemplate.args := rfl
  have hdeclared : ∀ key ∈ Entries.keys [("to", Value.string "you")],
      ∃ arg ∈ letterTemplate.callerArgs, arg.name = key := by
    rw [hcaller]
    simp [Entries.keys, letterTemplate]
  obtain ⟨passed, problems, inst, hpassed, -, hinst, htemplate, hcompleted⟩ :=
    Frame.operate_passThru_newBoxArgs hreachable rfl deskFrame.1 deskFrame.2 hpooled hpooled hfound
      hnodup hdeclared []
  have hproblems : problems = [.noSuchAttributePassThrough "from"] :=
    (Prod.ext_iff.mp (Except.ok.inj hpassed)).2.symm
  have hargs {arg : FormalArg} (index : Nat) (here : letterTemplate.args[index]? = some arg) :
      arg ∈ inst.template.callerArgs := by
    rw [htemplate, hcaller]
    exact List.mem_of_getElem? here
  refine ⟨passed, inst, hproblems ▸ hpassed, hinst, ?_, ?_, ?_, ?_, ?_⟩
  · exact hcompleted.given _ (hargs 0 rfl) _ rfl
  · exact hcompleted.required _ (hargs 1 rfl) rfl rfl
  · exact hcompleted.required _ (hargs 2 rfl) rfl rfl
  · exact hcompleted.optional _ (hargs 3 rfl) rfl rfl
  · exact hcompleted.optional _ (hargs 4 rfl) rfl rfl

end TemplateMachine
