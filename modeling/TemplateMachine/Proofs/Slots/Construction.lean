import TemplateMachine.Proofs.Slots.Binding
import TemplateMachine.Proofs.Slots.Origin

/-!
# Construction by position and by name

An instance is given its arguments in one of two ways: values by position, or values under names.
Each way decides for itself which arguments are missing. By position this is a matter of numbers,
those of the arguments that a caller supplies and of the defaults. By name it is a matter of slots,
of which none may be empty that has no default.

The two agree if the arguments are in the order of calls: first those that a caller has to supply,
then those with a default, and last those of the machine. A template that is built has this order
if its draft declares no argument without a default after one with a default, and leaves the index
names of an anonymous template to the machine.
-/

namespace TemplateMachine

/-- Where an element has a property only if those before it have it, the elements with the property
are the first ones. -/
theorem lt_countP_iff {α : Type} {p : α → Bool} {l : List α}
    (ordered : l.Pairwise fun earlier later => p later = true → p earlier = true) {position : Nat}
    {a : α} (here : l[position]? = some a) : position < l.countP p ↔ p a = true := by
  induction l generalizing position with
  | nil => simp at here
  | cons first rest ih =>
    obtain ⟨hfirst, hrest⟩ := List.pairwise_cons.mp ordered
    cases holds : p first with
    | true =>
      cases position with
      | zero =>
        obtain rfl : first = a := by simpa using here
        simp [holds]
      | succ position =>
        have hlater : rest[position]? = some a := by simpa using here
        simpa [holds] using ih hrest hlater
    | false =>
      have hnone : ∀ b ∈ first :: rest, p b = false := by
        intro b mem
        rcases List.mem_cons.mp mem with rfl | later
        · exact holds
        · simpa [holds] using hfirst b later
      have hcount : (first :: rest).countP p = 0 := by simpa using hnone
      simp [hcount, hnone a (List.mem_of_getElem? here)]

namespace Template

variable {template : Template}

/-- The arguments are in the order of calls: first those that a caller supplies, those without a
default before those with one, and then those of the machine, which have no defaults. -/
structure Regular (template : Template) : Prop where
  split : template.args = template.callerArgs ++ template.args.filter template.isIndexArg
  ordered : template.callerArgs.Pairwise fun earlier later =>
    later.default?.isNone = true → earlier.default?.isNone = true
  plain : ∀ arg ∈ template.args, template.isIndexArg arg = true → arg.default? = none

/-- The number of arguments that a caller has to supply. -/
def required (template : Template) : Nat :=
  template.callerArgs.countP (·.default?.isNone)

/-- What a caller has to supply is what a caller can supply less the defaults. -/
theorem Regular.arity_sub_defaultCount (regular : template.Regular) :
    template.arity - template.defaultCount = template.required := by
  have hmachine : (template.args.filter template.isIndexArg).countP (·.default?.isSome) = 0 := by
    rw [List.countP_eq_zero]
    intro arg mem
    obtain ⟨hmem, hindex⟩ := List.mem_filter.mp mem
    simp [regular.plain arg hmem hindex]
  have hdefaults : template.defaultCount = template.callerArgs.countP (·.default?.isSome) := by
    rw [defaultCount, regular.split, List.countP_append, hmachine, Nat.add_zero]
  have hsplit := List.length_eq_countP_add_countP (·.default?.isSome) (l := template.callerArgs)
  have hwithout : template.required =
      template.callerArgs.countP (fun arg => decide ¬arg.default?.isSome = true) :=
    List.countP_congr fun arg _ => by simp
  rw [arity, hdefaults, hwithout]
  omega

/-- An argument that a caller supplies has the same position among all arguments. -/
theorem Regular.getElem?_args (regular : template.Regular) {position : Nat} {arg : FormalArg}
    (here : template.callerArgs[position]? = some arg) : template.args[position]? = some arg := by
  obtain ⟨inside, -⟩ := List.getElem?_eq_some_iff.mp here
  rw [regular.split, List.getElem?_append_left inside, here]

/-- The order of calls does not depend on the identity. -/
theorem Regular.identified (regular : template.Regular) (identity : Option Nat) :
    Regular { template with identity := identity } :=
  ⟨regular.split, regular.ordered, regular.plain⟩

/-- Arguments that a caller supplies, those without a default first, followed by arguments of the
machine are in the order of calls. -/
theorem regular_of_append {own received : List FormalArg} (args : template.args = own ++ received)
    (supplied : ∀ arg ∈ own, template.isIndexArg arg = false)
    (plain : ∀ arg ∈ received, template.isIndexArg arg = true ∧ arg.default? = none)
    (ordered : own.Pairwise fun earlier later =>
      later.default? = none → earlier.default? = none) : template.Regular := by
  have hcaller : template.callerArgs = own := by
    have hown : own.filter (!template.isIndexArg ·) = own :=
      List.filter_eq_self.mpr fun arg mem => by simp [supplied arg mem]
    have hreceived : received.filter (!template.isIndexArg ·) = [] :=
      List.filter_eq_nil_iff.mpr fun arg mem => by simp [(plain arg mem).1]
    rw [callerArgs, args, List.filter_append, hown, hreceived, List.append_nil]
  have hmachine : template.args.filter template.isIndexArg = received := by
    have hown : own.filter template.isIndexArg = [] :=
      List.filter_eq_nil_iff.mpr fun arg mem => by simp [supplied arg mem]
    have hreceived : received.filter template.isIndexArg = received :=
      List.filter_eq_self.mpr fun arg mem => (plain arg mem).1
    rw [args, List.filter_append, hown, hreceived, List.nil_append]
  refine ⟨by rw [hcaller, hmachine, args], by simpa [hcaller] using ordered,
    fun arg mem index => ?_⟩
  rw [args, List.mem_append] at mem
  rcases mem with hown | hreceived
  · simp [supplied arg hown] at index
  · exact (plain arg hreceived).2

end Template

namespace Draft

variable {draft : Draft} {template : Template}

/-- A draft with an explicit argument list that declares no argument without a default after one
with a default, and leaves the index names to the machine if it is anonymous. -/
structure InCallOrder (draft : Draft) : Prop where
  explicit : draft.hasFormalArgs = true
  own : draft.anonymous = true → ∀ arg ∈ draft.args, arg.name ∉ indexArgs
  ordered : draft.args.Pairwise fun earlier later =>
    later.default? = none → earlier.default? = none

/-- An anonymous template whose draft is in the order of calls receives both index arguments after
those that a caller supplies. -/
theorem InCallOrder.completeArgs_eq (inOrder : draft.InCallOrder)
    (anonymous : draft.anonymous = true) : ∃ supplied : List FormalArg,
      draft.completeArgs = supplied ++
        [⟨"i", supplied.length, none⟩, ⟨"i0", supplied.length + 1, none⟩] ∧
      (∀ arg ∈ supplied, arg.name ∉ indexArgs) ∧
      supplied.Pairwise fun earlier later => later.default? = none → earlier.default? = none := by
  have happend {supplied : List FormalArg} (plain : ∀ arg ∈ supplied, arg.name ∉ indexArgs) :
      indexArgs.foldl (fun args name =>
        if args.any (·.name == name) then args else appendArg args name none) supplied =
        supplied ++ [⟨"i", supplied.length, none⟩, ⟨"i0", supplied.length + 1, none⟩] := by
    have hfresh {name : String} (mem : name ∈ indexArgs) :
        supplied.any (·.name == name) = false := by
      simpa using fun arg declared (same : arg.name = name) => plain arg declared (same ▸ mem)
    have hfirst := hfresh (show "i" ∈ indexArgs by simp [indexArgs])
    have hsecond := hfresh (show "i0" ∈ indexArgs by simp [indexArgs])
    simp only [indexArgs, List.foldl_cons, List.foldl_nil, hfirst, Bool.false_eq_true, if_false,
      appendArg, List.any_append, hsecond]
    simp
  cases hargs : draft.args with
  | nil =>
    refine ⟨appendArg [] implicitArg none, ?_, by simp [appendArg, implicitArg, indexArgs],
      by simp [appendArg]⟩
    rw [← happend (by simp [appendArg, implicitArg, indexArgs])]
    simp [completeArgs, anonymous, hargs]
  | cons first others =>
    refine ⟨draft.args, ?_, inOrder.own anonymous, inOrder.ordered⟩
    rw [← happend (inOrder.own anonymous)]
    simp [completeArgs, anonymous, hargs]

/-- What a draft in the order of calls is built into has its arguments in that order. -/
theorem InCallOrder.regular {identifiers : IdentifierClass} (inOrder : draft.InCallOrder)
    (built : draft.build identifiers = .ok template) : template.Regular := by
  obtain ⟨rfl, -⟩ := eq_of_build_eq_ok built
  cases hanonymous : draft.anonymous with
  | false =>
    have hargs : draft.completeArgs = draft.args ++ [] := by simp [completeArgs, hanonymous]
    exact Template.regular_of_append hargs (by simp [Template.isIndexArg]) (by simp) inOrder.ordered
  | true =>
    obtain ⟨supplied, hargs, hplain, hordered⟩ := inOrder.completeArgs_eq hanonymous
    exact Template.regular_of_append hargs
      (fun arg mem => by simp [Template.isIndexArg, hplain arg mem])
      (by simp [Template.isIndexArg, indexArgs]) hordered

end Draft

namespace Instance

variable {inst : Instance} {arg : FormalArg}

/-- A filled slot holds the value at its position, or what it held if there is none. -/
theorem getElem?_fillSlots (slots : List (Option Value)) (values : List Value) (position : Nat) :
    (fillSlots slots values)[position]? = slots[position]?.map (values[position]?.or ·) := by
  induction slots generalizing values position with
  | nil => cases values <;> simp [fillSlots]
  | cons slot slots ih =>
    cases values with
    | nil => simp [fillSlots]
    | cons value values => cases position <;> simp [fillSlots, ih]

/-- Giving values by position gives a like instance. -/
theorem alike_givePositional (inst : Instance) (values : List Value) :
    (inst.givePositional values).1.Alike inst := by
  unfold givePositional
  split
  · exact .refl inst
  · exact ⟨rfl, rfl, by simp⟩

/-- Setting values under the names of arguments reports nothing. -/
theorem Aligned.setNamed_callerRow_problems (aligned : inst.Aligned) (values : List Value) :
    (inst.setNamed (Entries.ofPairs (inst.callerRow values))).2 = [] := by
  rw [setNamed_problems, List.map_eq_nil_iff, List.filter_eq_nil_iff]
  rintro ⟨name, value⟩ mem
  have hrow := (Entries.perm_ofPairs (aligned.nodup_callerRow values)).mem_iff.mp mem
  obtain ⟨arg, hcaller, rfl⟩ := List.mem_map.mp (List.of_mem_zip hrow).1
  simp [aligned.arg?_name (List.mem_of_mem_filter hcaller)]

section

variable (aligned : inst.Aligned) (regular : inst.template.Regular) {values : List Value}
  (few : values.length ≤ inst.template.arity)

include regular few in
/-- Values that are no more than the arguments that a caller supplies could be given to all
arguments alike. -/
theorem callerRow_eq :
    inst.callerRow values = (inst.template.args.map FormalArg.name).zip values := by
  have hfew : values.length ≤ (inst.template.callerArgs.map FormalArg.name).length := by
    simpa [Template.arity] using few
  rw [callerRow, regular.split, List.map_append]
  ext
  grind

include aligned regular few in
/-- The name of an argument leads to the value at the position of the argument. -/
theorem find?_callerRow (mem : arg ∈ inst.template.args) :
    Entries.find? arg.name (Entries.ofPairs (inst.callerRow values)) = values[arg.slot]? := by
  obtain ⟨index, inside, rfl⟩ := List.mem_iff_getElem.mp mem
  rw [Entries.find?_ofPairs (aligned.nodup_callerRow values), callerRow_eq regular few,
    aligned.slot_getElem inside]
  exact Entries.find?_zip aligned.names values (by simp [inside])

include aligned in
/-- Values given by position are held by the first slots. -/
theorem slot?_givePositional (mem : arg ∈ inst.template.args) :
    (inst.givePositional values).1.slot? arg.slot =
      (values.take inst.template.arity)[arg.slot]?.or (inst.slot? arg.slot) := by
  have hargs : inst.template.args ≠ [] := List.ne_nil_of_mem mem
  obtain ⟨slot, hslot⟩ : ∃ slot, inst.locals[arg.slot]? = some slot :=
    ⟨_, List.getElem?_eq_getElem (aligned.slot_lt mem)⟩
  simp [givePositional, hargs, slot?, getElem?_fillSlots, hslot]

include aligned regular few in
/-- Values fill the same slots by position and by name. -/
theorem setNamed_callerRow_fst : (inst.setNamed (Entries.ofPairs (inst.callerRow values))).1 =
    (inst.givePositional values).1 := by
  have hpositional := inst.alike_givePositional values
  have hnamed := inst.alike_setNamed (Entries.ofPairs (inst.callerRow values))
  refine (hpositional.aligned aligned).eq_of_slot? (hnamed.trans hpositional.symm) fun arg mem => ?_
  rw [hpositional.template] at mem
  have hnodup := Entries.nodup_keys_ofPairs (aligned.nodup_callerRow values)
  rw [aligned.slot?_setNamed mem hnodup, slot?_givePositional aligned mem,
    find?_callerRow aligned regular few mem, List.take_of_length_le few]

include aligned regular in
/-- Among the arguments that a caller supplies, each is held by the slot of its position. -/
theorem getElem?_callerArgs_iff {index : Nat} : inst.template.callerArgs[index]? = some arg ↔
    arg ∈ inst.template.callerArgs ∧ arg.slot = index := by
  have hslot {index : Nat} {arg : FormalArg}
      (here : inst.template.callerArgs[index]? = some arg) : arg.slot = index := by
    obtain ⟨inside, rfl⟩ := List.getElem?_eq_some_iff.mp (regular.getElem?_args here)
    exact aligned.slot_getElem inside
  refine ⟨fun here => ⟨List.mem_of_getElem? here, hslot here⟩, ?_⟩
  rintro ⟨mem, rfl⟩
  obtain ⟨index, here⟩ := List.mem_iff_getElem?.mp mem
  rw [hslot here, here]

include aligned regular few in
/-- An instance that had no arguments lacks one after it was given values exactly if they are fewer
than a caller has to supply. -/
theorem lacksArgument_givePositional
    (unset : ∀ arg ∈ inst.template.args, inst.slot? arg.slot = none) :
    (inst.givePositional values).1.lacksArgument = true ↔
      values.length < inst.template.required := by
  have halike := inst.alike_givePositional values
  have hempty {arg : FormalArg} (mem : arg ∈ inst.template.args) :
      (inst.givePositional values).1.slot? arg.slot = none ↔ values.length ≤ arg.slot := by
    rw [slot?_givePositional aligned mem, unset arg mem, List.take_of_length_le few]
    simp
  rw [lacksArgument, halike.template, List.any_eq_true]
  constructor
  · rintro ⟨arg, mem, hlacks⟩
    obtain ⟨⟨hdefault, hsupplied⟩, hslot⟩ : (arg.default?.isNone = true ∧
        inst.template.isIndexArg arg = false) ∧
        (inst.givePositional values).1.slot? arg.slot = none := by simpa using hlacks
    have hcaller : arg ∈ inst.template.callerArgs := List.mem_filter.mpr ⟨mem, by simp [hsupplied]⟩
    have hhere := (getElem?_callerArgs_iff aligned regular).mpr ⟨hcaller, rfl⟩
    have hrequired := (lt_countP_iff regular.ordered hhere).mpr hdefault
    exact Nat.lt_of_le_of_lt ((hempty mem).mp hslot) hrequired
  · intro fewer
    have hinside : values.length < inst.template.callerArgs.length :=
      Nat.lt_of_lt_of_le fewer List.countP_le_length
    have hhere := List.getElem?_eq_getElem hinside
    have hdefault := (lt_countP_iff regular.ordered hhere).mp fewer
    obtain ⟨hcaller, hslot⟩ := (getElem?_callerArgs_iff aligned regular).mp hhere
    obtain ⟨mem, hsupplied⟩ := List.mem_filter.mp hcaller
    have hunset := (hempty mem).mpr (Nat.le_of_eq hslot.symm)
    refine ⟨_, mem, ?_⟩
    rw [hunset, hdefault, hsupplied]
    rfl

include regular few in
/-- Values by position that are not too many are reported exactly if they are fewer than a caller
has to supply. -/
theorem givePositional_problems : (inst.givePositional values).2 =
    if values.length < inst.template.required then
      [inst.countMismatch values.length inst.template.arity]
    else [] := by
  have hfew : ¬ inst.template.arity < values.length := Nat.not_lt.mpr few
  unfold givePositional
  split <;> simp [regular.arity_sub_defaultCount, hfew]

include aligned regular few in
/-- An instance that had no arguments becomes the same, and the same is reported, whether it is
given values by position or by name. -/
theorem giveNamed_callerRow (explicit : inst.template.hasFormalArgs = true)
    (unset : ∀ arg ∈ inst.template.args, inst.slot? arg.slot = none) :
    inst.giveNamed (Entries.ofPairs (inst.callerRow values)) = inst.givePositional values := by
  have halike := inst.alike_givePositional values
  have hset : inst.setNamed (Entries.ofPairs (inst.callerRow values)) =
      ((inst.givePositional values).1, []) :=
    Prod.ext (setNamed_callerRow_fst aligned regular few)
      (aligned.setNamed_callerRow_problems values)
  have hlength : (Entries.ofPairs (inst.callerRow values)).length = values.length := by
    rw [(Entries.perm_ofPairs (aligned.nodup_callerRow values)).length_eq, callerRow,
      List.length_zip, List.length_map]
    exact Nat.min_eq_right few
  have hlacks := lacksArgument_givePositional aligned regular few unset
  rw [giveNamed_eq_of_setNamed explicit hset (by rwa [hlength, halike.template])]
  refine Prod.ext rfl ?_
  simp only [hlacks, hlength, givePositional_problems regular few, countMismatch, name,
    halike.template]

end

end Instance

/-- Giving values to a template by position and giving them under the names of its arguments makes
the same instance and reports the same, if the arguments are in the order of calls and the values
are no more than the arguments that a caller supplies. What is reported, if anything, is that the
values are fewer than a caller has to supply. -/
theorem Frame.operate_newNamed_eq_newBoxArgs {identifiers : IdentifierClass} {draft : Draft}
    {template : Template} (made : draft.Made identifiers fun _ => False)
    (inOrder : draft.InCallOrder) (built : draft.build identifiers = .ok template) (frame : Frame)
    (setting : Setting) {index : Nat} {name : String}
    (pooled : frame.template.text index = .ok name) {identity : Option Nat}
    (found : (frame.group setting).lookup? name = some { template with identity := identity })
    {values : List Value} (few : values.length ≤ template.arity) (rest : Stack) :
    ∃ (inst : Instance) (problems : List Problem),
      frame.operate setting (values.foldl Stack.push rest) (.newNamed index values.length) =
        .ok (rest.push (.template inst), problems) ∧
      frame.operate setting
          (.arguments (Entries.ofPairs ((template.callerArgs.map FormalArg.name).zip values)) ::
            rest)
          (.newBoxArgs index) =
        .ok (rest.push (.template inst), problems) ∧
      problems =
        if values.length < template.required then
          [.argumentCountMismatch values.length template.name template.arity]
        else [] := by
  let inst := (frame.group setting).create { template with identity := identity }
  have hinst : frame.instanceOf? setting name = some inst := by
    rw [instanceOf?, Group.instanceOf?, found]
    rfl
  have haligned : inst.Aligned := by
    have hmade : inst.Reachable identifiers := .create (.identified (.built made built) identity) _
    have hsound := hmade.sound Template.buildsInto_inOrder fun _ absurd => absurd.elim
    exact hsound.aligned hsound.template.holds.names
  have hregular : inst.template.Regular := (inOrder.regular built).identified identity
  have hexplicit : inst.template.hasFormalArgs = true := by
    obtain ⟨rfl, -⟩ := Draft.eq_of_build_eq_ok built
    exact inOrder.explicit
  have hunset : ∀ arg ∈ inst.template.args, inst.slot? arg.slot = none :=
    fun arg _ => Instance.slot?_ofTemplate _ _ arg.slot
  have hsame := Instance.giveNamed_callerRow haligned hregular few hexplicit hunset
  refine ⟨(inst.givePositional values).1, (inst.givePositional values).2, ?_, ?_,
    Instance.givePositional_problems hregular few⟩
  · simp only [operate, pooled, Stack.popN_foldl_push, ok_bind, hinst, Stack.pushInstance]
    rfl
  · rw [← hsame]
    simp only [operate, pooled, ok_bind, hinst, Stack.pushInstance, Stack.popArguments]
    rfl

/-- A draft with an argument that a caller has to supply and one with a default. -/
def noticeDraft : Draft :=
  ((Draft.named "notice").arg "text" none).arg "mark" (some (.literal (.string "!")))

/-- The template of a notice. -/
def noticeTemplate : Template :=
  { Template.blank "notice" with
    args := [⟨"text", 0, none⟩, ⟨"mark", 1, some (.literal (.string "!"))⟩]
    hasFormalArgs := true }

/-- An instance of a template that refers to notices. -/
def boardInstance : Instance :=
  .ofTemplate { Template.blank "board" with pool := ["notice"] } ⟨0⟩

/-- The frame of a board in a group with notices, and what stays the same there. -/
def boardFrame : Frame × Setting :=
  (.root boardInstance,
    ⟨⟨[{ Group.empty ⟨0⟩ with templates := [("notice", noticeTemplate)] }]⟩, "en", 10⟩)

/-- A notice that is given one text is the same whether it is given by position or by name, and
nothing is reported. Given no text it lacks one both ways, and it is reported that there are none in
the place of two. -/
theorem notice_operate_new :
    (∃ (inst : Instance) (problems : List Problem),
      boardFrame.1.operate boardFrame.2 [.value (.string "a")] (.newNamed 0 1) =
        .ok ([.value (.template inst)], problems) ∧
      boardFrame.1.operate boardFrame.2 [.arguments [("text", .string "a")]] (.newBoxArgs 0) =
        .ok ([.value (.template inst)], problems) ∧
      problems = []) ∧
    ∃ (inst : Instance) (problems : List Problem),
      boardFrame.1.operate boardFrame.2 [] (.newNamed 0 0) =
        .ok ([.value (.template inst)], problems) ∧
      boardFrame.1.operate boardFrame.2 [.arguments []] (.newBoxArgs 0) =
        .ok ([.value (.template inst)], problems) ∧
      problems = [.argumentCountMismatch 0 "notice" 2] := by
  have hmade : noticeDraft.Made unicodeIdentifiers fun _ => False :=
    ((Draft.Made.named "notice").arg "text").argWithDefault "mark" (.literal (.string "!"))
  have horder : noticeDraft.InCallOrder := by
    refine ⟨rfl, by simp [noticeDraft, Draft.arg, Draft.named], ?_⟩
    simp [noticeDraft, Draft.arg, Draft.named, Draft.appendArg]
  have hbuilt : noticeDraft.build unicodeIdentifiers = .ok noticeTemplate := rfl
  have hpooled : boardFrame.1.template.text 0 = .ok "notice" := rfl
  have hfound : (boardFrame.1.group boardFrame.2).lookup? "notice" =
      some { noticeTemplate with identity := none } := rfl
  have hgiven (values : List Value) (few : values.length ≤ noticeTemplate.arity) :=
    Frame.operate_newNamed_eq_newBoxArgs hmade horder hbuilt boardFrame.1 boardFrame.2 hpooled
      hfound few []
  exact ⟨hgiven [.string "a"] (by decide), hgiven [] (by decide)⟩

end TemplateMachine
