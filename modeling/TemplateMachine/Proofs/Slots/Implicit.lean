import TemplateMachine.Proofs.Slots.Rotation

/-!
# The implicit argument

A named template without an explicit argument list takes the element that it is mapped over under
the implicit name, and declares that name when it gets it. This is so as long as the prototype has
no attributes at all. As soon as it has one, the element goes to the first slot: it takes the place
of the attribute that was declared first, and the implicit name stays undeclared, so that the
template does not see the element where it looks for it.

A prototype that has an attribute of the implicit name already is left out here.
-/

namespace TemplateMachine

namespace Instance

/-- A prototype of a named template without an explicit argument list, with any attributes that were
declared on the fly, but none of the implicit name. -/
structure Informal (prototype : Instance) : Prop where
  aligned : prototype.Aligned
  named : prototype.template.anonymous = false
  informal : prototype.template.hasFormalArgs = false
  undeclared : prototype.template.arg? implicitArg = none

/-- An instance has an element under the implicit name and all attributes of the prototype that it
was made of. -/
structure BindsImplicit (inst prototype : Instance) (element : Value) : Prop where
  bound : inst.attribute? implicitArg = some element
  kept : ∀ arg ∈ prototype.template.args, inst.attribute? arg.name = prototype.attribute? arg.name

/-- An instance has an element in the place of one attribute of the prototype that it was made of,
and nothing under the implicit name. -/
structure Replaces (inst prototype : Instance) (element : Value) (replaced : FormalArg) : Prop where
  alike : inst.Alike prototype
  bound : inst.attribute? replaced.name = some element
  kept : ∀ arg ∈ prototype.template.args, arg ≠ replaced →
    inst.attribute? arg.name = prototype.attribute? arg.name
  unbound : inst.attribute? implicitArg = none

variable {prototype : Instance} {element : Value}

/-- An informal prototype without attributes declares the implicit name and binds an element to it. -/
theorem Informal.applied_of_bare (informal : prototype.Informal)
    (bare : prototype.template.args = []) (element : Value) (turn : Nat) :
    (prototype.applied element turn).1 = prototype.declareAndSet implicitArg element := by
  have hgiven : prototype.giveFirst element = (prototype.declareAndSet implicitArg element, []) := by
    simp [giveFirst, bare, informal.informal]
  have hnamed : (prototype.declareAndSet implicitArg element).template.anonymous = false := by
    simpa [declareAndSet, informal.undeclared, declare, setSlot] using informal.named
  simp [applied, hgiven, hnamed]

/-- An informal prototype with attributes puts an element into its first slot. -/
theorem Informal.applied_of_args (informal : prototype.Informal)
    (args : prototype.template.args ≠ []) (element : Value) (turn : Nat) :
    (prototype.applied element turn).1 = prototype.setSlot 0 element := by
  simp [applied_eq args, informal.named]

/-- An informal prototype without attributes has an element under the implicit name. -/
theorem Informal.bindsImplicit (informal : prototype.Informal)
    (bare : prototype.template.args = []) (element : Value) (turn : Nat) :
    (prototype.applied element turn).1.BindsImplicit prototype element := by
  rw [informal.applied_of_bare bare]
  refine ⟨?_, fun arg mem => ?_⟩
  · rw [informal.aligned.attribute?_declareAndSet, if_pos rfl]
  · simp [bare] at mem

/-- An informal prototype with attributes has an element in the place of the first one. -/
theorem Informal.replaces (informal : prototype.Informal) {first : FormalArg}
    {others : List FormalArg} (args : prototype.template.args = first :: others) (element : Value)
    (turn : Nat) : (prototype.applied element turn).1.Replaces prototype element first := by
  have hfirst : first ∈ prototype.template.args := by simp [args]
  have hattribute := informal.aligned.attribute?_setSlot_arg hfirst element
  rw [informal.aligned.slot_head args] at hattribute
  have hname : implicitArg ≠ first.name := by
    intro same
    have hundeclared := informal.undeclared
    rw [same, informal.aligned.arg?_name hfirst] at hundeclared
    cases hundeclared
  rw [informal.applied_of_args (by simp [args])]
  refine ⟨prototype.alike_setSlot 0 element, ?_, fun arg mem other => ?_, ?_⟩
  · rw [hattribute, if_pos rfl]
  · have hother : arg.name ≠ first.name := fun same =>
      other (List.inj_on_of_nodup_map informal.aligned.names mem hfirst same)
    rw [hattribute, if_neg hother]
  · rw [hattribute, if_neg hname, attribute?, informal.undeclared, Option.bind_none]

/-- An informal prototype binds an element as it should if and only if it has no attributes yet. -/
theorem Informal.bindsImplicit_iff (informal : prototype.Informal) (element : Value) (turn : Nat) :
    (prototype.applied element turn).1.BindsImplicit prototype element ↔
      prototype.template.args = [] := by
  refine ⟨fun binds => ?_, fun bare => informal.bindsImplicit bare element turn⟩
  cases hargs : prototype.template.args with
  | nil => rfl
  | cons first others =>
    have hunbound := (informal.replaces hargs element turn).unbound
    rw [binds.bound] at hunbound
    cases hunbound

end Instance

/-- Mapping in rotation, and so mapping with a single prototype, makes one instance of the prototype
whose turn it is for each element that is a value. If that prototype is a named one without an
explicit argument list, the element is bound to the implicit name and the attributes are kept if and
only if there are no attributes yet; if there are, the element takes the place of the one that was
declared first. -/
theorem Frame.operate_rotMap_informal {prototypes : List Instance} (nonempty : prototypes ≠ [])
    (frame : Frame) (setting : Setting) (rest : Stack) (value : Value) :
    ∃ (made : Nat → Value → Instance) (problems : List Problem),
      frame.operate setting
          ((prototypes.map Value.template).foldl Stack.push (rest.push value))
          (.rotMap prototypes.length) =
        .ok (rest.push (value.mapTurns (frame.group setting).iterateMapValues
          fun turn element => .template (made turn element)), problems) ∧
      (∀ prototype, prototypes = [prototype] →
        frame.operate setting ((rest.push value).push (.template prototype)) .map =
          .ok (rest.push (value.mapTurns (frame.group setting).iterateMapValues
            fun turn element => .template (made turn element)), problems)) ∧
      ∀ turn prototype, prototypes[turn % prototypes.length]? = some prototype →
        prototype.Informal → ∀ element,
          ((made turn element).BindsImplicit prototype element ↔ prototype.template.args = []) ∧
          ∀ first others, prototype.template.args = first :: others →
            (made turn element).Replaces prototype element first := by
  obtain ⟨first, others, rfl⟩ := List.exists_cons_of_ne_nil nonempty
  refine ⟨fun turn element => ((Instance.ofTurn first others turn).applied element turn).1,
    (first.rotateOver others (frame.group setting).iterateMapValues value).2, ?_,
    fun prototype single => ?_, fun turn prototype found informal element => ?_⟩
  · rw [List.length_cons, operate_rotMap_eq, Stack.pushReported, Instance.rotateOver_fst]
    rfl
  · obtain ⟨rfl, rfl⟩ := List.cons_eq_cons.mp single
    rw [operate_map_eq, Stack.pushReported, Instance.rotateOver_fst]
    rfl
  · have hturn : Instance.ofTurn first others turn = prototype :=
      Option.some.inj ((Instance.getElem?_eq_ofTurn first others turn).symm.trans found)
    simp only [hturn]
    exact ⟨informal.bindsImplicit_iff element turn,
      fun first others args => informal.replaces args element turn⟩

/-- A named template without an explicit argument list that writes the element that it is mapped over
and an attribute. -/
def itemTemplate : Template :=
  { Template.blank "item" with
    program := [.loadAttr 0, .write, .loadAttr 1, .write]
    pool := ["it", "a"]
    spans := [none, none, none, none] }

/-- An item with a value for the attribute. -/
def itemOf (value : Value) : Instance :=
  (Instance.ofTemplate itemTemplate ⟨0⟩).declareAndSet "a" value

/-- The frame in which items are mapped, and what stays the same there. -/
def itemFrame : Frame × Setting :=
  (.root (itemOf .none), ⟨⟨[]⟩, "en", 10⟩)

/-- Mapping an item with the attribute v over the text x loses v: the item has x for its attribute
and nothing under the implicit name. -/
theorem item_operate_map :
    (itemOf (.string "v")).Informal ∧
    itemFrame.1.operate itemFrame.2
        [.value (.template (itemOf (.string "v"))), .value (.string "x")] .map =
      .ok ([.value (.template (itemOf (.string "x")))], []) ∧
    (itemOf (.string "x")).attribute? implicitArg = none ∧
    ¬ (itemOf (.string "x")).BindsImplicit (itemOf (.string "v")) (.string "x") := by
  have hinformal : (itemOf (.string "v")).Informal := ⟨⟨rfl, rfl, by decide⟩, rfl, rfl, rfl⟩
  have hoperate : itemFrame.1.operate itemFrame.2
      [.value (.template (itemOf (.string "v"))), .value (.string "x")] .map =
      .ok ([.value (.template (itemOf (.string "x")))], []) := rfl
  obtain ⟨made, problems, -, hmap, hmade⟩ := Frame.operate_rotMap_informal
    (List.cons_ne_nil (itemOf (.string "v")) []) itemFrame.1 itemFrame.2 [] (.string "x")
  have hsame : made 0 (.string "x") = itemOf (.string "x") := by
    have hresult := (hmap _ rfl).symm.trans hoperate
    injection hresult with hresult
    injection hresult with hstack _
    injection hstack with hvalue _
    injection hvalue with hvalue
    injection hvalue
  obtain ⟨hbinds, hreplaces⟩ := hmade 0 _ rfl hinformal (.string "x")
  rw [hsame] at hbinds hreplaces
  refine ⟨hinformal, hoperate, (hreplaces _ _ rfl).unbound, fun binds => ?_⟩
  exact absurd (hbinds.mp binds) (List.cons_ne_nil _ _)

end TemplateMachine
