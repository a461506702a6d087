import Mathlib.Data.List.DropRight
import TemplateMachine.Proofs.Slots.Binding
import TemplateMachine.Proofs.Slots.Origin

/-!
# What attributes accumulate

A slot is reinterpreted each time a value is added to it: an empty slot takes the value, a list gets
one more element, and anything else becomes the first element of a list. Over a whole history of
calls this comes to one law for each attribute, by the values that were accepted for it since it was
removed last. Which values are accepted is decided by the template that the instance was created
with, whatever was declared on the fly since then.
-/

namespace TemplateMachine

/-- Why a template lets no value be added under a name, if it does not: the name has a dot, or the
argument list is explicit and does not have the name. -/
def Template.rejection? (template : Template) (name : String) : Option AttributeError :=
  if name.toList.contains '.' then some (.dotInName name)
  else if template.hasFormalArgs && (template.arg? name).isNone then some (.undeclared name)
  else none

/-- The entries, each with a name, that a template lets be added before it rejects one. -/
def Template.accepted (template : Template) (entries : List (String × Value)) :
    List (String × Value) :=
  entries.takeWhile fun entry => (template.rejection? entry.1).isNone

namespace Instance

/-- A call that changes the attributes of an instance. -/
inductive Call where
  | add (name : String) (value : Value)
  | addAll (entries : List (String × Value))
  | remove (name : String)

/-- The instance after a call, and the error of the call if it fails. -/
def perform (inst : Instance) : Call → Instance × Option AttributeError
  | .add name value =>
    match inst.add name value with
    | .ok changed => (changed, none)
    | .error error => (inst, some error)
  | .addAll entries => inst.addAll entries
  | .remove name => ((inst.remove name).1, none)

/-- The instance after some calls. -/
def follow (inst : Instance) (calls : List Call) : Instance :=
  calls.foldl (fun inst call => (inst.perform call).1) inst

namespace Call

/-- What a call is to add, and under which names. -/
def entries : Call → List (String × Value)
  | .add name value => [(name, value)]
  | .addAll entries => entries
  | .remove _ => []

/-- Whether a call removes an attribute. -/
def removes (name : String) : Call → Bool
  | .remove other => other == name
  | _ => false

/-- Whether a call is about an attribute: it removes it or is to add to it. -/
def concerns (name : String) (call : Call) : Bool :=
  call.removes name || call.entries.any (·.1 == name)

/-- The values that a call adds to an attribute: those under its name that are accepted. -/
def values (template : Template) (name : String) (call : Call) : List Value :=
  ((template.accepted call.entries).filter (·.1 == name)).map Prod.snd

end Call

/-- The values that were accepted for an attribute since it was removed last. -/
def received (template : Template) (name : String) (calls : List Call) : List Value :=
  (calls.rtakeWhile (!·.removes name)).flatMap (·.values template name)

/-- What an attribute is that has received some values: nothing if there are none, the value if
there is one, and else a list of them, which is the first one extended by the others if that is a
list. -/
def gathered : List Value → Option Value
  | [] => none
  | [value] => some value
  | .list items :: rest => some (.list (items ++ rest))
  | values => some (.list values)

example : gathered [.none, .list [.none]] = some (.list [.none, .list [.none]]) ∧
    gathered [.list [.none], .none] = some (.list [.none, .none]) :=
  ⟨rfl, rfl⟩

/-- One more value is gathered by adding it to what was gathered. -/
theorem gathered_concat (values : List Value) (value : Value) :
    gathered (values ++ [value]) = some (accumulate value (gathered values)) := by
  match values with
  | [] => rfl
  | [first] => cases first <;> rfl
  | first :: second :: rest => cases first <;> simp [gathered, accumulate]

/-- What was received with one more call: nothing if that removes the attribute, and else what it
adds as well. -/
theorem received_concat (template : Template) (name : String) (calls : List Call) (call : Call) :
    received template name (calls ++ [call]) =
      if call.removes name then []
      else received template name calls ++ call.values template name := by
  rw [received, List.rtakeWhile_concat]
  cases call.removes name <;> simp [received]

/-- A call adds nothing to an attribute that it does not concern. -/
theorem Call.values_eq_nil {template : Template} {name : String} {call : Call}
    (unconcerned : call.concerns name = false) : call.values template name = [] := by
  simp only [concerns, Bool.or_eq_false_iff, List.any_eq_false, beq_iff_eq] at unconcerned
  rw [values, List.map_eq_nil_iff, List.filter_eq_nil_iff]
  intro entry mem
  simpa using unconcerned.2 entry ((List.takeWhile_prefix _).subset mem)

/-- Calls that do not concern an attribute do not matter for what it has received. -/
theorem received_filter_concerns (template : Template) (name : String) (calls : List Call) :
    received template name (calls.filter (·.concerns name)) = received template name calls := by
  induction calls using List.reverseRecOn with
  | nil => rfl
  | append_singleton calls call ih =>
    rw [List.filter_append, received_concat]
    cases concerned : call.concerns name with
    | true =>
      rw [List.filter_cons_of_pos concerned, List.filter_nil, received_concat, ih]
    | false =>
      have hremoves : call.removes name = false := by simp_all [Call.concerns]
      rw [List.filter_cons_of_neg (by simp [concerned]), List.filter_nil, List.append_nil, ih,
        hremoves, Call.values_eq_nil concerned, List.append_nil]
      rfl

variable {inst : Instance} {template : Template} {name : String}

/-- A call after others is performed on the instance that they have come to. -/
theorem follow_concat (inst : Instance) (calls : List Call) (call : Call) :
    inst.follow (calls ++ [call]) = ((inst.follow calls).perform call).1 := by
  simp [follow]

/-- Adding to an attribute of an aligned instance fails exactly if the template rejects the name,
and else sets what is accumulated, declared first if need be. -/
theorem Aligned.add_eq (aligned : inst.Aligned) (name : String) (value : Value) :
    inst.add name value = match inst.template.rejection? name with
      | some error => .error error
      | none => .ok (inst.declareAndSet name (accumulate value (inst.attribute? name))) := by
  unfold add Template.rejection? declareAndSet
  split
  next => rfl
  cases found : inst.template.arg? name with
  | some arg => simp [attribute?, found]
  | none =>
    -- The slot that is declared is empty, as an attribute that is not declared is unset.
    have hmem : ⟨name, inst.template.args.length, none⟩ ∈ (inst.declare name).1.template.args :=
      List.mem_append_right _ List.mem_cons_self
    have hheld : (inst.declare name).1.slot? (inst.declare name).2 = inst.attribute? name := by
      rw [← aligned.attribute?_declare name name]
      exact ((aligned.declare found).attribute?_name hmem).symm
    cases inst.template.hasFormalArgs with
    | true => simp
    | false => simp [hheld]

/-- Adding one value is adding a list of one. -/
theorem perform_add (inst : Instance) (name : String) (value : Value) :
    inst.perform (.add name value) = inst.addAll [(name, value)] := by
  rw [perform, addAll]
  cases inst.add name value <;> rfl

/-- Removing an attribute gives a like instance. -/
theorem alike_remove (inst : Instance) (name : String) : (inst.remove name).1.Alike inst := by
  unfold remove
  split
  next => exact .refl inst
  next => exact ⟨rfl, rfl, by simp⟩

/-- Removing an attribute unsets it and no other. -/
theorem Aligned.attribute?_remove (aligned : inst.Aligned) (name other : String) :
    (inst.remove name).1.attribute? other =
      if other = name then none else inst.attribute? other := by
  unfold remove
  cases found : inst.template.arg? name with
  | none =>
    by_cases same : other = name
    · simp [attribute?, same, found]
    · simp [same]
  | some arg =>
    obtain ⟨hmem, rfl⟩ := Template.mem_and_name_of_arg? found
    cases hother : inst.template.arg? other with
    | none =>
      simp [attribute?, hother]
    | some named =>
      obtain ⟨hnamed, rfl⟩ := Template.mem_and_name_of_arg? hother
      have hslot := aligned.slot_eq_iff_name_eq hmem hnamed
      simp only [attribute?, hother, Option.bind_some, slot?, List.getElem?_set, hslot]
      by_cases same : named.name = arg.name
      · simp [same, aligned.slot_lt hmem]
      · simp [same]

/-- An aligned instance is aligned with an attribute set, declared first if need be. -/
theorem Aligned.declareAndSet (aligned : inst.Aligned) (name : String) (value : Value) :
    (inst.declareAndSet name value).Aligned := by
  unfold Instance.declareAndSet
  cases found : inst.template.arg? name with
  | some arg => exact (inst.alike_setSlot arg.slot value).aligned aligned
  | none => exact (alike_setSlot _ _ value).aligned (aligned.declare found)

/-- Setting an attribute that the template does not reject changes nothing about what it rejects. -/
theorem rejection?_declareAndSet (inst : Instance) {name : String}
    (accepted : inst.template.rejection? name = none) (value : Value) (other : String) :
    (inst.declareAndSet name value).template.rejection? other = inst.template.rejection? other := by
  unfold declareAndSet
  cases found : inst.template.arg? name with
  | some arg => rfl
  | none =>
    -- A name that is neither declared nor rejected is one that may be declared on the fly.
    have hinformal : inst.template.hasFormalArgs = false := by
      unfold Template.rejection? at accepted
      by_cases dotted : '.' ∈ name.toList <;> simp_all
    simp [Template.rejection?, Instance.declare, setSlot, hinformal]

/-- An instance of a template has gathered the values that it was given for each attribute; it is
aligned, and its template, whatever it has declared, rejects what the first one rejects. -/
structure Gathers (template : Template) (given : String → List Value) (inst : Instance) : Prop where
  aligned : inst.Aligned
  rejections : ∀ name, inst.template.rejection? name = template.rejection? name
  attributes : ∀ name, inst.attribute? name = gathered (given name)

variable {given : String → List Value}

/-- An instance that was just created has gathered nothing. -/
theorem gathers_ofTemplate (group : GroupId) (aligned : (ofTemplate template group).Aligned) :
    (ofTemplate template group).Gathers template fun _ => [] where
  aligned := aligned
  rejections _ := rfl
  attributes name := by
    unfold attribute?
    cases (ofTemplate template group).template.arg? name with
    | none => rfl
    | some arg => exact slot?_ofTemplate template group arg.slot

namespace Gathers

/-- Adding a value that is rejected fails with what is wrong with the name. -/
theorem add_eq_error (gathers : inst.Gathers template given) {error : AttributeError}
    (rejected : template.rejection? name = some error) (value : Value) :
    inst.add name value = .error error := by
  rw [gathers.aligned.add_eq, gathers.rejections, rejected]

/-- A value that is accepted is gathered for its attribute. -/
theorem add (gathers : inst.Gathers template given) (accepted : template.rejection? name = none)
    (value : Value) : ∃ changed, inst.add name value = .ok changed ∧
      changed.Gathers template fun other =>
        if other = name then given other ++ [value] else given other := by
  have haccepted : inst.template.rejection? name = none := (gathers.rejections name).trans accepted
  refine ⟨_, by rw [gathers.aligned.add_eq, haccepted], ?_, fun other => ?_, fun other => ?_⟩
  · exact gathers.aligned.declareAndSet name _
  · rw [rejection?_declareAndSet inst haccepted, gathers.rejections]
  · rw [gathers.aligned.attribute?_declareAndSet]
    split
    next same => rw [gathers.attributes, same, gathered_concat]
    next => exact gathers.attributes other

/-- An instance that has gathered some values has gathered nothing else. -/
theorem congr (gathers : inst.Gathers template given) {other : String → List Value}
    (same : ∀ name, given name = other name) : inst.Gathers template other where
  aligned := gathers.aligned
  rejections := gathers.rejections
  attributes name := by rw [gathers.attributes, same]

/-- The values of some entries are gathered up to the first that is rejected. -/
theorem addAll (gathers : inst.Gathers template given) (entries : List (String × Value)) :
    (inst.addAll entries).1.Gathers template fun name =>
      given name ++ ((template.accepted entries).filter (·.1 == name)).map Prod.snd := by
  induction entries generalizing inst given with
  | nil => exact gathers.congr fun name => by simp [Template.accepted]
  | cons entry rest ih =>
    obtain ⟨name, value⟩ := entry
    cases rejection : template.rejection? name with
    | some error =>
      rw [Instance.addAll, gathers.add_eq_error rejection]
      exact gathers.congr fun name => by simp [Template.accepted, rejection]
    | none =>
      obtain ⟨changed, hadded, hchanged⟩ := gathers.add rejection value
      rw [Instance.addAll, hadded]
      refine (ih hchanged).congr fun other => ?_
      by_cases same : other = name
      · simp [Template.accepted, rejection, same]
      · simp [Template.accepted, rejection, same, Ne.symm same]

/-- What is gathered after a call: nothing for an attribute that it removes, and else what it adds
as well. -/
theorem perform (gathers : inst.Gathers template given) (call : Call) :
    (inst.perform call).1.Gathers template fun name =>
      if call.removes name then [] else given name ++ call.values template name := by
  cases call with
  | add name value =>
    rw [perform_add]
    exact gathers.addAll [(name, value)]
  | addAll entries => exact gathers.addAll entries
  | remove name =>
    have halike := inst.alike_remove name
    refine ⟨halike.aligned gathers.aligned, fun other => ?_, fun other => ?_⟩
    · rw [Instance.perform, halike.template, gathers.rejections]
    · rw [Instance.perform, gathers.aligned.attribute?_remove, gathers.attributes]
      by_cases same : other = name
      · simp [same, Call.removes, gathered]
      · simp [same, Ne.symm same, Call.removes, Call.values, Call.entries, Template.accepted]

/-- After some calls on an instance that was just created, what was received since the last removal
is gathered. -/
theorem follow (fresh : inst.Gathers template fun _ => []) (calls : List Call) :
    (inst.follow calls).Gathers template (received template · calls) := by
  induction calls using List.reverseRecOn with
  | nil => exact fresh
  | append_singleton calls call ih =>
    rw [follow_concat]
    exact (ih.perform call).congr fun name => (received_concat template name calls call).symm

/-- Adding a list of entries adds those that are accepted one after the other, and fails with what
is wrong with the first one that is not. -/
theorem addAll_eq (gathers : inst.Gathers template given) (entries : List (String × Value)) :
    inst.addAll entries =
      (inst.follow ((template.accepted entries).map fun entry => .add entry.1 entry.2),
        entries.findSome? fun entry => template.rejection? entry.1) := by
  induction entries generalizing inst given with
  | nil => rfl
  | cons entry rest ih =>
    obtain ⟨name, value⟩ := entry
    cases rejection : template.rejection? name with
    | some error =>
      rw [Instance.addAll, gathers.add_eq_error rejection]
      simp [Template.accepted, rejection, Instance.follow]
    | none =>
      obtain ⟨changed, hadded, hchanged⟩ := gathers.add rejection value
      rw [Instance.addAll, hadded]
      simp [ih hchanged, Template.accepted, rejection, Instance.follow, Instance.perform, hadded]

end Gathers

/-- What is said about calls on an instance that was just created. The template is the one that it
was created with, by which it is decided what is accepted. -/
structure Accumulates (inst : Instance) (calls : List Call) : Prop where
  /-- Each attribute is what the values come to that were accepted for it since it was removed
  last. -/
  attributes : ∀ name,
    (inst.follow calls).attribute? name = gathered (received inst.template name calls)
  /-- Calls that do not concern an attribute could as well not have been made. -/
  others : ∀ name,
    (inst.follow calls).attribute? name =
      (inst.follow (calls.filter (·.concerns name))).attribute? name
  /-- Adding is accepted if there is nothing wrong with the name. -/
  accepted : ∀ name value, inst.template.rejection? name = none →
    ((inst.follow calls).perform (.add name value)).2 = none
  /-- Adding that is rejected changes nothing. -/
  rejected : ∀ name value error, inst.template.rejection? name = some error →
    (inst.follow calls).perform (.add name value) = (inst.follow calls, some error)
  /-- Adding a list fails with what is wrong with the first name that is rejected, and has the
  effect of adding the entries before it one after the other. -/
  lists : ∀ entries, (inst.follow calls).perform (.addAll entries) =
    ((inst.follow calls).follow
        ((inst.template.accepted entries).map fun entry => .add entry.1 entry.2),
      entries.findSome? fun entry => inst.template.rejection? entry.1)

end Instance

/-- An instance that a group creates, of a template at hand or of one that it finds by name. -/
inductive Group.Creates (identifiers : IdentifierClass) (group : Group) : Instance → Prop where
  | create {template : Template} (reachable : template.Reachable identifiers) :
    group.Creates identifiers (group.create template)
  | instanceOf {name : String} {inst : Instance} (reachable : group.Reachable identifiers)
    (found : group.instanceOf? name = some inst) : group.Creates identifiers inst

variable {identifiers : IdentifierClass}

/-- An instance that a group creates is a new one of a template that can be made. -/
theorem Group.Creates.exists_ofTemplate {group : Group} {inst : Instance}
    (creates : group.Creates identifiers inst) :
    ∃ template : Template, template.Reachable identifiers ∧ inst = .ofTemplate template group.id := by
  cases creates with
  | create reachable => exact ⟨_, reachable, rfl⟩
  | instanceOf reachable found =>
    obtain ⟨template, hfound, rfl⟩ := Option.map_eq_some_iff.mp found
    exact ⟨template, reachable.lookup? hfound, rfl⟩

/-- An instance that a group creates has gathered nothing. -/
theorem Group.Creates.gathers {group : Group} {inst : Instance}
    (creates : group.Creates identifiers inst) : inst.Gathers inst.template fun _ => [] := by
  obtain ⟨template, reachable, rfl⟩ := creates.exists_ofTemplate
  have sound := reachable.sound Template.buildsInto_inOrder fun _ absurd => absurd.elim
  exact Instance.gathers_ofTemplate group.id ((sound.ofTemplate group.id).aligned sound.holds.names)

/-- For all calls on an instance that a group has created: each attribute comes to what was accepted
for it since it was removed last, whatever was done to others; a value that is rejected changes
nothing, and a list of values adds those before the first that is rejected. -/
theorem Group.Creates.accumulates {group : Group} {inst : Instance}
    (creates : group.Creates identifiers inst) (calls : List Instance.Call) :
    inst.Accumulates calls := by
  have gathers (calls : List Instance.Call) := creates.gathers.follow calls
  refine {
    attributes := (gathers calls).attributes
    others := fun name => ?_
    accepted := fun name value accepted => ?_
    rejected := fun name value error rejected => ?_
    lists := (gathers calls).addAll_eq }
  · rw [(gathers calls).attributes, (gathers _).attributes, Instance.received_filter_concerns]
  · obtain ⟨changed, hadded, -⟩ := (gathers calls).add accepted value
    rw [Instance.perform, hadded]
  · rw [Instance.perform, (gathers calls).add_eq_error rejected]

/-- Calls on a greeting, whose template declares no attribute: a name is removed, set to nothing and
added to once more, between calls on other names of which some are rejected. -/
def guestCalls : List Instance.Call :=
  [.add "name" (.string "World"), .add "first.name" (.string "Ann"), .remove "name",
    .addAll [("name", .none), ("tag", .bool true), ("a.b", .none), ("name", .bool false)],
    .remove "tag", .add "name" (.list [.bool true])]

/-- A group creates a greeting, and what that accumulates for its name is the values that it has
received since the name was removed. -/
theorem greeting_accumulates :
    greetingGroup.Creates unicodeIdentifiers (greetingGroup.create greetingTemplate) ∧
    (greetingGroup.create greetingTemplate).Accumulates guestCalls ∧
    Instance.received greetingTemplate "name" guestCalls = [.none, .list [.bool true]] := by
  have creates : greetingGroup.Creates unicodeIdentifiers (greetingGroup.create greetingTemplate) :=
    .create reachable_greetingTemplate
  exact ⟨creates, creates.accumulates guestCalls, rfl⟩

end TemplateMachine
