import TemplateMachine.Group.Draft
import TemplateMachine.Proofs.Except
import TemplateMachine.Proofs.Sound.Frame
import TemplateMachine.Template.Assembler

/-!
# What can be made

Templates come out of drafts, instances are created from templates and changed one attribute at a
time, and everything can be taken apart and put together again. What can be made in this way, out of
nothing or out of instances at hand, is described by rules. What counts as an identifier is the same
for all drafts. An adaptor or a proxy has only these ways to make the value that it returns out of
the one that it is given.

All that is made is sound for a property that every template has that such a draft is built into.
Renders make more; that they keep to sound data is shown elsewhere.
-/

namespace TemplateMachine

section

variable (identifiers : IdentifierClass) (given : Instance → Prop)

mutual

/-- A draft begun and continued with the calls of a template builder. -/
inductive Draft.Made : Draft → Prop where
  | named (name : String) : Draft.Made (.named name)
  | ofAnonymous (name : String) : Draft.Made (.ofAnonymous name)
  | ofRegion (enclosing name : String) : Draft.Made (.ofRegion enclosing name)
  | arg {draft : Draft} (made : Draft.Made draft) (name : String) :
    Draft.Made (draft.arg name none)
  | argWithDefault {draft : Draft} {default : DefaultValue} (made : Draft.Made draft)
    (name : String) (hdefault : DefaultValue.Made default) :
    Draft.Made (draft.arg name (some default))
  | explicitArgs {draft : Draft} (made : Draft.Made draft) :
    Draft.Made draft.explicitArgs
  | withSource {draft : Draft} (made : Draft.Made draft) (source : String) :
    Draft.Made (draft.withSource source)
  | withSpan {draft : Draft} (made : Draft.Made draft) (span : Option Span) :
    Draft.Made (draft.withSpan span)
  | subtemplate {draft : Draft} {template : Template} (made : Draft.Made draft)
    (inner : Template.Made template) : Draft.Made (draft.subtemplate template)
  | replaceProgram {draft : Draft} (made : Draft.Made draft) (program : List Instr)
    (pool : List String) : Draft.Made (draft.replaceProgram program pool)
  | intern {draft : Draft} (made : Draft.Made draft) (text : String) :
    Draft.Made (draft.intern text).1
  | emit {draft : Draft} (made : Draft.Made draft) (instr : Instr) :
    Draft.Made (draft.emit instr)
  | updateJump {draft : Draft} (made : Draft.Made draft) (index : Nat) :
    Draft.Made (draft.updateJump index)

/-- A template that a draft was built into, or that something at hand contains, as an object of any
identity. -/
inductive Template.Made : Template → Prop where
  | built {draft : Draft} {template : Template} (made : Draft.Made draft)
    (built : draft.build identifiers = .ok template) : Template.Made template
  | ofInstance {inst : Instance} (made : Instance.Made inst) :
    Template.Made inst.template
  | ofDefault {template : Template} {eager : Bool}
    (made : DefaultValue.Made (.template template eager)) : Template.Made template
  | inner {template inner : Template} (made : Template.Made template)
    (mem : inner ∈ template.subtemplates) : Template.Made inner
  | identified {template : Template} (made : Template.Made template)
    (identity : Option Nat) : Template.Made { template with identity := identity }

/-- An instance at hand, or one created from a template, with attributes added and removed. -/
inductive Instance.Made : Instance → Prop where
  | given {inst : Instance} (h : given inst) : Instance.Made inst
  | create {template : Template} (made : Template.Made template) (group : GroupId) :
    Instance.Made (.ofTemplate template group)
  | ofValue {inst : Instance} (made : Value.Made (.template inst)) : Instance.Made inst
  | add {inst changed : Instance} {name : String} {value : Value}
    (made : Instance.Made inst) (hvalue : Value.Made value)
    (added : inst.add name value = .ok changed) : Instance.Made changed
  | remove {inst : Instance} (made : Instance.Made inst) (name : String) :
    Instance.Made (inst.remove name).1
  | identified {inst : Instance} (made : Instance.Made inst) (identity : Option Nat) :
    Instance.Made { inst with template := { inst.template with identity := identity } }

/-- A value of any kind, or one that is read off something at hand. -/
inductive Value.Made : Value → Prop where
  | none : Value.Made .none
  | bool (b : Bool) : Value.Made (.bool b)
  | integer (n : Int64) : Value.Made (.integer n)
  | float (x : Float) : Value.Made (.float x)
  | string (text : String) : Value.Made (.string text)
  | list {items : List Value} (made : ∀ item ∈ items, Value.Made item) :
    Value.Made (.list items)
  | map {entries : Entries Value} (made : ∀ entry ∈ entries, Value.Made entry.2) :
    Value.Made (.map entries)
  | template {inst : Instance} (made : Instance.Made inst) :
    Value.Made (.template inst)
  | attribute {inst : Instance} {name : String} {value : Value} (made : Instance.Made inst)
    (held : inst.attribute? name = some value) : Value.Made value
  | ofDefault {value : Value} (made : DefaultValue.Made (.literal value)) :
    Value.Made value
  | item {items : List Value} {value : Value} (made : Value.Made (.list items))
    (mem : value ∈ items) : Value.Made value
  | entry {entries : Entries Value} {entry : String × Value}
    (made : Value.Made (.map entries)) (mem : entry ∈ entries) : Value.Made entry.2

/-- A default made of a value or a template, or read off the arguments of a template at hand. -/
inductive DefaultValue.Made : DefaultValue → Prop where
  | literal {value : Value} (made : Value.Made value) :
    DefaultValue.Made (.literal value)
  | template {template : Template} (made : Template.Made template) (eager : Bool) :
    DefaultValue.Made (.template template eager)
  | ofArg {template : Template} {arg : FormalArg} {default : DefaultValue}
    (made : Template.Made template) (mem : arg ∈ template.args)
    (found : arg.default? = some default) : DefaultValue.Made default

end

end

variable {identifiers : IdentifierClass} {T : Template → Prop} {N : String → Prop}
  {given : Instance → Prop}

/-- A draft continued with an instruction that refers to a pooled text. -/
theorem Draft.Made.emitText {draft : Draft} (made : draft.Made identifiers given)
    (instr : Nat → Instr) (text : String) : (draft.emitText instr text).Made identifiers given :=
  (made.intern text).emit _

/-- Arguments are held by the slots in order, and their defaults are sound. -/
structure ArgsSound (T : Template → Prop) (args : List FormalArg) : Prop where
  slots : args.map FormalArg.slot = List.range args.length
  defaults : ∀ arg ∈ args, ∀ default, arg.default? = some default → default.Sound T

/-- Arguments stay sound with one more at the end. -/
theorem ArgsSound.append {args : List FormalArg} (sound : ArgsSound T args) (name : String)
    {default? : Option DefaultValue} (hdefault : ∀ default, default? = some default →
      default.Sound T) : ArgsSound T (Draft.appendArg args name default?) where
  slots := by simp [Draft.appendArg, sound.slots, List.range_succ]
  defaults := by
    intro arg mem default found
    rcases List.mem_append.mp mem with old | new
    · exact sound.defaults arg old default found
    · obtain rfl := List.mem_singleton.mp new
      exact hdefault default found

namespace Draft

/-- The arguments of a draft and the templates defined inside it are sound. -/
structure Sound (T : Template → Prop) (draft : Draft) : Prop where
  args : ArgsSound T draft.args
  subtemplates : ∀ inner ∈ draft.subtemplates, inner.Sound T

variable {draft : Draft}

/-- The arguments of a sound draft are sound with those that an anonymous template receives. -/
theorem Sound.completeArgs (sound : draft.Sound T) : ArgsSound T draft.completeArgs := by
  have hreceive {args : List FormalArg} (hargs : ArgsSound T args) (name : String) :
      ArgsSound T (if args.any (·.name == name) then args else appendArg args name none) := by
    split
    · exact hargs
    · exact hargs.append name (by simp)
  unfold Draft.completeArgs
  split
  · dsimp only [indexArgs, List.foldl_cons, List.foldl_nil]
    refine hreceive (hreceive ?_ _) _
    split
    · exact sound.args.append _ (by simp)
    · exact sound.args
  · exact sound.args

/-- What a draft is built into has the completed arguments and the rest from the draft. -/
theorem eq_of_build_eq_ok {template : Template} (built : draft.build identifiers = .ok template) :
    template = {
      identity := none
      name := draft.name
      program := draft.program
      pool := draft.pool
      args := draft.completeArgs
      hasFormalArgs := draft.hasFormalArgs
      anonymous := draft.anonymous
      region := draft.region
      subtemplates := draft.subtemplates
      source := draft.source
      spans := draft.spans } ∧
    programError? (operandFits draft.pool.length draft.completeArgs.length draft.program.length) 0
      draft.program = none := by
  unfold build at built
  dsimp only at built
  split at built
  · simp at built
  split at built
  · simp at built
  · rename_i hprogram
    exact ⟨(pure_eq_ok_iff.mp built).symm, hprogram⟩

/-- A template that a sound draft is built into is sound if it has the property. -/
theorem Sound.build (sound : draft.Sound T) {template : Template}
    (built : draft.build identifiers = .ok template) (holds : T template) : template.Sound T := by
  obtain ⟨rfl, -⟩ := eq_of_build_eq_ok built
  exact .intro holds sound.completeArgs.slots sound.completeArgs.defaults sound.subtemplates

/-- A draft without arguments and inner templates is sound. -/
theorem sound_of_empty (args : draft.args = []) (subtemplates : draft.subtemplates = []) :
    draft.Sound T :=
  ⟨⟨by simp [args], by simp [args]⟩, by simp [subtemplates]⟩

/-- A sound draft is sound with one more argument. -/
theorem Sound.withArg (sound : draft.Sound T) (name : String) {default? : Option DefaultValue}
    (hdefault : ∀ default, default? = some default → default.Sound T) :
    (draft.arg name default?).Sound T :=
  ⟨sound.args.append name hdefault, sound.subtemplates⟩

/-- A sound draft is sound with a sound template defined inside it. -/
theorem Sound.withInner (sound : draft.Sound T) {template : Template} (inner : template.Sound T) :
    (draft.subtemplate template).Sound T :=
  ⟨sound.args, by
    simpa [subtemplate, or_imp, forall_and] using ⟨sound.subtemplates, inner⟩⟩

/-- A sound draft is sound with a text in its pool. -/
theorem Sound.interned (sound : draft.Sound T) (text : String) : (draft.intern text).1.Sound T := by
  unfold intern
  split <;> exact ⟨sound.args, sound.subtemplates⟩

end Draft

/-- A property that every template has that a draft which can be made is built into, and that
templates keep. -/
structure BuildsInto (identifiers : IdentifierClass) (T : Template → Prop)
    (N : String → Prop := fun _ => True) : Prop where
  hereditary : Hereditary T N
  built {given : Instance → Prop} {draft : Draft} {template : Template}
    (made : draft.Made identifiers given) (built : draft.build identifiers = .ok template) : T template

variable (builds : BuildsInto identifiers T N) (hgiven : ∀ inst, given inst → inst.Sound T)

include builds hgiven

set_option linter.unusedSectionVars false in
mutual

/-- A draft that can be made out of sound instances is sound. -/
theorem Draft.Made.sound {draft : Draft} : Draft.Made identifiers given draft → draft.Sound T
  | .named _ | .ofAnonymous _ | .ofRegion _ _ => Draft.sound_of_empty rfl rfl
  | .arg made name => made.sound.withArg name (by simp)
  | .argWithDefault made name hdefault =>
    made.sound.withArg name fun default found => Option.some.inj found ▸ hdefault.sound
  | .subtemplate made inner => made.sound.withInner inner.sound
  | .explicitArgs made | .withSource made _ | .withSpan made _ | .replaceProgram made _ _
  | .emit made _ | .updateJump made _ => ⟨made.sound.args, made.sound.subtemplates⟩
  | .intern made text => made.sound.interned text

/-- A template that can be made out of sound instances is sound. -/
theorem Template.Made.sound {template : Template} :
    Template.Made identifiers given template → template.Sound T
  | .built made built => made.sound.build built (builds.built made built)
  | .ofInstance made => made.sound.template
  | .ofDefault made => DefaultValue.sound_template_iff.mp made.sound
  | .inner made mem => made.sound.subtemplates _ mem
  | .identified made identity => made.sound.identified builds.hereditary identity

/-- An instance that can be made out of sound instances is sound. -/
theorem Instance.Made.sound {inst : Instance} : Instance.Made identifiers given inst → inst.Sound T
  | .given h => hgiven _ h
  | .create made group => made.sound.ofTemplate group
  | .ofValue made => Value.sound_template_iff.mp made.sound
  | .add made hvalue added => made.sound.add builds.hereditary hvalue.sound added
  | .remove made name => made.sound.remove name
  | .identified made identity => made.sound.identified builds.hereditary identity

/-- A value that can be made out of sound instances is sound. -/
theorem Value.Made.sound {value : Value} : Value.Made identifiers given value → value.Sound T
  | .none => .none
  | .bool b => .bool b
  | .integer n => .integer n
  | .float x => .float x
  | .string text => .string text
  | .list made => .list fun item mem => (made item mem).sound
  | .map made => .map fun entry mem => (made entry mem).sound
  | .template made => .template made.sound
  | .attribute made held => made.sound.attribute? held
  | .ofDefault made => DefaultValue.sound_literal_iff.mp made.sound
  | .item made mem => Value.sound_list_iff.mp made.sound _ mem
  | .entry made mem => Value.sound_map_iff.mp made.sound _ mem

/-- A default that can be made out of sound instances is sound. -/
theorem DefaultValue.Made.sound {default : DefaultValue} :
    DefaultValue.Made identifiers given default → default.Sound T
  | .literal made => .literal made.sound
  | .template made eager => .template made.sound eager
  | .ofArg made mem found => made.sound.defaults _ mem _ found

end

omit builds hgiven

/-- An instance is part of a value if it is the value, or part of an element or an entry of it. -/
inductive Value.Holds (inst : Instance) : Value → Prop where
  | here : Value.Holds inst (.template inst)
  | item {items : List Value} {item : Value} (mem : item ∈ items) (holds : Value.Holds inst item) :
    Value.Holds inst (.list items)
  | entry {entries : Entries Value} {entry : String × Value} (mem : entry ∈ entries)
    (holds : Value.Holds inst entry.2) : Value.Holds inst (.map entries)

/-- The instances that are part of a sound value are sound. -/
theorem Value.Sound.of_holds {value : Value} {inst : Instance} (holds : value.Holds inst)
    (sound : value.Sound T) : inst.Sound T := by
  induction holds with
  | here => exact Value.sound_template_iff.mp sound
  | item mem _ ih => exact ih (Value.sound_list_iff.mp sound _ mem)
  | entry mem _ ih => exact ih (Value.sound_map_iff.mp sound _ mem)

/-- A template that can be made out of nothing. -/
def Template.Reachable (identifiers : IdentifierClass) (template : Template) : Prop :=
  template.Made identifiers fun _ => False

/-- An instance that can be made out of nothing. -/
def Instance.Reachable (identifiers : IdentifierClass) (inst : Instance) : Prop :=
  inst.Made identifiers fun _ => False

/-- A value that can be made out of nothing. -/
def Value.Reachable (identifiers : IdentifierClass) (value : Value) : Prop :=
  value.Made identifiers fun _ => False

/-- An instance that can be made can be made with values added up to the first that is rejected. -/
theorem Instance.Reachable.addAll {inst : Instance} (reachable : inst.Reachable identifiers)
    {attributes : List (String × Value)} (values : ∀ pair ∈ attributes, pair.2.Reachable identifiers) :
    (inst.addAll attributes).1.Reachable identifiers := by
  induction attributes generalizing inst with
  | nil => exact reachable
  | cons pair rest ih =>
    obtain ⟨name, value⟩ := pair
    obtain ⟨hvalue, hrest⟩ := List.forall_mem_cons.mp values
    cases added : inst.add name value with
    | ok changed =>
      have hchanged : changed.Reachable identifiers := .add reachable hvalue added
      simpa [Instance.addAll, added] using ih hchanged hrest
    | error error => simpa [Instance.addAll, added] using reachable

/-- A group that a draft can be built into whose templates and dictionaries can be made out of
nothing. Its adaptors and proxies make their values out of the instances in the value that they are
given. -/
inductive Group.Reachable (identifiers : IdentifierClass) : Group → Prop where
  | built {draft : GroupDraft} {id : GroupId} {group : Group}
    (templates : ∀ template ∈ draft.templates, template.Reachable identifiers)
    (imports : ∀ imported ∈ draft.imports, Group.Reachable identifiers imported)
    (dictionaries : ∀ dictionary ∈ draft.dictionaries, ∀ entry ∈ dictionary.2,
      entry.2.Reachable identifiers)
    (adaptors : ∀ kind adaptor, draft.adaptor? kind = some adaptor → ∀ owner name value,
      adaptor owner name = some value → value.Made identifiers (Value.Holds · owner))
    (proxies : ∀ kind proxy, draft.proxy? kind = some proxy → ∀ value,
      (proxy value).Made identifiers (Value.Holds · value))
    (built : draft.build id = .ok group) : Group.Reachable identifiers group

/-- A group of templates that can be made can be made. -/
theorem Group.Reachable.of_templates {templates : List Template} {id : GroupId} {group : Group}
    (made : ∀ template ∈ templates, template.Reachable identifiers)
    (built : GroupDraft.build { GroupDraft.empty with templates := templates } id = .ok group) :
    group.Reachable identifiers :=
  .built made (by simp [GroupDraft.empty]) (by simp [GroupDraft.empty])
    (by simp [GroupDraft.empty]) (by simp [GroupDraft.empty]) built

namespace GroupDraft

variable {P : Template → Prop} (closed : ∀ template, P template → ∀ inner ∈ template.subtemplates,
  P inner)

include closed

set_option linter.unusedSectionVars false in
mutual

/-- A property of all templates in a table that templates inside one share with it survives
registering the templates inside one that has it. -/
theorem forall_mem_registerInner (table : Entries Template) (template : Template)
    (there : ∀ entry ∈ table, P entry.2) (here : P template) :
    ∀ entry ∈ registerInner table template, P entry.2 :=
  match template with
  | { subtemplates, .. } => forall_mem_registerAll table subtemplates there (closed _ here)

/-- Such a property survives registering templates that have it. -/
theorem forall_mem_registerAll (table : Entries Template) (templates : List Template)
    (there : ∀ entry ∈ table, P entry.2) (here : ∀ template ∈ templates, P template) :
    ∀ entry ∈ registerAll table templates, P entry.2 :=
  match templates with
  | [] => there
  | template :: rest => by
    obtain ⟨hfirst, hrest⟩ := List.forall_mem_cons.mp here
    rw [registerAll]
    refine forall_mem_registerAll _ rest (forall_mem_registerInner _ template ?_ hfirst) hrest
    unfold Entries.insertIfAbsent
    split
    · exact there
    · exact Entries.forall_mem_insert (P := P) hfirst there

end

/-- A property of the added templates that templates inside one share with it is one of all
templates in the table of a group. -/
theorem forall_mem_table {templates : List Template} (here : ∀ template ∈ templates, P template) :
    ∀ entry ∈ table templates, P entry.2 := by
  have hadded : ∀ entry ∈ (templates.foldl (fun table template =>
      Entries.insert template.name template table) [] : Entries Template), P entry.2 :=
    List.foldlRecOn (motive := fun table : Entries Template => ∀ entry ∈ table, P entry.2)
      templates _ (by simp) fun table htable template mem =>
        Entries.forall_mem_insert (P := P) (here template mem) htable
  exact List.foldlRecOn (motive := fun table : Entries Template => ∀ entry ∈ table, P entry.2)
    templates _ hadded fun table htable template mem =>
      forall_mem_registerInner closed table template htable (here template mem)

omit closed in
/-- What a group draft is built into has the table of its templates and the rest from the draft. -/
theorem eq_of_build_eq_ok {draft : GroupDraft} {id : GroupId} {group : Group}
    (built : draft.build id = .ok group) :
    group = {
      id := id
      name := draft.name
      templates := table draft.templates
      imports := draft.imports
      dictionaries := draft.dictionaries
      renderer? := draft.renderer?
      adaptor? := draft.adaptor?
      proxy? := draft.proxy?
      listener := draft.listener
      iterateMapValues := draft.iterateMapValues
      maxDepth := draft.maxDepth } := by
  unfold build at built
  split at built
  · simp at built
  · exact (pure_eq_ok_iff.mp built).symm

end GroupDraft

namespace Group.Reachable

variable {group : Group}

/-- A group that can be made is sound. -/
theorem sound (builds : BuildsInto identifiers T N) (reachable : group.Reachable identifiers) :
    group.Sound T := by
  induction reachable with
  | @built draft id group templates imports dictionaries adaptors proxies built ih =>
    obtain rfl := GroupDraft.eq_of_build_eq_ok built
    have hnothing (inst : Instance) (absurd : False) : inst.Sound T := absurd.elim
    refine .intro ?_ ih ?_ ?_ ?_
    · exact GroupDraft.forall_mem_table (fun _ sound => sound.subtemplates)
        fun template mem => (templates template mem).sound builds hnothing
    · exact fun dictionary mem entry hentry =>
        (dictionaries dictionary mem entry hentry).sound builds hnothing
    · exact fun kind adaptor registered owner name value howner found =>
        (adaptors kind adaptor registered owner name value found).sound builds
          fun _ holds => howner.of_holds holds
    · exact fun kind proxy registered value hvalue =>
        (proxies kind proxy registered value).sound builds fun _ holds => hvalue.of_holds holds

/-- A template found in a group that can be made can be made. -/
theorem lookup? (reachable : group.Reachable identifiers) {name : String} {template : Template}
    (found : Group.lookup? name group = some template) : template.Reachable identifiers := by
  induction reachable with
  | @built draft id group templates imports dictionaries adaptors proxies built ih =>
    rw [lookup?_eq_or] at found
    obtain rfl := GroupDraft.eq_of_build_eq_ok built
    rcases Option.or_eq_some_iff.mp found with own | ⟨-, there⟩
    · exact GroupDraft.forall_mem_table (P := Template.Reachable identifiers)
        (fun _ made _ => made.inner) templates _ (Entries.mem_of_find?_eq_some own)
    · obtain ⟨imported, mem, himported⟩ := List.exists_of_findSome?_eq_some there
      exact ih imported mem himported

/-- An instance that a group that can be made makes of a template that it knows can be made. -/
theorem instanceOf? (reachable : group.Reachable identifiers) {name : String} {inst : Instance}
    (made : group.instanceOf? name = some inst) : inst.Reachable identifiers := by
  obtain ⟨template, found, rfl⟩ := Option.map_eq_some_iff.mp made
  exact .create (reachable.lookup? found) group.id

end Group.Reachable

/-- A catalog of groups that can be made is sound. -/
theorem Catalog.sound_of_reachable (builds : BuildsInto identifiers T N) {catalog : Catalog}
    (groups : ∀ group ∈ catalog.groups, group.Reachable identifiers) : catalog.Sound T :=
  fun group mem => (groups group mem).sound builds

end TemplateMachine
