import Mathlib.Tactic.SplitIfs
import TemplateMachine.Proofs.Sound.Invocation

/-!
# Sound groups and frames

A group is sound if its templates and dictionaries are, if the groups that it imports are, and if
its adaptors and proxies make sound values of sound values. What a frame of sound instances finds in
sound groups is sound: templates, dictionaries, attributes in scope, properties and stand-ins.

Renderers make texts and cannot spoil anything; nothing is asked of them.
-/

namespace TemplateMachine

/-- The templates and dictionaries of a group and of the groups that it imports are sound, and their
adaptors and proxies make sound values of sound values. -/
inductive Group.Sound (T : Template → Prop) : Group → Prop where
  | intro {group : Group} (templates : ∀ entry ∈ group.templates, entry.2.Sound T)
    (imports : ∀ imported ∈ group.imports, Group.Sound T imported)
    (dictionaries : ∀ dictionary ∈ group.dictionaries, ∀ entry ∈ dictionary.2, entry.2.Sound T)
    (adaptors : ∀ kind adaptor, group.adaptor? kind = some adaptor → ∀ owner name value,
      owner.Sound T → adaptor owner name = some value → value.Sound T)
    (proxies : ∀ kind proxy, group.proxy? kind = some proxy → ∀ value, value.Sound T →
      (proxy value).Sound T) : Group.Sound T group

variable {T : Template → Prop}

namespace Group

/-- The empty group is sound. -/
theorem sound_empty (id : GroupId) : (empty id).Sound T :=
  .intro (by simp [empty]) (by simp [empty]) (by simp [empty]) (by simp [empty]) (by simp [empty])

/-- A look-up in groups takes the first group that has the name. -/
theorem lookupIn?_eq_findSome? (name : String) (groups : List Group) :
    lookupIn? name groups = groups.findSome? (lookup? name) := by
  induction groups with
  | nil => rfl
  | cons group rest ih =>
    rw [lookupIn?, List.findSome?_cons, ih]
    cases lookup? name group <;> rfl

/-- A look-up searches the group itself and then its imports. -/
theorem lookup?_eq_or (name : String) (group : Group) :
    lookup? name group =
      (Entries.find? name group.templates).or (group.imports.findSome? (lookup? name)) := by
  obtain ⟨id, own, templates, imports⟩ := group
  rw [lookup?, lookupIn?_eq_findSome?]
  cases Entries.find? name templates <;> rfl

/-- A template found in a sound group is sound. -/
theorem Sound.lookup? {group : Group} (sound : group.Sound T) {name : String} {template : Template}
    (found : Group.lookup? name group = some template) : template.Sound T := by
  induction sound with
  | @intro group templates imports dictionaries adaptors proxies ih =>
    rw [lookup?_eq_or] at found
    rcases Option.or_eq_some_iff.mp found with own | ⟨-, there⟩
    · exact templates _ (Entries.mem_of_find?_eq_some own)
    · obtain ⟨imported, mem, himported⟩ := List.exists_of_findSome?_eq_some there
      exact ih imported mem himported

/-- A template found in the imports of a sound group is sound. -/
theorem Sound.lookupImported? {group : Group} (sound : group.Sound T) {name : String}
    {template : Template} (found : group.lookupImported? name = some template) :
    template.Sound T := by
  cases sound with
  | intro templates imports dictionaries adaptors proxies =>
    rw [Group.lookupImported?, lookupIn?_eq_findSome?] at found
    obtain ⟨imported, mem, himported⟩ := List.exists_of_findSome?_eq_some found
    exact (imports imported mem).lookup? himported

/-- A dictionary is taken from the first group that has the name. -/
theorem findDictionaryIn?_eq_findSome? (name : String) (groups : List Group) :
    findDictionaryIn? name groups = groups.findSome? (findDictionary? name) := by
  induction groups with
  | nil => rfl
  | cons group rest ih =>
    rw [findDictionaryIn?, List.findSome?_cons, ih]
    cases findDictionary? name group <;> rfl

/-- A dictionary is looked for in the group itself and then in its imports. -/
theorem findDictionary?_eq_or (name : String) (group : Group) :
    findDictionary? name group =
      (Entries.find? name group.dictionaries).or
        (group.imports.findSome? (findDictionary? name)) := by
  obtain ⟨id, own, templates, imports, dictionaries⟩ := group
  rw [findDictionary?, findDictionaryIn?_eq_findSome?]
  cases Entries.find? name dictionaries <;> rfl

/-- The entries of a dictionary found in a sound group are sound. -/
theorem Sound.findDictionary? {group : Group} (sound : group.Sound T) {name : String}
    {dictionary : Entries Value} (found : Group.findDictionary? name group = some dictionary) :
    ∀ entry ∈ dictionary, entry.2.Sound T := by
  induction sound with
  | @intro group templates imports dictionaries adaptors proxies ih =>
    rw [findDictionary?_eq_or] at found
    rcases Option.or_eq_some_iff.mp found with own | ⟨-, there⟩
    · exact dictionaries _ (Entries.mem_of_find?_eq_some own)
    · obtain ⟨imported, mem, himported⟩ := List.exists_of_findSome?_eq_some there
      exact ih imported mem himported

/-- A template is defined by what the first group finds that finds anything. -/
theorem definingGroupIn?_eq_findSome? (identity : Nat) (groups : List Group) :
    definingGroupIn? identity groups = groups.findSome? (definingGroup? identity) := by
  induction groups with
  | nil => rfl
  | cons group rest ih =>
    rw [definingGroupIn?, List.findSome?_cons, ih]
    cases definingGroup? identity group <;> rfl

/-- A group defines a template itself or one of the groups that it imports does. -/
theorem definingGroup?_eq_ite (identity : Nat) (group : Group) :
    definingGroup? identity group =
      if defines identity group.templates then some group
      else group.imports.findSome? (definingGroup? identity) := by
  obtain ⟨id, own, templates, imports⟩ := group
  rw [definingGroup?, definingGroupIn?_eq_findSome?]

/-- The group that defines a template among a sound group and its imports is sound. -/
theorem Sound.nativeGroup? {group : Group} (sound : group.Sound T) {template : Template}
    {native : Group} (found : group.nativeGroup? template = some native) : native.Sound T := by
  obtain ⟨identity, -, hfound⟩ := Option.bind_eq_some_iff.mp found
  clear found
  induction sound with
  | @intro group templates imports dictionaries adaptors proxies ih =>
    rw [definingGroup?_eq_ite] at hfound
    split at hfound
    · obtain rfl := Option.some.inj hfound
      exact .intro templates imports dictionaries adaptors proxies
    · obtain ⟨imported, mem, himported⟩ := List.exists_of_findSome?_eq_some hfound
      exact ih imported mem himported

/-- An instance made by a sound group of a template that it knows is sound. -/
theorem Sound.instanceOf? {group : Group} (sound : group.Sound T) {name : String} {inst : Instance}
    (made : group.instanceOf? name = some inst) : inst.Sound T := by
  obtain ⟨template, found, rfl⟩ := Option.map_eq_some_iff.mp made
  exact (sound.lookup? found).ofTemplate group.id

end Group

/-- All groups that exist are sound. -/
def Catalog.Sound (T : Template → Prop) (catalog : Catalog) : Prop :=
  ∀ group ∈ catalog.groups, group.Sound T

/-- The group with a number is sound if all groups that exist are. -/
theorem Catalog.Sound.group {catalog : Catalog} (sound : catalog.Sound T) (id : GroupId) :
    (catalog.group id).Sound T := by
  unfold Catalog.group
  cases found : catalog.groups[id.index]? with
  | none => exact Group.sound_empty id
  | some group => exact sound group (List.mem_of_getElem? found)

namespace Value.Sound

/-- What an entry of a map evaluates to is sound if the entry is. -/
theorem entryValue {entry : Value} (sound : entry.Sound T) (name : String) :
    (entryValue name entry).Sound T := by
  unfold TemplateMachine.entryValue
  split
  · exact .string _
  · exact sound

/-- A property of a sound map is sound. -/
theorem mapProperty {entries : Entries Value} (sound : ∀ entry ∈ entries, entry.2.Sound T)
    (name : String) : (mapProperty entries name).Sound T := by
  unfold TemplateMachine.mapProperty
  split
  · rename_i entry found
    exact (sound _ (Entries.mem_of_find?_eq_some found)).entryValue name
  split_ifs
  · refine .list fun item mem => ?_
    obtain ⟨key, -, rfl⟩ := List.mem_map.mp mem
    exact .string key
  · refine .list fun item mem => ?_
    obtain ⟨entry, hentry, rfl⟩ := List.mem_map.mp mem
    exact sound entry hentry
  · split
    · rename_i entry found
      exact (sound _ (Entries.mem_of_find?_eq_some found)).entryValue name
    · exact .none

/-- A property of a sound value whose kind has no adaptor is sound. -/
theorem property? {owner : Value} (sound : owner.Sound T) {name : String} {value : Value}
    (found : property? owner name = some value) : value.Sound T := by
  cases sound with
  | map entries =>
    obtain rfl := Option.some.inj found
    exact mapProperty entries name
  | template inst =>
    obtain rfl := Option.some.inj found
    exact sound_getD_none fun _ held => inst.attribute? held
  | _ => simp [TemplateMachine.property?] at found

end Value.Sound

namespace Frame

/-- The instances of the frame and of its callers are sound. -/
def Sound (T : Template → Prop) (frame : Frame) : Prop :=
  ∀ inst ∈ frame.scope, inst.Sound T

variable {frame : Frame}

/-- The running instance of a sound frame is sound. -/
theorem Sound.running (sound : frame.Sound T) : frame.running.Sound T :=
  sound frame.running List.mem_cons_self

/-- The frame of a sound instance that nobody invoked is sound. -/
theorem sound_root {inst : Instance} (sound : inst.Sound T) : (root inst).Sound T := by
  simpa [Sound, scope, root] using sound

/-- The frame of a sound instance that a sound frame invokes is sound. -/
theorem Sound.child (sound : frame.Sound T) {inst : Instance} (hinst : inst.Sound T) :
    (frame.child inst).Sound T :=
  List.forall_mem_cons.mpr ⟨hinst, sound⟩

/-- A sound frame is sound at any instruction. -/
theorem Sound.at (sound : frame.Sound T) (ip : Nat) : Frame.Sound T { frame with ip := ip } :=
  sound

/-- A sound frame is sound with another sound instance running. -/
theorem Sound.withRunning (sound : frame.Sound T) {inst : Instance} (hinst : inst.Sound T) :
    Frame.Sound T { frame with running := inst } :=
  List.forall_mem_cons.mpr ⟨hinst, (List.forall_mem_cons.mp sound).2⟩

/-- What a name stands for in sound instances is sound. -/
theorem sound_of_resolveIn? {name : String} {insts : List Instance} {value : Value}
    (sound : ∀ inst ∈ insts, inst.Sound T) (found : resolveIn? name insts = some (some value)) :
    value.Sound T := by
  induction insts with
  | nil => simp [resolveIn?] at found
  | cons inst rest ih =>
    obtain ⟨hinst, hrest⟩ := List.forall_mem_cons.mp sound
    rw [resolveIn?] at found
    split at found
    · exact hinst.slot? (Option.some.inj found)
    · exact ih hrest found

/-- What a name stands for in a sound frame is sound. -/
theorem Sound.resolve? (sound : frame.Sound T) {name : String} {value : Value}
    (found : frame.resolve? name = some (some value)) : value.Sound T :=
  sound_of_resolveIn? sound found

variable {setting : Setting}

/-- The group of a frame is sound if all groups that exist are. -/
theorem sound_group (catalog : setting.catalog.Sound T) (frame : Frame) :
    (frame.group setting).Sound T :=
  catalog.group frame.running.group

/-- The value of an attribute in a sound frame is sound. -/
theorem Sound.attribute? (catalog : setting.catalog.Sound T) (sound : frame.Sound T) {name : String}
    {value : Value} (found : frame.attribute? setting name = some value) : value.Sound T := by
  unfold Frame.attribute? at found
  split at found
  · rename_i slot hslot
    obtain rfl := Option.some.inj found
    exact Value.sound_getD_none fun v held => sound.resolve? (held ▸ hslot)
  · obtain ⟨dictionary, hfound, rfl⟩ := Option.map_eq_some_iff.mp found
    exact .map ((sound_group catalog frame).findDictionary? hfound)

/-- What is written in the place of a sound value is sound. -/
theorem sound_standIn (catalog : setting.catalog.Sound T) (frame : Frame) {value : Value}
    (sound : value.Sound T) : (frame.standIn setting value).Sound T := by
  unfold standIn
  split
  · rename_i proxy registered
    cases sound_group catalog frame with
    | intro templates imports dictionaries adaptors proxies =>
      exact proxies _ proxy registered value sound
  · exact sound

/-- The instance that stands for a template that was not found is sound. -/
theorem sound_blankInstance {N : String → Prop} (hereditary : Hereditary T N) (frame : Frame)
    (name : String) : (frame.blankInstance name).Sound T :=
  (Template.sound_blank hereditary name).ofTemplate _

/-- The group that defines the enclosing template is sound. -/
theorem sound_nativeGroup (catalog : setting.catalog.Sound T) (frame : Frame) :
    (frame.nativeGroup setting).Sound T := by
  have hgroup := sound_group catalog frame
  unfold nativeGroup
  dsimp only
  split
  · rename_i native found
    exact hgroup.nativeGroup? found
  split
  · rename_i native found
    obtain ⟨template, -, hnative⟩ := Option.bind_eq_some_iff.mp found
    exact hgroup.nativeGroup? hnative
  · exact hgroup

/-- An instance of an imported template is sound. -/
theorem sound_of_superInstanceOf? (catalog : setting.catalog.Sound T) {name : String}
    {inst : Instance} (made : frame.superInstanceOf? setting name = some inst) : inst.Sound T := by
  obtain ⟨template, found, rfl⟩ := Option.map_eq_some_iff.mp made
  exact ((sound_nativeGroup catalog frame).lookupImported? found).ofTemplate _

/-- Sound arguments are sound with one more passed on from a sound frame. -/
theorem Sound.passArg (sound : frame.Sound T) {entries : Entries Value}
    (values : ∀ entry ∈ entries, entry.2.Sound T) (arg : FormalArg) :
    ∀ entry ∈ (frame.passArg entries arg).1, entry.2.Sound T := by
  unfold Frame.passArg
  split
  · rename_i value found
    exact Entries.forall_mem_insert (sound.resolve? found) values
  · exact Entries.forall_mem_insert .none values
  · exact Entries.forall_mem_insert .none values
  · exact values

/-- Passing on an argument reports ordinary problems only. -/
theorem ordinary_passArg (frame : Frame) (entries : Entries Value) (arg : FormalArg) :
    Ordinary (frame.passArg entries arg).2 := by
  unfold passArg
  split <;> simp [Problem.isOrdinary]

/-- Sound arguments are sound with others passed on from a sound frame. -/
theorem Sound.passArgs (sound : frame.Sound T) (target : Template) {entries : Entries Value}
    (values : ∀ entry ∈ entries, entry.2.Sound T) (args : List FormalArg) :
    ∀ entry ∈ (frame.passArgs target entries args).1, entry.2.Sound T := by
  induction args generalizing entries with
  | nil => exact values
  | cons arg rest ih =>
    unfold Frame.passArgs
    split
    · exact ih values
    · exact ih (sound.passArg values arg)

/-- Passing on arguments reports ordinary problems only. -/
theorem ordinary_passArgs (frame : Frame) (target : Template) (entries : Entries Value)
    (args : List FormalArg) : Ordinary (frame.passArgs target entries args).2 := by
  induction args generalizing entries with
  | nil => exact ordinary_nil
  | cons arg rest ih =>
    unfold passArgs
    split
    · exact ih entries
    · exact ordinary_append.mpr ⟨frame.ordinary_passArg entries arg, ih _⟩

/-- Sound arguments are sound when they are filled from a sound frame. -/
theorem Sound.passThrough (sound : frame.Sound T) (name : String) {entries : Entries Value}
    (values : ∀ entry ∈ entries, entry.2.Sound T) :
    ∀ entry ∈ (frame.passThrough setting name entries).1, entry.2.Sound T := by
  unfold Frame.passThrough
  split
  · exact values
  · exact sound.passArgs _ values _

/-- Filling arguments from a frame reports ordinary problems only. -/
theorem ordinary_passThrough (frame : Frame) (setting : Setting) (name : String)
    (entries : Entries Value) : Ordinary (frame.passThrough setting name entries).2 := by
  unfold passThrough
  split
  · exact ordinary_nil
  · exact frame.ordinary_passArgs _ entries _

/-- A property of a sound value is sound. -/
theorem sound_property (catalog : setting.catalog.Sound T) (frame : Frame) {owner : Value}
    (sound : owner.Sound T) (name : String) : (frame.property setting owner name).1.Sound T := by
  unfold property
  split
  · exact .none
  cases registered : (frame.group setting).adaptor? owner.kind with
  | some adaptor =>
    dsimp only
    split
    · rename_i value found
      cases sound_group catalog frame with
      | intro templates imports dictionaries adaptors proxies =>
        exact adaptors _ adaptor registered owner name value sound found
    · exact .none
  | none =>
    dsimp only
    split
    · rename_i value found
      exact sound.property? found
    · exact .none

/-- Finding a property reports ordinary problems only. -/
theorem ordinary_property (frame : Frame) (setting : Setting) (owner : Value) (name : String) :
    Ordinary (frame.property setting owner name).2 := by
  unfold property
  dsimp only
  split
  · simp [Problem.isOrdinary]
  · split <;> simp [Problem.isOrdinary]

end Frame

end TemplateMachine
