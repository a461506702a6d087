import TemplateMachine.Proofs.Slots.Binding
import TemplateMachine.Proofs.Slots.Rendering

/-!
# Mapping in rotation

The elements of a value go to several prototypes in turn. An element that is no value stays where it
is and takes no turn, so that the turn of an element is the number of values before it, while its
position in the result is the one that it had.

The prototype whose turn it is gets the element in its first slot, and if it is anonymous its turn
under the two index names, which every anonymous template has. It keeps everything else. The first
slot is looked at as a slot here; which attribute it belongs to is another question.
-/

namespace TemplateMachine

variable {identifiers : IdentifierClass}

namespace Draft

variable {draft : Draft}

/-- An anonymous template has an argument of each index name. -/
theorem exists_arg_of_mem_indexArgs (anonymous : draft.anonymous = true) {name : String}
    (mem : name ∈ indexArgs) : ∃ arg ∈ draft.completeArgs, arg.name = name := by
  have hreceived (args : List FormalArg) (name : String) : ∃ arg ∈
      (if args.any (·.name == name) then args else appendArg args name none), arg.name = name := by
    split
    · rename_i hany
      simpa using hany
    · simp [appendArg]
  have hkept {args : List FormalArg} {arg : FormalArg} (name : String) (mem : arg ∈ args) :
      arg ∈ if args.any (·.name == name) then args else appendArg args name none := by
    split
    · exact mem
    · exact List.mem_append_left _ mem
  simp only [completeArgs, anonymous, if_true, indexArgs, List.foldl_cons, List.foldl_nil]
  simp only [indexArgs, List.mem_cons, List.not_mem_nil, or_false] at mem
  rcases mem with rfl | rfl
  · obtain ⟨arg, hmem, hname⟩ := hreceived
      (if draft.args.isEmpty then appendArg draft.args implicitArg none else draft.args) "i"
    exact ⟨arg, hkept "i0" hmem, hname⟩
  · exact hreceived _ "i0"

end Draft

/-- An anonymous template that extends a built one has an argument of each index name. -/
theorem Template.Extends.exists_arg_of_mem_indexArgs {template built : Template}
    (extends_ : template.Extends built) (assembled : built.Assembled identifiers)
    (anonymous : template.anonymous = true) {name : String} (mem : name ∈ indexArgs) :
    ∃ arg ∈ template.args, arg.name = name := by
  obtain ⟨given, draft, -, hbuilt⟩ := assembled
  obtain ⟨rfl, -⟩ := Draft.eq_of_build_eq_ok hbuilt
  obtain ⟨hrest, declared, hargs, -⟩ := extends_
  have hanonymous : draft.anonymous = true := by
    rw [hrest] at anonymous
    exact anonymous
  obtain ⟨arg, hmem, hname⟩ := Draft.exists_arg_of_mem_indexArgs hanonymous mem
  exact ⟨arg, hargs ▸ List.mem_append_left declared hmem, hname⟩

/-- The turn of the element at a position: how many elements before it are values. -/
def turn (items : List Value) (position : Nat) : Nat :=
  (items.take position).countP (!·.isNone)

@[simp] theorem turn_zero (items : List Value) : turn items 0 = 0 := rfl

/-- An element that is a value puts off the turns of those after it by one. -/
@[simp] theorem turn_cons_succ (item : Value) (rest : List Value) (position : Nat) :
    turn (item :: rest) (position + 1) =
      (if item.isNone then 0 else 1) + turn rest position := by
  cases hnone : item.isNone <;> simp [turn, hnone, Nat.add_comm]

/-- A value with a function of turns and elements applied to the elements that are values. What is
nothing stays nothing, and a single value is the element of the first turn. -/
def Value.mapTurns (mapValues : Bool) (f : Nat → Value → Value) (value : Value) : Value :=
  match value.coerce mapValues with
  | .sequence items =>
    .list (items.mapIdx fun position item =>
      if item.isNone then .none else f (turn items position) item)
  | .scalar value => if value.isNone then .none else f 0 value

namespace Instance

variable {inst prototype : Instance}

/-- The prototype whose turn it is. -/
def ofTurn (first : Instance) (others : List Instance) (turn : Nat) : Instance :=
  ((first :: others)[turn % (first :: others).length]?).getD first

/-- The prototype of a turn is the one at the remainder of the turn. -/
theorem getElem?_eq_ofTurn (first : Instance) (others : List Instance) (turn : Nat) :
    (first :: others)[turn % (first :: others).length]? = some (ofTurn first others turn) := by
  have hinside : turn % (first :: others).length < (first :: others).length :=
    Nat.mod_lt _ (by simp)
  rw [ofTurn, List.getElem?_eq_getElem hinside, Option.getD_some]

/-- The prototype of a turn is one of the prototypes. -/
theorem ofTurn_mem (first : Instance) (others : List Instance) (turn : Nat) :
    ofTurn first others turn ∈ first :: others :=
  List.mem_of_getElem? (getElem?_eq_ofTurn first others turn)

/-- What rotation makes of the element at a position: nothing of nothing, and of a value what the
prototype whose turn it is becomes. -/
theorem getElem?_rotate (first : Instance) (others : List Instance) (start : Nat)
    (items : List Value) (position : Nat) :
    (rotate first others start items).1[position]? = items[position]?.map fun item =>
      if item.isNone then .none
      else .template ((ofTurn first others (start + turn items position)).applied item
        (start + turn items position)).1 := by
  induction items generalizing start position with
  | nil => simp [rotate]
  | cons item rest ih =>
    unfold rotate
    cases hnone : item.isNone with
    | true =>
      cases position with
      | zero => simp [hnone]
      | succ position => simpa [hnone] using ih start position
    | false =>
      cases position with
      | zero => simp [hnone, ofTurn]
      | succ position => simpa [hnone, Nat.add_assoc] using ih (start + 1) position

/-- Rotation applies to each element that is a value the prototype whose turn it is. -/
theorem rotateOver_fst (first : Instance) (others : List Instance) (mapValues : Bool)
    (value : Value) : (first.rotateOver others mapValues value).1 = value.mapTurns mapValues
      fun turn element => .template ((ofTurn first others turn).applied element turn).1 := by
  unfold rotateOver Value.mapTurns
  cases value.coerce mapValues with
  | scalar scalar => cases scalar <;> simp [Value.isNone, ofTurn]
  | sequence items =>
    have hrotated : (rotate first others 0 items).1 = items.mapIdx fun position item =>
        if item.isNone then .none
        else .template ((ofTurn first others (turn items position)).applied item
          (turn items position)).1 := by
      refine List.ext_getElem? fun position => ?_
      rw [getElem?_rotate, List.getElem?_mapIdx, Nat.zero_add]
    simp only [hrotated]

/-- Rotation reports nothing if no prototype does. -/
theorem rotate_problems_eq_nil {first : Instance} {others : List Instance}
    (silent : ∀ prototype ∈ first :: others, ∀ value turn, (prototype.applied value turn).2 = [])
    (start : Nat) (items : List Value) : (rotate first others start items).2 = [] := by
  induction items generalizing start with
  | nil => rfl
  | cons item rest ih =>
    unfold rotate
    split
    · exact ih start
    · have hsilent := silent _ (ofTurn_mem first others start) item start
      rw [ofTurn] at hsilent
      simp only [hsilent, ih, List.append_nil]

/-- Rotation over a value reports nothing if no prototype does. -/
theorem rotateOver_problems_eq_nil {first : Instance} {others : List Instance}
    (silent : ∀ prototype ∈ first :: others, ∀ value turn, (prototype.applied value turn).2 = [])
    (mapValues : Bool) (value : Value) : (first.rotateOver others mapValues value).2 = [] := by
  unfold rotateOver
  split
  · rfl
  · exact silent first List.mem_cons_self _ 0
  · exact rotate_problems_eq_nil silent 0 _

/-- A prototype with arguments that is applied to an element holds it in its first slot and is
numbered if it is anonymous, and nothing is reported. -/
theorem applied_eq (args : prototype.template.args ≠ []) (value : Value) (turn : Nat) :
    prototype.applied value turn =
      (if prototype.template.anonymous then (prototype.setSlot 0 value).numbered turn
        else prototype.setSlot 0 value, []) := by
  simp only [applied, giveFirst_eq_setSlot args]
  rfl

/-- A prototype that can take elements: its slots are in order, its arguments are those of a built
template and perhaps some declared on the fly, and it has one for the element, which is not taken by
the machine. -/
structure TakesTurns (identifiers : IdentifierClass) (prototype : Instance) : Prop where
  aligned : prototype.Aligned
  origin : ∃ built : Template, built.Assembled identifiers ∧ prototype.template.Extends built
  args : prototype.template.args ≠ []
  first : prototype.template.anonymous = true → ∀ arg, prototype.template.args.head? = some arg →
    arg.name ∉ indexArgs

/-- What a prototype becomes for the element of a turn. Its first slot holds the element, the index
arguments of an anonymous one hold the turn, and every other argument holds what it held. -/
structure Rotated (inst prototype : Instance) (value : Value) (turn : Nat) : Prop where
  alike : inst.Alike prototype
  first : inst.slot? 0 = some value
  number : prototype.template.anonymous = true →
    inst.attribute? "i0" = some (.ofCount turn) ∧ inst.attribute? "i" = some (.ofCount (turn + 1))
  kept : ∀ arg ∈ prototype.template.args, arg.slot ≠ 0 →
    prototype.template.isIndexArg arg = false → inst.slot? arg.slot = prototype.slot? arg.slot

/-- A prototype that can take elements becomes what it should for an element. -/
theorem TakesTurns.rotated (takes : prototype.TakesTurns identifiers) (value : Value) (turn : Nat) :
    (prototype.applied value turn).1.Rotated prototype value turn := by
  obtain ⟨haligned, ⟨built, hassembled, hextends⟩, hargs, hfirst⟩ := takes
  obtain ⟨receiver, others, hcons⟩ := List.exists_cons_of_ne_nil hargs
  have hreceiver : receiver ∈ prototype.template.args := by simp [hcons]
  have hzero : receiver.slot = 0 := haligned.slot_head hcons
  have hexists : 0 < prototype.locals.length := hzero ▸ haligned.slot_lt hreceiver
  have hgiven := prototype.alike_setSlot 0 value
  have hheld (slot : Nat) := prototype.slot?_setSlot hexists slot value
  rw [applied_eq hargs]
  cases hanonymous : prototype.template.anonymous with
  | false =>
    refine ⟨hgiven, by simp [hheld], by simp [hanonymous], fun arg _ hother _ => ?_⟩
    simp [hheld, Ne.symm hother]
  | true =>
    have halike := (prototype.setSlot 0 value).alike_numbered turn
    have hnumbered {arg : FormalArg} (mem : arg ∈ prototype.template.args) :=
      (hgiven.aligned haligned).slot?_numbered (hgiven.template ▸ mem) turn
    have hindex {name : String} (mem : name ∈ indexArgs) :
        ((prototype.setSlot 0 value).numbered turn).attribute? name =
          some (.ofCount (if name = "i0" then turn else turn + 1)) := by
      obtain ⟨arg, hmem, rfl⟩ := hextends.exists_arg_of_mem_indexArgs hassembled hanonymous mem
      rw [(halike.trans hgiven).attribute?_name haligned hmem, hnumbered hmem, if_pos mem]
    have hplain : receiver.name ∉ indexArgs := hfirst hanonymous receiver (by simp [hcons])
    refine ⟨halike.trans hgiven, ?_, fun _ => ⟨hindex (by simp [indexArgs]),
      hindex (by simp [indexArgs])⟩, fun arg hmem hother hsupplied => ?_⟩
    · have hreceived := hnumbered hreceiver
      simpa [hplain, hzero, hheld] using hreceived
    · have hname : arg.name ∉ indexArgs := by simpa [Template.isIndexArg, hanonymous] using hsupplied
      simp [hnumbered hmem, hname, hheld, Ne.symm hother]

end Instance

/-- Values that are instances are taken for these instances. -/
theorem Value.mapM_toInstance (instances : List Instance) :
    (instances.map Value.template).mapM Value.toInstance = .ok instances := by
  induction instances with
  | nil => rfl
  | cons inst rest ih =>
    rw [List.map_cons, List.mapM_cons, ih]
    rfl

namespace Frame

/-- Mapping in rotation takes the prototypes and the value beneath them from the operand stack. -/
theorem operate_rotMap_eq (frame : Frame) (setting : Setting) (stack : Stack) (value : Value)
    (first : Instance) (others : List Instance) :
    frame.operate setting
        (((first :: others).map Value.template).foldl Stack.push (stack.push value))
        (.rotMap (others.length + 1)) =
      stack.pushReported
        (first.rotateOver others (frame.group setting).iterateMapValues value) := by
  have hpopped := Stack.popN_foldl_push (stack.push value) ((first :: others).map Value.template)
  rw [List.length_map, List.length_cons] at hpopped
  simp only [operate, hpopped, ok_bind, Value.mapM_toInstance]
  rfl

/-- Mapping a single prototype is rotation with that prototype alone. -/
theorem operate_map_eq (frame : Frame) (setting : Setting) (stack : Stack) (value : Value)
    (prototype : Instance) :
    frame.operate setting ((stack.push value).push (.template prototype)) .map =
      stack.pushReported
        (prototype.rotateOver [] (frame.group setting).iterateMapValues value) := rfl

/-- Mapping prototypes that can take elements in rotation reports nothing. Of a sequence it leaves a
list with an element for each: nothing where there was nothing, and where there was a value what the
prototype whose turn it is becomes for that value. Of nothing it leaves nothing, and of any other
scalar what the first prototype becomes for it in the first turn. -/
theorem operate_rotMap {prototypes : List Instance} (nonempty : prototypes ≠ [])
    (take : ∀ prototype ∈ prototypes, prototype.TakesTurns identifiers) (frame : Frame)
    (setting : Setting) (rest : Stack) (value : Value) : ∃ result,
      frame.operate setting
          ((prototypes.map Value.template).foldl Stack.push (rest.push value))
          (.rotMap prototypes.length) = rest.pushed result ∧
      (∀ items, value.coerce (frame.group setting).iterateMapValues = .sequence items →
        ∃ mapped, result = .list mapped ∧ mapped.length = items.length ∧
          ∀ position item, items[position]? = some item →
            (item.isNone = true → mapped[position]? = some .none) ∧
            (item.isNone = false → ∃ prototype inst : Instance,
              prototypes[turn items position % prototypes.length]? = some prototype ∧
              mapped[position]? = some (.template inst) ∧
              inst.Rotated prototype item (turn items position))) ∧
      (value = .none → result = .none) ∧
      (∀ scalar, value.coerce (frame.group setting).iterateMapValues = .scalar scalar →
        scalar.isNone = false → ∃ prototype inst : Instance, prototypes[0]? = some prototype ∧
          result = .template inst ∧ inst.Rotated prototype scalar 0) := by
  obtain ⟨first, others, rfl⟩ := List.exists_cons_of_ne_nil nonempty
  have hsilent : ∀ prototype ∈ first :: others, ∀ value turn,
      (prototype.applied value turn).2 = [] := by
    intro prototype mem value turn
    rw [Instance.applied_eq (take prototype mem).args]
  have hproblems := Instance.rotateOver_problems_eq_nil hsilent
    (frame.group setting).iterateMapValues value
  have hrotated (turn : Nat) := (take _ (Instance.ofTurn_mem first others turn)).rotated
  refine ⟨(first.rotateOver others (frame.group setting).iterateMapValues value).1, ?_, ?_⟩
  · rw [List.length_cons, operate_rotMap_eq, Stack.pushReported, hproblems]
    rfl
  rw [Instance.rotateOver_fst, Value.mapTurns]
  refine ⟨fun items stands => ?_, fun nothing => ?_, fun scalar stands something => ?_⟩
  · rw [stands]
    refine ⟨_, rfl, List.length_mapIdx, fun position item here => ?_⟩
    rw [List.getElem?_mapIdx, here]
    refine ⟨fun nothing => by simp [nothing], fun something => ?_⟩
    exact ⟨_, _, Instance.getElem?_eq_ofTurn first others _, by simp [something], hrotated _ item _⟩
  · rw [nothing]
    rfl
  · rw [stands]
    exact ⟨first, _, rfl, by simp [something, Instance.ofTurn], hrotated 0 scalar 0⟩

end Frame

/-- A template without a name that writes its turn and the element that it is applied to. -/
def countedTemplate : Template :=
  { Template.blank "counted" with
    program := [.writeLocal 1, .writeLocal 0]
    args := [⟨"it", 0, none⟩, ⟨"i", 1, none⟩, ⟨"i0", 2, none⟩]
    anonymous := true
    spans := [none, none] }

/-- A prototype of the counted template. -/
def countedPrototype : Instance :=
  .ofTemplate countedTemplate ⟨0⟩

/-- A prototype of a named template that declares the argument for the element. -/
def entryPrototype : Instance :=
  .ofTemplate entryTemplate ⟨0⟩

/-- The frame in which the prototypes are mapped, and what stays the same there. -/
def rotationFrame : Frame × Setting :=
  (.root entryPrototype, ⟨⟨[]⟩, "en", 10⟩)

/-- Of a list in which nothing stands between two texts, the first text goes to the first prototype
and the second one to the second, in turn one. -/
theorem counted_operate_rotMap :
    (∀ prototype ∈ [countedPrototype, entryPrototype], prototype.TakesTurns unicodeIdentifiers) ∧
    ∃ (mapped : List Value) (first second : Instance),
      rotationFrame.1.operate rotationFrame.2 [.value (.template entryPrototype),
          .value (.template countedPrototype),
          .value (.list [.string "a", .none, .string "c"])] (.rotMap 2) =
        .ok ([.value (.list mapped)], []) ∧
      mapped.length = 3 ∧ mapped[0]? = some (.template first) ∧ mapped[1]? = some .none ∧
      mapped[2]? = some (.template second) ∧
      first.Rotated countedPrototype (.string "a") 0 ∧
      second.Rotated entryPrototype (.string "c") 1 := by
  have hcounted : countedPrototype.TakesTurns unicodeIdentifiers := by
    have hdraft : (((Draft.ofAnonymous "counted").emit (.writeLocal 1)).emit (.writeLocal 0)).Made
        unicodeIdentifiers fun _ => False := ((Draft.Made.ofAnonymous "counted").emit _).emit _
    refine ⟨⟨rfl, rfl, by decide⟩, ⟨_, ⟨_, _, hdraft, rfl⟩, .refl _⟩, ?_, ?_⟩
    · simp [countedPrototype, countedTemplate, Instance.ofTemplate]
    · rintro - arg ⟨⟩
      decide
  have hentry : entryPrototype.TakesTurns unicodeIdentifiers := by
    have hdraft : entryDraft.Made unicodeIdentifiers fun _ => False :=
      ((Draft.Made.named "entry").arg "item").emit _
    refine ⟨⟨rfl, rfl, by decide⟩, ⟨_, ⟨_, _, hdraft, rfl⟩, .refl _⟩, ?_, ?_⟩
    · simp [entryPrototype, entryTemplate, Instance.ofTemplate]
    · rintro ⟨⟩
  have htake : ∀ prototype ∈ [countedPrototype, entryPrototype],
      prototype.TakesTurns unicodeIdentifiers := by
    simpa using ⟨hcounted, hentry⟩
  obtain ⟨result, hoperate, hsequence, -, -⟩ := Frame.operate_rotMap (List.cons_ne_nil _ _) htake
    rotationFrame.1 rotationFrame.2 [] (.list [.string "a", .none, .string "c"])
  obtain ⟨mapped, rfl, hlength, helement⟩ := hsequence _ rfl
  obtain ⟨prototype, first, hprototype, hfirst, hrotated⟩ := (helement 0 _ rfl).2 rfl
  obtain rfl : countedPrototype = prototype := Option.some.inj hprototype
  obtain ⟨prototype, second, hprototype, hsecond, hrotated'⟩ := (helement 2 _ rfl).2 rfl
  obtain rfl : entryPrototype = prototype := Option.some.inj hprototype
  exact ⟨htake, mapped, first, second, hoperate, hlength, hfirst, (helement 1 _ rfl).1 rfl, hsecond,
    hrotated, hrotated'⟩

end TemplateMachine
