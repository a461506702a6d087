import Mathlib.Order.MinMax
import TemplateMachine.Proofs.Slots.Binding

/-!
# Mapping side by side

Each value is a stream of elements, and the streams go to the arguments that a caller supplies, in
order. There are as many instances as the longest stream has elements. In each, an argument holds the
element of its stream at the position of the instance, or what the prototype holds if the stream has
run out.

After that the position is put under the two index names wherever they are declared. In an anonymous
template these are arguments of the machine's own. A named template may declare them like any others,
and then what a stream supplies to them is lost.
-/

namespace TemplateMachine

/-- What is below a maximum is below one of the numbers that it is taken of. -/
theorem lt_foldl_max_iff {numbers : List Nat} {start n : Nat} :
    n < numbers.foldl max start ↔ n < start ∨ ∃ number ∈ numbers, n < number := by
  induction numbers generalizing start with
  | nil => simp
  | cons first rest ih =>
    simp only [List.foldl_cons, ih, lt_max_iff, List.mem_cons, exists_eq_or_imp, or_assoc]

namespace Round

variable (streams : List (String × List Value))

/-- The length of the longest stream. -/
def longest : Nat :=
  (streams.map fun stream => stream.2.length).foldl max 0

/-- The elements of streams at a position under the names of the streams. -/
def rowAt (position : Nat) : List (String × Value) :=
  streams.filterMap fun stream => stream.2[position]?.map (stream.1, ·)

/-- The longest stream has an element at a position exactly if some stream has. -/
theorem lt_longest_iff {position : Nat} :
    position < longest streams ↔ ∃ stream ∈ streams, position < stream.2.length := by
  simp only [longest, lt_foldl_max_iff, Nat.not_lt_zero, false_or, List.mem_map,
    exists_exists_and_eq_and]

/-- The row of a round are the first elements. -/
theorem row_next : (next streams).row = rowAt streams 0 := by
  induction streams using next.induct with
  | case1 => rfl
  | case2 name rest ih | case3 name value items rest ih => simp_all [next, rowAt]

/-- A round leaves all elements but the first ones. -/
theorem left_next :
    (next streams).left = streams.map fun stream => (stream.1, stream.2.tail) := by
  induction streams using next.induct with
  | case1 => rfl
  | case2 name rest ih | case3 name value items rest ih => simp_all [next]

/-- The longest stream has no element exactly if no stream has. -/
theorem longest_eq_zero_iff : longest streams = 0 ↔ ∀ stream ∈ streams, stream.2 = [] := by
  rw [← Nat.le_zero, ← Nat.not_lt, lt_longest_iff]
  simp

/-- All streams have run out exactly if the longest one has. -/
theorem exhausted_eq_length_iff :
    (next streams).exhausted = streams.length ↔ longest streams = 0 := by
  rw [longest_eq_zero_iff]
  induction streams using next.induct with
  | case1 => simp [next]
  | case2 name rest ih => simpa [next] using ih
  | case3 name value items rest ih =>
    have hbound := exhausted_le rest
    refine iff_of_false ?_ (by simp)
    simp only [next, List.length_cons]
    omega

/-- A round makes the longest stream one element shorter unless all have run out. -/
theorem longest_left (unfinished : (next streams).exhausted ≠ streams.length) :
    longest streams = longest (next streams).left + 1 := by
  have hsome : longest streams ≠ 0 := fun none =>
    unfinished ((exhausted_eq_length_iff streams).mpr none)
  have hshorter (n : Nat) : n < longest (next streams).left ↔ n + 1 < longest streams := by
    simp [lt_longest_iff, left_next, Nat.lt_sub_iff_add_lt]
  have hend := hshorter (longest (next streams).left)
  have hlast := hshorter (longest (next streams).left - 1)
  omega

/-- The rows that a round leaves are the later ones. -/
theorem rowAt_left (position : Nat) :
    rowAt (next streams).left position = rowAt streams (position + 1) := by
  simp [rowAt, left_next, List.filterMap_map]

end Round

namespace Instance

variable {inst prototype : Instance} {arg : FormalArg}

/-- Mapping side by side fills the prototype from one row after the other, up to the end of the
longest stream. -/
theorem zipFrom_eq (prototype : Instance) (position : Nat) (streams : List (String × List Value)) :
    prototype.zipFrom position streams = (List.range (Round.longest streams)).map fun offset =>
      .template ((prototype.fillRow (Round.rowAt streams offset)).numbered (position + offset)) := by
  induction position, streams using zipFrom.induct with
  | case1 position streams round finished =>
    rw [zipFrom, if_pos finished, (Round.exhausted_eq_length_iff streams).mp finished]
    rfl
  | case2 position streams round unfinished ih =>
    rw [zipFrom, if_neg unfinished, ih, Round.longest_left streams unfinished,
      List.range_succ_eq_map, List.map_cons, List.map_map, Round.row_next]
    simp [round, Round.rowAt_left, Function.comp_def, Nat.add_assoc, Nat.add_comm 1]

/-- Putting a row of elements under their names gives a like instance. -/
theorem alike_fillRow (inst : Instance) (row : List (String × Value)) :
    (inst.fillRow row).Alike inst := by
  induction row generalizing inst with
  | nil => exact .refl inst
  | cons entry rest ih => exact (ih _).trans (inst.alike_setIfDeclared _ _)

/-- An argument under whose name a stream has an element at a position holds that element, and every
other argument holds what it held before. -/
theorem Aligned.slot?_fillRow (aligned : inst.Aligned) (mem : arg ∈ inst.template.args)
    (position : Nat) {streams : List (String × List Value)}
    (nodup : (streams.map Prod.fst).Nodup) :
    (inst.fillRow (Round.rowAt streams position)).slot? arg.slot =
      ((Entries.find? arg.name streams).bind (·[position]?)).or (inst.slot? arg.slot) := by
  induction streams generalizing inst with
  | nil => simp [Round.rowAt, fillRow, Entries.find?]
  | cons stream rest ih =>
    obtain ⟨name, items⟩ := stream
    obtain ⟨hfresh, hrest⟩ := List.nodup_cons.mp nodup
    have hnone (same : name = arg.name) : Entries.find? arg.name rest = none :=
      Entries.find?_eq_none_iff.mpr (same ▸ hfresh)
    cases held : items[position]? with
    | none =>
      have hrow : Round.rowAt ((name, items) :: rest) position = Round.rowAt rest position := by
        simp [Round.rowAt, held]
      rw [hrow, ih aligned mem hrest]
      by_cases same : name = arg.name
      · simp [Entries.find?, same, hnone same, held]
      · simp [Entries.find?, same]
    | some value =>
      have hrow : Round.rowAt ((name, items) :: rest) position =
          (name, value) :: Round.rowAt rest position := by
        simp [Round.rowAt, held]
      have halike := inst.alike_setIfDeclared name value
      rw [hrow, fillRow, ih (halike.aligned aligned) (halike.template ▸ mem) hrest,
        aligned.slot?_setIfDeclared mem]
      by_cases same : name = arg.name
      · simp [Entries.find?, same, hnone same, held]
      · simp [Entries.find?, same, Ne.symm same]

/-- The streams that go to the arguments of a prototype: the elements of the values in order, as far
as there are arguments that a caller supplies. -/
def streams (prototype : Instance) (mapValues : Bool) (values : List Value) : List (List Value) :=
  (values.map (Value.elements mapValues)).take prototype.template.arity

/-- The streams that go to the arguments of a prototype under the names of the arguments. -/
def namedStreams (prototype : Instance) (mapValues : Bool) (values : List Value) :
    List (String × List Value) :=
  (prototype.template.callerArgs.map FormalArg.name).zip (values.map (Value.elements mapValues))

/-- The named streams are the streams with names put to them. -/
theorem map_snd_namedStreams (prototype : Instance) (mapValues : Bool) (values : List Value) :
    (prototype.namedStreams mapValues values).map Prod.snd = prototype.streams mapValues values := by
  simp [namedStreams, streams, Entries.map_snd_zip, Template.arity]

/-- The name of an argument that a caller supplies leads to the stream at its position. -/
theorem Aligned.find?_namedStreams (aligned : prototype.Aligned) (mapValues : Bool)
    (values : List Value) {index : Nat} (found : prototype.template.callerArgs[index]? = some arg) :
    Entries.find? arg.name (prototype.namedStreams mapValues values) =
      (prototype.streams mapValues values)[index]? := by
  obtain ⟨inside, -⟩ := List.getElem?_eq_some_iff.mp found
  have hnamed : (prototype.template.callerArgs.map FormalArg.name)[index]? = some arg.name := by
    simp [found]
  rw [namedStreams, Entries.find?_zip aligned.callerNames_nodup _ hnamed, streams,
    Template.arity, List.getElem?_take_of_lt inside]

/-- What mapping side by side makes of a prototype at a position. The arguments that are numbered hold
the position. Each other argument that a caller supplies holds the element of its stream, or what the
prototype holds if there is no such stream or if it has run out. -/
structure Zipped (inst prototype : Instance) (numbered : FormalArg → Prop)
    (streams : List (List Value)) (position : Nat) : Prop where
  alike : inst.Alike prototype
  number : ∀ arg ∈ prototype.template.args, numbered arg → inst.slot? arg.slot =
    some (.ofCount (if arg.name = "i0" then position else position + 1))
  supplied : ∀ (index : Nat) (arg : FormalArg),
    prototype.template.callerArgs[index]? = some arg → ¬ numbered arg → inst.slot? arg.slot =
      (streams[index]?.bind (·[position]?)).or (prototype.slot? arg.slot)

/-- Which arguments are numbered matters for the arguments of the prototype only. -/
theorem Zipped.congr {numbered numbered' : FormalArg → Prop} {streams : List (List Value)}
    {position : Nat} (zipped : inst.Zipped prototype numbered streams position)
    (same : ∀ arg ∈ prototype.template.args, numbered arg ↔ numbered' arg) :
    inst.Zipped prototype numbered' streams position where
  alike := zipped.alike
  number := fun arg mem isNumbered => zipped.number arg mem ((same arg mem).mpr isNumbered)
  supplied := by
    intro index arg found other
    have hmem : arg ∈ prototype.template.args :=
      List.mem_of_mem_filter (List.mem_of_getElem? found)
    exact zipped.supplied index arg found fun isNumbered => other ((same arg hmem).mp isNumbered)

/-- A prototype filled from its streams and numbered holds in each argument what mapping side by side
puts there, with all arguments of an index name numbered. -/
theorem Aligned.zipped (aligned : prototype.Aligned) (mapValues : Bool) (values : List Value)
    (position : Nat) : Zipped
      ((prototype.fillRow
        (Round.rowAt (prototype.namedStreams mapValues values) position)).numbered position)
      prototype (·.name ∈ indexArgs) (prototype.streams mapValues values) position := by
  have halike :=
    prototype.alike_fillRow (Round.rowAt (prototype.namedStreams mapValues values) position)
  have hnodup : ((prototype.namedStreams mapValues values).map Prod.fst).Nodup :=
    aligned.nodup_callerRow _
  have hnumbered {arg : FormalArg} (mem : arg ∈ prototype.template.args) :=
    (halike.aligned aligned).slot?_numbered (halike.template ▸ mem) position
  refine ⟨(alike_numbered _ position).trans halike, fun arg mem isNumber => ?_,
    fun index arg found other => ?_⟩
  · rw [hnumbered mem, if_pos isNumber]
  · have hmem : arg ∈ prototype.template.args :=
      List.mem_of_mem_filter (List.mem_of_getElem? found)
    rw [hnumbered hmem, if_neg other, aligned.slot?_fillRow hmem position hnodup,
      aligned.find?_namedStreams mapValues values found]

/-- What mapping a prototype side by side makes of it. -/
def zipInstances (prototype : Instance) (mapValues : Bool) (values : List Value) : List Instance :=
  let streams := prototype.namedStreams mapValues values
  (List.range (Round.longest streams)).map fun position =>
    (prototype.fillRow (Round.rowAt streams position)).numbered position

/-- Mapping a prototype with an explicit argument list side by side gives the instances made of it. -/
theorem zipOver_eq (explicit : prototype.template.hasFormalArgs = true) (mapValues : Bool)
    (values : List Value) : prototype.zipOver mapValues values =
      (.list ((prototype.zipInstances mapValues values).map .template),
        if prototype.template.arity = values.length then []
        else [.mapArgumentCountMismatch values.length prototype.template.arity]) := by
  have harity : (prototype.template.callerArgs.map FormalArg.name).length =
      prototype.template.arity := List.length_map _
  rw [zipOver, if_neg (by simp [explicit])]
  by_cases same : prototype.template.arity = values.length <;>
    simp [zipFrom_eq, zipInstances, namedStreams, harity, same]

/-- There is an instance at each position at which some stream has an element. -/
theorem lt_length_zipInstances_iff (prototype : Instance) (mapValues : Bool) (values : List Value)
    (position : Nat) : position < (prototype.zipInstances mapValues values).length ↔
      ∃ stream ∈ prototype.streams mapValues values, position < stream.length := by
  rw [← map_snd_namedStreams]
  simp only [List.mem_map, exists_exists_and_eq_and, ← Round.lt_longest_iff]
  simp [zipInstances]

/-- Each instance made of an aligned prototype holds what mapping side by side puts there, with all
arguments of an index name numbered. -/
theorem Aligned.zipped_of_getElem? (aligned : prototype.Aligned) {mapValues : Bool}
    {values : List Value} {position : Nat}
    (found : (prototype.zipInstances mapValues values)[position]? = some inst) :
    inst.Zipped prototype (·.name ∈ indexArgs) (prototype.streams mapValues values) position := by
  obtain ⟨inside, rfl⟩ := List.getElem?_eq_some_iff.mp found
  simpa [zipInstances] using aligned.zipped mapValues values position

/-- If a named prototype has an argument of an index name, some of the instances made of it do not
hold what the streams supply. -/
theorem Aligned.exists_not_zipped (aligned : prototype.Aligned)
    (named : prototype.template.anonymous = false) (mem : arg ∈ prototype.template.args)
    (index_name : arg.name ∈ indexArgs) (mapValues : Bool) :
    ∃ values position, ∃ inst : Instance,
      (prototype.zipInstances mapValues values)[position]? = some inst ∧
        ¬ inst.Zipped prototype (prototype.template.isIndexArg · = true)
          (prototype.streams mapValues values) position := by
  have hother : ¬ prototype.template.isIndexArg arg = true := by simp [Template.isIndexArg, named]
  have hcaller : arg ∈ prototype.template.callerArgs :=
    List.mem_filter.mpr ⟨mem, by simpa using hother⟩
  obtain ⟨index, found⟩ := List.mem_iff_getElem?.mp hcaller
  obtain ⟨inside, -⟩ := List.getElem?_eq_some_iff.mp found
  -- enough texts that the argument is supplied with one
  let values := List.replicate (index + 1) (Value.string "")
  have hstream : (prototype.streams mapValues values)[index]? = some [.string ""] := by
    simp [streams, values, Template.arity, inside, Value.elements, Value.coerce]
  have hfirst : 0 < (prototype.zipInstances mapValues values).length :=
    (prototype.lt_length_zipInstances_iff mapValues values 0).mpr
      ⟨_, List.mem_of_getElem? hstream, by simp⟩
  have hfound := List.getElem?_eq_getElem hfirst
  refine ⟨values, 0, _, hfound, fun zipped => ?_⟩
  have hsupplied := zipped.supplied index arg found hother
  have hnumber := (aligned.zipped_of_getElem? hfound).number arg mem index_name
  simp [hstream, hnumber, Value.ofCount] at hsupplied

end Instance

/-- Mapping a prototype with an explicit argument list side by side over values on the operand stack
leaves a list of instances. There is one at each position at which some stream has an element, and it
holds in each argument the element of the stream there, or what the prototype holds if the stream has
run out or there is none; but the arguments of an index name, whoever supplies them, hold the
position. Only those that the machine supplies are numbered if and only if the prototype is anonymous
or has no argument of an index name. -/
theorem Frame.operate_zipMap {prototype : Instance} (aligned : prototype.Aligned)
    (explicit : prototype.template.hasFormalArgs = true) (frame : Frame) (setting : Setting)
    (rest : Stack) : ∃ made : List Value → List Instance,
      (∀ values, frame.operate setting ((values.foldl Stack.push rest).push (.template prototype))
          (.zipMap values.length) =
        rest.pushReported (.list ((made values).map .template),
          if prototype.template.arity = values.length then []
          else [.mapArgumentCountMismatch values.length prototype.template.arity])) ∧
      (∀ values position, position < (made values).length ↔
        ∃ stream ∈ prototype.streams (frame.group setting).iterateMapValues values,
          position < stream.length) ∧
      (∀ values position (inst : Instance), (made values)[position]? = some inst →
        inst.Zipped prototype (·.name ∈ indexArgs)
          (prototype.streams (frame.group setting).iterateMapValues values) position) ∧
      ((∀ values position (inst : Instance), (made values)[position]? = some inst →
          inst.Zipped prototype (prototype.template.isIndexArg · = true)
            (prototype.streams (frame.group setting).iterateMapValues values) position) ↔
        prototype.template.anonymous = true ∨
          ∀ arg ∈ prototype.template.args, arg.name ∉ indexArgs) := by
  refine ⟨prototype.zipInstances (frame.group setting).iterateMapValues, fun values => ?_,
    prototype.lt_length_zipInstances_iff _, fun values position inst => aligned.zipped_of_getElem?,
    fun claimed => ?_, fun harmless values position inst found => ?_⟩
  · have hpopped : ((values.foldl Stack.push rest).push (.template prototype)).pop =
        .ok (.template prototype, values.foldl Stack.push rest) := rfl
    have hinst : Value.toInstance (.template prototype) = .ok prototype := rfl
    simp only [operate, hpopped, hinst, ok_bind, Stack.popN_foldl_push,
      Instance.zipOver_eq explicit]
  · cases hanonymous : prototype.template.anonymous with
    | true => exact .inl rfl
    | false =>
      refine .inr fun arg mem index_name => ?_
      obtain ⟨values, position, inst, found, hnot⟩ :=
        aligned.exists_not_zipped hanonymous mem index_name (frame.group setting).iterateMapValues
      exact hnot (claimed values position inst found)
  · refine (aligned.zipped_of_getElem? found).congr fun arg mem => ?_
    rcases harmless with hanonymous | hnone
    · simp [Template.isIndexArg, hanonymous]
    · simp [Template.isIndexArg, hnone arg mem]

/-- A template that writes its two arguments, the second of which has an index name. -/
def pairTemplate : Template :=
  { Template.blank "pair" with
    program := [.writeLocal 0, .writeLocal 1]
    args := [⟨"x", 0, none⟩, ⟨"i", 1, none⟩]
    hasFormalArgs := true
    spans := [none, none] }

/-- A pair with values for its arguments. -/
def pairOf (values : List (Option Value)) : Instance :=
  ⟨pairTemplate, values, ⟨0⟩⟩

/-- The frame of a pair in which pairs are mapped, and what stays the same there. -/
def pairFrame : Frame × Setting :=
  (.root (pairOf [none, none]), ⟨⟨[]⟩, "en", 10⟩)

/-- Mapping pairs over the lists of a and b and of c and d loses c and d: the pairs hold positions in
their place, which is not what the streams supply. -/
theorem pair_operate_zipMap :
    pairFrame.1.operate pairFrame.2 [.value (.template (pairOf [none, none])),
        .value (.list [.string "c", .string "d"]), .value (.list [.string "a", .string "b"])]
        (.zipMap 2) =
      .ok ([.value (.list [.template (pairOf [some (.string "a"), some (.integer 1)]),
        .template (pairOf [some (.string "b"), some (.integer 2)])])], []) ∧
    ∃ made : List Value → List Instance,
      (∀ values, pairFrame.1.operate pairFrame.2
          ((values.foldl Stack.push []).push (.template (pairOf [none, none])))
          (.zipMap values.length) =
        Stack.pushReported [] (.list ((made values).map .template),
          if pairTemplate.arity = values.length then []
          else [.mapArgumentCountMismatch values.length pairTemplate.arity])) ∧
      ¬ ∀ values position (inst : Instance), (made values)[position]? = some inst →
        inst.Zipped (pairOf [none, none]) (pairTemplate.isIndexArg · = true)
          ((pairOf [none, none]).streams (pairFrame.1.group pairFrame.2).iterateMapValues values)
          position := by
  have haligned : (pairOf [none, none]).Aligned := ⟨rfl, rfl, by decide⟩
  obtain ⟨made, hmade, -, -, hiff⟩ :=
    Frame.operate_zipMap haligned rfl pairFrame.1 pairFrame.2 []
  have hzipped : (pairOf [none, none]).zipOver false
      [.list [.string "a", .string "b"], .list [.string "c", .string "d"]] =
        (.list [.template (pairOf [some (.string "a"), some (.integer 1)]),
          .template (pairOf [some (.string "b"), some (.integer 2)])], []) := by
    rw [Instance.zipOver_eq rfl]
    rfl
  refine ⟨congrArg (Stack.pushReported []) hzipped, made, hmade, fun claimed => ?_⟩
  rcases hiff.mp claimed with hanonymous | hnone
  · cases hanonymous
  · exact hnone ⟨"i", 1, none⟩ (by simp [pairOf, pairTemplate]) (by decide)

end TemplateMachine
