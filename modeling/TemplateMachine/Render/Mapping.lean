import TemplateMachine.Render.Invocation
import TemplateMachine.Value.Sequence

/-!
# Mapping

Applying templates to the elements of values. In rotation, the elements of one value go to several
templates in turn; an element without a value stays as it is and takes no turn. Side by side, the
elements of several values go to the arguments of one template until all values have run out. That is
found out by asking each of them for one more element.
-/

namespace TemplateMachine

/-- One round over streams of elements: the next element of each stream under the name of the stream,
what is left of the streams, and the number of streams that had run out. -/
structure Round where
  row : List (String × Value)
  left : List (String × List Value)
  exhausted : Nat

namespace Round

/-- The next round over streams. -/
def next : List (String × List Value) → Round
  | [] => ⟨[], [], 0⟩
  | (name, []) :: rest =>
    let round := next rest
    ⟨round.row, (name, []) :: round.left, round.exhausted + 1⟩
  | (name, value :: items) :: rest =>
    let round := next rest
    ⟨(name, value) :: round.row, (name, items) :: round.left, round.exhausted⟩

/-- The number of elements in streams. -/
def pending : List (String × List Value) → Nat
  | [] => 0
  | (_, items) :: rest => items.length + pending rest

/-- A round takes one element off each stream that has not run out. -/
theorem pending_left (streams : List (String × List Value)) :
    pending (next streams).left + streams.length = pending streams + (next streams).exhausted := by
  induction streams using next.induct with
  | case1 => rfl
  | case2 name rest ih | case3 name value items rest ih =>
    simp only [pending, next, List.length_cons, List.length_nil]
    omega

/-- No more streams run out than there are. -/
theorem exhausted_le (streams : List (String × List Value)) :
    (next streams).exhausted ≤ streams.length := by
  induction streams using next.induct with
  | case1 => exact Nat.le_refl 0
  | case2 name rest ih => exact Nat.succ_le_succ ih
  | case3 name value items rest ih => exact Nat.le_succ_of_le ih

/-- Unless all streams had run out, a round leaves fewer elements. -/
theorem pending_left_lt {streams : List (String × List Value)}
    (unfinished : (next streams).exhausted ≠ streams.length) :
    pending (next streams).left < pending streams := by
  have htaken := pending_left streams
  have hbound := exhausted_le streams
  omega

end Round

namespace Instance

/-- An instance with its position among the mapped elements in the index arguments that it
declares. -/
def numbered (inst : Instance) (position : Nat) : Instance :=
  (inst.setIfDeclared "i0" (.ofCount position)).setIfDeclared "i" (.ofCount (position + 1))

/-- A prototype applied to one element. -/
def applied (prototype : Instance) (value : Value) (position : Nat) : Reported Instance :=
  let (inst, problems) := prototype.giveFirst value
  (if inst.template.anonymous then inst.numbered position else inst, problems)

/-- Prototypes applied in turn to elements, from a position on. -/
def rotate (first : Instance) (others : List Instance) (position : Nat) :
    List Value → Reported (List Value)
  | [] => ([], [])
  | item :: rest =>
    if item.isNone then
      let (mapped, problems) := rotate first others position rest
      (.none :: mapped, problems)
    else
      let prototypes := first :: others
      let prototype := (prototypes[position % prototypes.length]?).getD first
      let (inst, problems) := prototype.applied item position
      let (mapped, more) := rotate first others (position + 1) rest
      (.template inst :: mapped, problems ++ more)

/-- Prototypes applied in turn to the elements of a value. -/
def rotateOver (first : Instance) (others : List Instance) (mapValues : Bool) (value : Value) :
    Reported Value :=
  match value.coerce mapValues with
  | .scalar .none => (.none, [])
  | .scalar value =>
    let (inst, problems) := first.applied value 0
    (.template inst, problems)
  | .sequence items =>
    let (mapped, problems) := rotate first others 0 items
    (.list mapped, problems)

/-- An instance with a row of elements put under their names. -/
def fillRow (inst : Instance) : List (String × Value) → Instance
  | [] => inst
  | (name, value) :: rest => fillRow (inst.setIfDeclared name value) rest

/-- A prototype applied to streams side by side, from a position on, until a round finds that all of
them have run out. -/
def zipFrom (prototype : Instance) (position : Nat) (streams : List (String × List Value)) :
    List Value :=
  let round := Round.next streams
  if round.exhausted = streams.length then []
  else
    .template ((prototype.fillRow round.row).numbered position) ::
      zipFrom prototype (position + 1) round.left
termination_by Round.pending streams
decreasing_by exact Round.pending_left_lt ‹_›

/-- A prototype applied to the elements of several values side by side. -/
def zipOver (prototype : Instance) (mapValues : Bool) (values : List Value) : Reported Value :=
  if !prototype.template.hasFormalArgs then (.none, [.missingFormalArguments])
  else
    let names := prototype.template.callerArgs.map FormalArg.name
    let problems :=
      if names.length = values.length then []
      else [.mapArgumentCountMismatch values.length names.length]
    let streams := names.zip (values.map (Value.elements mapValues))
    (.list (prototype.zipFrom 0 streams), problems)

end Instance

end TemplateMachine
