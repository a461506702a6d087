import TemplateMachine.Proofs.Render.Computation

/-!
# Elements that are texts

Where no value has a proxy, the elements of a list of scalar values are written as texts: a missing
element is left out or is the replacement text, and every other one has a text of its own. To write
the list is to write these texts one after the other, with the separator before each one that comes
after something was written.

What the texts become is left to the writer. Lists inside of lists and templates are not looked into.
-/

namespace TemplateMachine

/-- A group without proxies. -/
def Group.Unproxied (group : Group) : Prop :=
  ∀ kind, group.proxy? kind = none

namespace Value

/-- Whether a value is neither a collection nor a template. -/
def isScalar : Value → Bool
  | .list _ | .map _ | .template _ => false
  | _ => true

/-- What is written of an element: a missing one is replaced if there is a text for it. -/
def present? (null : Option String) (item : Value) : Option Value :=
  if item.isNone then null.map .string else some item

end Value

/-- The texts of the elements that are written. -/
def Frame.elementTexts (frame : Frame) (setting : Setting) (options : OptionRow String)
    (items : List Value) : List String :=
  (items.filterMap (Value.present? options.null)).map fun item =>
    frame.scalarText setting item options.format

/-- Write texts as elements are written, given the characters counted and whether a text before them
has written any. -/
def writeTexts (frame : Frame) (options : OptionRow String) :
    List String → (count : Nat) → (seen : Bool) → Render Nat
  | [], count, _ => pure count
  | text :: rest, count, seen => do
    let n ← separate frame options seen
    let m ← Render.emit frame (Writer.writeWrapped text options.wrap)
    writeTexts frame options rest (count + n + m) (seen || 0 < m)

/-- As long as nothing was written there is no separator. -/
@[simp] theorem separate_false (frame : Frame) (options : OptionRow String) :
    separate frame options false = pure 0 := by
  unfold separate
  cases options.separator <;> rfl

/-- Before an element there is nothing to be written, or the separator is written. -/
theorem separate_eq_or (frame : Frame) (options : OptionRow String) (seen : Bool) :
    let between := if seen then options.separator.getD "" else ""
    separate frame options seen = pure 0 ∧ between = "" ∨
      separate frame options seen = Render.emit frame (Writer.writeSeparator between) := by
  cases seen with
  | false => exact .inl ⟨separate_false frame options, rfl⟩
  | true =>
    unfold separate
    cases options.separator with
    | none => exact .inl ⟨rfl, rfl⟩
    | some separator => exact .inr rfl

section Machine

variable {setting : Setting} {frame : Frame} (unproxied : (frame.group setting).Unproxied)

include unproxied

/-- What is written of a scalar element is a scalar. -/
theorem writeValue_of_present {null : Option String} {item value : Value}
    (scalar : item.isScalar = true) (present : item.present? null = some value) (fuel : Nat)
    (options : OptionRow String) :
    writeValue setting (fuel + 1) frame value options =
      Render.writeScalar setting frame value options := by
  have hvalue : value.isNone = false ∧ value.isScalar = true := by
    unfold Value.present? at present
    split at present
    · obtain ⟨text, -, rfl⟩ := Option.map_eq_some_iff.mp present
      exact ⟨rfl, rfl⟩
    · rename_i hitem
      obtain rfl := Option.some.inj present
      exact ⟨by simpa using hitem, scalar⟩
  obtain ⟨hsome, hscalar⟩ := hvalue
  rw [writeValue, hsome, Frame.standIn_eq_self (unproxied value.kind)]
  cases value <;> first | rfl | cases hscalar

/-- To write scalar elements is to write their texts. -/
theorem writeItems_scalars {items : List Value} (scalars : ∀ item ∈ items, item.isScalar = true)
    (fuel : Nat) (options : OptionRow String) (count : Nat) (seen : Bool) :
    writeItems setting (fuel + items.length + 1) frame items options count seen =
      writeTexts frame options (frame.elementTexts setting options items) count seen := by
  induction items generalizing count seen with
  | nil => rw [writeItems]; rfl
  | cons item rest ih =>
    obtain ⟨hitem, hrest⟩ := List.forall_mem_cons.mp scalars
    have hcons := writeItems_cons setting (fuel + rest.length + 1) frame item rest options count seen
    rw [← Value.present?] at hcons
    rw [List.length_cons, ← Nat.add_assoc, hcons]
    cases hpresent : item.present? options.null with
    | none =>
      have htexts : frame.elementTexts setting options (item :: rest) =
          frame.elementTexts setting options rest := by
        simp [Frame.elementTexts, hpresent]
      rw [htexts]
      exact ih hrest count seen
    | some value =>
      have htexts : frame.elementTexts setting options (item :: rest) =
          frame.scalarText setting value options.format ::
            frame.elementTexts setting options rest := by
        simp [Frame.elementTexts, hpresent]
      rw [htexts, writeTexts]
      simp only [writeValue_of_present unproxied hitem hpresent, ih hrest]
      rfl

/-- To write a list of scalar values is to write their texts. -/
theorem writeValue_scalars {items : List Value} (scalars : ∀ item ∈ items, item.isScalar = true)
    (fuel : Nat) (options : OptionRow String) :
    writeValue setting (fuel + items.length + 2) frame (.list items) options =
      writeTexts frame options (frame.elementTexts setting options items) 0 false := by
  rw [writeValue, Frame.standIn_eq_self (unproxied _)]
  exact writeItems_scalars unproxied scalars fuel options 0 false

end Machine

end TemplateMachine
