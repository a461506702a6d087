import Mathlib.Order.WellFounded
import TemplateMachine.Proofs.Accord.Rules
import TemplateMachine.Proofs.Elements.Texts
import TemplateMachine.Proofs.Termination.Machine

/-!
# Writing what proxies put in the place of values

A proxy may put a collection in the place of a value. The elements of the collection are written by
way of the proxies again, and nothing says that they are smaller than the value was. So writing a
value without instances goes from the value to the elements of what stands for it, to what stands
for these, and so on. It ends if every such way does. Where one does not, no amount of fuel is enough:
the limit on the nesting of templates is not asked, as no template is invoked.

Values with instances in them are left out, as running their templates may end or not for reasons of
its own.
-/

namespace TemplateMachine

open Render

/-- There is no instance in a value. -/
def Value.Bare (value : Value) : Prop :=
  value.Sound fun _ => False

/-- A value without instances is no instance. -/
theorem Value.Bare.ne_template {value : Value} (bare : value.Bare) (inst : Instance) :
    value ≠ .template inst := by
  rintro rfl
  obtain ⟨template, -, -⟩ := Value.sound_template_iff.mp bare
  cases template with
  | intro holds slots defaults subtemplates => exact holds

namespace Frame

/-- No proxy makes an instance out of a value without instances. -/
def ProxiesBare (frame : Frame) (setting : Setting) : Prop :=
  ∀ kind proxy, (frame.group setting).proxy? kind = some proxy →
    ∀ value : Value, value.Bare → (proxy value).Bare

/-- The elements that are written in the place of a value, given the replacement of missing ones. A
value that is written by itself has none. -/
def parts (frame : Frame) (setting : Setting) (null : Option String) (value : Value) :
    List Value :=
  if value.isNone then []
  else
    match frame.standIn setting value with
    | .list items => items.filterMap (Value.present? null)
    | .map entries =>
      let items := Value.elements (frame.group setting).iterateMapValues (.map entries)
      items.filterMap (Value.present? null)
    | _ => []

/-- A value is one of the elements that are written in the place of another one. -/
def PartOf (frame : Frame) (setting : Setting) (null : Option String) (part whole : Value) : Prop :=
  part ∈ frame.parts setting null whole

variable {setting : Setting} {frame : Frame}

/-- What stands for a value without instances has none either. -/
theorem ProxiesBare.standIn (proxies : frame.ProxiesBare setting) {value : Value}
    (bare : value.Bare) : (frame.standIn setting value).Bare := by
  unfold Frame.standIn
  split
  · rename_i proxy registered
    exact proxies _ proxy registered value bare
  · exact bare

/-- What is written of elements without instances has none either. -/
theorem bare_of_mem_present {null : Option String} {items : List Value}
    (bare : ∀ item ∈ items, item.Bare) :
    ∀ part ∈ items.filterMap (Value.present? null), part.Bare := by
  intro part mem
  obtain ⟨item, hitem, present⟩ := List.mem_filterMap.mp mem
  obtain rfl | ⟨text, rfl⟩ := eq_or_string_of_written present
  · exact bare _ hitem
  · exact .string text

/-- A value without instances is written by writing its parts, or at once. The limit on the nesting
of templates has no say in this. -/
theorem ProxiesBare.writeValue_succ (proxies : frame.ProxiesBare setting) {value : Value}
    (bare : value.Bare) (options : OptionRow String) :
    (∃ items, frame.parts setting options.null value =
        items.filterMap (Value.present? options.null) ∧
      (∀ part ∈ frame.parts setting options.null value, part.Bare) ∧
      ∀ depth fuel, writeValue (setting.withDepth depth) (fuel + 1) frame value options =
        writeItems (setting.withDepth depth) fuel frame items options 0 false) ∨
    (frame.parts setting options.null value = [] ∧
      ∃ action : Render Nat, Terminates (fun _ => action) (fun _ => True) ∧
        ∀ depth fuel, writeValue (setting.withDepth depth) (fuel + 1) frame value options =
          action) := by
  have hstandIn (depth : Nat) :
      frame.standIn (setting.withDepth depth) value = frame.standIn setting value := rfl
  have hbare := proxies.standIn bare
  unfold parts
  cases hnone : value.isNone with
  | true =>
    refine Or.inr ⟨rfl, ?_⟩
    cases hnull : options.null with
    | none => exact ⟨pure 0, Terminates.pure trivial, fun _ _ => by simp [writeValue, hnone, hnull]⟩
    | some null =>
      exact ⟨writeScalar setting frame (.string null) options, Terminates.writeScalar,
        fun _ _ => by simp [writeValue, hnone, hnull]; rfl⟩
  | false =>
    simp only [writeValue, hnone, hstandIn]
    generalize frame.standIn setting value = written at hbare
    cases written with
    | list items =>
      exact Or.inl ⟨items, rfl, bare_of_mem_present (Value.sound_list_iff.mp hbare),
        fun _ _ => rfl⟩
    | map entries =>
      exact Or.inl ⟨_, rfl, bare_of_mem_present hbare.elements, fun _ _ => rfl⟩
    | template inst => exact absurd rfl (hbare.ne_template inst)
    | _ =>
      exact Or.inr ⟨rfl, writeScalar setting frame _ options, Terminates.writeScalar,
        fun _ _ => rfl⟩

/-- As long as writing single values does not depend on the limit on the nesting of templates, nor does
writing collections of them. -/
theorem writeItems_withDepth {options : OptionRow String} {depth fuel : Nat}
    (each : ∀ less < fuel, ∀ value : Value, value.Bare →
      writeValue (setting.withDepth depth) less frame value options =
        writeValue setting less frame value options)
    {items : List Value}
    (bare : ∀ part ∈ items.filterMap (Value.present? options.null), part.Bare)
    (count : Nat) (seen : Bool) :
    writeItems (setting.withDepth depth) fuel frame items options count seen =
      writeItems setting fuel frame items options count seen := by
  induction fuel generalizing items count seen with
  | zero => rfl
  | succ fuel ih =>
    have hrest := @ih fun less below => each less (Nat.lt_succ_of_lt below)
    cases items with
    | nil => rfl
    | cons item rest =>
      rw [writeItems_cons, writeItems_cons, ← Value.present?]
      cases hpresent : item.present? options.null with
      | none =>
        rw [List.filterMap_cons_none hpresent] at bare
        exact hrest bare count seen
      | some value =>
        rw [List.filterMap_cons_some hpresent] at bare
        obtain ⟨hvalue, hbare⟩ := List.forall_mem_cons.mp bare
        simp only [each fuel (Nat.lt_succ_self fuel) value hvalue, hrest hbare]

/-- Writing a value without instances does not depend on the limit on the nesting of templates. -/
theorem ProxiesBare.writeValue_withDepth (proxies : frame.ProxiesBare setting) {value : Value}
    (bare : value.Bare) (options : OptionRow String) (depth fuel : Nat) :
    writeValue (setting.withDepth depth) fuel frame value options =
      writeValue setting fuel frame value options := by
  induction fuel using Nat.strongRecOn generalizing value with
  | ind fuel ih =>
    cases fuel with
    | zero => rfl
    | succ fuel =>
      obtain ⟨items, hparts, hbare, hwrite⟩ | ⟨-, action, -, hwrite⟩ :=
        proxies.writeValue_succ bare options
      · rw [hwrite, ← setting.withDepth_maxDepth, hwrite]
        refine writeItems_withDepth (fun less below value hvalue => ?_) (hparts ▸ hbare) 0 false
        exact ih less (Nat.lt_succ_of_lt below) hvalue
      · rw [hwrite, ← setting.withDepth_maxDepth, hwrite]

/-- Writing a value without instances ends if every way from the value to parts of parts does. -/
theorem ProxiesBare.terminates_of_acc (proxies : frame.ProxiesBare setting) {value : Value}
    (bare : value.Bare) (options : OptionRow String)
    (ends : Acc (frame.PartOf setting options.null) value) :
    Terminates (fun fuel => writeValue setting fuel frame value options) fun _ => True := by
  induction ends with
  | intro value _ ih =>
    apply Terminates.of_succ
    obtain ⟨items, hparts, hbare, hwrite⟩ | ⟨-, action, hends, hwrite⟩ :=
      proxies.writeValue_succ bare options
    · have hplain (fuel : Nat) : writeValue setting (fuel + 1) frame value options =
          writeItems setting fuel frame items options 0 false := hwrite setting.maxDepth fuel
      simp only [hplain]
      refine writeItems_terminates_of_written (fun item mem part present => ?_) 0 false
      have hpart : part ∈ frame.parts setting options.null value := by
        rw [hparts]
        exact List.mem_filterMap.mpr ⟨item, mem, present⟩
      exact ih part hpart (hbare part hpart)
    · have hplain (fuel : Nat) : writeValue setting (fuel + 1) frame value options = action :=
        hwrite setting.maxDepth fuel
      simp only [hplain]
      exact hends

/-- If elements are written, then so is what is written of each of them, with less fuel. -/
theorem exists_ends_of_writeItems {options : OptionRow String} {fuel : Nat} {items : List Value}
    {count : Nat} {seen : Bool} {s u : RenderState} {n : Nat}
    (ends : outcome (writeItems setting fuel frame items options count seen) s = (some n, u)) :
    ∀ part ∈ items.filterMap (Value.present? options.null), ∃ less < fuel, ∃ t m v,
      outcome (writeValue setting less frame part options) t = (some m, v) := by
  induction fuel generalizing items count seen s with
  | zero => cases ends
  | succ fuel ih =>
    have hlater {rest : List Value} {count : Nat} {seen : Bool} {s : RenderState}
        (ends : outcome (writeItems setting fuel frame rest options count seen) s = (some n, u)) :
        ∀ part ∈ rest.filterMap (Value.present? options.null), ∃ less < fuel + 1, ∃ t m v,
          outcome (writeValue setting less frame part options) t = (some m, v) := by
      intro part mem
      obtain ⟨less, below, hends⟩ := ih ends part mem
      exact ⟨less, Nat.lt_succ_of_lt below, hends⟩
    cases items with
    | nil => simp
    | cons item rest =>
      rw [writeItems_cons, ← Value.present?] at ends
      cases hpresent : item.present? options.null with
      | none =>
        rw [hpresent] at ends
        rw [List.filterMap_cons_none hpresent]
        exact hlater ends
      | some value =>
        rw [hpresent] at ends
        rw [List.filterMap_cons_some hpresent]
        obtain ⟨k, t, -, ends⟩ := outcome_bind_eq_some_iff.mp ends
        obtain ⟨m, v, hvalue, ends⟩ := outcome_bind_eq_some_iff.mp ends
        exact List.forall_mem_cons.mpr ⟨⟨fuel, Nat.lt_succ_self fuel, t, m, v, hvalue⟩, hlater ends⟩

/-- If a value without instances is written at all, then every way from it to parts of parts ends. -/
theorem ProxiesBare.acc_of_ends (proxies : frame.ProxiesBare setting) {value : Value}
    (bare : value.Bare) {options : OptionRow String} {fuel n : Nat} {s t : RenderState}
    (ends : outcome (writeValue setting fuel frame value options) s = (some n, t)) :
    Acc (frame.PartOf setting options.null) value := by
  induction fuel using Nat.strongRecOn generalizing value n s t with
  | ind fuel ih =>
    refine Acc.intro value fun part hpart => ?_
    cases fuel with
    | zero => cases ends
    | succ fuel =>
      obtain ⟨items, hparts, hbare, hwrite⟩ | ⟨hparts, -⟩ := proxies.writeValue_succ bare options
      · have hplain : writeValue setting (fuel + 1) frame value options =
            writeItems setting fuel frame items options 0 false := hwrite setting.maxDepth fuel
        rw [hplain] at ends
        obtain ⟨less, below, u, m, v, hends⟩ := exists_ends_of_writeItems ends part (hparts ▸ hpart)
        exact ih less (Nat.lt_succ_of_lt below) (hbare part hpart) hends
      · rw [PartOf, hparts] at hpart
        cases hpart

/-- A value for which a scalar value stands has no parts. -/
theorem parts_of_isScalar {value : Value} (scalar : (frame.standIn setting value).isScalar = true)
    (null : Option String) : frame.parts setting null value = [] := by
  unfold parts
  generalize frame.standIn setting value = written at scalar
  cases written <;> first | (split <;> rfl) | cases scalar

/-- If proxies only make scalar values, then every way from a value to parts of parts ends: without
proxies the parts of a collection are its elements. -/
theorem acc_of_scalars (scalars : ∀ kind proxy, (frame.group setting).proxy? kind = some proxy →
      ∀ value, (proxy value).isScalar = true) (null : Option String) {value : Value}
    (bare : value.Bare) : Acc (frame.PartOf setting null) value := by
  have hstandIn (value : Value) : (frame.standIn setting value).isScalar = true ∨
      frame.standIn setting value = value := by
    unfold standIn
    split
    · rename_i proxy registered
      exact Or.inl (scalars _ proxy registered value)
    · exact Or.inr rfl
  have hscalar {value : Value} (scalar : (frame.standIn setting value).isScalar = true) :
      Acc (frame.PartOf setting null) value := by
    refine Acc.intro value fun part hpart => ?_
    rw [PartOf, parts_of_isScalar scalar] at hpart
    cases hpart
  have hstring (text : String) : Acc (frame.PartOf setting null) (.string text) := by
    obtain scalar | same := hstandIn (.string text)
    · exact hscalar scalar
    · exact hscalar (by rw [same]; rfl)
  have hpresent {items : List Value} (each : ∀ item ∈ items, Acc (frame.PartOf setting null) item) :
      ∀ part ∈ items.filterMap (Value.present? null), Acc (frame.PartOf setting null) part := by
    intro part mem
    obtain ⟨item, hitem, present⟩ := List.mem_filterMap.mp mem
    obtain rfl | ⟨text, rfl⟩ := eq_or_string_of_written present
    · exact each _ hitem
    · exact hstring text
  induction bare using Value.Sound.induction with
  | single value bare noList noMap =>
    obtain scalar | same := hstandIn value
    · exact hscalar scalar
    · refine hscalar ?_
      rw [same]
      cases value with
      | list items => exact absurd rfl (noList items)
      | map entries => exact absurd rfl (noMap entries)
      | template inst => exact absurd rfl (Value.Bare.ne_template bare inst)
      | _ => rfl
  | list items _ each =>
    obtain scalar | same := hstandIn (.list items)
    · exact hscalar scalar
    · refine Acc.intro _ fun part hpart => hpresent each part ?_
      rwa [PartOf, parts, same] at hpart
  | map entries _ each =>
    obtain scalar | same := hstandIn (.map entries)
    · exact hscalar scalar
    · refine Acc.intro _ fun part hpart => ?_
      rw [PartOf, parts, same] at hpart
      refine hpresent (fun item mem => ?_) part hpart
      obtain ⟨entry, hentry, rfl⟩ | ⟨key, rfl⟩ := Value.entry_or_string_of_mem_elements mem
      · exact each entry hentry
      · exact hstring key

end Frame

/-- Let there be no instance in a value nor in what the proxies make. If every way from the value to
the elements of what stands for it, and on to the elements of what stands for these, comes to an end,
then from any state the value is written, in the same way for every amount of fuel that is large
enough. If some way goes on for ever, then the write does not end with any amount of fuel. Either way
the limit on the nesting of templates makes no difference to what is done. -/
theorem writeValue_ends_iff_acc {setting : Setting} {frame : Frame}
    (proxies : frame.ProxiesBare setting) {value : Value} (bare : value.Bare)
    (options : OptionRow String) (s : RenderState) :
    let ends := Acc (frame.PartOf setting options.null) value
    (ends → ∃ enough n t, ∀ fuel ≥ enough,
      outcome (writeValue setting fuel frame value options) s = (some n, t)) ∧
    (¬ends → ∀ fuel, (outcome (writeValue setting fuel frame value options) s).1 = none) ∧
    ∀ depth fuel, writeValue (setting.withDepth depth) fuel frame value options =
      writeValue setting fuel frame value options := by
  intro ends
  refine ⟨fun hends => ?_, fun hendless fuel => ?_, proxies.writeValue_withDepth bare options⟩
  · obtain ⟨enough, n, t, hwritten, -⟩ := proxies.terminates_of_acc bare options hends s
    exact ⟨enough, n, t, hwritten⟩
  · rcases hwritten : outcome (writeValue setting fuel frame value options) s with ⟨_ | n, t⟩
    · rfl
    · exact absurd (proxies.acc_of_ends bare hwritten) hendless

/-- The proxies of a group that puts every list into a list, and in the place of a positive number a
list of the number before it. -/
def nestingProxy? : ValueKind → Option Proxy
  | .list => some fun value => .list [value]
  | .integer => some fun
    | .integer n => if 0 < n then .list [.integer (n - 1)] else .integer n
    | value => value
  | _ => none

/-- A frame in such a group. -/
def nestingFrame : Frame × Setting :=
  (.root (.ofTemplate (Template.blank "nesting") ⟨0⟩),
    ⟨⟨[{ Group.empty ⟨0⟩ with proxy? := nestingProxy? }]⟩, "en", 200⟩)

/-- Neither proxy makes an instance. -/
theorem proxiesBare_nestingFrame : nestingFrame.1.ProxiesBare nestingFrame.2 := by
  intro kind proxy registered value bare
  change nestingProxy? kind = some proxy at registered
  cases kind with
  | list =>
    obtain rfl := Option.some.inj registered
    exact Value.sound_list_iff.mpr (List.forall_mem_singleton.mpr bare)
  | integer =>
    obtain rfl := Option.some.inj registered
    dsimp only
    split
    · split
      · exact Value.sound_list_iff.mpr (List.forall_mem_singleton.mpr (.integer _))
      · exact bare
    · exact bare
  | _ => cases registered

/-- A list is put into a list that is put into a list and so on, so writing it never ends. A number is
counted down through as many lists, and written even where no template may be nested. -/
theorem nesting_writeValue_ends_iff_acc :
    nestingFrame.1.ProxiesBare nestingFrame.2 ∧ (Value.list []).Bare ∧ (Value.integer 3).Bare ∧
    ¬Acc (nestingFrame.1.PartOf nestingFrame.2 none) (.list []) ∧
    (∀ fuel, (outcome (writeValue nestingFrame.2 fuel nestingFrame.1 (.list []) .empty)
      (.start (.verbatim (.ofSink .boundless)) false)).1 = none) ∧
    (∃ enough n t, ∀ fuel ≥ enough,
      outcome (writeValue nestingFrame.2 fuel nestingFrame.1 (.integer 3) .empty)
        (.start (.verbatim (.ofSink .boundless)) false) = (some n, t)) ∧
    (outcome (writeValue (nestingFrame.2.withDepth 0) 9 nestingFrame.1 (.integer 3) .empty)
      (.start (.verbatim (.ofSink .boundless)) false)).1 = some 1 := by
  have hlist : (Value.list []).Bare := .list (by simp)
  have hinteger : (Value.integer 3).Bare := .integer 3
  obtain ⟨-, hnever, -⟩ := writeValue_ends_iff_acc proxiesBare_nestingFrame hlist .empty
    (.start (.verbatim (.ofSink .boundless)) false)
  obtain ⟨hends, -, hdepth⟩ := writeValue_ends_iff_acc proxiesBare_nestingFrame hinteger .empty
    (.start (.verbatim (.ofSink .boundless)) false)
  have hloop : ¬Acc (nestingFrame.1.PartOf nestingFrame.2 none) (.list []) :=
    not_acc_iff_exists_descending_chain.mpr
      ⟨fun _ => .list [], rfl, fun _ => List.mem_singleton.mpr rfl⟩
  have hcount : (outcome (writeValue (nestingFrame.2.withDepth 0) 9 nestingFrame.1 (.integer 3)
      .empty) (.start (.verbatim (.ofSink .boundless)) false)).1 = some 1 := by
    decide +kernel
  have hreached : outcome (writeValue nestingFrame.2 9 nestingFrame.1 (.integer 3) .empty)
      (.start (.verbatim (.ofSink .boundless)) false) = (some 1, _) :=
    Prod.ext (hdepth 0 9 ▸ hcount) rfl
  have hfinite := proxiesBare_nestingFrame.acc_of_ends hinteger hreached
  exact ⟨proxiesBare_nestingFrame, hlist, hinteger, hloop, hnever hloop, hends hfinite, hcount⟩

end TemplateMachine
