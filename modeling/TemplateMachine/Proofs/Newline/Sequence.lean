import TemplateMachine.Proofs.Newline.Writing

/-!
# Texts with separators

Writing texts one after the other with a separator between them. What comes of it does not depend on
whether the separator is translated before it is written if that changes nothing but carriage
returns; where nothing is indented, the separator can be told from the whole, so that it matters in
every other case in which the translation is changed by a second one.

A separator may also be left out as long as nothing was written. Texts show if they are not written
as nothing.
-/

namespace TemplateMachine

/-- Texts with a separator before each one that comes after something was written. -/
def separated (separator : String) (shows : String → Bool) : Bool → List String → List String
  | _, [] => []
  | seen, text :: rest =>
    (if seen then [separator, text] else [text]) ++
      separated separator shows (seen || shows text) rest

section Separated

variable (separator : String)

/-- Once something was written there is a separator before each text. -/
theorem separated_true (shows : String → Bool) (texts : List String) :
    separated separator shows true texts = texts.flatMap fun text => [separator, text] := by
  induction texts with
  | nil => rfl
  | cons text rest ih => simp [separated, ih]

/-- Between texts there are as many separators as there are texts after the first one. -/
theorem intersperse_cons_eq_flatMap (first : String) (rest : List String) :
    (first :: rest).intersperse separator =
      first :: rest.flatMap fun text => [separator, text] := by
  induction rest generalizing first with
  | nil => rfl
  | cons next rest ih => simp [List.intersperse, ih]

/-- If the first text shows, there is a separator between any two texts. -/
theorem separated_eq_intersperse {shows : String → Bool} {first : String} (rest : List String)
    (visible : shows first = true) :
    separated separator shows false (first :: rest) = (first :: rest).intersperse separator := by
  rw [intersperse_cons_eq_flatMap, separated, visible, Bool.or_true, separated_true]
  rfl

end Separated

namespace Writer

variable {w : Writer}

/-- The layout decides how a text is translated. -/
theorem translate_eq_of_layout {v : Writer} (same : v.layout = w.layout) :
    v.translate = w.translate := by
  unfold translate
  rw [same]

/-- If a separator is settled, it may be translated before it is written between texts. -/
theorem Settles.writeAll_intersperse {separator : String} (settled : w.Settles separator)
    (htakes : w.sink.TakesAll) (texts : List String) :
    w.writeAll (texts.intersperse (w.translate separator)) =
      w.writeAll (texts.intersperse separator) := by
  have hrest (rest : List String) (v : Writer) (hlayout : v.layout = w.layout)
      (hv : v.sink.TakesAll) :
      v.writeAll (rest.flatMap fun text => [w.translate separator, text]) =
        v.writeAll (rest.flatMap fun text => [separator, text]) := by
    induction rest generalizing v with
    | nil => rfl
    | cons text rest ih =>
      have hsettled : v.Settles separator := fun newline h => settled newline (hlayout ▸ h)
      obtain ⟨n, -, hfirst⟩ := writes_writeTo separator hv
      obtain ⟨m, -, hsecond⟩ := writes_writeTo text hfirst.takesAll
      have hsame : v.writeTo (w.translate separator) = v.writeTo separator := by
        rw [← translate_eq_of_layout hlayout, hsettled.writeTo_translate]
      simp only [writeAll, List.flatMap_cons, List.cons_append, List.nil_append, List.foldl_cons,
        hsame] at ih ⊢
      exact ih _ (hsecond.layout.trans (hfirst.layout.trans hlayout)) hsecond.takesAll
  cases texts with
  | nil => rfl
  | cons first rest =>
    obtain ⟨n, -, hfirst⟩ := writes_writeTo first htakes
    rw [intersperse_cons_eq_flatMap, intersperse_cons_eq_flatMap]
    exact hrest rest _ hfirst.layout hfirst.takesAll

/-- Where nothing is indented, texts are written as their translations. -/
theorem text_writeAll (htakes : w.sink.TakesAll) (hindents : w.layout.indentation = [])
    (hanchors : w.layout.anchors = []) (texts : List String) :
    (w.writeAll texts).text.toList =
      w.text.toList ++ texts.flatMap fun text => (w.translate text).toList := by
  induction texts generalizing w with
  | nil => simp [writeAll]
  | cons text rest ih =>
    obtain ⟨n, -, hwrites⟩ := writes_writeTo text htakes
    have hrest := ih hwrites.takesAll (hwrites.layout ▸ hindents) (hwrites.layout ▸ hanchors)
    rw [translate_eq_of_layout hwrites.layout, hwrites.text hindents hanchors] at hrest
    simpa [writeAll] using hrest

end Writer

/-- The same before each of several parts adds its length as many times. -/
theorem length_flatMap_append {α β : Type} (f : α → List β) (items : List α) (before : List β) :
    (items.flatMap fun item => before ++ f item).length =
      items.length * before.length + (items.flatMap f).length := by
  induction items with
  | nil => simp
  | cons item rest ih =>
    simp only [List.flatMap_cons, List.length_append, ih, List.length_cons, Nat.add_mul]
    omega

/-- What stands before each of several parts can be told from the whole. -/
theorem flatMap_append_inj {α β : Type} {f : α → List β} {items : List α} (some : items ≠ [])
    {before other : List β} :
    (items.flatMap fun item => before ++ f item) = (items.flatMap fun item => other ++ f item) ↔
      before = other := by
  constructor
  · intro same
    have hlength : before.length = other.length := by
      have hlengths := congrArg List.length same
      rw [length_flatMap_append, length_flatMap_append] at hlengths
      exact Nat.eq_of_mul_eq_mul_left (List.length_pos_of_ne_nil some) (Nat.add_right_cancel hlengths)
    cases items with
    | nil => exact absurd rfl some
    | cons item rest =>
      rw [List.flatMap_cons, List.flatMap_cons, List.append_assoc, List.append_assoc] at same
      exact List.append_inj_left same hlength
  · rintro rfl
    rfl

namespace Writer

variable {w : Writer}

/-- Where nothing is indented, what is written between texts can be told from the whole. -/
theorem text_writeAll_intersperse_inj (htakes : w.sink.TakesAll)
    (hindents : w.layout.indentation = []) (hanchors : w.layout.anchors = []) {texts : List String}
    (two : 2 ≤ texts.length) {separator other : String} :
    (w.writeAll (texts.intersperse separator)).text = (w.writeAll (texts.intersperse other)).text ↔
      w.translate separator = w.translate other := by
  obtain ⟨first, rest, rfl⟩ : ∃ first rest, texts = first :: rest :=
    List.exists_cons_of_length_pos (Nat.lt_of_lt_of_le Nat.two_pos two)
  have hrest : rest ≠ [] := List.ne_nil_of_length_pos (Nat.lt_of_succ_lt_succ two)
  have hpair (between : String) (text : String) :
      ([between, text].flatMap fun text => (w.translate text).toList) =
        (w.translate between).toList ++ (w.translate text).toList := by
    simp
  rw [← String.toList_inj, text_writeAll htakes hindents hanchors,
    text_writeAll htakes hindents hanchors, intersperse_cons_eq_flatMap,
    intersperse_cons_eq_flatMap, List.flatMap_cons, List.flatMap_cons, List.flatMap_assoc,
    List.flatMap_assoc, List.append_cancel_left_eq, List.append_cancel_left_eq]
  simp only [hpair]
  rw [flatMap_append_inj hrest, String.toList_inj]

/-- There is no newline in a text that the writer would translate, or the newline text has neither
newlines nor carriage returns, or it is a newline but for carriage returns. -/
def Stable (w : Writer) (text : String) : Prop :=
  ∀ newline, w.layout.newline = some newline → '\n' ∉ text.toList ∨
    '\n' ∉ newline.toList ∧ '\r' ∉ newline.toList ∨ visibleChars newline.toList = ['\n']

/-- To translate a text twice is to translate it once exactly if it is stable. -/
theorem translate_translate_iff (w : Writer) (text : String) :
    w.translate (w.translate text) = w.translate text ↔ w.Stable text := by
  unfold translate Stable
  cases w.layout.newline with
  | none => simp
  | some newline =>
    have htwice := @translateChars_twice_iff newline.toList text.toList
    simp only [Option.some.injEq, forall_eq']
    rw [← htwice, ← String.toList_inj]
    simp only [String.toList_ofList]

end Writer

end TemplateMachine
