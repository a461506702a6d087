import Mathlib.Data.List.Basic
import Mathlib.Tactic.ByContra

/-!
# Translating newlines

What the characters of a text are written as where nothing is indented: a carriage return as nothing,
a newline as the newline text, and any other character as itself.

To translate a second time is harmless for texts without a newline and for newline texts that are
translated to themselves. These have neither newlines nor carriage returns, or they are one newline
with any number of carriage returns around it.
-/

namespace TemplateMachine

/-- What a character is written as, given the newline text. -/
def translateChar (newline : List Char) (c : Char) : List Char :=
  if c = '\r' then [] else if c = '\n' then newline else [c]

/-- What characters are written as, given the newline text. -/
def translateChars (newline chars : List Char) : List Char :=
  chars.flatMap (translateChar newline)

/-- The characters that are not dropped. -/
def visibleChars (chars : List Char) : List Char :=
  chars.filter (· != '\r')

variable {newline chars : List Char}

@[simp] theorem translateChars_nil : translateChars newline [] = [] := rfl

@[simp] theorem translateChars_cons (c : Char) :
    translateChars newline (c :: chars) = translateChar newline c ++ translateChars newline chars :=
  List.flatMap_cons

@[simp] theorem translateChars_append (before after : List Char) :
    translateChars newline (before ++ after) =
      translateChars newline before ++ translateChars newline after :=
  List.flatMap_append

@[simp] theorem visibleChars_append (before after : List Char) :
    visibleChars (before ++ after) = visibleChars before ++ visibleChars after :=
  List.filter_append before after

/-- A text without newlines is written without its carriage returns. -/
theorem translateChars_of_notMem (single : '\n' ∉ chars) :
    translateChars newline chars = visibleChars chars := by
  induction chars with
  | nil => rfl
  | cons c rest ih =>
    simp only [List.mem_cons, not_or] at single
    rw [translateChars_cons, ih single.2, translateChar, if_neg (Ne.symm single.1)]
    by_cases dropped : c = '\r' <;> simp [visibleChars, dropped]

/-- Dropping carriage returns before translating changes nothing. -/
theorem translateChars_visibleChars :
    translateChars newline (visibleChars chars) = translateChars newline chars := by
  induction chars with
  | nil => rfl
  | cons c rest ih =>
    by_cases dropped : c = '\r'
    · simpa [visibleChars, translateChar, dropped] using ih
    · simpa [visibleChars, dropped] using ih

/-- If the newline text is a newline but for carriage returns, translating changes nothing but
carriage returns. -/
theorem visibleChars_translateChars (plain : visibleChars newline = ['\n']) :
    visibleChars (translateChars newline chars) = visibleChars chars := by
  induction chars with
  | nil => rfl
  | cons c rest ih =>
    have hchar : visibleChars (translateChar newline c) = visibleChars [c] := by
      unfold translateChar
      split
      · simp [*, visibleChars]
      split
      · simp [*, visibleChars] at plain ⊢
        exact plain
      · rfl
    rw [translateChars_cons, visibleChars_append, ih, hchar, ← visibleChars_append]
    rfl

/-- The number of characters that are written as themselves. -/
def plainCount (chars : List Char) : Nat :=
  chars.countP fun c => c != '\r' && c != '\n'

/-- A character is written as itself, dropped, or a newline. -/
theorem length_eq_plainCount (chars : List Char) :
    chars.length = plainCount chars + chars.count '\r' + chars.count '\n' := by
  induction chars with
  | nil => rfl
  | cons c rest ih =>
    rw [List.length_cons, ih]
    by_cases dropped : c = '\r'
    · simp [plainCount, dropped]
      omega
    · by_cases ends : c = '\n'
      · simp [plainCount, ends]
        omega
      · simp [plainCount, dropped, ends]
        omega

/-- A text gets longer by the newline texts that take the place of its newlines. -/
theorem length_translateChars (newline chars : List Char) :
    (translateChars newline chars).length =
      plainCount chars + chars.count '\n' * newline.length := by
  induction chars with
  | nil => simp [plainCount]
  | cons c rest ih =>
    rw [translateChars_cons, List.length_append, ih, translateChar]
    by_cases dropped : c = '\r'
    · simp [plainCount, dropped]
    · by_cases ends : c = '\n'
      · simp [plainCount, ends, Nat.add_mul]
        omega
      · simp [plainCount, dropped, ends]
        omega

/-- To translate twice is to translate once with the translated newline text. -/
theorem translateChars_translateChars (newline chars : List Char) :
    translateChars newline (translateChars newline chars) =
      translateChars (translateChars newline newline) chars := by
  induction chars with
  | nil => rfl
  | cons c rest ih =>
    have hchar : translateChars newline (translateChar newline c) =
        translateChar (translateChars newline newline) c := by
      by_cases dropped : c = '\r'
      · simp [translateChar, dropped]
      · by_cases ends : c = '\n' <;> simp [translateChar, dropped, ends]
    rw [translateChars_cons, translateChars_append, ih, hchar, translateChars_cons]

/-- Two newline texts make the same of a text exactly if it has no newline or they are the same. -/
theorem translateChars_eq_iff {other : List Char} :
    translateChars other chars = translateChars newline chars ↔ '\n' ∉ chars ∨ other = newline := by
  constructor
  · intro same
    by_contra! differs
    obtain ⟨hmem, hother⟩ := differs
    have hlength : other.length = newline.length := by
      have hlengths := congrArg List.length same
      rw [length_translateChars, length_translateChars] at hlengths
      have hcount : 0 < chars.count '\n' := List.count_pos_iff.mpr hmem
      exact Nat.eq_of_mul_eq_mul_left hcount (Nat.add_left_cancel hlengths)
    -- What stands before the first newline is written the same, whatever the newline text.
    obtain ⟨before, after, hsplit, hfirst⟩ := List.eq_append_cons_of_mem hmem
    rw [hsplit, translateChars_append, translateChars_append, translateChars_of_notMem hfirst,
      translateChars_of_notMem hfirst, translateChars_cons, translateChars_cons] at same
    have hrest := List.append_cancel_left same
    exact hother (List.append_inj_left hrest hlength)
  · rintro (single | rfl)
    · rw [translateChars_of_notMem single, translateChars_of_notMem single]
    · rfl

/-- Characters of which none is written as itself and one is a newline are that newline but for
carriage returns. -/
theorem visibleChars_eq_singleton (plain : plainCount chars = 0) (once : chars.count '\n' = 1) :
    visibleChars chars = ['\n'] := by
  have hends : visibleChars chars = chars.filter (· == '\n') := by
    refine List.filter_congr fun c mem => ?_
    have hplain := List.countP_eq_zero.mp plain c mem
    by_cases ends : c = '\n'
    · simp [ends]
    · have hdropped : c = '\r' := by simpa [ends] using hplain
      simp [hdropped]
  rw [hends, List.filter_beq, once]
  rfl

/-- A newline text is translated to itself exactly if it has neither newlines nor carriage returns,
or is one newline but for carriage returns. -/
theorem translateChars_self_iff :
    translateChars newline newline = newline ↔
      '\n' ∉ newline ∧ '\r' ∉ newline ∨ visibleChars newline = ['\n'] := by
  constructor
  · intro same
    have hlength := congrArg List.length same
    have hcount := length_eq_plainCount newline
    rw [length_translateChars] at hlength
    rcases Nat.lt_trichotomy (newline.count '\n') 1 with none | once | more
    · have hends : newline.count '\n' = 0 := by omega
      rw [hends] at hlength
      exact Or.inl ⟨List.count_eq_zero.mp hends, List.count_eq_zero.mp (by omega)⟩
    · rw [once] at hlength
      exact Or.inr (visibleChars_eq_singleton (by omega) once)
    · have htwice : 2 * newline.length ≤ newline.count '\n' * newline.length :=
        Nat.mul_le_mul_right _ more
      omega
  · rintro (⟨single, kept⟩ | plain)
    · rw [translateChars_of_notMem single]
      exact List.filter_eq_self.mpr fun c mem => by
        simpa using fun dropped : c = '\r' => kept (dropped ▸ mem)
    · rw [← translateChars_visibleChars, plain]
      simp [translateChar]

/-- To translate a text twice is to translate it once exactly if it has no newline or the newline
text is translated to itself. -/
theorem translateChars_twice_iff :
    translateChars newline (translateChars newline chars) = translateChars newline chars ↔
      '\n' ∉ chars ∨ '\n' ∉ newline ∧ '\r' ∉ newline ∨ visibleChars newline = ['\n'] := by
  rw [translateChars_translateChars, translateChars_eq_iff, translateChars_self_iff]

end TemplateMachine
