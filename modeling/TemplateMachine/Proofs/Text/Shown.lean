import TemplateMachine.Proofs.Format.Numerals
import TemplateMachine.Text.Blank
import TemplateMachine.Text.Identifier
import TemplateMachine.Text.Quoted

/-!
# Text that is shown on a line

Characters on one line whose last one is not a blank stay what they are when blanks behind them are
removed, whatever stands in front of them. Numbers are of this kind because they have no blanks at
all, and so are identifiers where no blank counts as a character of one. Texts in quotes are because
of the quotes, as long as newlines are not written as they are.
-/

namespace TemplateMachine

/-! ### Characters that are kept -/

/-- Characters on one line, the last one of which is not a blank. -/
structure Shown (chars : List Char) : Prop where
  unbroken : '\n' ∉ chars
  last : ∃ before c, chars = before ++ [c] ∧ isBlank c = false

namespace Shown

variable {before chars blanks : List Char}

/-- Characters without any blank are shown. -/
theorem of_forall (nonempty : chars ≠ []) (solid : ∀ c ∈ chars, isBlank c = false) :
    Shown chars := by
  refine ⟨fun newline => ?_, ?_⟩
  · have hblank := solid '\n' newline
    contradiction
  · obtain ⟨before, c, rfl⟩ := chars.eq_nil_or_concat'.resolve_left nonempty
    exact ⟨before, c, rfl, solid c (by simp)⟩

/-- What stands in front of shown characters is shown with them if it is on one line. -/
theorem append_left (h : Shown chars) (unbroken : '\n' ∉ before) : Shown (before ++ chars) := by
  obtain ⟨free, start, c, rfl, solid⟩ := h
  exact ⟨by simpa [unbroken] using free, before ++ start, c, by simp, solid⟩

/-- Shown characters are kept when the blanks behind them are removed. -/
theorem trimEndChars_append (h : Shown chars) (blank : ∀ c ∈ blanks, isBlank c = true) :
    trimEndChars (before ++ (chars ++ blanks)) = before ++ chars := by
  have hstop : Stops isBlank (before ++ chars).reverse := by
    obtain ⟨-, start, c, rfl, solid⟩ := h
    simpa [Stops] using solid
  rw [← List.append_assoc, trimEndChars, List.reverse_append,
    dropWhile_run (by simpa using blank) hstop, List.reverse_reverse]

end Shown

/-- Identifiers without blanks: no blank opens one or goes on with it. -/
def IdentifierClass.Solid (identifiers : IdentifierClass) : Prop :=
  ∀ c, isBlank c = true → identifiers.Excludes c

/-- Identifiers are shown if there are no blanks in them. -/
theorem IdentifierClass.Solid.shown {identifiers : IdentifierClass} (solid : identifiers.Solid)
    {name : String} (admitted : identifiers.admits name = true) : Shown name.toList := by
  refine .of_forall (fun nothing => ?_) fun c mem => ?_
  · simp [admits, nothing, admitsChars] at admitted
  · cases blank : isBlank c with
    | false => rfl
    | true =>
      have hother : c ≠ '_' := by
        rintro rfl
        exact absurd blank (by decide)
      exact absurd mem ((solid c blank).notMem hother admitted)

/-- The code points of the blanks. -/
def blankCodes : List Nat :=
  List.range' 0x9 5 ++ [0x20, 0x85, 0xa0, 0x1680] ++ List.range' 0x2000 11 ++
    [0x2028, 0x2029, 0x202f, 0x205f, 0x3000]

/-- A blank has one of these code points. -/
theorem toNat_mem_blankCodes {c : Char} (blank : isBlank c = true) : c.toNat ∈ blankCodes := by
  simp only [isBlank, Bool.or_eq_true, Bool.and_eq_true, decide_eq_true_eq, beq_iff_eq] at blank
  simp only [blankCodes, List.mem_append, List.mem_range'_1, List.mem_cons, List.not_mem_nil]
  omega

/-- The identifiers of Unicode have no blanks in them. -/
theorem solid_unicodeIdentifiers : unicodeIdentifiers.Solid := by
  have hcodes : ∀ code ∈ blankCodes, inRanges code identifierStartRanges = false ∧
      inRanges code identifierContinueRanges = false := by decide +kernel
  intro c blank
  obtain ⟨hstart, hcontinue⟩ := hcodes _ (toNat_mem_blankCodes blank)
  exact ⟨hstart, by simp [unicodeIdentifiers, hstart, hcontinue]⟩

/-- The decimal digits of a number are ten characters. -/
theorem toDigits_ten_subset (n : Nat) : Nat.toDigits 10 n ⊆ "0123456789".toList :=
  @Alphabet.toDigits_subset { digits := "0123456789".toList } (by decide) n

/-- The digits of a number are shown. -/
theorem shown_toDigits (n : Nat) : Shown (Nat.toDigits 10 n) := by
  have hsolid : "0123456789".toList.all (fun c => !isBlank c) = true := by decide
  refine .of_forall Nat.toDigits_ne_nil fun c mem => ?_
  simpa using List.all_eq_true.mp hsolid c (toDigits_ten_subset n mem)

/-! ### Quotes -/

/-- A way to quote texts that puts them in quotes and on one line. -/
structure Quotation (quote : String → String) : Prop where
  enclosed (text : String) : ∃ inside, (quote text).toList = ['"'] ++ inside ++ ['"']
  unbroken (text : String) : '\n' ∉ (quote text).toList

/-- A text that is quoted is shown. -/
theorem Quotation.shown {quote : String → String} (quotation : Quotation quote) (text : String) :
    Shown (quote text).toList := by
  obtain ⟨inside, hquoted⟩ := quotation.enclosed text
  exact ⟨quotation.unbroken text, _, _, hquoted, by decide⟩

/-- No character is written in quotes with a newline. -/
theorem newline_notMem_quotedChar (c : Char) : '\n' ∉ quotedChar c := by
  have hdigits : '\n' ∉ hexDigits c.toNat := fun mem => by
    have hmem := @Alphabet.toDigits_subset { digits := "0123456789abcdef".toList } (by decide)
      c.toNat _ mem
    revert hmem
    decide
  unfold quotedChar
  split_ifs with _ _ _ newline
  any_goals decide
  · simp [hdigits]
  · simpa using Ne.symm newline

/-- The notation for texts in listings puts them in quotes and on one line. -/
theorem quotation_quoted : Quotation quoted where
  enclosed text := ⟨text.toList.flatMap quotedChar, by simp [quoted]⟩
  unbroken text := by simp [quoted, newline_notMem_quotedChar]

end TemplateMachine
