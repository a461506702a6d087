import TemplateMachine.Proofs.Format.Grammar

/-!
# Numbers of formats that do not fit in a word

The numbers of a format are accumulated digit by digit, in words. What has been accumulated at some
place is the number written up to there as long as that number fits, and the numbers up to a place
are no greater than the ones written in full, so that the formats whose numbers fit are read
exactly. The others are meant to be no formats at all, and their values to be written as they are;
they are read with the remainders of their numbers instead.
-/

namespace TemplateMachine

/-! ### Values of runs -/

theorem decimalValue_append (digits more : List Char) :
    decimalValue (digits ++ more) =
      10 ^ more.length * decimalValue digits + decimalValue more := by
  rw [decimalValue, Nat.ofDigitChars_append, Nat.ofDigitChars_eq_ofDigitChars_zero]
  rfl

/-- The start of a number is no greater than the number. -/
theorem decimalValue_le_of_prefix {start digits : List Char} (h : start <+: digits) :
    decimalValue start ≤ decimalValue digits := by
  obtain ⟨more, rfl⟩ := h
  rw [decimalValue_append]
  exact Nat.le_add_right_of_le (Nat.le_mul_of_pos_left _ (Nat.pow_pos (by decide)))

/-- Flags in front of a number count as zeros. -/
theorem decimalValue_flags_append {flags : List Char} (h : ∀ c ∈ flags, c = '-' ∨ c = '0')
    (digits : List Char) : decimalValue (flags ++ digits) = decimalValue digits := by
  induction flags with
  | nil => rfl
  | cons c flags ih =>
    have digit : c.toNat - '0'.toNat = 0 := by
      rcases h c List.mem_cons_self with rfl | rfl <;> rfl
    rw [List.cons_append, decimalValue, Nat.ofDigitChars_cons, digit]
    exact ih fun d mem => h d (List.mem_cons_of_mem c mem)

/-! ### Heads of a format -/

/-- Whether a character is a flag or a digit. -/
def isFlagOrDigit (c : Char) : Bool :=
  NumberFormat.isFlag c || c.isDigit

namespace FormatHead

/-- The numbers accumulated up to a place are the ones written up to there. -/
structure Exact (head : FormatHead) : Prop where
  width : (NumberFormat.digitsValue head.width).toNat = decimalValue head.width
  precision : ∀ digits ∈ head.precision,
    (NumberFormat.digitsValue digits).toNat = decimalValue digits

/-- They are when they fit in words. -/
theorem exact_iff {head : FormatHead} : head.Exact ↔ head.FitsWords := by
  have exact_iff (digits : List Char) :
      (NumberFormat.digitsValue digits).toNat = decimalValue digits ↔
        decimalValue digits < UInt64.size := by
    rw [NumberFormat.toNat_digitsValue]
    exact Nat.mod_eq_iff_lt (by decide)
  constructor
  · rintro ⟨width, precision⟩
    exact ⟨(exact_iff _).mp width, fun digits written =>
      (exact_iff _).mp (precision digits written)⟩
  · rintro ⟨width, precision⟩
    exact ⟨(exact_iff _).mpr width, fun digits written =>
      (exact_iff _).mpr (precision digits written)⟩

theorem isFlagOrDigit_of_mem (head : FormatHead) :
    ∀ c ∈ head.flags ++ head.width, isFlagOrDigit c = true := by
  intro c mem
  rcases List.mem_append.mp mem with mem | mem
  · rcases head.isFlag_of_mem c mem with rfl | rfl <;> rfl
  · simp [isFlagOrDigit, head.isDigit_of_mem_width c mem]

/-- The width counts the same with the flags in front of it. -/
theorem decimalValue_flags_width (head : FormatHead) :
    decimalValue (head.flags ++ head.width) = decimalValue head.width :=
  decimalValue_flags_append head.isFlag_of_mem head.width

end FormatHead

namespace FormatParts

/-- What stands behind the width goes on neither flags nor digits. -/
theorem stops_isFlagOrDigit (parts : FormatParts) : Stops isFlagOrDigit parts.behindWidth := by
  intro c first
  rcases parts.mem_head?_behindWidth first with rfl | rfl
  · rfl
  · obtain ⟨notFlag, notDigit, -⟩ := parts.conversion.letter_stops
    rw [isFlagOrDigit, notFlag, notDigit]
    rfl

/-- The numbers of a head of a format are no greater than the ones of the format. -/
theorem decimalValue_head_le {parts : FormatParts} {head : FormatHead}
    (h : head.text <+: parts.text) :
    decimalValue head.width ≤ decimalValue parts.width ∧
      ∀ digits ∈ head.precision, ∃ whole ∈ parts.precision,
        decimalValue digits ≤ decimalValue whole := by
  obtain ⟨more, same⟩ := h
  rw [text_eq, FormatHead.text, List.append_assoc, List.cons_append] at same
  obtain ⟨-, same⟩ := run_unique head.ne_percent_of_mem_before stops_percent
    parts.ne_percent_of_mem_before stops_percent same
  -- The head and the parts may cut the zeros differently, so flags and width are one run here.
  replace same : (head.flags ++ head.width) ++ (precisionText head.precision ++ more) =
      (parts.flags ++ parts.width) ++ parts.behindWidth := by
    simpa using (List.cons.inj same).2
  constructor
  · rw [← head.decimalValue_flags_width, ← parts.decimalValue_flags_width]
    exact decimalValue_le_of_prefix (prefix_of_run head.isFlagOrDigit_of_mem
      parts.isFlagOrDigit_of_mem parts.stops_isFlagOrDigit same)
  · intro digits written
    have point : Stops isFlagOrDigit (precisionText head.precision ++ more) := by
      rw [Option.mem_def.mp written]
      rintro c ⟨⟩
      rfl
    obtain ⟨-, behind⟩ := run_unique head.isFlagOrDigit_of_mem point
      parts.isFlagOrDigit_of_mem parts.stops_isFlagOrDigit same
    rw [Option.mem_def.mp written, behindWidth] at behind
    rcases written' : parts.precision with _ | whole
    · rw [written'] at behind
      exact absurd (List.cons.inj behind).1 parts.conversion.letter_stops.2.2.symm
    · rw [written'] at behind
      exact ⟨whole, rfl, decimalValue_le_of_prefix (prefix_of_run
        (head.isDigit_of_mem_precision digits written)
        (parts.isDigit_of_mem_precision whole written') parts.stops_letter
        (List.cons.inj behind).2)⟩

/-- The numbers of all heads of a format fit when the numbers of the format do. -/
theorem heads_fit_iff (parts : FormatParts) :
    (∀ head : FormatHead, head.text <+: parts.text → head.FitsWords) ↔ parts.FitsWords := by
  constructor
  · intro heads
    exact heads parts.toFormatHead (List.prefix_append _ _)
  · intro fits head h
    obtain ⟨width, precision⟩ := decimalValue_head_le h
    refine ⟨width.trans_lt fits.width, fun digits written => ?_⟩
    obtain ⟨whole, written', le⟩ := precision digits written
    exact le.trans_lt (fits.precision whole written')

end FormatParts

/-! ### What is promised and what is read -/

/-- What is promised of a format: parts whose numbers fit are read as they are written, and a text
without such parts is not a format. -/
structure ReadAsPromised (format : String) : Prop where
  exact : ∀ parts : FormatParts, parts.text = format.toList → parts.Greedy → parts.FitsWords →
    ∃ read, NumberFormat.parse? format = some read ∧ parts.Describes read
  unread : (∀ parts : FormatParts, parts.text = format.toList → ¬ parts.FitsWords) →
    NumberFormat.parse? format = none

namespace FormatParts

variable {parts : FormatParts} {format : String}

/-- The text of parts with the most flags is read as what the parts stand for. -/
theorem Greedy.parse?_eq (greedy : parts.Greedy) (text : parts.text = format.toList) :
    NumberFormat.parse? format = some parts.format := by
  rw [NumberFormat.parse?, ← text, parseChars?_text greedy]

/-- All parts of one text fit when some do. -/
theorem fitsWords_of_text_eq {other : FormatParts} (same : parts.text = other.text)
    (fits : parts.FitsWords) : other.FitsWords := by
  rw [← heads_fit_iff] at fits ⊢
  rwa [← same]

/-- The promise is kept for the texts of parts that fit, and for no others. -/
theorem Greedy.readAsPromised_iff (greedy : parts.Greedy) (text : parts.text = format.toList) :
    ReadAsPromised format ↔ parts.FitsWords := by
  constructor
  · intro promise
    by_contra unfit
    have unread := promise.unread fun other text' fits =>
      unfit (fitsWords_of_text_eq (text'.trans text.symm) fits)
    rw [greedy.parse?_eq text] at unread
    contradiction
  · intro fits
    constructor
    · intro other text' greedy' fits'
      exact ⟨other.format, greedy'.parse?_eq text', describes_format fits'⟩
    · intro unfit
      exact absurd fits (unfit parts text)

end FormatParts

/-- A format that is not read leaves a value as it is, and one that is read writes the values that
its conversion applies to. -/
theorem formatNumber_eq (value : Value) (format : String) :
    formatNumber value (some format) =
      ((NumberFormat.parse? format).bind (·.written? value)).getD value.display := by
  rw [formatNumber, Option.bind_some]
  cases (NumberFormat.parse? format).bind (·.written? value) <;> rfl

/-- What the reader of formats has accumulated at a place is the number written up to there exactly
when that number fits, and for a format that comes down to the numbers written in full. The formats
whose numbers fit are read as promised. The others are read as well, with the remainders of their
numbers, and a text that is not in the grammar leaves all values as they are. -/
theorem formatNumber_reading (format : String) :
    ((∀ head : FormatHead, head.text <+: format.toList → head.Exact) ↔
        ∀ head : FormatHead, head.text <+: format.toList → head.FitsWords) ∧
      (∀ parts : FormatParts, parts.text = format.toList → parts.Greedy →
        ((∀ head : FormatHead, head.text <+: format.toList → head.FitsWords) ↔
            parts.FitsWords) ∧
          (ReadAsPromised format ↔ parts.FitsWords) ∧
          ∃ read, NumberFormat.parse? format = some read ∧
            read.width.toNat = decimalValue parts.width % UInt64.size ∧
            read.precision.map UInt64.toNat =
              parts.precision.map (decimalValue · % UInt64.size) ∧
            ∀ value, formatNumber value (some format) =
              (read.written? value).getD value.display) ∧
      ((∀ parts : FormatParts, parts.text ≠ format.toList) →
        ReadAsPromised format ∧ ∀ value, formatNumber value (some format) = value.display) := by
  refine ⟨forall₂_congr fun head _ => head.exact_iff, ?_, ?_⟩
  · intro parts text greedy
    have read := greedy.parse?_eq text
    refine ⟨by rw [← text, parts.heads_fit_iff], greedy.readAsPromised_iff text,
      parts.format, read, NumberFormat.toNat_digitsValue _, ?_, fun value => ?_⟩
    · rw [FormatParts.format, Option.map_map]
      exact Option.map_congr fun digits _ => NumberFormat.toNat_digitsValue digits
    · rw [formatNumber_eq, read, Option.bind_some]
  · intro outside
    have unread : NumberFormat.parse? format = none := by
      rw [← Option.not_isSome_iff_eq_none, NumberFormat.parse?_isSome_iff]
      rintro ⟨parts, text⟩
      exact outside parts text
    refine ⟨⟨fun parts text => absurd text (outside parts), fun _ => unread⟩, fun value => ?_⟩
    rw [formatNumber_eq, unread]
    rfl

/-- A width of three more than the words have numbers is read as a width of three. -/
theorem wideFormat_reading : ¬ ReadAsPromised "%18446744073709551619d" ∧
    (∃ read, NumberFormat.parse? "%18446744073709551619d" = some read ∧ read.width.toNat = 3) ∧
      formatNumber (.integer 5) (some "%18446744073709551619d") = "  5" := by
  let parts : FormatParts := {
    before := []
    flags := []
    width := "18446744073709551619".toList
    precision := none
    before_free := by decide
    isFlag_of_mem := List.forall_mem_nil _
    isDigit_of_mem_width := List.all_eq_true.mp (by decide)
    isDigit_of_mem_precision := by simp
    conversion := .decimal
    after := [] }
  have greedy : parts.Greedy := by
    change "18446744073709551619".toList.head? ≠ some '0'
    decide
  obtain ⟨-, promised_iff, read, parsed, width, -⟩ :=
    (formatNumber_reading "%18446744073709551619d").2.1 parts (by rfl) greedy
  refine ⟨fun promise => ?_, ⟨read, parsed, width.trans (by decide)⟩, by decide +kernel⟩
  exact absurd (promised_iff.mp promise).width (by decide)

end TemplateMachine
