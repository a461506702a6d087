import Mathlib.Algebra.Group.Nat.Defs
import TemplateMachine.Format.NumberFormat
import TemplateMachine.Proofs.Text.Runs

/-!
# The grammar of number formats

A format is in the grammar when it can be cut into a text without a percent sign, the percent sign,
a run of flags, the digits of a width, the digits of a precision behind a point, the letter of a
conversion and any text. `'0'` is a flag and a digit, so the cut is not the only one; it is once
the flags are as many as they can be.

The reader of formats takes longest runs, and what it takes is the cut with the most flags: the
character behind each run of a cut cannot belong to it.
-/

namespace TemplateMachine

/-- The letter of a conversion. -/
def Conversion.letter : Conversion → Char
  | .decimal => 'd'
  | .hexadecimal false => 'x'
  | .hexadecimal true => 'X'
  | .octal => 'o'
  | .fixed => 'f'
  | .scientific => 'e'
  | .plain => 's'

/-- The letters of conversions are the ones that are read as a conversion. -/
theorem Conversion.ofLetter?_eq_some_iff {c : Char} {conversion : Conversion} :
    ofLetter? c = some conversion ↔ c = conversion.letter := by
  constructor
  · intro read
    unfold ofLetter? at read
    split at read <;> simp only [Option.some.injEq, reduceCtorEq] at read <;> subst read <;> rfl
  · rintro rfl
    match conversion with
    | .decimal | .hexadecimal false | .hexadecimal true | .octal | .fixed | .scientific | .plain =>
      rfl

theorem Conversion.letter_injective : Function.Injective letter := by
  intro conversion other same
  have read := ofLetter?_eq_some_iff.mpr same
  rwa [ofLetter?_eq_some_iff.mpr rfl, Option.some_inj] at read

/-- The letter of a conversion goes on neither flags nor digits, and starts no precision. -/
theorem Conversion.letter_stops (conversion : Conversion) :
    NumberFormat.isFlag conversion.letter = false ∧ conversion.letter.isDigit = false ∧
      conversion.letter ≠ '.' := by
  match conversion with
  | .decimal | .hexadecimal false | .hexadecimal true | .octal | .fixed | .scientific | .plain =>
    decide

/-- The number that decimal digits stand for. -/
def decimalValue (digits : List Char) : Nat :=
  Nat.ofDigitChars 10 digits 0

/-- A percent sign ends the text in front of it. -/
theorem stops_percent {rest : List Char} : Stops (fun c => decide (c ≠ '%')) ('%' :: rest) := by
  rintro c ⟨⟩
  rfl

/-! ### The parts of a format -/

/-- The start of a number format as it is written, up to a place inside or behind its numbers. -/
@[ext] structure FormatHead where
  before : List Char
  flags : List Char
  width : List Char
  precision : Option (List Char)
  before_free : '%' ∉ before
  isFlag_of_mem : ∀ c ∈ flags, c = '-' ∨ c = '0'
  isDigit_of_mem_width : ∀ c ∈ width, c.isDigit
  isDigit_of_mem_precision : ∀ digits ∈ precision, ∀ c ∈ digits, c.isDigit

/-- A precision as it is written, behind a point. -/
def precisionText : Option (List Char) → List Char
  | some digits => '.' :: digits
  | none => []

theorem precisionText_injective : Function.Injective precisionText := by
  rintro (_ | digits) (_ | digits') same <;> simp_all [precisionText]

/-- A text starts with the precision that is read from it. -/
theorem exists_splitPrecision (chars : List Char) :
    ∃ precision : Option (List Char), (∀ digits ∈ precision, ∀ c ∈ digits, c.isDigit) ∧
      precisionText precision ++ (NumberFormat.splitPrecision chars).2 = chars := by
  unfold NumberFormat.splitPrecision
  split
  · next rest =>
    refine ⟨some (rest.takeWhile Char.isDigit), ?_, ?_⟩
    · rintro digits ⟨⟩ c mem
      exact List.mem_takeWhile_imp mem
    · simp [precisionText]
  · exact ⟨none, by simp, rfl⟩

namespace FormatHead

/-- The text of the parts. -/
def text (head : FormatHead) : List Char :=
  head.before ++ '%' :: (head.flags ++ (head.width ++ precisionText head.precision))

/-- The numbers of the parts are numbers of a word. -/
structure FitsWords (head : FormatHead) : Prop where
  width : decimalValue head.width < UInt64.size
  precision : ∀ digits ∈ head.precision, decimalValue digits < UInt64.size

theorem ne_percent_of_mem_before (head : FormatHead) :
    ∀ c ∈ head.before, decide (c ≠ '%') = true := by
  intro c mem
  simpa using fun same : c = '%' => head.before_free (same ▸ mem)

end FormatHead

/-- A number format as it is written. -/
@[ext] structure FormatParts extends FormatHead where
  conversion : Conversion
  after : List Char

namespace FormatParts

/-- The text of the parts. -/
def text (parts : FormatParts) : List Char :=
  parts.toFormatHead.text ++ parts.conversion.letter :: parts.after

/-- The flags are taken greedily: the width does not start with what could be a flag. -/
def Greedy (parts : FormatParts) : Prop :=
  parts.width.head? ≠ some '0'

/-- A format that was read says what the parts say. -/
structure Describes (parts : FormatParts) (format : NumberFormat) : Prop where
  before : format.before = parts.before
  after : format.after = parts.after
  leftAligned : format.leftAligned = true ↔ '-' ∈ parts.flags
  zeroFilled : format.zeroFilled = true ↔ '0' ∈ parts.flags
  width : format.width.toNat = decimalValue parts.width
  precision : format.precision.map UInt64.toNat = parts.precision.map decimalValue
  conversion : format.conversion = parts.conversion

/-! ### What is read -/

/-- The format that the parts stand for, its numbers being words. -/
def format (parts : FormatParts) : NumberFormat where
  before := parts.before
  after := parts.after
  leftAligned := parts.flags.contains '-'
  zeroFilled := parts.flags.contains '0'
  width := NumberFormat.digitsValue parts.width
  precision := parts.precision.map NumberFormat.digitsValue
  conversion := parts.conversion

/-- The text behind the width. -/
def behindWidth (parts : FormatParts) : List Char :=
  precisionText parts.precision ++ parts.conversion.letter :: parts.after

theorem text_eq (parts : FormatParts) :
    parts.text = parts.before ++ '%' :: (parts.flags ++ (parts.width ++ parts.behindWidth)) := by
  simp [text, FormatHead.text, behindWidth]

theorem isFlag_of_mem_flags (parts : FormatParts) :
    ∀ c ∈ parts.flags, NumberFormat.isFlag c = true := by
  intro c mem
  simpa [NumberFormat.isFlag] using parts.isFlag_of_mem c mem

/-- The conversion ends the digits. -/
theorem stops_letter (parts : FormatParts) :
    Stops Char.isDigit (parts.conversion.letter :: parts.after) := by
  rintro c ⟨⟩
  exact parts.conversion.letter_stops.2.1

/-- A point or the conversion stands behind the width. -/
theorem mem_head?_behindWidth (parts : FormatParts) {c : Char}
    (first : c ∈ parts.behindWidth.head?) : c = '.' ∨ c = parts.conversion.letter := by
  rcases written : parts.precision with _ | digits
  · simpa [behindWidth, precisionText, written, eq_comm] using Or.inr first
  · simpa [behindWidth, precisionText, written, eq_comm] using Or.inl first

/-- What stands behind the width ends its digits. -/
theorem stops_behindWidth (parts : FormatParts) : Stops Char.isDigit parts.behindWidth := by
  intro c first
  rcases parts.mem_head?_behindWidth first with rfl | rfl
  · decide
  · exact parts.conversion.letter_stops.2.1

/-- With flags taken greedily, what stands behind them ends the flags. -/
theorem Greedy.stops_behindFlags {parts : FormatParts} (greedy : parts.Greedy) :
    Stops NumberFormat.isFlag (parts.width ++ parts.behindWidth) := by
  intro c first
  rcases width : parts.width with _ | ⟨digit, digits⟩
  · rw [width, List.nil_append] at first
    rcases parts.mem_head?_behindWidth first with rfl | rfl
    · decide
    · exact parts.conversion.letter_stops.1
  · obtain rfl : digit = c := by simpa [width] using first
    have isDigit := parts.isDigit_of_mem_width digit (by simp [width])
    have notZero : digit ≠ '0' := by simpa [Greedy, width] using greedy
    have notMinus : digit ≠ '-' := by rintro rfl; revert isDigit; decide
    simp [NumberFormat.isFlag, notZero, notMinus]

/-- What the reader of precisions makes of the text behind the width. -/
theorem splitPrecision_behindWidth (parts : FormatParts) :
    NumberFormat.splitPrecision parts.behindWidth =
      (parts.precision.map NumberFormat.digitsValue, parts.conversion.letter :: parts.after) := by
  rcases written : parts.precision with _ | digits
  · simp only [behindWidth, written, precisionText, List.nil_append, Option.map_none]
    unfold NumberFormat.splitPrecision
    split
    · next same => exact absurd (List.cons.inj same).1 parts.conversion.letter_stops.2.2
    · rfl
  · have all := parts.isDigit_of_mem_precision digits written
    simp only [behindWidth, written, precisionText, List.cons_append, Option.map_some,
      NumberFormat.splitPrecision, takeWhile_run all parts.stops_letter,
      dropWhile_run all parts.stops_letter]

/-- The text of parts with flags taken greedily is read as what they stand for. -/
theorem parseChars?_text {parts : FormatParts} (greedy : parts.Greedy) :
    NumberFormat.parseChars? parts.text = some parts.format := by
  simp only [NumberFormat.parseChars?, text_eq,
    takeWhile_run parts.ne_percent_of_mem_before stops_percent,
    dropWhile_run parts.ne_percent_of_mem_before stops_percent,
    takeWhile_run parts.isFlag_of_mem_flags greedy.stops_behindFlags,
    dropWhile_run parts.isFlag_of_mem_flags greedy.stops_behindFlags,
    takeWhile_run parts.isDigit_of_mem_width parts.stops_behindWidth,
    dropWhile_run parts.isDigit_of_mem_width parts.stops_behindWidth,
    splitPrecision_behindWidth, Conversion.ofLetter?_eq_some_iff.mpr rfl, Option.map_some]
  rfl

/-- A text that is read is the text of parts with flags taken greedily. -/
theorem exists_text_of_parseChars? {chars : List Char} {format : NumberFormat}
    (read : NumberFormat.parseChars? chars = some format) :
    ∃ parts : FormatParts, parts.text = chars ∧ parts.Greedy := by
  unfold NumberFormat.parseChars? at read
  split at read
  · contradiction
  · next percent tail cut =>
    have found := stops_dropWhile (p := fun c => decide (c ≠ '%')) chars percent (by rw [cut]; rfl)
    obtain rfl : percent = '%' := by simpa using found
    obtain ⟨precision, isDigit, precisionCut⟩ :=
      exists_splitPrecision ((tail.dropWhile NumberFormat.isFlag).dropWhile Char.isDigit)
    simp only at read
    split at read
    · contradiction
    · next letter after behind =>
      obtain ⟨conversion, isConversion, -⟩ := Option.map_eq_some_iff.mp read
      rw [Conversion.ofLetter?_eq_some_iff] at isConversion
      let parts : FormatParts := {
        before := chars.takeWhile (· ≠ '%')
        flags := tail.takeWhile NumberFormat.isFlag
        width := (tail.dropWhile NumberFormat.isFlag).takeWhile Char.isDigit
        precision := precision
        before_free := fun mem => by simpa using List.mem_takeWhile_imp mem
        isFlag_of_mem := fun c mem => by
          simpa [NumberFormat.isFlag] using List.mem_takeWhile_imp mem
        isDigit_of_mem_width := fun c mem => List.mem_takeWhile_imp mem
        isDigit_of_mem_precision := isDigit
        conversion := conversion
        after := after }
      refine ⟨parts, ?_, ?_⟩
      · rw [text_eq]
        change chars.takeWhile _ ++ '%' :: (tail.takeWhile _ ++
          ((tail.dropWhile NumberFormat.isFlag).takeWhile _ ++
            (precisionText precision ++ conversion.letter :: after))) = chars
        rw [← isConversion, ← behind, precisionCut, List.takeWhile_append_dropWhile,
          List.takeWhile_append_dropWhile, ← cut, List.takeWhile_append_dropWhile]
      · intro first
        change ((tail.dropWhile NumberFormat.isFlag).takeWhile Char.isDigit).head? = _ at first
        rw [List.head?_takeWhile, Option.filter_eq_some_iff] at first
        exact absurd (stops_dropWhile tail '0' first.1) (by decide)

/-- The parts with all zeros at the start of the width among the flags. -/
def regrouped (parts : FormatParts) : FormatParts where
  __ := parts
  flags := parts.flags ++ parts.width.takeWhile (· == '0')
  width := parts.width.dropWhile (· == '0')
  isFlag_of_mem c mem := by
    rcases List.mem_append.mp mem with mem | mem
    · exact parts.isFlag_of_mem c mem
    · exact .inr (by simpa using List.mem_takeWhile_imp mem)
  isDigit_of_mem_width c mem :=
    parts.isDigit_of_mem_width c ((List.dropWhile_suffix _).subset mem)

@[simp] theorem text_regrouped (parts : FormatParts) : parts.regrouped.text = parts.text := by
  simp only [text_eq, regrouped, behindWidth, List.append_assoc]
  rw [← List.append_assoc (parts.width.takeWhile _), List.takeWhile_append_dropWhile]

theorem regrouped_greedy (parts : FormatParts) : parts.regrouped.Greedy := by
  intro first
  have stop := stops_dropWhile (p := (· == '0')) parts.width '0' first
  exact absurd stop (by decide)

/-- What stands behind the width has one reading. -/
theorem behindWidth_injective {parts other : FormatParts}
    (same : parts.behindWidth = other.behindWidth) :
    parts.precision = other.precision ∧ parts.conversion = other.conversion ∧
      parts.after = other.after := by
  have behind := congrArg (fun chars => (NumberFormat.splitPrecision chars).2) same
  simp only [splitPrecision_behindWidth] at behind
  unfold behindWidth at same
  rw [behind] at same
  obtain ⟨letter, after⟩ := List.cons.inj behind
  exact ⟨precisionText_injective (List.append_cancel_right same),
    Conversion.letter_injective letter, after⟩

/-- One text has one list of parts with flags taken greedily. -/
theorem Greedy.eq_of_text_eq {parts other : FormatParts} (greedy : parts.Greedy)
    (greedy' : other.Greedy) (same : parts.text = other.text) : parts = other := by
  rw [text_eq, text_eq] at same
  obtain ⟨before, same⟩ := run_unique parts.ne_percent_of_mem_before stops_percent
    other.ne_percent_of_mem_before stops_percent same
  obtain ⟨flags, same⟩ := run_unique parts.isFlag_of_mem_flags greedy.stops_behindFlags
    other.isFlag_of_mem_flags greedy'.stops_behindFlags (List.cons.inj same).2
  obtain ⟨width, same⟩ := run_unique parts.isDigit_of_mem_width parts.stops_behindWidth
    other.isDigit_of_mem_width other.stops_behindWidth same
  obtain ⟨precision, conversion, after⟩ := behindWidth_injective same
  exact FormatParts.ext before flags width precision conversion after

end FormatParts

/-! ### Numbers -/

/-- The number of a run of digits is their decimal value modulo the size of a word. -/
theorem NumberFormat.toNat_digitsValue (digits : List Char) :
    (digitsValue digits).toNat = decimalValue digits % UInt64.size := by
  have step (digits : List Char) (word : UInt64) (value : Nat)
      (same : word.toNat = value % UInt64.size) :
      (digits.foldl (fun total c => total * 10 + UInt64.ofNat (c.toNat - 48)) word).toNat =
        Nat.ofDigitChars 10 digits value % UInt64.size := by
    induction digits generalizing word value with
    | nil => simpa using same
    | cons c digits ih =>
      refine ih _ _ ?_
      simp [same, Nat.mul_comm]
  exact step digits 0 0 rfl

/-- Decimal digits stand for less than the power of ten that they are many. -/
theorem decimalValue_lt {digits : List Char} (isDigit : ∀ c ∈ digits, c.isDigit) :
    decimalValue digits < 10 ^ digits.length := by
  induction digits with
  | nil => decide
  | cons c digits ih =>
    have rest := ih fun d mem => isDigit d (List.mem_cons_of_mem c mem)
    have digit : c.toNat - '0'.toNat ≤ 9 := by
      have bound := isDigit c List.mem_cons_self
      simp only [Char.isDigit, Bool.and_eq_true, decide_eq_true_eq] at bound
      have : c.toNat ≤ 57 := bound.2
      change c.toNat - 48 ≤ 9
      omega
    calc decimalValue (c :: digits)
        = 10 ^ digits.length * (c.toNat - '0'.toNat) + decimalValue digits := by
          rw [decimalValue, Nat.ofDigitChars_cons, Nat.ofDigitChars_eq_ofDigitChars_zero]
          simp [decimalValue]
      _ < 10 ^ digits.length * 9 + 10 ^ digits.length :=
          Nat.add_lt_add_of_le_of_lt (Nat.mul_le_mul_left _ digit) rest
      _ = 10 ^ (c :: digits).length := by rw [List.length_cons, Nat.pow_succ]; omega

namespace FormatParts

/-- The numbers of a format of fewer than twenty characters fit in a word. -/
theorem fitsWords_of_length {parts : FormatParts} (short : parts.text.length < 20) :
    parts.FitsWords := by
  have few {digits : List Char} (isDigit : ∀ c ∈ digits, c.isDigit)
      (within : digits.length ≤ parts.text.length) : decimalValue digits < UInt64.size :=
    calc decimalValue digits
      _ < 10 ^ digits.length := decimalValue_lt isDigit
      _ ≤ 10 ^ 19 := Nat.pow_le_pow_right (by decide) (by omega)
      _ < UInt64.size := by decide
  refine ⟨few parts.isDigit_of_mem_width ?_, fun digits written =>
    few (parts.isDigit_of_mem_precision digits written) ?_⟩
  · simp only [text_eq, List.length_append, List.length_cons]
    omega
  · simp only [text_eq, behindWidth, Option.mem_def.mp written, precisionText, List.length_append,
      List.length_cons]
    omega

/-- What parts stand for is what they say, when their numbers fit. -/
theorem describes_format {parts : FormatParts} (fits : parts.FitsWords) :
    parts.Describes parts.format where
  before := rfl
  after := rfl
  leftAligned := by simp [format]
  zeroFilled := by simp [format]
  width := by
    rw [format, NumberFormat.toNat_digitsValue, Nat.mod_eq_of_lt fits.width]
  precision := by
    rw [format, Option.map_map]
    refine Option.map_congr fun digits written => ?_
    rw [Function.comp_apply, NumberFormat.toNat_digitsValue,
      Nat.mod_eq_of_lt (fits.precision digits written)]
  conversion := rfl

end FormatParts

/-- A text is read when it is in the grammar. -/
theorem NumberFormat.parse?_isSome_iff {format : String} :
    (parse? format).isSome ↔ ∃ parts : FormatParts, parts.text = format.toList := by
  rw [Option.isSome_iff_exists]
  constructor
  · rintro ⟨read, h⟩
    obtain ⟨parts, text, -⟩ := FormatParts.exists_text_of_parseChars? h
    exact ⟨parts, text⟩
  · rintro ⟨parts, text⟩
    refine ⟨parts.regrouped.format, ?_⟩
    rw [parse?, ← text, ← parts.text_regrouped]
    exact FormatParts.parseChars?_text parts.regrouped_greedy

/-- A format that is read is what its parts with the most flags stand for. -/
theorem NumberFormat.exists_parts_of_parse? {format : String} {read : NumberFormat}
    (h : parse? format = some read) :
    ∃ parts : FormatParts, parts.text = format.toList ∧ parts.Greedy ∧ read = parts.format := by
  obtain ⟨parts, text, greedy⟩ := FormatParts.exists_text_of_parseChars? h
  have read' := FormatParts.parseChars?_text greedy
  rw [text] at read'
  exact ⟨parts, text, greedy, Option.some.inj (h.symm.trans read')⟩

/-- A format whose numbers fit in words is read exactly when it is in the grammar. It then has one
list of parts with the most flags, and these are what is read. -/
theorem NumberFormat.parse?_follows_grammar (format : String)
    (fits : ∀ parts : FormatParts, parts.text = format.toList → parts.FitsWords) :
    ((parse? format).isSome ↔ ∃ parts : FormatParts, parts.text = format.toList) ∧
      ∀ read, parse? format = some read →
        ∃ parts : FormatParts, parts.text = format.toList ∧ parts.Greedy ∧ parts.Describes read ∧
          ∀ other : FormatParts, other.text = format.toList → other.Greedy → other = parts := by
  refine ⟨parse?_isSome_iff, fun read h => ?_⟩
  -- Only here the numbers matter: reading as such takes runs of any length.
  obtain ⟨parts, text, greedy, rfl⟩ := exists_parts_of_parse? h
  refine ⟨parts, text, greedy, parts.describes_format (fits parts text), ?_⟩
  intro other text' greedy'
  exact greedy'.eq_of_text_eq greedy (text'.trans text.symm)

/-- Both zeros in front of the five are flags, the empty precision is zero, and the second percent
sign belongs to the text behind the conversion. -/
theorem paddedFormat_follows_grammar :
    ∃ parts : FormatParts, parts.text = "é%-005.f|%".toList ∧ parts.Greedy ∧
      parts.Describes ⟨['é'], ['|', '%'], true, true, 5, some 0, .fixed⟩ ∧
        ∀ other : FormatParts, other.text = "é%-005.f|%".toList → other.Greedy → other = parts :=
  (NumberFormat.parse?_follows_grammar "é%-005.f|%" fun parts text =>
    parts.fitsWords_of_length (by rw [text]; decide)).2 _ (by decide)

end TemplateMachine
