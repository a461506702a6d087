import Mathlib.Data.Nat.Digits.Defs
import Mathlib.Data.List.DropRight
import TemplateMachine.Proofs.Format.Range

/-!
# Integers in number formats

An integer is written as a sign and the digits of a numeral, in the base of the conversion: its own
digits in decimal notation, and in the other bases those of its remainder modulo `2 ^ 64`. A numeral
has no superfluous zeros, so it is the only one of its number. It is laid out in a field that is at
least as wide: in front of blanks, behind zeros that follow the sign, or behind blanks. Whatever the
layout, the field reads back as the number.
-/

namespace TemplateMachine

/-! ### Numerals -/

/-- Digits to write integers in, in ascending order. Neither blanks nor signs are among them. -/
structure Alphabet where
  digits : List Char
  two_le : 1 < digits.length := by decide
  nodup : digits.Nodup := by decide
  zero_first : digits.head? = some '0' := by decide
  blank_notMem : ' ' ∉ digits := by decide
  hyphen_notMem : '-' ∉ digits := by decide

namespace Alphabet

variable {alphabet : Alphabet} {digits : List Char} {n : Nat}

/-- The number of digits. -/
abbrev base (alphabet : Alphabet) : Nat :=
  alphabet.digits.length

/-- The number that digits stand for, the most significant one first. -/
def number (alphabet : Alphabet) (digits : List Char) : Nat :=
  Nat.ofDigits alphabet.base (digits.reverse.map alphabet.digits.idxOf)

/-- The number that characters stand for, if they are digits. -/
def readDigits (alphabet : Alphabet) (chars : List Char) : Option Nat :=
  if chars ≠ [] ∧ chars.all (· ∈ alphabet.digits) then some (alphabet.number chars) else none

/-- Digits that stand for a number, without superfluous zeros at the start. -/
structure IsNumeral (alphabet : Alphabet) (n : Nat) (digits : List Char) : Prop where
  ne_nil : digits ≠ []
  isDigit : ∀ c ∈ digits, c ∈ alphabet.digits
  number : alphabet.number digits = n
  minimal : digits.head? = some '0' → digits.length = 1

@[simp] theorem idxOf_zero : alphabet.digits.idxOf '0' = 0 := by
  obtain ⟨rest, eq⟩ := List.head?_eq_some_iff.mp alphabet.zero_first
  rw [eq, List.idxOf_cons_self]

theorem number_concat (c : Char) :
    alphabet.number (digits ++ [c]) =
      alphabet.digits.idxOf c + alphabet.base * alphabet.number digits := by
  simp [number, Nat.ofDigits_cons]

/-- Zeros at the start of digits do not count. -/
theorem number_replicate_append (count : Nat) (digits : List Char) :
    alphabet.number (List.replicate count '0' ++ digits) = alphabet.number digits := by
  simp [number, Nat.ofDigits_append_replicate_zero]

/-- A numeral that starts with a zero is the one of zero. -/
theorem IsNumeral.eq_zero (numeral : alphabet.IsNumeral n digits)
    (zero : digits.head? = some '0') : n = 0 := by
  obtain ⟨rest, rfl⟩ := List.head?_eq_some_iff.mp zero
  obtain rfl : rest = [] := by simpa using numeral.minimal zero
  rw [← numeral.number]
  exact number_replicate_append 1 []

/-- The digits that are computed for a number are its numeral, where the alphabet has a character
for each of them. -/
theorem isNumeral_toDigits (shape : Char → Char)
    (shows : ∀ d (h : d < alphabet.base), shape (Nat.digitChar d) = alphabet.digits[d]) (n : Nat) :
    alphabet.IsNumeral n ((Nat.toDigits alphabet.base n).map shape) := by
  induction n using Nat.strongRecOn with
  | ind n ih =>
    rw [Nat.toDigits_eq_if alphabet.two_le]
    split
    case isTrue single =>
      refine ⟨by simp, ?_, ?_, fun _ => rfl⟩
      · simp [shows n single]
      · simp [number, shows n single, alphabet.nodup.idxOf_getElem]
    case isFalse several =>
      have two := alphabet.two_le
      have last : n % alphabet.base < alphabet.base := Nat.mod_lt n (Nat.zero_lt_of_lt two)
      have front := ih _ (Nat.div_lt_self (by omega) two)
      rw [List.map_append, List.map_singleton, shows _ last]
      refine ⟨by simp, ?_, ?_, ?_⟩
      · intro c mem
        rcases List.mem_append.mp mem with mem | mem
        · exact front.isDigit c mem
        · obtain rfl := List.mem_singleton.mp mem
          exact List.getElem_mem last
      · rw [number_concat, front.number, alphabet.nodup.idxOf_getElem, Nat.mod_add_div]
      · intro zero
        rw [List.head?_append_of_ne_nil _ front.ne_nil] at zero
        rcases Nat.div_eq_zero_iff.mp (front.eq_zero zero) with none | single
        · omega
        · contradiction

/-- The digits that are computed for a number are digits of the alphabet, if it has them as they
are. -/
theorem toDigits_subset (shows : ∀ d (h : d < alphabet.base), Nat.digitChar d = alphabet.digits[d])
    (n : Nat) : Nat.toDigits alphabet.base n ⊆ alphabet.digits := by
  have numeral := isNumeral_toDigits id shows n
  rw [List.map_id] at numeral
  exact numeral.isDigit

/-- The numeral of a number other than zero has the digits of that number. -/
theorem IsNumeral.eq_map_digits (numeral : alphabet.IsNumeral n digits)
    (nonzero : digits.head? ≠ some '0') :
    digits = ((Nat.digits alphabet.base n).map (alphabet.digits.getD · '0')).reverse := by
  have values : Nat.digits alphabet.base n = digits.reverse.map alphabet.digits.idxOf := by
    rw [← numeral.number, Alphabet.number]
    refine Nat.digits_ofDigits _ alphabet.two_le _ ?_ ?_
    · intro value mem
      obtain ⟨c, c_mem, rfl⟩ := List.mem_map.mp mem
      exact List.idxOf_lt_length_of_mem (numeral.isDigit c (List.mem_reverse.mp c_mem))
    · intro _ zero
      obtain ⟨first, rest, rfl⟩ := List.exists_cons_of_ne_nil numeral.ne_nil
      have same : alphabet.digits.idxOf first = alphabet.digits.idxOf '0' := by simpa using zero
      obtain rfl := (List.idxOf_inj (numeral.isDigit first List.mem_cons_self)).mp same
      exact nonzero rfl
  rw [values, List.map_map, List.map_reverse, List.reverse_reverse]
  calc digits
      = digits.map id := (List.map_id digits).symm
    _ = digits.map ((alphabet.digits.getD · '0') ∘ alphabet.digits.idxOf) :=
        List.map_congr_left fun c mem => by
          simp [List.idxOf_lt_length_of_mem (numeral.isDigit c mem)]

/-- The numeral of zero is the zero. -/
theorem IsNumeral.eq_singleton (numeral : alphabet.IsNumeral 0 digits) : digits = ['0'] := by
  have zero : digits.head? = some '0' := by
    by_contra nonzero
    exact numeral.ne_nil (by simpa using numeral.eq_map_digits nonzero)
  obtain ⟨rest, rfl⟩ := List.head?_eq_some_iff.mp zero
  simpa using numeral.minimal zero

/-- A number has one numeral. -/
theorem IsNumeral.unique {other : List Char} (numeral : alphabet.IsNumeral n digits)
    (numeral' : alphabet.IsNumeral n other) : other = digits := by
  rcases eq_or_ne n 0 with rfl | positive
  · rw [numeral.eq_singleton, numeral'.eq_singleton]
  · rw [numeral.eq_map_digits (positive ∘ numeral.eq_zero),
      numeral'.eq_map_digits (positive ∘ numeral'.eq_zero)]

/-! ### Fields -/

/-- The integer that a field shows, if it holds a sign and digits with nothing but blanks around. -/
def readField (alphabet : Alphabet) (field : List Char) : Option Int :=
  match (field.dropWhile (· == ' ')).rdropWhile (· == ' ') with
  | '-' :: digits => (alphabet.readDigits digits).map fun n : Nat => -(n : Int)
  | digits => (alphabet.readDigits digits).map fun n : Nat => (n : Int)

end Alphabet

/-- The sign of an integer as it is written. -/
def signText (n : Int) : List Char :=
  if n < 0 then ['-'] else []

theorem signText_of_neg {n : Int} (negative : n < 0) : signText n = ['-'] :=
  if_pos negative

theorem signText_of_nonneg {n : Int} (nonneg : 0 ≤ n) : signText n = [] :=
  if_neg nonneg.not_gt

/-- A sign and digits laid out in a field: in front of blanks if it is left-aligned, else behind
zeros that follow the sign if it is filled with zeros, and else behind blanks. -/
def layOut (flags : List Char) (width : Nat) (sign digits : List Char) : List Char :=
  let fill := width - (sign.length + digits.length)
  if '-' ∈ flags then sign ++ digits ++ List.replicate fill ' '
  else if '0' ∈ flags then sign ++ List.replicate fill '0' ++ digits
  else List.replicate fill ' ' ++ sign ++ digits

/-- Wherever the characters that fill it are, they fill up the width of a field. -/
theorem exists_layOut_eq (flags : List Char) (width : Nat) (sign digits : List Char) :
    ∃ before zeros after : Nat,
      before + zeros + after = width - (sign.length + digits.length) ∧
      layOut flags width sign digits = List.replicate before ' ' ++
        (sign ++ (List.replicate zeros '0' ++ digits)) ++ List.replicate after ' ' := by
  unfold layOut
  split
  · exact ⟨0, 0, _, Nat.zero_add _, by simp⟩
  split
  · exact ⟨0, _, 0, Nat.zero_add _, by simp⟩
  · exact ⟨_, 0, 0, rfl, by simp⟩

theorem length_layOut (flags : List Char) (width : Nat) (sign digits : List Char) :
    (layOut flags width sign digits).length = max width (sign.length + digits.length) := by
  obtain ⟨before, zeros, after, fill, eq⟩ := exists_layOut_eq flags width sign digits
  simp only [eq, List.length_append, List.length_replicate]
  omega

namespace Alphabet

variable {alphabet : Alphabet} {digits : List Char} {n : Nat}

/-- Zeros in front of digits are digits. -/
theorem IsNumeral.isDigit_replicate_append (numeral : alphabet.IsNumeral n digits) (zeros : Nat) :
    ∀ c ∈ List.replicate zeros '0' ++ digits, c ∈ alphabet.digits := by
  intro c mem
  rcases List.mem_append.mp mem with zero | digit
  · rw [List.eq_of_mem_replicate zero]
    exact List.mem_of_head? alphabet.zero_first
  · exact numeral.isDigit c digit

/-- A numeral is read as its number, also behind zeros. -/
theorem IsNumeral.readDigits_replicate_append (numeral : alphabet.IsNumeral n digits)
    (zeros : Nat) : alphabet.readDigits (List.replicate zeros '0' ++ digits) = some n := by
  have all : (List.replicate zeros '0' ++ digits).all (· ∈ alphabet.digits) :=
    List.all_eq_true.mpr fun c mem => by simpa using numeral.isDigit_replicate_append zeros c mem
  rw [readDigits, if_pos ⟨by simp [numeral.ne_nil], all⟩, number_replicate_append, numeral.number]

/-- Blanks around characters without blanks are taken off. -/
theorem trim_blanks {chars : List Char} (ne_nil : chars ≠ []) (solid : ' ' ∉ chars)
    (before after : Nat) :
    ((List.replicate before ' ' ++ chars ++ List.replicate after ' ').dropWhile
      (· == ' ')).rdropWhile (· == ' ') = chars := by
  have blank (count : Nat) : ∀ c ∈ List.replicate count ' ', (c == ' ') = true := by
    intro c mem
    simp [List.eq_of_mem_replicate mem]
  have stops {rest : List Char} (first : ∀ c ∈ rest.head?, c ∈ chars) :
      Stops (· == ' ') rest := by
    intro c mem
    have : c ≠ ' ' := fun same => solid (same ▸ first c mem)
    simpa using this
  rw [List.append_assoc, dropWhile_run (blank before), List.rdropWhile, List.reverse_append,
    List.reverse_replicate, dropWhile_run (blank after), List.reverse_reverse]
  · exact stops fun c mem => List.mem_reverse.mp (List.mem_of_head? mem)
  · refine stops fun c mem => ?_
    rw [List.head?_append_of_ne_nil _ ne_nil] at mem
    exact List.mem_of_head? mem

/-- An integer is read back from every field that its sign and numeral are laid out in. -/
theorem IsNumeral.readField_layOut {n : Int} (numeral : alphabet.IsNumeral n.natAbs digits)
    (flags : List Char) (width : Nat) :
    alphabet.readField (layOut flags width (signText n) digits) = some n := by
  obtain ⟨before, zeros, after, -, eq⟩ := exists_layOut_eq flags width (signText n) digits
  have isDigit := numeral.isDigit_replicate_append zeros
  have read := numeral.readDigits_replicate_append zeros
  have solid : ' ' ∉ signText n ++ (List.replicate zeros '0' ++ digits) := by
    intro mem
    rcases List.mem_append.mp mem with sign | digit
    · unfold signText at sign
      split at sign <;> simp at sign
    · exact alphabet.blank_notMem (isDigit _ digit)
  rw [eq, readField, trim_blanks (by simp [numeral.ne_nil]) solid]
  rcases lt_or_ge n 0 with negative | nonneg
  · simp only [signText_of_neg negative, List.singleton_append, read, Option.map_some]
    congr 1
    omega
  · simp only [signText_of_nonneg nonneg, List.nil_append]
    -- The digits are not taken for a sign.
    split
    next same => exact absurd (isDigit '-' (same ▸ List.mem_cons_self)) alphabet.hyphen_notMem
    next =>
      rw [read, Option.map_some, Int.natAbs_of_nonneg nonneg]

end Alphabet

/-! ### What is written -/

/-- The digits of the conversions that write integers in a base. -/
def Conversion.alphabet? : Conversion → Option Alphabet
  | .decimal => some { digits := "0123456789".toList }
  | .hexadecimal false => some { digits := "0123456789abcdef".toList }
  | .hexadecimal true => some { digits := "0123456789ABCDEF".toList }
  | .octal => some { digits := "01234567".toList }
  | _ => none

/-- The integer that a conversion writes for a word: its value in decimal notation, and its value
modulo `2 ^ 64` in the other bases. -/
def Conversion.shown (conversion : Conversion) (n : Int64) : Int :=
  if conversion = .decimal then n.toInt else n.toInt % 2 ^ 64

/-- The bits of a word are its value modulo `2 ^ 64`. -/
theorem Conversion.shown_of_ne_decimal {conversion : Conversion} (h : conversion ≠ .decimal)
    (n : Int64) : conversion.shown n = NumberFormat.bitsOf n := by
  change _ = (n.toBitVec.toNat : Int)
  rw [shown, if_neg h]
  change n.toBitVec.toInt % (2 ^ 64 : Nat) = _
  rw [BitVec.toInt_eq_toNat_bmod, Int.bmod_emod]
  exact Int.emod_eq_of_lt (by omega) (mod_cast n.toBitVec.isLt)

/-- The decimal text of an integer is its sign in front of the digits of its magnitude. -/
theorem toList_toString_int (n : Int) :
    (toString n).toList = signText n ++ Nat.toDigits 10 n.natAbs := by
  rw [Int.toString_eq_repr, Int.repr_eq_if]
  rcases lt_or_ge n 0 with negative | nonneg
  · have magnitude : (-n).toNat = n.natAbs := by omega
    simp [signText_of_neg negative, negative.not_ge, magnitude]
  · have magnitude : n.toNat = n.natAbs := by omega
    simp [signText_of_nonneg nonneg, nonneg, magnitude]

/-- The digits that are computed for the bits of an integer, in the letters of an alphabet, are the
sign and the numeral of what is shown in another notation than the decimal one. -/
theorem exists_bits_numeral {conversion : Conversion} {alphabet : Alphabet} (shape : Char → Char)
    (h : conversion ≠ .decimal)
    (shows : ∀ d (h : d < alphabet.base), shape (Nat.digitChar d) = alphabet.digits[d])
    {n : Int64} {body : List Char}
    (computed : body = (Nat.toDigits alphabet.base (NumberFormat.bitsOf n)).map shape) :
    ∃ digits, alphabet.IsNumeral (conversion.shown n).natAbs digits ∧
      some body = some (signText (conversion.shown n) ++ digits) := by
  rw [Conversion.shown_of_ne_decimal h, Int.natAbs_natCast,
    signText_of_nonneg (Int.natCast_nonneg _)]
  exact ⟨body, computed ▸ Alphabet.isNumeral_toDigits shape shows _, rfl⟩

/-- A conversion that writes integers writes the sign and the numeral of the integer that it
shows. -/
theorem NumberFormat.exists_body?_eq {format : NumberFormat} {alphabet : Alphabet}
    (writes : format.conversion.alphabet? = some alphabet) (n : Int64) :
    ∃ digits, alphabet.IsNumeral (format.conversion.shown n).natAbs digits ∧
      format.body? (.integer n) = some (signText (format.conversion.shown n) ++ digits) := by
  unfold body?
  generalize format.conversion = conversion at writes
  -- Each alphabet has the digits that are computed, in its own letters.
  match conversion, writes with
  | .decimal, rfl =>
    refine ⟨_, Alphabet.isNumeral_toDigits id (by decide) _, ?_⟩
    rw [List.map_id]
    exact congrArg some (toList_toString_int n.toInt)
  | .hexadecimal false, rfl =>
    exact exists_bits_numeral id (by decide) (by decide) (List.map_id _).symm
  | .hexadecimal true, rfl =>
    exact exists_bits_numeral Char.toUpper (by decide) (by decide) rfl
  | .octal, rfl =>
    exact exists_bits_numeral id (by decide) (by decide) (List.map_id _).symm

/-- A sign and a numeral are padded as they are laid out. -/
theorem NumberFormat.pad_eq_layOut (format : NumberFormat) (flags : List Char)
    (leftAligned : format.leftAligned = true ↔ '-' ∈ flags)
    (zeroFilled : format.zeroFilled = true ↔ '0' ∈ flags) (notPlain : format.conversion ≠ .plain)
    {alphabet : Alphabet} {m : Nat} {digits : List Char} (numeral : alphabet.IsNumeral m digits)
    (n : Int) :
    format.pad (signText n ++ digits) = layOut flags format.width.toNat (signText n) digits := by
  have numeric : (format.conversion != .plain) = true := by simpa using notPlain
  unfold pad layOut
  rw [List.length_append]
  by_cases left : '-' ∈ flags
  · rw [if_pos (leftAligned.mpr left), if_pos left]
  rw [if_neg (mt leftAligned.mp left), if_neg left, numeric, Bool.and_true]
  by_cases zero : '0' ∈ flags
  · rw [if_pos (zeroFilled.mpr zero), if_pos zero]
    rcases lt_or_ge n 0 with negative | nonneg
    · rw [signText_of_neg negative]
      rfl
    · rw [signText_of_nonneg nonneg]
      -- Digits alone are not taken for a sign.
      simp only [List.nil_append]
      split
      next same => exact absurd (numeral.isDigit '-' List.mem_cons_self) alphabet.hyphen_notMem
      next => rfl
  · rw [if_neg (mt zeroFilled.mp zero), if_neg zero, List.append_assoc]

/-- An integer under a format whose conversion writes integers: in between the text around the
conversion stands a field that is as wide as the format says, or as the sign and the digits are if
that is wider. The sign and the one numeral of the shown integer are laid out in it by the flags,
and it reads back as that integer. -/
theorem formatNumber_integer_field (n : Int64) {format : String} {parts : FormatParts}
    {alphabet : Alphabet} (text : parts.text = format.toList) (greedy : parts.Greedy)
    (writes : parts.conversion.alphabet? = some alphabet)
    (fits : decimalValue parts.width < UInt64.size) :
    ∃ sign digits field,
      sign = signText (parts.conversion.shown n) ∧
      alphabet.IsNumeral (parts.conversion.shown n).natAbs digits ∧
      (∀ other, alphabet.IsNumeral (parts.conversion.shown n).natAbs other → other = digits) ∧
      field = layOut parts.flags (decimalValue parts.width) sign digits ∧
      field.length = max (decimalValue parts.width) (sign.length + digits.length) ∧
      alphabet.readField field = some (parts.conversion.shown n) ∧
      formatNumber (.integer n) (some format) =
        String.ofList (parts.before ++ field ++ parts.after) := by
  obtain ⟨digits, numeral, body⟩ := parts.format.exists_body?_eq writes n
  have notPlain : parts.conversion ≠ .plain := by
    intro plain
    simp [plain, Conversion.alphabet?] at writes
  have width : parts.format.width.toNat = decimalValue parts.width := by
    rw [FormatParts.format, NumberFormat.toNat_digitsValue, Nat.mod_eq_of_lt fits]
  have padded := NumberFormat.pad_eq_layOut parts.format parts.flags
    (by simp [FormatParts.format]) (by simp [FormatParts.format]) notPlain numeral
    (parts.conversion.shown n)
  rw [width] at padded
  refine ⟨_, digits, _, rfl, numeral, fun _ => numeral.unique, rfl, length_layOut ..,
    numeral.readField_layOut .., ?_⟩
  rw [formatNumber_eq, greedy.parse?_eq text, Option.bind_some, NumberFormat.written?, body,
    Option.map_some, Option.getD_some, ← padded]
  rfl

/-- The zeros go between the sign and the digits of the least integer. -/
theorem leastInteger_field : ∃ alphabet digits field,
    Conversion.decimal.alphabet? = some alphabet ∧ alphabet.IsNumeral (2 ^ 63) digits ∧
      field = layOut ['0'] 24 ['-'] digits ∧ alphabet.readField field = some (-2 ^ 63) ∧
      formatNumber (.integer Int64.minValue) (some "<%024d>") =
        String.ofList (['<'] ++ field ++ ['>']) := by
  let parts : FormatParts := {
    before := ['<']
    flags := ['0']
    width := ['2', '4']
    precision := none
    before_free := by decide
    isFlag_of_mem := by simp
    isDigit_of_mem_width := by simp [Char.isDigit]
    isDigit_of_mem_precision := by simp
    conversion := .decimal
    after := ['>'] }
  have shown : parts.conversion.shown Int64.minValue = -2 ^ 63 := by decide
  have text : parts.text = "<%024d>".toList := by rfl
  have greedy : parts.Greedy := by
    change ['2', '4'].head? ≠ some '0'
    decide
  obtain ⟨sign, digits, field, rfl, numeral, -, laidOut, -, read, written⟩ :=
    formatNumber_integer_field Int64.minValue text greedy rfl (by decide)
  rw [shown] at numeral laidOut read
  exact ⟨_, digits, field, rfl, numeral, laidOut, read, written⟩

end TemplateMachine
