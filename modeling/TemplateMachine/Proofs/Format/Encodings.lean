import Mathlib.Data.List.Basic
import TemplateMachine.Format.TextFormat

/-!
# Encodings that can be undone

The two encodings of text write one item after the other, bytes in a web address and characters in
markup. What each item is written as can be told from what stands behind it, so that reading gives
back the items, whatever they are, and different texts are written differently. What is written
keeps to a small language: an address to unreserved characters, plus signs and escapes, and markup
to text without special characters in which an ampersand only begins a reference.
-/

namespace TemplateMachine

/-- A code that writes items as characters, with a reading of characters that gets an item back
whatever stands behind it. -/
structure Code (α : Type) where
  write : α → List Char
  read : List Char → List α
  read_nil : read [] = []
  read_write_append : ∀ item rest, read (write item ++ rest) = item :: read rest

/-- Reading undoes writing item by item. -/
theorem Code.read_flatMap {α : Type} (code : Code α) (items : List α) :
    code.read (items.flatMap code.write) = items := by
  induction items with
  | nil => exact code.read_nil
  | cons item rest ih => rw [List.flatMap_cons, code.read_write_append, ih]

/-! ### Web addresses -/

/-- The value of a hexadecimal digit. -/
def hexValue? (c : Char) : Option Nat :=
  "0123456789ABCDEF".toList.idxOf? c.toUpper

/-- The bytes that characters of a web address stand for: a plus sign for a space, a percent sign
with two digits for the byte with that number, and another character for itself. -/
def decodeAddress : List Char → List UInt8
  | [] => []
  | '+' :: rest => 32 :: decodeAddress rest
  | '%' :: high :: low :: rest =>
    match hexValue? high, hexValue? low with
    | some h, some l => UInt8.ofNat (16 * h + l) :: decodeAddress rest
    | _, _ => String.utf8EncodeChar '%' ++ decodeAddress (high :: low :: rest)
  | c :: rest => String.utf8EncodeChar c ++ decodeAddress rest

/-- Unreserved characters, plus signs, and percent signs with two capital hexadecimal digits. -/
inductive AddressText : List Char → Prop where
  | nil : AddressText []
  | unreserved {c : Char} {rest : List Char} : c.isAlphanum ∨ c ∈ ['-', '_', '.', '~'] →
      AddressText rest → AddressText (c :: rest)
  | plus {rest : List Char} : AddressText rest → AddressText ('+' :: rest)
  | escape {high low : Char} {rest : List Char} : high ∈ "0123456789ABCDEF".toList →
      low ∈ "0123456789ABCDEF".toList → AddressText rest →
      AddressText ('%' :: high :: low :: rest)

theorem AddressText.append {chars more : List Char} (text : AddressText chars)
    (text' : AddressText more) : AddressText (chars ++ more) := by
  induction text with
  | nil => exact text'
  | unreserved h _ ih => exact .unreserved h ih
  | plus _ ih => exact .plus ih
  | escape high low _ ih => exact .escape high low ih

theorem upperHexDigit_mem {n : Nat} (h : n < 16) :
    upperHexDigit n ∈ "0123456789ABCDEF".toList := by
  revert n
  decide

theorem hexValue?_upperHexDigit {n : Nat} (h : n < 16) : hexValue? (upperHexDigit n) = some n := by
  revert n
  decide

/-- An unreserved byte is the one of a letter, a digit or one of four marks. -/
theorem isUnreserved_char {byte : UInt8} (h : isUnreserved byte = true) :
    ((Char.ofNat byte.toNat).isAlphanum ∨ Char.ofNat byte.toNat ∈ ['-', '_', '.', '~']) ∧
      String.utf8EncodeChar (Char.ofNat byte.toNat) = [byte] := by
  have all : ∀ n < 256, isUnreserved (UInt8.ofNat n) = true →
      ((Char.ofNat n).isAlphanum ∨ Char.ofNat n ∈ ['-', '_', '.', '~']) ∧
        String.utf8EncodeChar (Char.ofNat n) = [UInt8.ofNat n] := by
    decide +kernel
  simpa using all byte.toNat byte.toNat_lt (by simpa using h)

theorem addressText_addressByte (byte : UInt8) : AddressText (addressByte byte) := by
  unfold addressByte
  split
  next unreserved => exact .unreserved (isUnreserved_char unreserved).1 .nil
  split
  · exact .plus .nil
  · have high := upperHexDigit_mem (n := byte.toNat / 16) (by have := byte.toNat_lt; omega)
    have low := upperHexDigit_mem (n := byte.toNat % 16) (by omega)
    exact .escape high low .nil

/-- A byte is read back from what it is written as. -/
theorem decodeAddress_addressByte_append (byte : UInt8) (rest : List Char) :
    decodeAddress (addressByte byte ++ rest) = byte :: decodeAddress rest := by
  unfold addressByte
  split
  next unreserved =>
    obtain ⟨isChar, encoded⟩ := isUnreserved_char unreserved
    generalize Char.ofNat byte.toNat = c at isChar encoded
    have plus : c ≠ '+' := by rintro rfl; revert isChar; decide
    have percent : c ≠ '%' := by rintro rfl; revert isChar; decide
    rw [List.singleton_append, decodeAddress, encoded, List.singleton_append]
    · exact plus
    · intro _ _ _ same
      exact absurd same percent
  split
  next space =>
    obtain rfl : byte = 32 := by simpa using space
    rfl
  · have high := hexValue?_upperHexDigit (n := byte.toNat / 16) (by have := byte.toNat_lt; omega)
    have low := hexValue?_upperHexDigit (n := byte.toNat % 16) (by omega)
    simp only [List.cons_append, List.nil_append, decodeAddress, high, low, Nat.div_add_mod,
      UInt8.ofNat_toNat]

/-- Bytes as they are written in a web address. -/
def addressCode : Code UInt8 where
  write := addressByte
  read := decodeAddress
  read_nil := rfl
  read_write_append := decodeAddress_addressByte_append

/-- The bytes of a text are the ones that its address is written for. -/
theorem toUTF8_eq (text : String) :
    text.toUTF8 = (text.toList.flatMap String.utf8EncodeChar).toByteArray := by
  rw [String.toUTF8_eq_toByteArray, ← String.utf8Encode_toList, List.utf8Encode]

theorem decodeAddress_encodeAddress (text : String) :
    (decodeAddress (encodeAddress text).toList).toByteArray = text.toUTF8 := by
  rw [encodeAddress, String.toList_ofList, toUTF8_eq]
  exact congrArg List.toByteArray (addressCode.read_flatMap _)

/-- What is written in a web address keeps to unreserved characters, plus signs and escapes, and
stands for the bytes of the text, so that different texts are written differently. -/
theorem encodeAddress_invertible :
    (∀ text, AddressText (encodeAddress text).toList) ∧
      (∀ text, (decodeAddress (encodeAddress text).toList).toByteArray = text.toUTF8) ∧
      Function.Injective encodeAddress := by
  refine ⟨fun text => ?_, decodeAddress_encodeAddress, fun text other same => ?_⟩
  · rw [encodeAddress, String.toList_ofList]
    generalize text.toList.flatMap String.utf8EncodeChar = bytes
    induction bytes with
    | nil => exact .nil
    | cons byte bytes ih => exact (addressText_addressByte byte).append ih
  · have bytes := decodeAddress_encodeAddress text
    rw [same, decodeAddress_encodeAddress other] at bytes
    exact (String.toByteArray_inj.mp bytes).symm

/-! ### Markup -/

/-- The references that stand for characters which are special in markup. -/
def markupReferences : List String :=
  ["&amp;", "&lt;", "&gt;", "&quot;", "&#39;"]

/-- Characters of markup with its references replaced in one pass from left to right. -/
def decodeMarkup : List Char → List Char
  | [] => []
  | '&' :: 'a' :: 'm' :: 'p' :: ';' :: rest => '&' :: decodeMarkup rest
  | '&' :: 'l' :: 't' :: ';' :: rest => '<' :: decodeMarkup rest
  | '&' :: 'g' :: 't' :: ';' :: rest => '>' :: decodeMarkup rest
  | '&' :: 'q' :: 'u' :: 'o' :: 't' :: ';' :: rest => '"' :: decodeMarkup rest
  | '&' :: '#' :: '3' :: '9' :: ';' :: rest => '\'' :: decodeMarkup rest
  | c :: rest => c :: decodeMarkup rest

/-- A character is written as a reference or stands for itself. -/
theorem markupChar_cases (c : Char) :
    (∃ reference ∈ markupReferences, markupChar c = reference.toList) ∨
      c ∉ ['&', '<', '>', '"', '\''] ∧ markupChar c = [c] := by
  unfold markupChar
  split
  case h_6 =>
    right
    simp_all
  all_goals
    left
    decide

/-- A character is read back from what it is written as. -/
theorem decodeMarkup_markupChar_append (c : Char) (rest : List Char) :
    decodeMarkup (markupChar c ++ rest) = c :: decodeMarkup rest := by
  unfold markupChar
  split
  case h_6 ampersand _ _ _ _ =>
    rw [List.singleton_append, decodeMarkup]
    all_goals
      intros
      contradiction
  all_goals rfl

/-- Characters as they are written in markup. -/
def markupCode : Code Char where
  write := markupChar
  read := decodeMarkup
  read_nil := rfl
  read_write_append := decodeMarkup_markupChar_append

/-- A reference is an ampersand with a name, and holds no special character but this. -/
theorem markupReference_shape : ∀ reference ∈ markupReferences,
    reference.toList.head? = some '&' ∧ '&' ∉ reference.toList.tail ∧
      ['<', '>', '"', '\''].all (· ∉ reference.toList) := by
  decide

/-- An ampersand in what a character is written as begins a reference. -/
theorem exists_reference_of_markupChar_eq {c : Char} {before after : List Char}
    (eq : markupChar c = before ++ '&' :: after) :
    ∃ reference ∈ markupReferences, reference.toList = '&' :: after := by
  rcases markupChar_cases c with ⟨reference, mem, written⟩ | ⟨plain, written⟩
  · obtain ⟨first, free, -⟩ := markupReference_shape reference mem
    obtain ⟨name, cut⟩ := List.head?_eq_some_iff.mp first
    rw [cut, List.tail_cons] at free
    rw [written, cut] at eq
    rcases before with _ | ⟨_, more⟩
    · exact ⟨reference, mem, cut.trans eq⟩
    · obtain ⟨-, rfl⟩ := List.cons.inj eq
      simp at free
  · have self : '&' = c := by simpa [written] using (eq ▸ by simp : '&' ∈ markupChar c)
    simp [← self] at plain

/-- So does every ampersand of characters in markup. -/
theorem exists_reference_of_flatMap_eq {chars before after : List Char}
    (eq : chars.flatMap markupChar = before ++ '&' :: after) :
    ∃ reference ∈ markupReferences, reference.toList <+: '&' :: after := by
  induction chars generalizing before with
  | nil => simp at eq
  | cons c chars ih =>
    rw [List.flatMap_cons] at eq
    rcases List.append_eq_append_iff.mp eq with ⟨more, rfl, rest⟩ | ⟨more, here, rest⟩
    · exact ih rest
    · rcases more with _ | ⟨_, name⟩
      · have first : chars.flatMap markupChar = [] ++ '&' :: after := rest.symm
        exact ih first
      · obtain ⟨rfl, rfl⟩ := List.cons.inj rest
        obtain ⟨reference, mem, same⟩ := exists_reference_of_markupChar_eq here
        exact ⟨reference, mem, chars.flatMap markupChar, by rw [same]; rfl⟩

/-- What is written in markup holds none of the other four special characters. -/
theorem notMem_markupChar {c special : Char} (h : special ∈ ['<', '>', '"', '\'']) :
    special ∉ markupChar c := by
  rcases markupChar_cases c with ⟨reference, mem, written⟩ | ⟨plain, written⟩
  · rw [written]
    simpa using List.all_eq_true.mp (markupReference_shape reference mem).2.2 special h
  · rw [written, List.mem_singleton]
    rintro rfl
    exact plain (List.mem_cons_of_mem _ h)

/-- A text in markup holds no special character but ampersands, and each of these begins a
reference; replacing the references gives back the text, whatever is in it. -/
theorem encodeMarkup_invertible :
    (∀ text, ∀ special ∈ ['<', '>', '"', '\''], special ∉ (encodeMarkup text).toList) ∧
      (∀ text before after, (encodeMarkup text).toList = before ++ '&' :: after →
        ∃ reference ∈ markupReferences, reference.toList <+: '&' :: after) ∧
      ∀ text, String.ofList (decodeMarkup (encodeMarkup text).toList) = text := by
  refine ⟨fun text special h mem => ?_, fun text before after eq => ?_, fun text => ?_⟩
  · rw [encodeMarkup, String.toList_ofList, List.mem_flatMap] at mem
    obtain ⟨c, -, here⟩ := mem
    exact notMem_markupChar h here
  · rw [encodeMarkup, String.toList_ofList] at eq
    exact exists_reference_of_flatMap_eq eq
  · rw [encodeMarkup, String.toList_ofList]
    exact (congrArg String.ofList (markupCode.read_flatMap text.toList)).trans String.ofList_toList

/-- What looks like a reference in a text is written as a reference and the rest of it. -/
example : encodeMarkup "&lt;" = "&amp;lt;" ∧ decodeMarkup "&amp;lt;".toList = "&lt;".toList := by
  decide +kernel

end TemplateMachine
