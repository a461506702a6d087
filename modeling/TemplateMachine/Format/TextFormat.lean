import TemplateMachine.Text.Letter
import TemplateMachine.Value.Text

/-!
# Text formats

The named formats for text: case mapping, and two encodings that can be undone. An unknown format
changes nothing, and a value that is no text is formatted by its text in output.
-/

namespace TemplateMachine

/-- What a character is written as in markup. -/
def markupChar : Char → List Char
  | '&' => ['&', 'a', 'm', 'p', ';']
  | '<' => ['&', 'l', 't', ';']
  | '>' => ['&', 'g', 't', ';']
  | '"' => ['&', 'q', 'u', 'o', 't', ';']
  | '\'' => ['&', '#', '3', '9', ';']
  | c => [c]

/-- A text with the characters that are special in markup replaced by references. -/
def encodeMarkup (text : String) : String :=
  String.ofList (text.toList.flatMap markupChar)

/-- Whether a byte stands for itself in a web address. -/
def isUnreserved (byte : UInt8) : Bool :=
  let n := byte.toNat
  (65 ≤ n && n ≤ 90) || (97 ≤ n && n ≤ 122) || (48 ≤ n && n ≤ 57) || n == 45 || n == 95 ||
    n == 46 || n == 126

/-- The hexadecimal digit of a number below sixteen, in capital letters. -/
def upperHexDigit (n : Nat) : Char :=
  if n < 10 then Char.ofNat (48 + n) else Char.ofNat (55 + n)

/-- What a byte is written as in a web address. -/
def addressByte (byte : UInt8) : List Char :=
  if isUnreserved byte then [Char.ofNat byte.toNat]
  else if byte == 32 then ['+']
  else ['%', upperHexDigit (byte.toNat / 16), upperHexDigit (byte.toNat % 16)]

/-- A text as a part of a web address: unreserved characters stand for themselves, a plus sign for a
space, and a percent sign with two digits for any other byte. -/
def encodeAddress (text : String) : String :=
  String.ofList ((text.toList.flatMap String.utf8EncodeChar).flatMap addressByte)

/-- A value as text in a named format. -/
def formatText (value : Value) (format : Option String) : String :=
  let text := value.display
  match format with
  | some "upper" => upperText text
  | some "lower" => lowerText text
  | some "cap" => capitalizeText text
  | some "xml-encode" => encodeMarkup text
  | some "url-encode" => encodeAddress text
  | _ => text

/-- Five characters are written as references, and an address keeps only unreserved characters. -/
example : encodeMarkup "<a href='x'>" = "&lt;a href=&#39;x&#39;&gt;" ∧
    encodeAddress "a b/c" = "a+b%2Fc" := by
  decide +kernel

end TemplateMachine
