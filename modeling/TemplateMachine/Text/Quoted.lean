import TemplateMachine.Text.Ranges
import TemplateMachine.Text.PrintTable

/-!
# Quoted text

The notation that diagnostics and listings use for a text: double quotes around it, a backslash
before a quote or a backslash, short escapes for five control characters, and the code point in
hexadecimal for every other character that cannot be seen or that would join the one before it.
-/

namespace TemplateMachine

/-- The hexadecimal digits of a number, in small letters and without leading zeros. -/
def hexDigits (n : Nat) : List Char :=
  Nat.toDigits 16 n

/-- Whether a character is written by its code point in a quoted text. -/
def isHidden (c : Char) : Bool :=
  if c.toNat < 0x80 then c.toNat < 0x20 || c.toNat == 0x7f
  else inRanges c.toNat graphemeExtendRanges || inRanges c.toNat defaultIgnorableRanges ||
    inRanges c.toNat unprintableRanges

/-- What a character is written as in a quoted text. -/
def quotedChar (c : Char) : List Char :=
  if c = '\x00' then ['\\', '0']
  else if c = '\t' then ['\\', 't']
  else if c = '\r' then ['\\', 'r']
  else if c = '\n' then ['\\', 'n']
  else if c = '\\' then ['\\', '\\']
  else if c = '"' then ['\\', '"']
  else if isHidden c then ['\\', 'u', '\x7b'] ++ hexDigits c.toNat ++ ['\x7d']
  else [c]

/-- A text in quotes, with its characters written so that they can be told apart. -/
def quoted (text : String) : String :=
  String.ofList (['"'] ++ text.toList.flatMap quotedChar ++ ['"'])

/-- A letter that is shown as nothing is written by its code point, other letters as they are. -/
example : quoted "\u115f" = "\"\\u\x7b115f\x7d\"" ∧ quoted "\u1100é" = "\"\u1100é\"" := by
  decide +kernel

/-- Quotes, backslashes and newlines have short escapes, invisible characters long ones. -/
example : quoted "a\"b\\c\n" = "\"a\\\"b\\\\c\\n\"" ∧
    quoted "\x07\u200b" = "\"\\u\x7b7\x7d\\u\x7b200b\x7d\"" := by
  decide +kernel

end TemplateMachine
