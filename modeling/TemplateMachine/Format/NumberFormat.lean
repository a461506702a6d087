import TemplateMachine.Value.Text

/-!
# Number formats

A number format is a text with one conversion in it: a percent sign, flags, an optional width, an
optional precision and a conversion letter. The number is converted and padded, and the text around
the conversion is kept. A value that the conversion does not apply to, and a format without a
conversion, leave the value as it is in output.

Widths and precisions are counted in words of 64 bits.
-/

namespace TemplateMachine

/-- The conversions of a number format. -/
inductive Conversion where
  | decimal
  | hexadecimal (capital : Bool)
  | octal
  | fixed
  | scientific
  | plain
deriving DecidableEq, Repr

/-- The conversion of a letter. -/
def Conversion.ofLetter? : Char → Option Conversion
  | 'd' => some .decimal
  | 'x' => some (.hexadecimal false)
  | 'X' => some (.hexadecimal true)
  | 'o' => some .octal
  | 'f' => some .fixed
  | 'e' => some .scientific
  | 's' => some .plain
  | _ => none

/-- A number format taken apart. -/
structure NumberFormat where
  before : List Char
  after : List Char
  leftAligned : Bool
  zeroFilled : Bool
  width : UInt64
  precision : Option UInt64
  conversion : Conversion
deriving DecidableEq, Repr

namespace NumberFormat

/-- Whether a character is a flag. -/
def isFlag (c : Char) : Bool :=
  c == '-' || c == '0'

/-- The number that a run of decimal digits stands for, modulo the size of a word. -/
def digitsValue (digits : List Char) : UInt64 :=
  digits.foldl (fun total c => total * 10 + UInt64.ofNat (c.toNat - 48)) 0

/-- The precision at the start of characters, and what follows it. -/
def splitPrecision : List Char → Option UInt64 × List Char
  | '.' :: rest => (some (digitsValue (rest.takeWhile Char.isDigit)), rest.dropWhile Char.isDigit)
  | chars => (none, chars)

/-- The format that characters stand for, read at the first percent sign. -/
def parseChars? (chars : List Char) : Option NumberFormat :=
  match chars.dropWhile (· ≠ '%') with
  | [] => none
  | _ :: rest =>
    let flags := rest.takeWhile isFlag
    let rest := rest.dropWhile isFlag
    let width := digitsValue (rest.takeWhile Char.isDigit)
    let (precision, rest) := splitPrecision (rest.dropWhile Char.isDigit)
    match rest with
    | [] => none
    | letter :: after =>
      (Conversion.ofLetter? letter).map fun conversion => {
        before := chars.takeWhile (· ≠ '%')
        after := after
        leftAligned := flags.contains '-'
        zeroFilled := flags.contains '0'
        width := width
        precision := precision
        conversion := conversion }

/-- The format that a text stands for. -/
def parse? (format : String) : Option NumberFormat :=
  parseChars? format.toList

/-- Characters filled up to the width of the format: behind them, between the sign and the digits,
or before them. -/
def pad (format : NumberFormat) (body : List Char) : List Char :=
  let fill := format.width.toNat - body.length
  if format.leftAligned then body ++ List.replicate fill ' '
  else if format.zeroFilled && format.conversion != .plain then
    match body with
    | '-' :: digits => '-' :: (List.replicate fill '0' ++ digits)
    | _ => List.replicate fill '0' ++ body
  else List.replicate fill ' ' ++ body

/-- The bits of a signed integer as a natural number. -/
def bitsOf (n : Int64) : Nat :=
  n.toUInt64.toNat

/-- The parts of a number as a floating-point number. -/
def floatParts? : Value → Option FloatParts
  | .integer n => some (.of n.toFloat)
  | .float x => some (.of x)
  | _ => none

/-- The digits of a value under the conversion of the format, if it applies. -/
def body? (format : NumberFormat) (value : Value) : Option (List Char) :=
  match format.conversion, value with
  | .decimal, .integer n => some (toString n.toInt).toList
  | .decimal, .float x => some (writeFixed (FloatParts.of x).truncate 0).toList
  | .hexadecimal false, .integer n => some (Nat.toDigits 16 (bitsOf n))
  | .hexadecimal true, .integer n => some ((Nat.toDigits 16 (bitsOf n)).map Char.toUpper)
  | .octal, .integer n => some (Nat.toDigits 8 (bitsOf n))
  | .fixed, value =>
    (floatParts? value).map fun parts =>
      (writeFixed parts ((format.precision.map UInt64.toNat).getD 6)).toList
  | .scientific, value =>
    (floatParts? value).map fun parts =>
      (writeScientific parts (format.precision.map UInt64.toNat)).toList
  | .plain, value => some value.display.toList
  | _, _ => none

/-- A value under the format, with the text around the conversion. -/
def written? (format : NumberFormat) (value : Value) : Option String :=
  (format.body? value).map fun body =>
    String.ofList (format.before ++ format.pad body ++ format.after)

end NumberFormat

/-- A value as text in a number format. -/
def formatNumber (value : Value) (format : Option String) : String :=
  match (format.bind NumberFormat.parse?).bind (·.written? value) with
  | some text => text
  | none => value.display

/-- Zeros go between the sign and the digits, a left-aligned number is followed by blanks, and the
text around the conversion stays. -/
example : formatNumber (.integer (-7)) (some "%04d") = "-007" ∧
    formatNumber (.integer 7) (some "%-3d|") = "7  |" ∧
    formatNumber (.integer 7) (some "[%5d]") = "[    7]" ∧
    formatNumber (.integer 255) (some "#%X") = "#FF" := by
  decide +kernel

/-- Without a conversion, and where it does not apply, the value is written as it is. -/
example : formatNumber (.integer 7) (some "no conversion") = "7" ∧
    formatNumber (.string "abc") (some "%d") = "abc" := by
  decide +kernel

end TemplateMachine
