import TemplateMachine.Decimal.Digits

/-!
# Written numbers

How a floating-point number is written: in full with a decimal point, or as a coefficient with a
power of ten. Two styles for the shortest digits are records of one type; formats with a given
number of places have functions of their own. A minus sign stands before every negative number,
zero included; what is not a number has no sign.
-/

namespace TemplateMachine

/-- A style of writing the shortest digits of a number. The number is written in full if the power
of ten of its first digit lies in the given bounds, and a whole number is followed by `wholeMark`. -/
structure NumberStyle where
  leastPower : Option Int
  greatestPower : Option Int
  wholeMark : String

/-- Numbers in output are always written in full, and a whole number has no point. -/
def NumberStyle.output : NumberStyle := ⟨none, none, ""⟩

/-- Numbers in diagnostics are written in full from a ten-thousandth up to ten to the sixteenth, and
a whole number keeps one zero behind the point. -/
def NumberStyle.diagnostic : NumberStyle := ⟨some (-4), some 15, ".0"⟩

/-- The digits of a coefficient with the point moved `exponent` places. -/
def positional (d : Decimal) (wholeMark : String) : String :=
  let digits := decimalDigits d.coefficient
  if 0 ≤ d.exponent then
    String.ofList (digits ++ List.replicate d.exponent.toNat '0') ++ wholeMark
  else
    let places := (-d.exponent).toNat
    let padded := List.replicate (places + 1 - digits.length) '0' ++ digits
    let whole := padded.length - places
    String.ofList (padded.take whole ++ '.' :: padded.drop whole)

/-- One digit, the other digits behind a point, and the power of ten. -/
def scientific (d : Decimal) : String :=
  let digits := decimalDigits d.coefficient
  let power := if d.coefficient == 0 then 0 else d.exponent + (digits.length - 1 : Nat)
  let tail := digits.drop 1
  String.ofList (digits.take 1 ++ (if tail.isEmpty then [] else '.' :: tail)) ++ "e" ++ toString power

/-- A written magnitude with its sign, or the name of a number that has none. -/
def FloatParts.written (parts : FloatParts) (magnitude : Magnitude → String) : String :=
  let sign (negative : Bool) := if negative then "-" else ""
  match parts with
  | .notANumber => "NaN"
  | .infinite negative => sign negative ++ "inf"
  | .finite negative x => sign negative ++ magnitude x

/-- The shortest digits of a number in the given style. -/
def NumberStyle.write (style : NumberStyle) (parts : FloatParts) : String :=
  parts.written fun x =>
    let d := shortestDecimal x
    let power := d.exponent + ((decimalDigits d.coefficient).length - 1 : Nat)
    let inBounds := style.leastPower.all (· ≤ power) && style.greatestPower.all (power ≤ ·)
    if x.significand == 0 || inBounds then positional d style.wholeMark else scientific d

/-- Output keeps the sign of zero, leaves out the point of a whole number and writes large numbers in
full. -/
example : NumberStyle.output.write (.ofBits 0x8000000000000000) = "-0" ∧
    NumberStyle.output.write (.ofBits 0x3ff8000000000000) = "1.5" ∧
    NumberStyle.output.write (.ofBits 0x4415af1d78b58c40) = "100000000000000000000" := by
  decide +kernel

/-- Diagnostics keep a zero behind the point and turn to powers of ten outside their bounds. -/
example : NumberStyle.diagnostic.write (.ofBits 0x3ff0000000000000) = "1.0" ∧
    NumberStyle.diagnostic.write (.ofBits 0x4341c37937e08000) = "1e16" ∧
    NumberStyle.diagnostic.write (.ofBits 0x3f1a36e2eb1c432d) = "0.0001" ∧
    NumberStyle.diagnostic.write (.ofBits 0x3ee4f8b588e368f1) = "1e-5" := by
  decide +kernel

/-- A number with exactly the given number of places behind the point. -/
def writeFixed (parts : FloatParts) (places : Nat) : String :=
  parts.written fun x =>
    positional ⟨fixedCoefficient x places, -places⟩ ""

/-- A number as a coefficient with a power of ten, with the shortest digits or with the given
number of places behind the point. -/
def writeScientific (parts : FloatParts) (places : Option Nat) : String :=
  parts.written fun x =>
    match places with
    | none => scientific (shortestDecimal x)
    | some places =>
      if x.significand == 0 then
        String.ofList ('0' :: (if places == 0 then [] else '.' :: List.replicate places '0')) ++ "e0"
      else scientific (roundedDecimal x places)

end TemplateMachine
