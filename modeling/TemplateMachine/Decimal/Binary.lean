/-!
# Binary floating point

A 64-bit floating-point number taken apart: not a number, infinite, or a sign with a magnitude
`significand * 2 ^ exponent`. Everything that is written about such a number is computed from these
parts in exact arithmetic.
-/

namespace TemplateMachine

/-- The magnitude `significand * 2 ^ exponent`. The gap to the number below is half as wide as the
gap above exactly when `narrowBelow` holds. -/
structure Magnitude where
  significand : Nat
  exponent : Int
  narrowBelow : Bool
deriving Repr, DecidableEq

/-- The parts of a floating-point number. -/
inductive FloatParts where
  | notANumber
  | infinite (negative : Bool)
  | finite (negative : Bool) (magnitude : Magnitude)
deriving Repr, DecidableEq

/-- The parts that the 64 bits of a number stand for: the sign, eleven bits of exponent and fifty-two
bits of fraction. -/
def FloatParts.ofBits (bits : UInt64) : FloatParts :=
  let negative := bits >>> 63 == 1
  let biased := ((bits >>> 52) &&& 0x7ff).toNat
  let fraction := (bits &&& 0xfffffffffffff).toNat
  if biased == 0x7ff then
    if fraction == 0 then .infinite negative else .notANumber
  else if biased == 0 then
    .finite negative ⟨fraction, -1074, false⟩
  else
    .finite negative
      ⟨0x10000000000000 + fraction, Int.ofNat biased - 1075, fraction == 0 && biased > 1⟩

/-- The parts of a number. -/
def FloatParts.of (x : Float) : FloatParts :=
  .ofBits x.toBits

/-- The number nearer to zero that has no fractional part. -/
def FloatParts.truncate : FloatParts → FloatParts
  | .finite negative ⟨significand, exponent, narrow⟩ =>
    if exponent < 0 then
      .finite negative ⟨significand / Nat.pow 2 (-exponent).toNat, 0, narrow⟩
    else .finite negative ⟨significand, exponent, narrow⟩
  | other => other

/-- A magnitude as a quotient of two naturals. -/
def Magnitude.quotient (x : Magnitude) : Nat × Nat :=
  (x.significand * Nat.pow 2 x.exponent.toNat, Nat.pow 2 (-x.exponent).toNat)

end TemplateMachine
