import TemplateMachine.Decimal.Binary

/-!
# Decimal digits of a magnitude

Two ways to choose decimal digits for a binary magnitude: the fewest that read back as the same
number, and a fixed number of places rounded from the exact value. The first prefers the nearer of
two candidates and the upper one in a tie; the second gives ties to the even digit.
-/

namespace TemplateMachine

/-- The decimal `coefficient * 10 ^ exponent`. -/
structure Decimal where
  coefficient : Nat
  exponent : Int
deriving Repr, DecidableEq

/-- The decimal digits of a natural number. -/
def decimalDigits (n : Nat) : List Char :=
  Nat.toDigits 10 n

/-- A quotient rounded to the nearest natural, a tie going to the even one. -/
def roundHalfEven (num den : Nat) : Nat :=
  let below := num / den
  let twice := 2 * (num % den)
  if twice < den then below
  else if den < twice then below + 1
  else if below % 2 == 0 then below
  else below + 1

/-- The `k` with `10 ^ (k - 1) ≤ num / den < 10 ^ k`, for a positive quotient. A quotient below one
is measured by the digits of its inverse. -/
def leadingPlace (num den : Nat) : Int :=
  if den ≤ num then (decimalDigits (num / den)).length
  else 1 - (decimalDigits ((den - 1) / num)).length

/-- The quotient divided by `10 ^ place`, as a quotient. -/
def shiftPlaces (num den : Nat) (place : Int) : Nat × Nat :=
  (num * Nat.pow 10 (-place).toNat, den * Nat.pow 10 place.toNat)

/-- The multiple of `10 ^ place` that reads back as the magnitude and lies next to it, if there is
one. -/
def readsBackAt (x : Magnitude) (place : Int) : Option Nat :=
  let (num, den) := ({ x with significand := 1, exponent := x.exponent - 2 } : Magnitude).quotient
  let (num, den) := shiftPlaces num den place
  let value := 4 * x.significand * num
  let least := (4 * x.significand - if x.narrowBelow then 1 else 2) * num
  let greatest := (4 * x.significand + 2) * num
  let closed := x.significand % 2 == 0
  let below := value / den * den
  let above := below + den
  let belowFits := least < below || (closed && least == below)
  let aboveFits := above < greatest || (closed && above == greatest)
  if belowFits && (!aboveFits || value - below < above - value) then some (below / den)
  else if aboveFits then some (above / den)
  else none

/-- A decimal without the zeros at the end of its coefficient, at most `fuel` of them. -/
def Decimal.stripZeros : Nat → Decimal → Decimal
  | 0, d => d
  | fuel + 1, d =>
    if d.coefficient != 0 && d.coefficient % 10 == 0 then
      stripZeros fuel ⟨d.coefficient / 10, d.exponent + 1⟩
    else d

/-- The decimal with the fewest digits that reads back as the magnitude; seventeen always do. -/
def shortestDecimal (x : Magnitude) : Decimal :=
  if x.significand == 0 then ⟨0, 0⟩
  else
    let (num, den) := x.quotient
    let top := leadingPlace num den
    let candidate := (List.range 17).findSome? fun (i : Nat) =>
      let place := top - (i + 1)
      (readsBackAt x place).map fun coefficient => Decimal.mk coefficient place
    (candidate.getD ⟨0, 0⟩).stripZeros 17

/-- The multiple of `10 ^ -places` nearest to the magnitude, as its coefficient. -/
def fixedCoefficient (x : Magnitude) (places : Nat) : Nat :=
  let (num, den) := x.quotient
  roundHalfEven (num * Nat.pow 10 places) den

/-- The decimal of `places + 1` digits nearest to the magnitude. -/
def roundedDecimal (x : Magnitude) (places : Nat) : Decimal :=
  if x.significand == 0 then ⟨0, -places⟩
  else
    let (num, den) := x.quotient
    let place := leadingPlace num den - (places + 1)
    let (num, den) := shiftPlaces num den place
    let coefficient := roundHalfEven num den
    if coefficient == Nat.pow 10 (places + 1) then ⟨coefficient / 10, place + 1⟩
    else ⟨coefficient, place⟩

end TemplateMachine
