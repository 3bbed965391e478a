import ComplianceEvidence.Number.Binary64

/-!
Contract: the fewest decimal digits that read back as a given double.

Owns: the search over digit counts, on exact integers. A decimal with `n` digits reads back iff it
lies in the interval of numbers that round to the double, whose ends belong to it iff the
significand is even. If any decimal with `n` digits does, then one of the double's two neighbours
among them does; the nearer of the two is taken, and of two equally near the even one.
-/

set_option autoImplicit false

namespace ComplianceEvidence

/-- A decimal `digits · 10 ^ exponent`. -/
structure Decimal where
  digits : Nat
  exponent : Int
deriving DecidableEq, Repr

namespace Decimal

/-- The decimal with its trailing zeros moved into the exponent. -/
def trim (value : Decimal) (fuel : Nat) : Decimal :=
  match fuel with
  | 0 => value
  | fuel + 1 =>
      if value.digits ≠ 0 && value.digits % 10 = 0 then
        trim ⟨value.digits / 10, value.exponent + 1⟩ fuel
      else value

def digitCount (number : Nat) : Nat :=
  (Nat.toDigits 10 number).length

/-- The place of the first digit of `numerator / denominator`, both positive: the `k` with
`10 ^ (k - 1) ≤ numerator / denominator < 10 ^ k`. -/
def leadingPlace (numerator denominator : Nat) : Int :=
  if denominator ≤ numerator then digitCount (numerator / denominator)
  else
    let count := digitCount (denominator / numerator)
    if numerator * Number.tenTo (count - 1) = denominator then 2 - (count : Int) else 1 - (count : Int)

/-- The numbers that round to one double, over a common denominator. -/
structure Basin where
  value : Nat
  low : Nat
  high : Nat
  denominator : Nat
  closed : Bool

def Basin.holds (basin : Basin) (numerator denominator : Nat) : Bool :=
  let scaled := numerator * basin.denominator
  if basin.closed then basin.low * denominator ≤ scaled && scaled ≤ basin.high * denominator
  else basin.low * denominator < scaled && scaled < basin.high * denominator

/-- Below a power of two the doubles stand twice as close. -/
def Basin.of (magnitude : Binary64.Dyadic) : Basin :=
  let significand := magnitude.significand
  let scale := Number.twoTo magnitude.exponent.toNat
  let narrow := significand = Number.twoTo 52 && Binary64.leastExponent < magnitude.exponent
  { value := 4 * significand * scale
    low := (4 * significand - if narrow then 1 else 2) * scale
    high := (4 * significand + 2) * scale
    denominator := 4 * Number.twoTo (-magnitude.exponent).toNat
    closed := significand % 2 = 0 }

/-- The best decimal with a given number of digits, if one reads back. -/
def Basin.withDigits? (basin : Basin) (place : Int) (count : Nat) : Option Decimal :=
  let exponent := place - count
  let up := Number.tenTo exponent.toNat
  let down := Number.tenTo (-exponent).toNat
  let gridValue := basin.value * down
  let gridStep := basin.denominator * up
  let below := gridValue / gridStep
  let remainder := gridValue % gridStep
  let belowHolds := basin.holds (below * up) down
  let aboveHolds := basin.holds ((below + 1) * up) down
  let takesAbove :=
    if belowHolds && aboveHolds then
      if 2 * remainder = gridStep then below % 2 = 1 else gridStep < 2 * remainder
    else aboveHolds
  if belowHolds || aboveHolds then
    some ⟨if takesAbove then below + 1 else below, exponent⟩
  else none

/-- The shortest decimal for a finite double other than zero, without trailing zeros. -/
def shortest (magnitude : Binary64.Dyadic) : Decimal :=
  let basin := Basin.of magnitude
  let place := leadingPlace basin.value basin.denominator
  match (List.range' 1 17).findSome? (basin.withDigits? place) with
  | some found => found.trim 18
  | none => ⟨basin.value / basin.denominator, 0⟩

example : shortest (Binary64.magnitude ⟨1⟩) = ⟨5, -324⟩ := by decide +kernel
example : shortest (Binary64.magnitude ⟨0x3FB999999999999A⟩) = ⟨1, -1⟩ := by decide +kernel
example : shortest (Binary64.magnitude ⟨0x7FE1CCF385EBC8A0⟩) = ⟨1, 308⟩ := by decide +kernel

end Decimal

end ComplianceEvidence
