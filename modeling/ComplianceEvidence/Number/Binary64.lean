import ComplianceEvidence.Number.Power

/-!
Contract: IEEE 754 double precision on exact integers.

Owns: the value of a bit pattern as a significand times a power of two, rounding of a quotient of
natural numbers to the nearest double with ties to even, and product and quotient of doubles.

Does not own: how a double is written in digits.
-/

set_option autoImplicit false

namespace ComplianceEvidence

open Number (twoTo tenTo signedLimit wordLimit)

/-- The quotient rounded to the nearest natural number, a half to the even one. -/
def quotientToEven (numerator denominator : Nat) : Nat :=
  let quotient := numerator / denominator
  let twice := 2 * (numerator % denominator)
  if twice < denominator then quotient
  else if denominator < twice then quotient + 1
  else quotient + quotient % 2

/-- A double, given by its bit pattern. -/
structure Binary64 where
  bits : UInt64
deriving DecidableEq, Repr

namespace Binary64

/-- A magnitude `significand · 2 ^ exponent`. -/
structure Dyadic where
  significand : Nat
  exponent : Int
deriving DecidableEq, Repr

def Dyadic.ratio (value : Dyadic) : Nat × Nat :=
  (value.significand * twoTo value.exponent.toNat, twoTo (-value.exponent).toNat)

def magnitudeBits (value : Binary64) : Nat :=
  value.bits.toNat % signedLimit

def isNegative (value : Binary64) : Bool :=
  signedLimit ≤ value.bits.toNat

/-- The magnitude bits of infinity; larger ones stand for no number. -/
def infinityBits : Nat := 0x7FF0000000000000

def isInfinite (value : Binary64) : Bool :=
  value.magnitudeBits = infinityBits

def isNaN (value : Binary64) : Bool :=
  infinityBits < value.magnitudeBits

def isZero (value : Binary64) : Bool :=
  value.magnitudeBits = 0

/-- The least exponent of a significand of 53 bits. -/
def leastExponent : Int := -1074

def magnitude (value : Binary64) : Dyadic :=
  let biased : Nat := value.magnitudeBits / twoTo 52
  let fraction : Nat := value.magnitudeBits % twoTo 52
  if biased = 0 then ⟨fraction, leastExponent⟩
  else ⟨fraction + twoTo 52, (biased : Int) - 1075⟩

def ofMagnitudeBits (negative : Bool) (bits : Nat) : Binary64 :=
  ⟨UInt64.ofNat (bits + if negative then signedLimit else 0)⟩

def negate (value : Binary64) : Binary64 :=
  ofMagnitudeBits (!value.isNegative) value.magnitudeBits

/-- The greatest `e` with `2 ^ e ≤ numerator / denominator`, both positive. -/
def floorLog2Ratio (numerator denominator : Nat) : Int :=
  let estimate := (Nat.log2 numerator : Int) - Nat.log2 denominator
  if denominator * twoTo estimate.toNat ≤ numerator * twoTo (-estimate).toNat then estimate
  else estimate - 1

/-- The magnitude bits of the double nearest to a quotient, a tie to the even significand;
beyond the largest double this is infinity. -/
def nearestBits (numerator denominator : Nat) : Nat :=
  if numerator = 0 then 0
  else
    let exponent := max (floorLog2Ratio numerator denominator - 52) leastExponent
    let significand :=
      quotientToEven (numerator * twoTo (-exponent).toNat) (denominator * twoTo exponent.toNat)
    min infinityBits ((exponent - leastExponent).toNat * twoTo 52 + significand)

def ofRatio (negative : Bool) (numerator denominator : Nat) : Binary64 :=
  ofMagnitudeBits negative (nearestBits numerator denominator)

def ofNat (value : Nat) : Binary64 :=
  ofRatio false value 1

def zero : Binary64 := ⟨0⟩

def times (left right : Binary64) : Binary64 :=
  let (leftNumerator, leftDenominator) := left.magnitude.ratio
  let (rightNumerator, rightDenominator) := right.magnitude.ratio
  ofRatio (left.isNegative != right.isNegative) (leftNumerator * rightNumerator)
    (leftDenominator * rightDenominator)

/-- The rounded quotient of two finite doubles, the second of them not zero. -/
def dividedBy (left right : Binary64) : Binary64 :=
  let (leftNumerator, leftDenominator) := left.magnitude.ratio
  let (rightNumerator, rightDenominator) := right.magnitude.ratio
  ofRatio (left.isNegative != right.isNegative) (leftNumerator * rightDenominator)
    (leftDenominator * rightNumerator)

def powerOfTen (exponent : Nat) : Binary64 :=
  ofNat (tenTo exponent)

/-- The double nearest to `digits · 10 ^ exponent`. An exponent so large or so small that the
result is infinity or zero whatever the digits are is not computed with. -/
def ofDecimal (negative : Bool) (digits : Nat) (exponent : Int) : Binary64 :=
  let leading : Int := (Nat.toDigits 10 digits).length + exponent
  if digits = 0 || leading < -400 then ofMagnitudeBits negative 0
  else if 400 < leading then ofMagnitudeBits negative infinityBits
  else ofRatio negative (digits * tenTo exponent.toNat) (tenTo (-exponent).toNat)

example : ofRatio false 1 10 = ⟨0x3FB999999999999A⟩ := by decide +kernel
example : ofRatio false 5 (tenTo 324) = ⟨1⟩ := by decide +kernel
example : (ofNat 1).dividedBy (ofNat 3) = ⟨0x3FD5555555555555⟩ := by decide +kernel
example : ofNat (wordLimit - 1) = ⟨0x43F0000000000000⟩ := by decide +kernel

end Binary64

end ComplianceEvidence
