import ComplianceEvidence.Number.Shortest

/-!
Contract: the spellings of numbers that the program writes.

Owns: natural and whole numbers in base ten, a double with an exponent when it is very large or
very small, a double without exponent, and a double with one decimal place.
-/

set_option autoImplicit false

namespace ComplianceEvidence.Number

def naturalText (value : Nat) : String :=
  String.ofList (Nat.toDigits 10 value)

def wholeText (value : Int) : String :=
  if value < 0 then "-" ++ naturalText value.natAbs else naturalText value.natAbs

def zeros (count : Nat) : String :=
  String.ofList (List.replicate count '0')

/-- Digits with a point after the given place; a whole number keeps one decimal zero. -/
def positional (digits : List Char) (place : Int) : String :=
  if place ≤ 0 then "0." ++ zeros (-place).toNat ++ String.ofList digits
  else if digits.length ≤ place.toNat then
    String.ofList digits ++ zeros (place.toNat - digits.length) ++ ".0"
  else
    String.ofList (digits.take place.toNat) ++ "." ++ String.ofList (digits.drop place.toNat)

/-- One digit before the point, none behind it if there is only one, and a signed exponent. -/
def scientific (digits : List Char) (place : Int) : String :=
  let exponent := place - 1
  let sign := if exponent < 0 then "-" else "+"
  let fraction :=
    match digits.drop 1 with
    | [] => ""
    | rest => "." ++ String.ofList rest
  String.ofList (digits.take 1) ++ fraction ++ "e" ++ sign ++ naturalText exponent.natAbs

/-- Which places of the point are written without exponent, for a finite double. -/
structure Spelling where
  isPositional : Int → Bool

/-- The point may stand from five places before the first digit to sixteen behind it. -/
def compact : Spelling := ⟨fun place => -5 < place && place ≤ 16⟩

def expanded : Spelling := ⟨fun _ => true⟩

def doubleText (spelling : Spelling) (value : Binary64) : String :=
  let sign := if value.isNegative then "-" else ""
  if value.isZero then sign ++ "0.0"
  else
    let decimal := Decimal.shortest value.magnitude
    let digits := Nat.toDigits 10 decimal.digits
    let place := (digits.length : Int) + decimal.exponent
    sign ++ if spelling.isPositional place then positional digits place else scientific digits place

def anyDoubleText (value : Binary64) : String :=
  if value.isNaN then "NaN"
  else if value.isInfinite then if value.isNegative then "-inf" else "inf"
  else doubleText expanded value

/-- A finite double that is not negative, with one decimal place; a half goes to the even tenth. -/
def tenthsText (value : Binary64) : String :=
  let (numerator, denominator) := value.magnitude.ratio
  let tenths := quotientToEven (numerator * 10) denominator
  naturalText (tenths / 10) ++ "." ++ naturalText (tenths % 10)

example : doubleText compact (Binary64.ofNat (tenTo 15)) = "1000000000000000.0" := by
  decide +kernel
example : doubleText compact (Binary64.ofNat (tenTo 21)) = "1e+21" := by decide +kernel
example : doubleText compact (Binary64.ofRatio true 15 100000) = "-0.00015" := by decide +kernel
example : tenthsText (Binary64.ofRatio false 1 4) = "0.2" := by decide +kernel

end ComplianceEvidence.Number
