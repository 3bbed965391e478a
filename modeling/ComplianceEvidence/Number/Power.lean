/-!
Contract: powers of two and of ten.

Owns: the two functions, and the bounds of words of 64 bits.
-/

set_option autoImplicit false

namespace ComplianceEvidence.Number

def twoTo (exponent : Nat) : Nat := Nat.pow 2 exponent

def tenTo (exponent : Nat) : Nat := Nat.pow 10 exponent

/-- The number of words of 64 bits: the least number that is too large for one. -/
def wordLimit : Nat := twoTo 64

/-- The least number that is too large for a word of 64 bits with a sign. -/
def signedLimit : Nat := twoTo 63

example : wordLimit = 18446744073709551616 := by decide
example : tenTo 3 = 1000 := by decide

end ComplianceEvidence.Number
