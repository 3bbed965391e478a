/-!
Contract: white space as the Unicode property `White_Space` defines it.

Owns: the character class and the test for a text made only of such characters.

Does not own: the narrower sets that a data format allows around its values.
-/

set_option autoImplicit false

namespace ComplianceEvidence.Text

/-- Code points with the property `White_Space`, as closed ranges. -/
def blankRanges : List (Nat × Nat) :=
  [(0x09, 0x0D), (0x20, 0x20), (0x85, 0x85), (0xA0, 0xA0), (0x1680, 0x1680), (0x2000, 0x200A),
    (0x2028, 0x2029), (0x202F, 0x202F), (0x205F, 0x205F), (0x3000, 0x3000)]

/-- Membership of a character in a table of closed ranges of code points. -/
def inRanges (ranges : List (Nat × Nat)) (character : Char) : Bool :=
  ranges.any fun range => range.1 ≤ character.toNat && character.toNat ≤ range.2

def isBlank (character : Char) : Bool :=
  inRanges blankRanges character

/-- A text with nothing but white space; the empty text is one. -/
def isBlankText (text : List Char) : Bool :=
  text.all isBlank

def dropBlanks (text : List Char) : List Char :=
  text.dropWhile isBlank

theorem isBlankText_iff (text : List Char) :
    isBlankText text = true ↔ ∀ character ∈ text, isBlank character = true := by
  simp [isBlankText]

end ComplianceEvidence.Text
