import ComplianceEvidence.Proofs.Json.Writing

/-!
Contract: a written text is read back as it was, by a reader and by one that passes over it.

Owns: what both readers make of the escapes of one character, and of a whole text up to its closing
quote.
-/

set_option autoImplicit false

namespace ComplianceEvidence.Json

/-- Two zeros and the two digits of a control character give its number. -/
theorem hexQuad?_control {number : Nat} (control : number < 0x20) :
    hexQuad? '0' '0' (hexDigit (number / 16)) (hexDigit (number % 16)) = some number := by
  have all : ∀ value < 0x20,
      hexQuad? '0' '0' (hexDigit (value / 16)) (hexDigit (value % 16)) = some value := by decide
  exact all number control

/-! ## One character -/

theorem readText_letter {letter character : Char} (escape : simpleEscape? letter = some character)
    (rest : List Char) :
    readText ('\\' :: letter :: rest) = prepend character (readText rest) := by
  unfold simpleEscape? at escape
  split at escape
  case h_9 => cases escape
  all_goals
    obtain rfl := Option.some.inj escape
    rw [readText]
    all_goals simp [simpleEscape?]

theorem skipText_letter {letter character : Char} (escape : simpleEscape? letter = some character)
    (rest : List Char) : skipText ('\\' :: letter :: rest) = skipText rest := by
  unfold simpleEscape? at escape
  split at escape
  case h_9 => cases escape
  all_goals
    obtain rfl := Option.some.inj escape
    rw [skipText]
    all_goals simp [simpleEscape?]

theorem readText_escaped (character : Char) (rest : List Char) :
    readText (escaped character ++ rest) = prepend character (readText rest) := by
  rcases escaped_cases character with
    ⟨letter, escape, written⟩ | ⟨control, written⟩ | ⟨shown, notQuote, notBackslash, written⟩
  · rw [written]
    exact readText_letter escape rest
  · have notLow : isLowSurrogate character.toNat = false := by
      simp only [isLowSurrogate, Bool.and_eq_false_iff, decide_eq_false_iff_not]
      omega
    have notHigh : isHighSurrogate character.toNat = false := by
      simp only [isHighSurrogate, Bool.and_eq_false_iff, decide_eq_false_iff_not]
      omega
    rw [written]
    simp only [List.cons_append, List.nil_append]
    rw [readText, hexQuad?_control control]
    simp [notLow, notHigh, Char.ofNat_toNat]
  · rw [written, List.singleton_append, readText]
    · rw [if_neg (Nat.not_lt.2 shown)]
    all_goals simp [notQuote, notBackslash]

theorem skipText_escaped (character : Char) (rest : List Char) :
    skipText (escaped character ++ rest) = skipText rest := by
  rcases escaped_cases character with
    ⟨letter, escape, written⟩ | ⟨control, written⟩ | ⟨shown, notQuote, notBackslash, written⟩
  · rw [written]
    exact skipText_letter escape rest
  · rw [written]
    simp only [List.cons_append, List.nil_append]
    rw [skipText, hexQuad?_control control]
  · rw [written, List.singleton_append, skipText]
    · rw [if_neg (Nat.not_lt.2 shown)]
    all_goals simp [notQuote, notBackslash]

/-! ## Whole texts -/

/-- What stands behind the opening quote of a written text. -/
def bodyChars (text rest : List Char) : List Char :=
  text.flatMap escaped ++ '"' :: rest

theorem textChars_append (text : String) (rest : List Char) :
    textChars text ++ rest = '"' :: bodyChars text.toList rest := by
  simp [textChars, bodyChars]

@[simp] theorem readText_body (text rest : List Char) :
    readText (bodyChars text rest) = .ok (text, rest) := by
  induction text with
  | nil => rfl
  | cons head tail inductionHypothesis =>
      have split : bodyChars (head :: tail) rest = escaped head ++ bodyChars tail rest := by
        rw [bodyChars, List.flatMap_cons, List.append_assoc, bodyChars]
      rw [split, readText_escaped, inductionHypothesis]
      rfl

@[simp] theorem skipText_body (text rest : List Char) : skipText (bodyChars text rest) = .ok rest := by
  induction text with
  | nil => rfl
  | cons head tail inductionHypothesis =>
      have split : bodyChars (head :: tail) rest = escaped head ++ bodyChars tail rest := by
        rw [bodyChars, List.flatMap_cons, List.append_assoc, bodyChars]
      rw [split, skipText_escaped, inductionHypothesis]

end ComplianceEvidence.Json
