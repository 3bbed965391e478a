import ComplianceEvidence.Proofs.Json.Grammar
import ComplianceEvidence.Proofs.Json.WrittenText

/-!
Contract: a text is read from any of its spellings, by a reader and by one that passes over it.

Owns: what both readers make of the spelling of one character and of a whole text up to its closing
quote, and the fact that a written text is one of the spellings.
-/

set_option autoImplicit false

namespace ComplianceEvidence.Json

/-! ## One character -/

theorem notLow_of_isHighSurrogate {unit : Nat} (isHigh : isHighSurrogate unit = true) :
    isLowSurrogate unit = false := by
  simp only [isHighSurrogate, Bool.and_eq_true, decide_eq_true_eq] at isHigh
  simp only [isLowSurrogate, Bool.and_eq_false_iff, decide_eq_false_iff_not]
  omega

namespace SpellsCharacter

variable {spelling : List Char} {character : Char} (spells : SpellsCharacter spelling character)
include spells

theorem readText_append (rest : List Char) :
    readText (spelling ++ rest) = prepend character (readText rest) := by
  cases spells with
  | plain shown notQuote notBackslash =>
      rw [List.singleton_append, readText]
      · rw [if_neg (Nat.not_lt.2 shown)]
      all_goals simp [notQuote, notBackslash]
  | letter escape => exact readText_letter escape rest
  | numbered number notHigh notLow =>
      simp only [List.cons_append, List.nil_append]
      rw [readText, number]
      simp [notHigh, notLow]
  | pair highNumber lowNumber isHigh isLow =>
      have notLow := notLow_of_isHighSurrogate isHigh
      simp only [List.cons_append, List.nil_append]
      rw [readText, highNumber]
      simp [notLow, isHigh, lowNumber, isLow]

theorem skipText_append (rest : List Char) : skipText (spelling ++ rest) = skipText rest := by
  cases spells with
  | plain shown notQuote notBackslash =>
      rw [List.singleton_append, skipText]
      · rw [if_neg (Nat.not_lt.2 shown)]
      all_goals simp [notQuote, notBackslash]
  | letter escape => exact skipText_letter escape rest
  | numbered number notHigh notLow =>
      simp only [List.cons_append, List.nil_append]
      rw [skipText, number]
  | pair highNumber lowNumber isHigh isLow =>
      simp only [List.cons_append, List.nil_append]
      rw [skipText, highNumber]
      dsimp only
      rw [skipText, lowNumber]

end SpellsCharacter

/-! ## Whole texts -/

namespace SpellsText

variable {body text : List Char} (spells : SpellsText body text)
include spells

theorem readText_append (rest : List Char) :
    readText (body ++ '"' :: rest) = .ok (text, rest) := by
  induction spells with
  | nil => rfl
  | cons first others inductionHypothesis =>
      rw [List.append_assoc, first.readText_append, inductionHypothesis]
      rfl

theorem skipText_append (rest : List Char) : skipText (body ++ '"' :: rest) = .ok rest := by
  induction spells with
  | nil => rfl
  | cons first others inductionHypothesis =>
      rw [List.append_assoc, first.skipText_append, inductionHypothesis]

end SpellsText

/-! ## Written texts -/

theorem spellsCharacter_escaped (character : Char) :
    SpellsCharacter (escaped character) character := by
  rcases escaped_cases character with
    ⟨letter, escape, written⟩ | ⟨control, written⟩ | ⟨shown, notQuote, notBackslash, written⟩
  · rw [written]
    exact .letter escape
  · have notHigh : isHighSurrogate character.toNat = false := by
      simp only [isHighSurrogate, Bool.and_eq_false_iff, decide_eq_false_iff_not]
      omega
    have notLow : isLowSurrogate character.toNat = false := by
      simp only [isLowSurrogate, Bool.and_eq_false_iff, decide_eq_false_iff_not]
      omega
    have numbered := SpellsCharacter.numbered (hexQuad?_control control) notHigh notLow
    rwa [Char.ofNat_toNat, ← written] at numbered
  · rw [written]
    exact .plain shown notQuote notBackslash

theorem spellsText_escaped (text : List Char) : SpellsText (text.flatMap escaped) text := by
  induction text with
  | nil => exact .nil
  | cons head tail inductionHypothesis =>
      rw [List.flatMap_cons]
      exact .cons (spellsCharacter_escaped head) inductionHypothesis

theorem isQuoted_textChars (content : String) : IsQuoted content (textChars content) :=
  ⟨_, spellsText_escaped content.toList, rfl⟩

end ComplianceEvidence.Json
