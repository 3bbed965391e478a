import ComplianceEvidence.Json.NumberText
import ComplianceEvidence.Proofs.Number.Digits

/-!
Contract: a written whole number is read back as it was, by a reader and by one that passes over
it.

Owns: the digits of a number in front of a text that does not go on with the number, and what both
readers make of them.
-/

set_option autoImplicit false

namespace ComplianceEvidence.Json

open Number (toDigits_eq_cons le_ofDigitChars)

/-- A text that does not go on with a number in front of it. -/
def Delimited (rest : List Char) : Prop :=
  ∀ head tail, rest = head :: tail →
    head.isDigit = false ∧ head ≠ '.' ∧ head ≠ 'e' ∧ head ≠ 'E'

theorem delimited_nil : Delimited [] := by
  intro head tail impossible
  cases impossible

theorem delimited_cons {head : Char} (tail : List Char) (notDigit : head.isDigit = false)
    (notPoint : head ≠ '.') (notLower : head ≠ 'e') (notUpper : head ≠ 'E') :
    Delimited (head :: tail) := by
  intro first others same
  obtain ⟨rfl, rfl⟩ := List.cons.inj same
  exact ⟨notDigit, notPoint, notLower, notUpper⟩

section Delimited

variable {rest : List Char} (delimited : Delimited rest)
include delimited

theorem startsWithDigit_of_delimited : startsWithDigit rest = false := by
  cases rest with
  | nil => rfl
  | cons head tail => exact (delimited head tail rfl).1

theorem readIntegerEnd_of_delimited (negative : Bool) (significand : Nat) :
    readIntegerEnd negative significand rest =
      .ok (wholeNumeral negative significand, rest) := by
  unfold readIntegerEnd
  split
  · exact absurd rfl (delimited _ _ rfl).2.1
  · exact absurd rfl (delimited _ _ rfl).2.2.1
  · exact absurd rfl (delimited _ _ rfl).2.2.2
  · rfl

theorem skipNumberEnd_of_delimited : skipNumberEnd rest = .ok rest := by
  unfold skipNumberEnd
  split
  · exact absurd rfl (delimited _ _ rfl).2.1
  · exact absurd rfl (delimited _ _ rfl).2.2.1
  · exact absurd rfl (delimited _ _ rfl).2.2.2
  · rfl

theorem dropDigits_append {digits : List Char}
    (all : ∀ character ∈ digits, character.isDigit = true) : dropDigits (digits ++ rest) = rest := by
  rw [dropDigits, List.dropWhile_append_of_pos all]
  cases rest with
  | nil => rfl
  | cons head tail =>
      have notDigit : ¬ head.isDigit = true := by simp [(delimited head tail rfl).1]
      rw [List.dropWhile_cons_of_neg notDigit]

end Delimited

/-! ## Readers -/

section Readers

variable {rest : List Char} (delimited : Delimited rest)
include delimited

/-- Digits are read to the end as long as the number fits. -/
theorem readIntegerDigits_append (negative : Bool) {digits : List Char} {significand : Nat}
    (all : ∀ character ∈ digits, character.isDigit = true)
    (fits : Nat.ofDigitChars 10 digits significand < significandLimit) :
    readIntegerDigits negative significand (digits ++ rest) =
      .ok (wholeNumeral negative (Nat.ofDigitChars 10 digits significand), rest) := by
  induction digits generalizing significand with
  | nil =>
      rw [List.nil_append, Nat.ofDigitChars_nil]
      cases rest with
      | nil => rfl
      | cons head tail =>
          have notDigit : ¬ head.isDigit = true := by simp [(delimited head tail rfl).1]
          rw [readIntegerDigits, if_neg notDigit]
          exact readIntegerEnd_of_delimited delimited negative significand
  | cons head tail inductionHypothesis =>
      obtain ⟨headDigit, tailDigits⟩ := List.forall_mem_cons.1 all
      rw [Nat.ofDigitChars_cons] at fits ⊢
      have nextEq : significand * 10 + digitOf head =
          10 * significand + (head.toNat - '0'.toNat) := by
        rw [digitOf, Nat.mul_comm]
      have nextFits : ¬ significandLimit ≤ significand * 10 + digitOf head := by
        rw [nextEq]
        exact Nat.not_le.2 (Nat.lt_of_le_of_lt (le_ofDigitChars tail _) fits)
      rw [List.cons_append, readIntegerDigits, if_pos headDigit]
      dsimp only
      rw [if_neg nextFits, nextEq]
      exact inductionHypothesis tailDigits fits

theorem readMagnitude_toDigits (negative : Bool) {value : Nat} (fits : value < significandLimit) :
    readMagnitude negative (Nat.toDigits 10 value ++ rest) =
      .ok (wholeNumeral negative value, rest) := by
  obtain ⟨head, tail, digits, all, zero⟩ := toDigits_eq_cons value
  obtain ⟨headDigit, tailDigits⟩ := List.forall_mem_cons.1 all
  rw [digits, List.cons_append, readMagnitude]
  by_cases isZero : head = '0'
  · obtain ⟨rfl, rfl⟩ := zero isZero
    have notLonger : ¬ startsWithDigit rest = true := by
      simp [startsWithDigit_of_delimited delimited]
    rw [if_pos isZero, List.nil_append, if_neg notLonger]
    exact readIntegerEnd_of_delimited delimited negative 0
  · have wholeValue : Nat.ofDigitChars 10 tail (digitOf head) = value := by
      have read : Nat.ofDigitChars 10 (Nat.toDigits 10 value) 0 = value :=
        Nat.ofDigitChars_ten_toDigits
      rw [digits, Nat.ofDigitChars_cons, Nat.mul_zero, Nat.zero_add] at read
      exact read
    rw [if_neg isZero, if_pos headDigit,
      readIntegerDigits_append delimited negative tailDigits, wholeValue]
    rwa [wholeValue]

/-- Digits that are passed over, with a sign before them or not, end where the number does. -/
theorem skipNumber_toDigits (value : Nat) :
    skipNumber (Nat.toDigits 10 value ++ rest) = .ok rest ∧
      skipNumber ('-' :: (Nat.toDigits 10 value ++ rest)) = .ok rest := by
  obtain ⟨head, tail, digits, all, zero⟩ := toDigits_eq_cons value
  have notSign : head ≠ '-' := by
    rintro rfl
    exact absurd (all '-' List.mem_cons_self) (by decide)
  have dropped : dropDigits (head :: tail ++ rest) = rest := dropDigits_append delimited all
  have notLonger := startsWithDigit_of_delimited delimited
  have ended := skipNumberEnd_of_delimited delimited
  have starts : startsWithDigit (head :: (tail ++ rest)) = true := all head List.mem_cons_self
  rw [digits]
  by_cases isZero : head = '0'
  · obtain ⟨-, rfl⟩ := zero isZero
    subst isZero
    simp [skipNumber, notLonger, ended]
  · rw [List.cons_append] at dropped ⊢
    simp [skipNumber, notSign, isZero, starts, dropped, ended]

end Readers

/-! ## Whole numbers -/

theorem Integer.ofInt?_value (integer : Integer) : Integer.ofInt? integer.value = some integer := by
  rw [ofInt?, dif_pos integer.least_le, dif_pos integer.lt_limit]

theorem wholeNumeral_natAbs (integer : Integer) :
    wholeNumeral (decide (integer.value < 0)) integer.value.natAbs = .integer integer := by
  have value : (if decide (integer.value < 0) = true then -(integer.value.natAbs : Int)
      else integer.value.natAbs) = integer.value := by
    split
    · rename_i negative
      rw [decide_eq_true_eq] at negative
      omega
    · rename_i positive
      rw [decide_eq_true_eq] at positive
      omega
  have notMinusZero :
      ¬ (decide (integer.value < 0) && decide (integer.value.natAbs = 0)) = true := by
    rw [Bool.and_eq_true, decide_eq_true_eq, decide_eq_true_eq]
    omega
  rw [wholeNumeral, if_neg notMinusZero, value, integer.ofInt?_value]

theorem wholeText_append (value : Int) (rest : List Char) :
    (Number.wholeText value).toList ++ rest =
      if value < 0 then '-' :: (Nat.toDigits 10 value.natAbs ++ rest)
      else Nat.toDigits 10 value.natAbs ++ rest := by
  have digits : (Number.naturalText value.natAbs).toList = Nat.toDigits 10 value.natAbs :=
    String.toList_ofList
  unfold Number.wholeText
  split
  · rw [String.toList_append, digits]
    rfl
  · rw [digits]

/-- A written number starts with its sign or with a digit. -/
theorem wholeText_eq_cons (value : Int) :
    ∃ head tail, (Number.wholeText value).toList = head :: tail ∧
      (head = '-' ∨ head.isDigit = true) := by
  have written := wholeText_append value []
  rw [List.append_nil, List.append_nil] at written
  rw [written]
  split
  · exact ⟨'-', _, rfl, .inl rfl⟩
  · obtain ⟨head, tail, digits, all, -⟩ := toDigits_eq_cons value.natAbs
    exact ⟨head, tail, digits, .inr (all head List.mem_cons_self)⟩

theorem readNumber_wholeText (integer : Integer) {rest : List Char} (delimited : Delimited rest) :
    readNumber ((Number.wholeText integer.value).toList ++ rest) =
      .ok (.integer integer, rest) := by
  have fits : integer.value.natAbs < significandLimit := by
    have least := integer.least_le
    have limit := integer.lt_limit
    have signedLimit : Number.signedLimit = 0x8000000000000000 := by decide
    have wordLimit : Number.wordLimit = 0x10000000000000000 := by decide
    rw [significandLimit, wordLimit]
    rw [signedLimit] at least
    rw [wordLimit] at limit
    omega
  have numeral := wholeNumeral_natAbs integer
  rw [wholeText_append]
  split
  · rename_i negative
    rw [decide_eq_true negative] at numeral
    rw [readNumber, readMagnitude_toDigits delimited true fits, numeral]
  · rename_i positive
    rw [decide_eq_false positive] at numeral
    obtain ⟨head, tail, digits, all, -⟩ := toDigits_eq_cons integer.value.natAbs
    have unsigned : readNumber (Nat.toDigits 10 integer.value.natAbs ++ rest) =
        readMagnitude false (Nat.toDigits 10 integer.value.natAbs ++ rest) := by
      unfold readNumber
      split
      · rename_i signed
        rw [digits, List.cons_append] at signed
        obtain ⟨rfl, -⟩ := List.cons.inj signed
        exact absurd (all '-' List.mem_cons_self) (by decide)
      · rfl
    rw [unsigned, readMagnitude_toDigits delimited false fits, numeral]

theorem skipNumber_wholeText (value : Int) {rest : List Char} (delimited : Delimited rest) :
    skipNumber ((Number.wholeText value).toList ++ rest) = .ok rest := by
  rw [wholeText_append]
  split
  · exact (skipNumber_toDigits delimited value.natAbs).2
  · exact (skipNumber_toDigits delimited value.natAbs).1

end ComplianceEvidence.Json
