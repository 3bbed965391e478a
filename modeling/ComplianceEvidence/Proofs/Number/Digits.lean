import ComplianceEvidence.Number.Power

/-!
Contract: digits in base ten and the numbers that they stand for.

Owns: the first digit of a written number, and the bounds of the number that digits stand for.
-/

set_option autoImplicit false

namespace ComplianceEvidence.Number

/-- Only the number zero starts with a zero, and it has no other digit. -/
theorem tail_eq_nil_of_zero {value : Nat} {tail : List Char}
    (digits : Nat.toDigits 10 value = '0' :: tail) : value = 0 ∧ tail = [] := by
  induction value using Nat.strongRecOn generalizing tail with
  | ind value inductionHypothesis =>
      by_cases small : value < 10
      · rw [Nat.toDigits_of_lt_base small] at digits
        obtain ⟨zero, rfl⟩ := List.cons.inj digits
        have onlyZero : ∀ digit < 10, Nat.digitChar digit = '0' → digit = 0 := by decide
        exact ⟨onlyZero value small zero, rfl⟩
      · have large : 10 ≤ value := Nat.le_of_not_lt small
        obtain ⟨head, front, quotientDigits⟩ :=
          List.exists_cons_of_ne_nil (Nat.toDigits_ne_nil : Nat.toDigits 10 (value / 10) ≠ [])
        rw [Nat.toDigits_of_base_le (by decide) large, quotientDigits] at digits
        obtain ⟨rfl, -⟩ := List.cons.inj digits
        have quotient := (inductionHypothesis (value / 10) (by omega) quotientDigits).1
        omega

/-- A written number is one digit or more. -/
theorem toDigits_eq_cons (value : Nat) :
    ∃ head tail, Nat.toDigits 10 value = head :: tail ∧
      (∀ character ∈ head :: tail, character.isDigit = true) ∧
      (head = '0' → value = 0 ∧ tail = []) := by
  obtain ⟨head, tail, digits⟩ :=
    List.exists_cons_of_ne_nil (Nat.toDigits_ne_nil : Nat.toDigits 10 value ≠ [])
  refine ⟨head, tail, digits, ?_, ?_⟩
  · intro character member
    rw [← digits] at member
    exact Nat.isDigit_of_mem_toDigits (by decide) (by decide) member
  · rintro rfl
    exact tail_eq_nil_of_zero digits

theorem le_ofDigitChars (digits : List Char) (start : Nat) :
    start ≤ Nat.ofDigitChars 10 digits start := by
  rw [Nat.ofDigitChars_eq_ofDigitChars_zero]
  have power : 1 ≤ 10 ^ digits.length := Nat.one_le_pow _ _ (by decide)
  calc
    start = 1 * start := (Nat.one_mul start).symm
    _ ≤ 10 ^ digits.length * start := Nat.mul_le_mul_right start power
    _ ≤ 10 ^ digits.length * start + Nat.ofDigitChars 10 digits 0 := Nat.le_add_right _ _

theorem digit_le_nine {digit : Char} (isDigit : digit.isDigit = true) :
    digit.toNat - '0'.toNat ≤ 9 := by
  have upper : digit.toNat ≤ '9'.toNat := by
    rw [Char.isDigit, Bool.and_eq_true, decide_eq_true_iff] at isDigit
    exact of_decide_eq_true isDigit.2
  have nine : '9'.toNat = '0'.toNat + 9 := by decide
  omega

/-- Digits stand for a number below the power of ten that has one more of them. -/
theorem ofDigitChars_lt {digits : List Char}
    (all : ∀ character ∈ digits, character.isDigit = true) :
    Nat.ofDigitChars 10 digits 0 < tenTo digits.length := by
  show _ < 10 ^ digits.length
  induction digits with
  | nil => decide
  | cons head tail inductionHypothesis =>
      obtain ⟨headDigit, tailDigits⟩ := List.forall_mem_cons.1 all
      have small := digit_le_nine headDigit
      have rest := inductionHypothesis tailDigits
      rw [Nat.ofDigitChars_cons, Nat.mul_zero, Nat.zero_add, Nat.ofDigitChars_eq_ofDigitChars_zero,
        List.length_cons, Nat.pow_succ]
      calc
        10 ^ tail.length * (head.toNat - '0'.toNat) + Nat.ofDigitChars 10 tail 0 <
            10 ^ tail.length * 9 + 10 ^ tail.length :=
          Nat.add_lt_add_of_le_of_lt (Nat.mul_le_mul_left _ small) rest
        _ = 10 ^ tail.length * 10 := by omega

end ComplianceEvidence.Number
