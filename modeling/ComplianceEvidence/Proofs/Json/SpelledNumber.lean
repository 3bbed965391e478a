import ComplianceEvidence.Proofs.Json.Grammar
import ComplianceEvidence.Proofs.Json.WrittenNumber

/-!
Contract: a number of the grammar is read to its end, and what is made of it does not depend on
what follows.

Owns: the way of the number reader through the digits before the point, the digits behind it and
the exponent; the end of a number that is passed over; and the fact that a number of the grammar
has a value unless it is out of range.
-/

set_option autoImplicit false

namespace ComplianceEvidence.Json

/-- A reader makes one number of a text, or finds it out of range, in front of any text that does
not go on with a number. -/
def Settles (read : List Char → Except Fault (Numeral × List Char)) (text : List Char) : Prop :=
  (∃ numeral, ∀ rest, Delimited rest → read (text ++ rest) = .ok (numeral, rest)) ∨
  (∀ rest, Delimited rest → ∃ place, read (text ++ rest) = .error ⟨.numberTooLarge, place⟩)

theorem Settles.of_eq {read other : List Char → Except Fault (Numeral × List Char)}
    {text otherText : List Char} (settles : Settles other otherText)
    (same : ∀ rest, Delimited rest → read (text ++ rest) = other (otherText ++ rest)) :
    Settles read text := by
  rcases settles with ⟨numeral, reads⟩ | tooLarge
  · refine .inl ⟨numeral, ?_⟩
    intro rest delimited
    rw [same rest delimited, reads rest delimited]
  · refine .inr ?_
    intro rest delimited
    rw [same rest delimited]
    exact tooLarge rest delimited

/-! ## Places where no digit follows -/

theorem dropDigits_of_notDigit {text : List Char} (notDigit : startsWithDigit text = false) :
    dropDigits text = text := by
  cases text with
  | nil => rfl
  | cons head tail => exact List.dropWhile_cons_of_neg (by simpa [startsWithDigit] using notDigit)

theorem dropDigits_digits {digits text : List Char} (all : AllDigits digits)
    (notDigit : startsWithDigit text = false) : dropDigits (digits ++ text) = text := by
  rw [dropDigits, List.dropWhile_append_of_pos all]
  exact dropDigits_of_notDigit notDigit

theorem startsWithDigit_exponent {exponent rest : List Char} (isExponent : IsExponent exponent)
    (delimited : Delimited rest) : startsWithDigit (exponent ++ rest) = false := by
  cases isExponent with
  | none => exact startsWithDigit_of_delimited delimited
  | some isMark isSign notEmpty all =>
      rcases isMark with rfl | rfl
      · rfl
      · rfl

theorem startsWithDigit_fraction {fraction exponent rest : List Char}
    (isFraction : IsFraction fraction) (isExponent : IsExponent exponent)
    (delimited : Delimited rest) : startsWithDigit (fraction ++ (exponent ++ rest)) = false := by
  cases isFraction with
  | none =>
      rw [List.nil_append]
      exact startsWithDigit_exponent isExponent delimited
  | some notEmpty all => rfl

/-! ## The exponent -/

section Exponent

variable (negative : Bool) (significand : Nat)

theorem settles_finishDouble (exponent : Int) :
    Settles (finishDouble negative significand exponent) [] := by
  unfold Settles finishDouble
  cases scale (Binary64.ofNat significand) exponent with
  | none => exact .inr fun rest _ => ⟨before rest, rfl⟩
  | some magnitude => exact .inl ⟨_, fun rest _ => rfl⟩

theorem settles_readExponentDigits (start : Int) (falling : Bool) {digits : List Char}
    (all : AllDigits digits) (exponent : Nat) :
    Settles (readExponentDigits negative significand start falling exponent) digits := by
  induction digits generalizing exponent with
  | nil =>
      apply (settles_finishDouble negative significand
        (if falling then start - exponent else start + exponent)).of_eq
      intro rest delimited
      cases rest with
      | nil => rfl
      | cons head tail =>
          have notDigit : ¬ head.isDigit = true := by simp [(delimited head tail rfl).1]
          rw [List.nil_append, readExponentDigits, if_neg notDigit]
  | cons head tail inductionHypothesis =>
      obtain ⟨headDigit, tailDigits⟩ := List.forall_mem_cons.1 all
      have step (rest : List Char) :
          readExponentDigits negative significand start falling exponent (head :: tail ++ rest) =
            if exponentLimit ≤ exponent * 10 + digitOf head then
              if significand ≠ 0 && !falling then .error ⟨.numberTooLarge, before (tail ++ rest)⟩
              else .ok (.double (Binary64.ofMagnitudeBits negative 0), dropDigits (tail ++ rest))
            else readExponentDigits negative significand start falling
              (exponent * 10 + digitOf head) (tail ++ rest) := by
        rw [List.cons_append, readExponentDigits, if_pos headDigit]
      by_cases full : exponentLimit ≤ exponent * 10 + digitOf head
      · by_cases tooLarge : (significand ≠ 0 && !falling) = true
        · refine .inr fun rest _ => ⟨before (tail ++ rest), ?_⟩
          rw [step, if_pos full, if_pos tooLarge]
        · refine .inl ⟨.double (Binary64.ofMagnitudeBits negative 0), fun rest delimited => ?_⟩
          rw [step, if_pos full, if_neg tooLarge,
            dropDigits_digits tailDigits (startsWithDigit_of_delimited delimited)]
      · apply (inductionHypothesis tailDigits (exponent * 10 + digitOf head)).of_eq
        intro rest _
        rw [step, if_neg full]

theorem settles_readExponent (start : Int) {sign digits : List Char}
    (isSign : sign = [] ∨ sign = ['+'] ∨ sign = ['-']) (notEmpty : digits ≠ [])
    (all : AllDigits digits) :
    Settles (readExponent negative significand start) (sign ++ digits) := by
  obtain ⟨head, tail, rfl⟩ := List.exists_cons_of_ne_nil notEmpty
  obtain ⟨headDigit, tailDigits⟩ := List.forall_mem_cons.1 all
  have notPlus : head ≠ '+' := by
    rintro rfl
    cases headDigit
  have notMinus : head ≠ '-' := by
    rintro rfl
    cases headDigit
  apply (settles_readExponentDigits negative significand start (decide (sign = ['-'])) tailDigits
    (digitOf head)).of_eq
  intro rest _
  rcases isSign with rfl | rfl | rfl <;> simp [readExponent, headDigit, notPlus, notMinus]

theorem settles_readDoubleEnd (start : Int) {exponent : List Char}
    (isExponent : IsExponent exponent) :
    Settles (readDoubleEnd negative significand start) exponent := by
  cases isExponent with
  | none =>
      apply (settles_finishDouble negative significand start).of_eq
      intro rest delimited
      rw [List.nil_append]
      unfold readDoubleEnd
      split
      · exact absurd rfl (delimited _ _ rfl).2.2.1
      · exact absurd rfl (delimited _ _ rfl).2.2.2
      · rfl
  | some isMark isSign notEmpty all =>
      apply (settles_readExponent negative significand start isSign notEmpty all).of_eq
      intro rest _
      rcases isMark with rfl | rfl
      · rfl
      · rfl

end Exponent

/-! ## The digits behind the point -/

section Fraction

variable (negative : Bool)

theorem readFraction_of_notDigit {significand count : Nat} {exponent : Int} {text : List Char}
    (notDigit : startsWithDigit text = false) (some : count ≠ 0) :
    readFraction negative significand exponent count text =
      readDoubleEnd negative significand (exponent - count) text := by
  cases text with
  | nil =>
      rw [readFraction, if_neg some]
      rfl
  | cons head tail =>
      have headNot : ¬ head.isDigit = true := by simpa [startsWithDigit] using notDigit
      rw [readFraction, if_neg headNot, if_neg some]

theorem settles_readFraction {digits exponent : List Char} (all : AllDigits digits)
    (isExponent : IsExponent exponent) (start : Int) (significand count : Nat)
    (some : digits ≠ [] ∨ count ≠ 0) :
    Settles (readFraction negative significand start count) (digits ++ exponent) := by
  induction digits generalizing significand count with
  | nil =>
      have counted : count ≠ 0 := some.resolve_left fun notEmpty => notEmpty rfl
      apply (settles_readDoubleEnd negative significand (start - count) isExponent).of_eq
      intro rest delimited
      exact readFraction_of_notDigit negative (startsWithDigit_exponent isExponent delimited)
        counted
  | cons head tail inductionHypothesis =>
      obtain ⟨headDigit, tailDigits⟩ := List.forall_mem_cons.1 all
      by_cases full : significandLimit ≤ significand * 10 + digitOf head
      · apply (settles_readDoubleEnd negative significand (start - count) isExponent).of_eq
        intro rest delimited
        rw [List.cons_append, List.cons_append, readFraction, if_pos headDigit]
        dsimp only
        rw [if_pos full, List.append_assoc,
          dropDigits_digits tailDigits (startsWithDigit_exponent isExponent delimited)]
      · apply (inductionHypothesis tailDigits (significand * 10 + digitOf head) (count + 1)
          (.inr (Nat.succ_ne_zero count))).of_eq
        intro rest _
        rw [List.cons_append, List.cons_append, readFraction, if_pos headDigit]
        dsimp only
        rw [if_neg full]

end Fraction

/-! ## The digits before the point -/

section Whole

variable (negative : Bool) {fraction exponent : List Char} (isFraction : IsFraction fraction)
  (isExponent : IsExponent exponent)
include isFraction isExponent

theorem settles_readIntegerEnd (significand : Nat) :
    Settles (readIntegerEnd negative significand) (fraction ++ exponent) := by
  cases isFraction with
  | none =>
      cases isExponent with
      | none =>
          refine .inl ⟨wholeNumeral negative significand, fun rest delimited => ?_⟩
          exact readIntegerEnd_of_delimited delimited negative significand
      | some isMark isSign notEmpty all =>
          apply (settles_readExponent negative significand 0 isSign notEmpty all).of_eq
          intro rest _
          rcases isMark with rfl | rfl
          · rfl
          · rfl
  | some notEmpty all =>
      apply (settles_readFraction negative all isExponent 0 significand 0 (.inl notEmpty)).of_eq
      intro rest _
      rfl

theorem settles_readLongInteger {digits : List Char} (all : AllDigits digits)
    (significand count : Nat) :
    Settles (readLongInteger negative significand count) (digits ++ (fraction ++ exponent)) := by
  induction digits generalizing count with
  | nil =>
      cases isFraction with
      | none =>
          apply (settles_readDoubleEnd negative significand count isExponent).of_eq
          intro rest delimited
          simp only [List.nil_append]
          cases isExponent with
          | none =>
              cases rest with
              | nil => rfl
              | cons head tail =>
                  obtain ⟨headNot, notPoint, -⟩ := delimited head tail rfl
                  simp [readLongInteger, headNot, notPoint]
          | some isMark isSign notEmpty all =>
              rcases isMark with rfl | rfl
              · rfl
              · rfl
      | some notEmpty all =>
          apply (settles_readFraction negative all isExponent count significand 0
            (.inl notEmpty)).of_eq
          intro rest _
          rfl
  | cons head tail inductionHypothesis =>
      obtain ⟨headDigit, tailDigits⟩ := List.forall_mem_cons.1 all
      apply (inductionHypothesis tailDigits (count + 1)).of_eq
      intro rest _
      rw [List.cons_append, List.cons_append, readLongInteger, if_pos headDigit]

theorem settles_readIntegerDigits {digits : List Char} (all : AllDigits digits)
    (significand : Nat) :
    Settles (readIntegerDigits negative significand) (digits ++ (fraction ++ exponent)) := by
  induction digits generalizing significand with
  | nil =>
      apply (settles_readIntegerEnd negative isFraction isExponent significand).of_eq
      intro rest delimited
      have notDigit := startsWithDigit_fraction isFraction isExponent delimited
      rw [List.nil_append, List.append_assoc]
      cases equal : fraction ++ (exponent ++ rest) with
      | nil => rfl
      | cons head tail =>
          have headNot : ¬ head.isDigit = true := by simpa [equal, startsWithDigit] using notDigit
          rw [readIntegerDigits, if_neg headNot]
  | cons head tail inductionHypothesis =>
      obtain ⟨headDigit, tailDigits⟩ := List.forall_mem_cons.1 all
      by_cases full : significandLimit ≤ significand * 10 + digitOf head
      · apply (settles_readLongInteger negative isFraction isExponent all significand 0).of_eq
        intro rest _
        rw [List.cons_append, List.cons_append, readIntegerDigits, if_pos headDigit]
        dsimp only
        rw [if_pos full]
      · apply (inductionHypothesis tailDigits (significand * 10 + digitOf head)).of_eq
        intro rest _
        rw [List.cons_append, List.cons_append, readIntegerDigits, if_pos headDigit]
        dsimp only
        rw [if_neg full]

theorem settles_readMagnitude {whole : List Char} (isWhole : IsWhole whole) :
    Settles (readMagnitude negative) (whole ++ (fraction ++ exponent)) := by
  cases isWhole with
  | zero =>
      apply (settles_readIntegerEnd negative isFraction isExponent 0).of_eq
      intro rest delimited
      have notDigit := startsWithDigit_fraction isFraction isExponent delimited
      simp only [List.append_assoc, List.cons_append, List.nil_append]
      rw [readMagnitude, if_pos rfl, notDigit]
      rfl
  | @digits head tail isDigit notZero more =>
      apply (settles_readIntegerDigits negative isFraction isExponent more (digitOf head)).of_eq
      intro rest _
      rw [List.cons_append, List.cons_append, readMagnitude, if_neg notZero, if_pos isDigit]

end Whole

/-! ## Numbers that are passed over -/

theorem skipExponent_digits {sign digits text : List Char}
    (isSign : sign = [] ∨ sign = ['+'] ∨ sign = ['-']) (notEmpty : digits ≠ [])
    (all : AllDigits digits) (notDigit : startsWithDigit text = false) :
    skipExponent (sign ++ (digits ++ text)) = .ok text := by
  obtain ⟨head, tail, rfl⟩ := List.exists_cons_of_ne_nil notEmpty
  have headDigit : head.isDigit = true := all head List.mem_cons_self
  have notPlus : head ≠ '+' := by
    rintro rfl
    cases headDigit
  have notMinus : head ≠ '-' := by
    rintro rfl
    cases headDigit
  have dropped := dropDigits_digits all notDigit
  rw [List.cons_append] at dropped
  rcases isSign with rfl | rfl | rfl <;>
    simp [skipExponent, startsWithDigit, headDigit, notPlus, notMinus, dropped]

theorem skipNumberEnd_append {fraction exponent rest : List Char}
    (isFraction : IsFraction fraction) (isExponent : IsExponent exponent)
    (delimited : Delimited rest) :
    skipNumberEnd (fraction ++ (exponent ++ rest)) = .ok rest := by
  have ended := startsWithDigit_of_delimited delimited
  cases isFraction with
  | none =>
      cases isExponent with
      | none => exact skipNumberEnd_of_delimited delimited
      | some isMark isSign notEmpty all =>
          have skipped := skipExponent_digits isSign notEmpty all ended
          rcases isMark with rfl | rfl <;> simpa [skipNumberEnd] using skipped
  | @some digits notEmpty all =>
      obtain ⟨head, tail, rfl⟩ := List.exists_cons_of_ne_nil notEmpty
      have headDigit : head.isDigit = true := all head List.mem_cons_self
      have dropped := dropDigits_digits all (startsWithDigit_exponent isExponent delimited)
      rw [List.cons_append] at dropped
      rw [List.cons_append, List.cons_append, skipNumberEnd, startsWithDigit, if_pos headDigit,
        dropped]
      cases isExponent with
      | none =>
          rw [List.nil_append]
          split
          · exact absurd rfl (delimited _ _ rfl).2.2.1
          · exact absurd rfl (delimited _ _ rfl).2.2.2
          · rfl
      | some isMark isSign notEmpty all =>
          have skipped := skipExponent_digits isSign notEmpty all ended
          rcases isMark with rfl | rfl <;> simpa using skipped

/-! ## Numbers -/

namespace IsNumber

variable {text : List Char} (isNumber : IsNumber text)
include isNumber

/-- A number starts with its sign or with a digit. -/
theorem eq_cons : ∃ head tail, text = head :: tail ∧ (head = '-' ∨ head.isDigit = true) := by
  obtain ⟨sign, whole, fraction, exponent, isSign, isWhole, -, -, rfl⟩ := isNumber
  rcases isSign with rfl | rfl
  · cases isWhole with
    | zero => exact ⟨'0', _, rfl, .inr rfl⟩
    | digits isDigit notZero more => exact ⟨_, _, rfl, .inr isDigit⟩
  · exact ⟨'-', _, rfl, .inl rfl⟩

theorem settles : Settles readNumber text := by
  obtain ⟨sign, whole, fraction, exponent, isSign, isWhole, isFraction, isExponent, rfl⟩ := isNumber
  rcases isSign with rfl | rfl
  · apply (settles_readMagnitude false isFraction isExponent isWhole).of_eq
    intro rest _
    rw [List.nil_append, readNumber]
    intro other signed
    cases isWhole with
    | zero => cases signed
    | digits isDigit notZero more =>
        obtain ⟨rfl, -⟩ := List.cons.inj signed
        cases isDigit
  · apply (settles_readMagnitude true isFraction isExponent isWhole).of_eq
    intro rest _
    rfl

theorem skipNumber_append {rest : List Char} (delimited : Delimited rest) :
    skipNumber (text ++ rest) = .ok rest := by
  obtain ⟨sign, whole, fraction, exponent, isSign, isWhole, isFraction, isExponent, rfl⟩ := isNumber
  have ended := skipNumberEnd_append isFraction isExponent delimited
  have notDigit := startsWithDigit_fraction isFraction isExponent delimited
  cases isWhole with
  | zero => rcases isSign with rfl | rfl <;> simp [skipNumber, notDigit, ended]
  | @digits head tail isDigit notZero more =>
      have all : AllDigits (head :: tail) := List.forall_mem_cons.2 ⟨isDigit, more⟩
      have dropped := dropDigits_digits all notDigit
      rw [List.cons_append] at dropped
      have notSign : head ≠ '-' := by
        rintro rfl
        cases isDigit
      rcases isSign with rfl | rfl <;>
        simp [skipNumber, notZero, notSign, startsWithDigit, isDigit, dropped, ended]

end IsNumber

/-- What a number is read as does not depend on what follows. -/
theorem SpellsNumber.readNumber_append {numeral : Numeral} {text rest : List Char}
    (spelled : SpellsNumber numeral text) (delimited : Delimited rest) :
    readNumber (text ++ rest) = .ok (numeral, rest) := by
  obtain ⟨isNumber, read⟩ := spelled
  have alone : readNumber (text ++ []) = .ok (numeral, []) := by
    rwa [List.append_nil]
  rcases isNumber.settles with ⟨other, reads⟩ | tooLarge
  · rw [reads [] delimited_nil] at alone
    cases alone
    exact reads rest delimited
  · obtain ⟨place, failed⟩ := tooLarge [] delimited_nil
    rw [failed] at alone
    cases alone

end ComplianceEvidence.Json
