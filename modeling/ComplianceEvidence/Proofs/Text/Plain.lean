import ComplianceEvidence.Number.Layout
import ComplianceEvidence.Text.Quoted

/-!
Contract: texts without control characters.

Owns: the predicate, its laws along the parts of a text, and the texts that have it whatever they
are made of: written numbers and quoted texts.

Such a text is one line, and no byte of it is below 0x20.
-/

set_option autoImplicit false

namespace ComplianceEvidence

namespace Text

/-- A text in which every character comes after the controls. -/
def Plain (text : List Char) : Prop :=
  ∀ character ∈ text, 0x20 ≤ character.toNat

instance (text : List Char) : Decidable (Plain text) :=
  List.decidableBAll (fun character : Char => 0x20 ≤ character.toNat) text

@[simp] theorem plain_nil : Plain [] := by
  intro character member
  cases member

@[simp] theorem plain_cons {head : Char} {tail : List Char} :
    Plain (head :: tail) ↔ 0x20 ≤ head.toNat ∧ Plain tail := by
  simp [Plain]

@[simp] theorem plain_append {front back : List Char} :
    Plain (front ++ back) ↔ Plain front ∧ Plain back := by
  simp [Plain, or_imp, forall_and]

theorem Plain.of_subset {text part : List Char} (plain : Plain text) (subset : part ⊆ text) :
    Plain part := by
  intro character member
  exact plain character (subset member)

theorem Plain.flatMap {text : List Char} {spell : Char → List Char}
    (each : ∀ character, Plain (spell character)) : Plain (text.flatMap spell) := by
  intro character member
  obtain ⟨source, -, inSpelling⟩ := List.mem_flatMap.1 member
  exact each source character inSpelling

/-- A plain text is one line. -/
theorem Plain.lineFeed_not_mem {text : List Char} (plain : Plain text) : '\n' ∉ text := by
  intro member
  exact absurd (plain _ member) (by decide)

end Text

/-! ## Numbers -/

namespace Number

open Text (Plain)

theorem plain_digitChar (digit : Nat) : 0x20 ≤ (Nat.digitChar digit).toNat := by
  have digits : ∀ value < 16, 0x20 ≤ (Nat.digitChar value).toNat := by decide
  rcases Nat.lt_or_ge digit 16 with small | large
  · exact digits digit small
  · have star : Nat.digitChar digit = '*' := by
      unfold Nat.digitChar
      repeat rw [if_neg (by omega)]
    rw [star]
    decide

theorem plain_toDigitsCore (base fuel value : Nat) {digits : List Char} (plain : Plain digits) :
    Plain (Nat.toDigitsCore base fuel value digits) := by
  induction fuel generalizing value digits with
  | zero => exact plain
  | succ fuel inductionHypothesis =>
      have extended : Plain (Nat.digitChar (value % base) :: digits) :=
        Text.plain_cons.2 ⟨plain_digitChar _, plain⟩
      unfold Nat.toDigitsCore
      dsimp only
      split
      · exact extended
      · exact inductionHypothesis _ extended

theorem plain_toDigits (base value : Nat) : Plain (Nat.toDigits base value) :=
  plain_toDigitsCore base _ value Text.plain_nil

theorem plain_naturalText (value : Nat) : Plain (naturalText value).toList := by
  rw [naturalText, String.toList_ofList]
  exact plain_toDigits 10 value

theorem plain_wholeText (value : Int) : Plain (wholeText value).toList := by
  unfold wholeText
  split
  · rw [String.toList_append, Text.plain_append]
    exact ⟨by decide, plain_naturalText _⟩
  · exact plain_naturalText _

theorem plain_zeros (count : Nat) : Plain (zeros count).toList := by
  rw [zeros, String.toList_ofList]
  intro character member
  rw [List.eq_of_mem_replicate member]
  decide

section Double

variable {digits : List Char} {place : Int}

theorem plain_positional (plain : Plain digits) : Plain (positional digits place).toList := by
  have front := plain.of_subset (List.take_subset place.toNat digits)
  have back := plain.of_subset (List.drop_subset place.toNat digits)
  unfold positional
  repeat' split
  · simp [plain_zeros, plain]
  · simp [plain_zeros, plain]
  · simp [front, back]

theorem plain_scientific (plain : Plain digits) : Plain (scientific digits place).toList := by
  have first := plain.of_subset (List.take_subset 1 digits)
  have more := plain.of_subset (List.drop_subset 1 digits)
  unfold scientific
  simp only [String.toList_append, String.toList_ofList, Text.plain_append]
  refine ⟨⟨⟨⟨first, ?_⟩, by decide⟩, ?_⟩, plain_naturalText _⟩
  · split
    · decide
    · have written : Plain (String.ofList (digits.drop 1)).toList := by
        rwa [String.toList_ofList]
      rw [String.toList_append, Text.plain_append]
      exact ⟨by decide, written⟩
  · split
    · decide
    · decide

end Double

theorem plain_doubleText (spelling : Spelling) (value : Binary64) :
    Plain (doubleText spelling value).toList := by
  have sign : Plain (if value.isNegative then "-" else "").toList := by
    split
    · decide
    · decide
  have digits := plain_toDigits 10 (Decimal.shortest value.magnitude).digits
  unfold doubleText
  dsimp only
  split
  · rw [String.toList_append, Text.plain_append]
    exact ⟨sign, by decide⟩
  · rw [String.toList_append, Text.plain_append]
    refine ⟨sign, ?_⟩
    split
    · exact plain_positional digits
    · exact plain_scientific digits

end Number

/-! ## Quoted texts -/

namespace Text

theorem plain_quotedCharacter (character : Char) : Plain (quotedCharacter character) := by
  unfold quotedCharacter
  repeat' split
  case isFalse.isFalse.isFalse.isFalse.isFalse.isFalse.isTrue =>
    rw [plain_append, plain_append]
    exact ⟨⟨by decide, Number.plain_toDigits 16 _⟩, by decide⟩
  case isFalse.isFalse.isFalse.isFalse.isFalse.isFalse.isFalse shown =>
    rw [isUnprintable, Bool.or_eq_true, not_or, decide_eq_true_eq] at shown
    rw [plain_cons]
    exact ⟨by omega, plain_nil⟩
  all_goals decide

theorem plain_quoted (text : String) : Plain (quoted text).toList := by
  rw [quoted_toList, plain_append, plain_cons]
  exact ⟨⟨by decide, Plain.flatMap plain_quotedCharacter⟩, by decide⟩

end Text

end ComplianceEvidence
