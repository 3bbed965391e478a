import Mathlib.Data.List.Forall2
import ComplianceEvidence.Finding.Status
import ComplianceEvidence.Proofs.Json.WrittenRecord

/-!
Contract: a decision is read up to the case of ASCII letters, and up to nothing else.

Owns: lower case and sameness of texts as far as ASCII letters go, told character by character; the
texts that spell a decision; a decision on its way through JSON; and the verdict at both ends.

Case is told by positions in the character table, without a function that changes it. So no other
letter folds into an ASCII one, and no blank is passed over.
-/

set_option autoImplicit false

namespace ComplianceEvidence

/-! ## The case of ASCII letters -/

namespace Text

/-- One of the ASCII letters in upper case. -/
def IsCapital (character : Char) : Prop :=
  'A'.toNat ≤ character.toNat ∧ character.toNat ≤ 'Z'.toNat

instance (character : Char) : Decidable (IsCapital character) :=
  inferInstanceAs (Decidable (_ ∧ _))

/-- A capital is lowered to the letter 32 places on. All other characters are kept. -/
inductive Lowers : Char → Char → Prop where
  | capital {character lowered : Char} (isCapital : IsCapital character)
      (shifted : lowered.toNat = character.toNat + 32) : Lowers character lowered
  | kept {character : Char} (notCapital : ¬ IsCapital character) : Lowers character character

/-- Characters that are the same, or an ASCII letter in both cases. -/
inductive SameLetter : Char → Char → Prop where
  | same (character : Char) : SameLetter character character
  | lowered {capital small : Char} (isCapital : IsCapital capital)
      (shifted : small.toNat = capital.toNat + 32) : SameLetter capital small
  | raised {capital small : Char} (isCapital : IsCapital capital)
      (shifted : small.toNat = capital.toNat + 32) : SameLetter small capital

/-- A text with its ASCII letters in lower case. -/
def LowersTo (text lowered : String) : Prop :=
  List.Forall₂ Lowers text.toList lowered.toList

def SameButCase (text other : String) : Prop :=
  List.Forall₂ SameLetter text.toList other.toList

theorem isCapital_iff {character : Char} :
    character.val ≥ 'A'.val ∧ character.val ≤ 'Z'.val ↔ IsCapital character := by
  rw [ge_iff_le, UInt32.le_iff_toNat_le, UInt32.le_iff_toNat_le]
  rfl

theorem toNat_toLower {character : Char} (isCapital : IsCapital character) :
    character.toLower.toNat = character.toNat + 32 := by
  have small : character.val.toNat + 32 < 2 ^ 32 :=
    Nat.lt_of_le_of_lt (Nat.add_le_add_right isCapital.2 32) (by decide)
  have shifted : character.toLower.val = character.val + 32 :=
    congrArg Char.val (dif_pos (isCapital_iff.2 isCapital))
  rw [← Char.toNat_val, shifted, UInt32.toNat_add]
  exact Nat.mod_eq_of_lt small

theorem toLower_of_not_isCapital {character : Char} (notCapital : ¬ IsCapital character) :
    character.toLower = character :=
  dif_neg fun inRange => notCapital (isCapital_iff.1 inRange)

theorem lowers_iff {character lowered : Char} :
    Lowers character lowered ↔ character.toLower = lowered := by
  constructor
  · intro lowers
    cases lowers with
    | capital isCapital shifted =>
        exact Char.toNat_inj.1 ((toNat_toLower isCapital).trans shifted.symm)
    | kept notCapital => exact toLower_of_not_isCapital notCapital
  · rintro rfl
    by_cases isCapital : IsCapital character
    · exact .capital isCapital (toNat_toLower isCapital)
    · rw [toLower_of_not_isCapital isCapital]
      exact .kept isCapital

/-- A small letter is no capital, so both cases of a letter are lowered to the same. -/
theorem toLower_eq_of_shifted {capital small : Char} (isCapital : IsCapital capital)
    (shifted : small.toNat = capital.toNat + 32) : capital.toLower = small.toLower := by
  have notCapital : ¬ IsCapital small := by
    rintro ⟨-, below⟩
    have above : 'A'.toNat + 32 ≤ small.toNat := shifted ▸ Nat.add_le_add_right isCapital.1 32
    exact absurd (Nat.le_trans above below) (by decide)
  rw [toLower_of_not_isCapital notCapital]
  exact lowers_iff.1 (.capital isCapital shifted)

theorem SameLetter.toLower_eq {character other : Char} (same : SameLetter character other) :
    character.toLower = other.toLower := by
  cases same with
  | same => rfl
  | lowered isCapital shifted => exact toLower_eq_of_shifted isCapital shifted
  | raised isCapital shifted => exact (toLower_eq_of_shifted isCapital shifted).symm

theorem forall₂_lowers_iff {text lowered : List Char} :
    List.Forall₂ Lowers text lowered ↔ text.map Char.toLower = lowered := by
  have pointwise : Lowers = fun character lowered => character.toLower = lowered := by
    funext character lowered
    exact propext lowers_iff
  rw [pointwise, ← List.forall₂_map_left_iff (R := Eq), List.forall₂_eq_eq_eq]

theorem map_toLower_eq_of_sameLetter {text other : List Char}
    (same : List.Forall₂ SameLetter text other) :
    text.map Char.toLower = other.map Char.toLower := by
  induction same with
  | nil => rfl
  | cons sameLetter _ inductionHypothesis =>
      rw [List.map_cons, List.map_cons, sameLetter.toLower_eq, inductionHypothesis]

end Text

/-! ## Spellings -/

namespace Decision

open Text (LowersTo SameButCase)

/-- The texts in lower case that spell a decision. None spells the unknown one. -/
inductive Spells : String → Decision → Prop where
  | passed : Spells "passed" .passed
  | success : Spells "success" .passed
  | failed : Spells "failed" .failed
  | failure : Spells "failure" .failed
  | notRun : Spells "not-run" .notRun
  | notApplicable : Spells "not-applicable" .notApplicable

theorem lowersTo_iff {text spelling : String} :
    LowersTo text spelling ↔ lowered text = spelling := by
  rw [LowersTo, Text.forall₂_lowers_iff, ← String.toList_inj, lowered, String.toList_ofList]

theorem lowered_eq_of_sameButCase {text other : String} (same : SameButCase text other) :
    lowered text = lowered other := by
  rw [lowered, lowered, Text.map_toLower_eq_of_sameLetter same]

theorem Spells.ne_unknown {spelling : String} {decision : Decision}
    (spells : Spells spelling decision) : decision ≠ .unknown := by
  cases spells <;> decide

theorem spells_of_mem {entry : String × Decision} (member : entry ∈ spellings) :
    Spells entry.1 entry.2 := by
  simp only [spellings, List.mem_cons, List.not_mem_nil, or_false] at member
  rcases member with rfl | rfl | rfl | rfl | rfl | rfl
  · exact .passed
  · exact .success
  · exact .failed
  · exact .failure
  · exact .notRun
  · exact .notApplicable

theorem ofText_of_spells {text spelling : String} {decision : Decision}
    (isSpelling : lowered text = spelling) (spells : Spells spelling decision) :
    ofText text = decision := by
  rw [ofText, isSpelling]
  cases spells <;> decide

theorem ofText_eq_unknown_or_spells (text : String) :
    ofText text = .unknown ∨ Spells (lowered text) (ofText text) := by
  cases found : spellings.find? fun spelling => spelling.1 = lowered text with
  | none =>
      left
      rw [ofText, found]
      rfl
  | some entry =>
      right
      have holds := List.find?_some found
      have isSpelling : entry.1 = lowered text := of_decide_eq_true holds
      have spells := spells_of_mem (List.mem_of_find?_eq_some found)
      rw [ofText, found]
      rwa [isSpelling] at spells

/-- A text is read as a known decision exactly if its lower case spells that decision. -/
theorem ofText_eq_known_iff {text : String} {decision : Decision} :
    ofText text = decision ∧ decision ≠ .unknown ↔
      ∃ spelling, Spells spelling decision ∧ LowersTo text spelling := by
  simp only [lowersTo_iff]
  constructor
  · rintro ⟨rfl, known⟩
    have spells := (ofText_eq_unknown_or_spells text).resolve_left known
    exact ⟨lowered text, spells, rfl⟩
  · rintro ⟨spelling, spells, isSpelling⟩
    exact ⟨ofText_of_spells isSpelling spells, spells.ne_unknown⟩

theorem ofText_eq_unknown_iff {text : String} :
    ofText text = .unknown ↔
      ∀ spelling decision, Spells spelling decision → ¬ LowersTo text spelling := by
  constructor
  · intro unknown spelling decision spells lowers
    obtain ⟨isDecision, known⟩ := ofText_eq_known_iff.2 ⟨spelling, spells, lowers⟩
    exact known (isDecision ▸ unknown)
  · intro foreign
    by_contra known
    obtain ⟨spelling, spells, lowers⟩ := ofText_eq_known_iff.1 ⟨rfl, known⟩
    exact foreign spelling _ spells lowers

/-! ## Decisions in JSON -/

/-- A text of any content is read as the decision that the content spells. -/
theorem readDocument_text (content : String) :
    Json.readDocument read (Json.Value.text content).render = .ok (ofText content) := by
  have exact : (Json.Value.text content).Exact := trivial
  apply Json.readDocument_render exact
  rw [read, Json.readString_node]
  rfl

theorem readDocument_toJson (decision : Decision) :
    Json.readDocument read decision.toJson.render = .ok decision := by
  rw [toJson, readDocument_text, ofText_text]

end Decision

/-! ## Verdicts -/

theorem Verdict.ofDecision_eq_unknown_iff {decision : Decision} :
    ofDecision decision = .unknown ↔ decision = .unknown := by
  cases decision <;> decide

namespace Decision

open Text (LowersTo SameButCase)

/-- A text is read as a known decision exactly if ASCII lower case makes it one of the spellings of
that decision, so texts that differ in nothing but ASCII case are read alike. What was read is
written and read again as it was, and has the verdict of the text. The verdict is unknown exactly
where the text spells nothing. -/
theorem ofText_up_to_case (text : String) :
    (∀ decision, ofText text = decision ∧ decision ≠ .unknown ↔
        ∃ spelling, Spells spelling decision ∧ LowersTo text spelling) ∧
      (∀ other, SameButCase text other → ofText text = ofText other) ∧
      Json.readDocument read (Json.Value.text text).render = .ok (ofText text) ∧
      Json.readDocument read (ofText text).toJson.render = .ok (ofText text) ∧
      Verdict.ofDecision (ofText text) = Verdict.ofSpelling text ∧
      Verdict.ofSpelling (ofText text).text = Verdict.ofSpelling text ∧
      (Verdict.ofSpelling text = .unknown ↔
        ∀ spelling decision, Spells spelling decision → ¬ LowersTo text spelling) := by
  refine ⟨fun _ => ofText_eq_known_iff, ?_, readDocument_text text,
    readDocument_toJson (ofText text), rfl, ?_, ?_⟩
  · intro other same
    rw [ofText, ofText, lowered_eq_of_sameButCase same]
  · rw [Verdict.ofSpelling, Verdict.ofSpelling, ofText_text]
  · rw [← ofText_eq_unknown_iff]
    exact Verdict.ofDecision_eq_unknown_iff

theorem ofText_recased :
    SameButCase "Failure" "faiLure" ∧ ofText "Failure" = ofText "faiLure" ∧
      ofText "Failure" = .failed ∧
      Verdict.ofSpelling "failed" = Verdict.ofSpelling "Failure" ∧
      Verdict.ofSpelling "Failure" ≠ .unknown := by
  have same : SameButCase "Failure" "faiLure" :=
    .cons (.lowered (by decide) rfl) <| .cons (.same 'a') <| .cons (.same 'i') <|
      .cons (.raised (by decide) rfl) <| .cons (.same 'u') <| .cons (.same 'r') <|
        .cons (.same 'e') .nil
  have lowers : LowersTo "Failure" "failure" := Text.forall₂_lowers_iff.2 rfl
  obtain ⟨known, recased, -, -, -, sameVerdict, unknown⟩ := ofText_up_to_case "Failure"
  have isFailed : ofText "Failure" = .failed :=
    ((known .failed).2 ⟨"failure", .failure, lowers⟩).1
  refine ⟨same, recased "faiLure" same, isFailed, ?_, ?_⟩
  · rw [isFailed] at sameVerdict
    exact sameVerdict
  · intro isUnknown
    exact unknown.1 isUnknown "failure" .failed .failure lowers

/-- A blank is not passed over, and the long s is no letter of ASCII. -/
example : ofText " passed" = .unknown ∧ ofText "pas\u017fed" = .unknown := by
  decide

end Decision

end ComplianceEvidence
