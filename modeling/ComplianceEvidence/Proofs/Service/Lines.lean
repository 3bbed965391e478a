import ComplianceEvidence.Proofs.Text.Encoding
import ComplianceEvidence.Service.Stream

/-!
Contract: the lines of a stream and the three kinds of them, told without a scan.

Owns: the relation between bytes and their lines, and what makes a line blank or a record. Every
other line is rejected.
-/

set_option autoImplicit false

namespace ComplianceEvidence.Stream

open Text.Utf8 (encode)

/-- The cut of bytes into lines: each line ends with its only line feed, except that what stands
behind the last line feed is a line too, unless it is empty. -/
inductive Cut : List UInt8 → List (List UInt8) → Prop where
  | empty : Cut [] []
  | unended {line : List UInt8} (notEmpty : line ≠ []) (free : lineFeed ∉ line) : Cut line [line]
  | ended {line more : List UInt8} {pieces : List (List UInt8)} (free : lineFeed ∉ line)
      (rest : Cut more pieces) :
      Cut (line ++ lineFeed :: more) ((line ++ [lineFeed]) :: pieces)

theorem cut_cutLines (bytes : List UInt8) {reversed : List UInt8} (free : lineFeed ∉ reversed) :
    Cut (reversed.reverse ++ bytes) (cutLines reversed bytes) := by
  induction bytes generalizing reversed with
  | nil =>
      rw [cutLines, List.append_nil]
      split
      · rename_i empty
        rw [List.isEmpty_iff.1 empty]
        exact .empty
      · rename_i notEmpty
        apply Cut.unended
        · intro reverseEmpty
          exact notEmpty (List.isEmpty_iff.2 (List.reverse_eq_nil_iff.1 reverseEmpty))
        · rwa [List.mem_reverse]
  | cons byte rest inductionHypothesis =>
      rw [cutLines]
      split
      · rename_i feed
        rw [feed, List.reverse_cons]
        apply Cut.ended
        · rwa [List.mem_reverse]
        · exact inductionHypothesis List.not_mem_nil
      · rename_i notFeed
        have extended : lineFeed ∉ byte :: reversed := by
          rw [List.mem_cons, not_or]
          exact ⟨Ne.symm notFeed, free⟩
        have cut := inductionHypothesis extended
        rwa [List.reverse_cons, List.append_assoc, List.singleton_append] at cut

/-- The scan keeps what has no line feed for the line that it is on. -/
theorem cutLines_append {line : List UInt8} (free : lineFeed ∉ line) (reversed rest : List UInt8) :
    cutLines reversed (line ++ rest) = cutLines (line.reverse ++ reversed) rest := by
  induction line generalizing reversed with
  | nil => rfl
  | cons byte line inductionHypothesis =>
      rw [List.mem_cons, not_or] at free
      rw [List.cons_append, cutLines, if_neg (Ne.symm free.1), inductionHypothesis free.2]
      simp

/-- The lines of a stream are its cut, and there is no other. -/
theorem lines_eq_iff_cut {bytes : List UInt8} {pieces : List (List UInt8)} :
    lines bytes = pieces ↔ Cut bytes pieces := by
  constructor
  · rintro rfl
    exact cut_cutLines bytes List.not_mem_nil
  · intro cut
    induction cut with
    | empty => rfl
    | @unended line notEmpty free =>
        have scanned := cutLines_append free [] []
        rw [List.append_nil, List.append_nil] at scanned
        rw [lines, scanned, cutLines, if_neg (by simpa using notEmpty), List.reverse_reverse]
    | @ended line more pieces free _ inductionHypothesis =>
        rw [lines, cutLines_append free, cutLines, if_pos rfl, List.append_nil, List.reverse_cons,
          List.reverse_reverse]
        exact congrArg _ inductionHypothesis

/-! ## Kinds of lines -/

/-- A line of white space. -/
def Blank (line : List UInt8) : Prop :=
  ∃ text, encode text = line ∧ ∀ character ∈ text.toList, Text.isBlank character = true

/-- A line that holds evidence. -/
def Holds (line : List UInt8) (evidence : Evidence) : Prop :=
  ∃ text, encode text = line ∧ (∃ character ∈ text.toList, Text.isBlank character = false) ∧
    Evidence.ofText text = .ok evidence

theorem not_isBlankText_iff {text : List Char} :
    ¬ Text.isBlankText text = true ↔ ∃ character ∈ text, Text.isBlank character = false := by
  rw [Text.isBlankText_iff]
  simp

theorem encode_ofList_iff {text : String} {line : List UInt8} {characters : List Char}
    (decoded : Text.Utf8.decode line = .ok characters) :
    encode text = line ↔ text = String.ofList characters := by
  constructor
  · intro encoded
    have decodedAgain : Text.Utf8.decode line = .ok text.toList := by
      rw [Text.Utf8.decode_eq_ok_iff, String.ofList_toList, encoded]
    rw [decoded] at decodedAgain
    rw [Except.ok.inj decodedAgain, String.ofList_toList]
  · rintro rfl
    exact (Text.Utf8.decode_eq_ok_iff.1 decoded).symm

theorem not_encode_of_error {text : String} {line : List UInt8} {fault : Text.Utf8.Fault}
    (malformed : Text.Utf8.decode line = .error fault) : encode text ≠ line := by
  intro encoded
  have decoded : Text.Utf8.decode line = .ok text.toList := by
    rw [Text.Utf8.decode_eq_ok_iff, String.ofList_toList, encoded]
  rw [malformed] at decoded
  cases decoded

theorem Line.of_eq_blank_iff {line : List UInt8} : Line.of line = .blank ↔ Blank line := by
  unfold Line.of Blank
  split
  · rename_i fault malformed
    refine iff_of_false (by simp) ?_
    intro blank
    rcases blank with ⟨text, encoded, -⟩
    exact not_encode_of_error malformed encoded
  · rename_i characters decoded
    simp only [encode_ofList_iff decoded, exists_eq_left, String.toList_ofList,
      ← Text.isBlankText_iff]
    split
    · rename_i blank
      exact iff_of_true rfl blank
    · rename_i shown
      refine iff_of_false ?_ shown
      split
      · simp
      · simp

theorem Line.of_eq_record_iff {line : List UInt8} {evidence : Evidence} :
    Line.of line = .record evidence ↔ Holds line evidence := by
  unfold Line.of Holds
  split
  · rename_i fault malformed
    refine iff_of_false (by simp) ?_
    intro holds
    rcases holds with ⟨text, encoded, -⟩
    exact not_encode_of_error malformed encoded
  · rename_i characters decoded
    simp only [encode_ofList_iff decoded, exists_eq_left, String.toList_ofList,
      ← not_isBlankText_iff]
    split
    · rename_i blank
      exact iff_of_false (by simp) fun holds => holds.1 blank
    · rename_i shown
      split
      · rename_i read success
        simp [shown, success]
      · rename_i complaint failed
        simp [failed]

end ComplianceEvidence.Stream
