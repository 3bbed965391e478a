import ComplianceEvidence.Json.Record
import ComplianceEvidence.Proofs.Json.Flaws
import ComplianceEvidence.Proofs.Text.Plain

/-!
Contract: a complaint about a JSON text is plain, whatever the text holds.

Owns: the wording of each cause, and the faults of the readers for texts, optional values, values of
any form and records. What a complaint quotes of a text is escaped.

Does not own: names of a closed set, whose complaint repeats the name as it stands in the text.
-/

set_option autoImplicit false

namespace ComplianceEvidence.Json

open Attempt (FailsOnly)
open Text (Plain)

def Fault.Plain (fault : Fault) : Prop :=
  Text.Plain fault.cause.message.toList

theorem Cause.plain_of_isFixed {cause : Cause} (fixed : cause.isFixed = true) :
    Plain cause.message.toList := by
  cases cause
  case wrongType | wrongValue | wrongCount => cases fixed
  case missingField | duplicateField | unknownVariant | rejected => cases fixed
  all_goals decide

theorem Fault.Fixed.plain {fault : Fault} (fixed : fault.Fixed) : fault.Plain :=
  Cause.plain_of_isFixed fixed

theorem failsOnly_plain {α : Type} {attempt : Except Fault α}
    (fixed : FailsOnly Fault.Fixed attempt) : FailsOnly Fault.Plain attempt :=
  fixed.mono fun _ => Fault.Fixed.plain

theorem Found.plain_description (found : Found) : Plain found.description.toList := by
  cases found with
  | null => decide
  | boolean value => cases value <;> decide
  | integer value =>
      show Plain ("integer `" ++ Number.wholeText value ++ "`").toList
      simp only [String.toList_append, Text.plain_append]
      exact ⟨⟨by decide, Number.plain_wholeText value⟩, by decide⟩
  | double value =>
      show Plain ("floating point `" ++ Number.doubleText Number.compact value ++ "`").toList
      simp only [String.toList_append, Text.plain_append]
      exact ⟨⟨by decide, Number.plain_doubleText _ value⟩, by decide⟩
  | text value =>
      show Plain ("string " ++ Text.quoted value).toList
      simp only [String.toList_append, Text.plain_append]
      exact ⟨by decide, Text.plain_quoted value⟩
  | list => decide
  | object => decide

theorem Cause.plain_wrongType (found : Found) {expected : String}
    (plain : Plain expected.toList) : Plain (Cause.wrongType found expected).message.toList := by
  show Plain ("invalid type: " ++ found.description ++ ", expected " ++ expected).toList
  simp only [String.toList_append, Text.plain_append]
  exact ⟨⟨⟨by decide, found.plain_description⟩, by decide⟩, plain⟩

theorem Cause.plain_wrongCount (count : Nat) {expected : String}
    (plain : Plain expected.toList) : Plain (Cause.wrongCount count expected).message.toList := by
  show Plain ("invalid length " ++ Number.naturalText count ++ ", expected " ++ expected).toList
  simp only [String.toList_append, Text.plain_append]
  exact ⟨⟨⟨by decide, Number.plain_naturalText count⟩, by decide⟩, plain⟩

theorem Cause.plain_missingField {name : String} (plain : Plain name.toList) :
    Plain (Cause.missingField name).message.toList := by
  show Plain ("missing field `" ++ name ++ "`").toList
  simp only [String.toList_append, Text.plain_append]
  exact ⟨⟨by decide, plain⟩, by decide⟩

theorem Cause.plain_duplicateField {name : String} (plain : Plain name.toList) :
    Plain (Cause.duplicateField name).message.toList := by
  show Plain ("duplicate field `" ++ name ++ "`").toList
  simp only [String.toList_append, Text.plain_append]
  exact ⟨⟨by decide, plain⟩, by decide⟩

theorem Complaint.plain_message {complaint : Complaint}
    (plain : Plain complaint.cause.message.toList) : Plain complaint.message.toList := by
  show Plain (complaint.cause.message ++ " at line " ++
    Number.naturalText complaint.position.line ++ " column " ++
      Number.naturalText complaint.position.column).toList
  simp only [String.toList_append, Text.plain_append]
  exact ⟨⟨⟨⟨plain, by decide⟩, Number.plain_naturalText _⟩, by decide⟩,
    Number.plain_naturalText _⟩

/-! ## Values of the wrong form -/

theorem descend_plain (depth : Nat) (start : List Char) :
    FailsOnly Fault.Plain (descend depth start) := by
  unfold descend
  split
  · exact FailsOnly.error_iff.2 (Fault.Fixed.plain rfl)
  · exact FailsOnly.ok _

section WrongForm

variable {expected : String} (plain : Plain expected.toList)
include plain

theorem Scalar.wrongType_plain (start after : List Char) (value : Scalar) :
    (value.wrongType expected start after).Plain := by
  cases value with
  | null => exact Cause.plain_wrongType _ plain
  | boolean value => exact Cause.plain_wrongType _ plain
  | number =>
      rw [wrongType]
      split
      · exact Cause.plain_wrongType _ plain
      · rename_i fault failed
        exact (readNumber_fixed start fault failed).plain
  | text body =>
      rw [wrongType]
      split
      · exact Cause.plain_wrongType _ plain
      · rename_i fault failed
        exact (readText_fixed body fault failed).plain

theorem Node.wrongType_plain {node : Node} (fixed : node.Fixed) :
    (node.wrongType expected).Plain := by
  cases fixed with
  | scalar start value after => exact value.wrongType_plain plain start after
  | list _ _ => exact Cause.plain_wrongType _ plain
  | object _ _ => exact Cause.plain_wrongType _ plain
  | malformed fixed => exact fixed.1.plain
  | broken fixed => exact fixed.1.plain

theorem readTextAs_plain {α : Type} {check : String → Except String α} {node : Node}
    (checks : ∀ text, FailsOnly (fun reason => Plain reason.toList) (check text))
    (fixed : node.Fixed) : FailsOnly Fault.Plain (readTextAs expected check node) := by
  unfold readTextAs
  split
  · rename_i body after
    split
    · rename_i fault failed
      exact FailsOnly.error_iff.2 (readText_fixed body fault failed).plain
    · rename_i text rest _
      split
      · exact FailsOnly.ok _
      · rename_i reason failed
        exact FailsOnly.error_iff.2 (checks _ reason failed)
  · exact FailsOnly.error_iff.2 (node.wrongType_plain plain fixed)

end WrongForm

/-! ## Readers -/

section Readers

variable {node : Node} {ending : Ending}

theorem readString_plain (fixed : node.Fixed) : FailsOnly Fault.Plain (readString node) :=
  readTextAs_plain (by decide) (fun _ => FailsOnly.ok _) fixed

theorem readOptional_plain {α : Type} {read : Node → Except Fault α}
    (reads : FailsOnly Fault.Plain (read node)) : FailsOnly Fault.Plain (readOptional read node) := by
  unfold readOptional
  split
  · exact FailsOnly.ok _
  · exact reads.map

theorem Key.read_plain (key : Key) : FailsOnly Fault.Plain key.read :=
  (failsOnly_plain (readText_fixed key.body)).map

theorem Ending.Fixed.read_plain {flaw : Flaw} (ended : (Ending.broken flaw).Fixed) :
    flaw.read.Plain :=
  (ended flaw rfl).1.plain

theorem Ending.Fixed.passed_plain {flaw : Flaw} (ended : (Ending.broken flaw).Fixed) :
    flaw.passed.Plain :=
  (ended flaw rfl).2.plain

theorem passItems_plain {items : List Node} (ended : ending.Fixed)
    (each : ∀ item ∈ items, FailsOnly Fault.Plain item.pass) :
    FailsOnly Fault.Plain (passItems items ending) := by
  induction items with
  | nil =>
      cases ending with
      | closed after => exact FailsOnly.ok _
      | broken flaw => exact FailsOnly.error_iff.2 ended.passed_plain
  | cons head tail inductionHypothesis =>
      obtain ⟨headPlain, tailPlain⟩ := List.forall_mem_cons.1 each
      exact headPlain.bind fun _ => inductionHypothesis tailPlain

theorem passMembers_plain {members : List (Key × Node)} (ended : ending.Fixed)
    (each : ∀ member ∈ members, FailsOnly Fault.Plain member.2.pass) :
    FailsOnly Fault.Plain (passMembers members ending) := by
  induction members with
  | nil =>
      cases ending with
      | closed after => exact FailsOnly.ok _
      | broken flaw => exact FailsOnly.error_iff.2 ended.passed_plain
  | cons head tail inductionHypothesis =>
      obtain ⟨headPlain, tailPlain⟩ := List.forall_mem_cons.1 each
      exact headPlain.bind fun _ => inductionHypothesis tailPlain

theorem Node.pass_plain (fixed : node.Fixed) : FailsOnly Fault.Plain node.pass := by
  induction fixed with
  | scalar start value after => exact FailsOnly.ok _
  | list _ ended inductionHypothesis => exact passItems_plain ended inductionHypothesis
  | object _ ended inductionHypothesis => exact passMembers_plain ended inductionHypothesis
  | malformed fixed => exact FailsOnly.error_iff.2 fixed.2.plain
  | broken fixed => exact FailsOnly.error_iff.2 fixed.2.plain

theorem readValues_plain {items : List Node} {depth : Nat} (ended : ending.Fixed)
    (each : ∀ item ∈ items, FailsOnly Fault.Plain (item.readValue depth)) :
    FailsOnly Fault.Plain (readValues depth items ending) := by
  induction items with
  | nil =>
      cases ending with
      | closed after => exact FailsOnly.ok _
      | broken flaw => exact FailsOnly.error_iff.2 ended.read_plain
  | cons head tail inductionHypothesis =>
      obtain ⟨headPlain, tailPlain⟩ := List.forall_mem_cons.1 each
      apply headPlain.bind
      intro value
      exact (inductionHypothesis tailPlain).bind fun _ => FailsOnly.pure _

theorem readEntries_plain {members : List (Key × Node)} {depth : Nat}
    {entries : List (String × Value)} (ended : ending.Fixed)
    (each : ∀ member ∈ members, FailsOnly Fault.Plain (member.2.readValue depth)) :
    FailsOnly Fault.Plain (readEntries depth entries members ending) := by
  induction members generalizing entries with
  | nil =>
      cases ending with
      | closed after => exact FailsOnly.ok _
      | broken flaw => exact FailsOnly.error_iff.2 ended.read_plain
  | cons head tail inductionHypothesis =>
      obtain ⟨headPlain, tailPlain⟩ := List.forall_mem_cons.1 each
      apply head.1.read_plain.bind
      intro name
      exact headPlain.bind fun _ => inductionHypothesis tailPlain

theorem Node.readValue_plain (fixed : node.Fixed) (depth : Nat) :
    FailsOnly Fault.Plain (node.readValue depth) := by
  induction fixed generalizing depth with
  | scalar start value after =>
      cases value with
      | null => exact FailsOnly.ok _
      | boolean value => exact FailsOnly.ok _
      | number => exact (failsOnly_plain (readNumber_fixed start)).map
      | text body => exact (failsOnly_plain (readText_fixed body)).map
  | list _ ended inductionHypothesis =>
      apply (descend_plain depth _).bind
      intro deeper
      have each := fun item member => inductionHypothesis item member deeper
      exact (readValues_plain ended each).bind fun _ => FailsOnly.pure _
  | object _ ended inductionHypothesis =>
      apply (descend_plain depth _).bind
      intro deeper
      have each := fun member inside => inductionHypothesis member inside deeper
      exact (readEntries_plain ended each).bind fun _ => FailsOnly.pure _
  | malformed fixed => exact FailsOnly.error_iff.2 fixed.1.plain
  | broken fixed => exact FailsOnly.error_iff.2 fixed.1.plain

end Readers

/-! ## Records -/

/-- A shape whose own words are plain and whose fields complain in plain words. -/
structure Shape.Plain {Field Draft Record : Type} (shape : Shape Field Draft Record) : Prop where
  expected : Text.Plain shape.expected.toList
  label : ∀ field, Text.Plain (shape.label field).toList
  read : ∀ field depth node draft, Node.Fixed node →
    FailsOnly Fault.Plain (shape.read field depth node draft)

namespace Shape

theorem closeList_plain (text : List Char) : FailsOnly Fault.Plain (closeList text) := by
  apply failsOnly_plain
  fun_cases closeList text
  all_goals first
    | exact FailsOnly.ok _
    | exact FailsOnly.error_iff.2 rfl

theorem plain_fieldCount (count : Nat) : Text.Plain (fieldCount count).toList := by
  unfold fieldCount
  rw [String.toList_append, Text.plain_append]
  refine ⟨Number.plain_naturalText count, ?_⟩
  split
  · decide
  · decide

variable {Field Draft Record : Type} {shape : Shape Field Draft Record} (plain : shape.Plain)
  {depth : Nat} {draft : Draft} {ending : Ending}
include plain

theorem readMembers_plain {members : List (Key × Node)} (ended : ending.Fixed)
    (each : ∀ member ∈ members, member.2.Fixed) :
    FailsOnly Fault.Plain (shape.readMembers depth draft members ending) := by
  induction members generalizing draft with
  | nil =>
      cases ending with
      | closed after => exact FailsOnly.ok _
      | broken flaw => exact FailsOnly.error_iff.2 ended.read_plain
  | cons head tail inductionHypothesis =>
      obtain ⟨headFixed, tailFixed⟩ := List.forall_mem_cons.1 each
      apply head.1.read_plain.bind
      intro name
      split
      · exact (Node.pass_plain headFixed).bind fun _ => inductionHypothesis tailFixed
      · split
        · exact FailsOnly.error_iff.2 (Cause.plain_duplicateField (plain.label _))
        · exact (plain.read _ _ _ _ headFixed).bind fun _ => inductionHypothesis tailFixed

theorem readElements_plain {fields : List Field} {items : List Node} {count : Nat}
    {behind : List Char} (ended : ending.Fixed) (each : ∀ item ∈ items, item.Fixed) :
    FailsOnly Fault.Plain (shape.readElements depth count behind draft fields items ending) := by
  induction fields generalizing items count behind draft with
  | nil => exact (closeList_plain behind).bind fun _ => FailsOnly.pure _
  | cons field fields inductionHypothesis =>
      cases items with
      | cons head tail =>
          obtain ⟨headFixed, tailFixed⟩ := List.forall_mem_cons.1 each
          exact (plain.read _ _ _ _ headFixed).bind fun _ => inductionHypothesis tailFixed
      | nil =>
          cases ending with
          | closed after =>
              rw [readElements]
              split
              · have expected : Text.Plain
                    (shape.expected ++ " with " ++ fieldCount shape.order.length).toList := by
                  simp only [String.toList_append, Text.plain_append]
                  exact ⟨⟨plain.expected, by decide⟩, plain_fieldCount _⟩
                exact FailsOnly.error_iff.2 (Cause.plain_wrongCount count expected)
              · exact inductionHypothesis each
          | broken flaw => exact FailsOnly.error_iff.2 ended.read_plain

theorem complete_plain (after : List Char) :
    FailsOnly Fault.Plain (shape.complete draft after) := by
  unfold complete
  split
  · exact FailsOnly.ok _
  · exact FailsOnly.error_iff.2 (Cause.plain_missingField (plain.label _))

theorem Plain.readNode {node : Node} (fixed : node.Fixed) (depth : Nat) :
    FailsOnly Fault.Plain (shape.readNode depth node) := by
  cases fixed with
  | object each ended =>
      apply (descend_plain depth _).bind
      intro deeper
      exact (readMembers_plain plain ended each).bind fun _ => complete_plain plain _
  | list each ended =>
      apply (descend_plain depth _).bind
      intro deeper
      exact (readElements_plain plain ended each).bind fun _ => complete_plain plain _
  | scalar start value after =>
      exact FailsOnly.error_iff.2 (Node.wrongType_plain plain.expected (.scalar _ _ _))
  | malformed fixed =>
      exact FailsOnly.error_iff.2 (Node.wrongType_plain plain.expected (.malformed fixed))
  | broken fixed =>
      exact FailsOnly.error_iff.2 (Node.wrongType_plain plain.expected (.broken fixed))

end Shape

/-! ## Documents -/

/-- A document is complained about in plain words if its value is. -/
theorem readDocument_plain {α : Type} {read : Node → Except Fault α}
    (reads : ∀ node, Node.Fixed node → FailsOnly Fault.Plain (read node)) (text : String) :
    FailsOnly (fun complaint => Plain complaint.message.toList) (readDocument read text) := by
  have whole : FailsOnly Fault.Plain (readWhole read text.toList) := by
    apply (reads _ (Node.ofText_fixed text.toList)).bind
    intro value
    split
    · exact FailsOnly.pure _
    · exact FailsOnly.error_iff.2 (Fault.Fixed.plain rfl)
  exact whole.mapError fun fault plain => Complaint.plain_message plain

end ComplianceEvidence.Json
