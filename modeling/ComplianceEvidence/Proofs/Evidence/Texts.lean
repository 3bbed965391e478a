import ComplianceEvidence.Proofs.Evidence.Grammar
import ComplianceEvidence.Proofs.Json.GivenNodes

/-!
Contract: the texts that a document gives to the fields of evidence.

Owns: what is read for the engine, the rule and the decision of a document from which evidence is
read, whatever the rest of the document holds.
-/

set_option autoImplicit false

namespace ComplianceEvidence.Evidence

open Json (Node Padded Value)

/-- The engine and the rule come from texts as they are, the decision from a text that spells it. -/
def Field.Comes : (field : Field) → Node → field.Content → Prop
  | engineName, node, content => Json.readString node = .ok content
  | ruleId, node, content => Json.readString node = .ok content
  | decision, node, content =>
      ∃ text, Json.readString node = .ok text ∧ Decision.ofText text = content
  | _, _, _ => True

theorem readsAs_comes : reading.ReadsAs Field.Comes := by
  intro field depth node draft next read
  cases field with
  | engineName | ruleId =>
      obtain ⟨content, isText, filled⟩ := Attempt.map_eq_ok_iff.1 read
      exact ⟨content, isText, filled⟩
  | decision =>
      obtain ⟨decision, isDecision, filled⟩ := Attempt.map_eq_ok_iff.1 read
      exact ⟨decision, Attempt.map_eq_ok_iff.1 isDecision, filled⟩
  | id | engineVersion | ruleName | ruleUri | message | timestamp | subject | details =>
      obtain ⟨content, -, filled⟩ := Attempt.map_eq_ok_iff.1 read
      exact ⟨content, trivial, filled⟩

/-- A document gives a text to a field. -/
def GivesText (document : String) (field : Field) (content : String) : Prop :=
  ∃ node, (field, node) ∈ shape.givenNodes (Node.ofText document.toList) ∧
    Json.readString node = .ok content

/-- Evidence that is read has the only texts that are given to the engine and to the rule, and its
decision is what the only text given to the decision spells. -/
theorem givesText_iff {document : String} {evidence : Evidence}
    (accepted : ofText document = .ok evidence) :
    (∀ content, GivesText document .engineName content ↔ content = evidence.engineName) ∧
      (∀ content, GivesText document .ruleId content ↔ content = evidence.ruleId) ∧
      ∃ spelling, (∀ content, GivesText document .decision content ↔ content = spelling) ∧
        Decision.ofText spelling = evidence.decision := by
  obtain ⟨draft, collects, finished⟩ :=
    Json.Shape.Reading.collects_readNode readsAs_comes (Json.read_of_readDocument accepted)
  obtain ⟨-, hasEngine, -, hasRule, -, -, hasDecision, -⟩ := Draft.finish_eq_ok_iff.1 finished
  have onlyText {field : Field} {node : Node} {content : String}
      (isGiven : (field, node) ∈ shape.givenNodes (Node.ofText document.toList))
      (isText : Json.readString node = .ok content) (other : String) :
      GivesText document field other ↔ other = content := by
    constructor
    · rintro ⟨otherNode, otherGiven, otherText⟩
      obtain rfl := collects.node_unique isGiven otherGiven
      exact Except.ok.inj (otherText.symm.trans isText)
    · rintro rfl
      exact ⟨node, isGiven, isText⟩
  obtain ⟨engineNode, engineGiven, engineText⟩ := collects.exists_node .engineName hasEngine
  obtain ⟨ruleNode, ruleGiven, ruleText⟩ := collects.exists_node .ruleId hasRule
  obtain ⟨decisionNode, decisionGiven, spelling, decisionText, spelled⟩ :=
    collects.exists_node .decision hasDecision
  exact ⟨onlyText engineGiven engineText, onlyText ruleGiven ruleText, spelling,
    onlyText decisionGiven decisionText, spelled⟩

/-- In a spelling of a value, a text is given to a field where the value gives it. -/
theorem givesText_iff_of_spelled {document : String} {value : Value}
    (spelled : Padded value.Spelled document.toList) {given : List (Field × Value)}
    (gives : shape.gives? value = some given) (field : Field) (content : String) :
    GivesText document field content ↔ (field, .text content) ∈ given := by
  obtain ⟨gap, -, shown⟩ := value.shown_ofText spelled
  have showsGiven := shape.showsGiven_givenNodes shown gives
  have isText {value : Value} {rest : List Char} {node : Node} (shown : value.Shown rest node) :
      Json.readString node = .ok content ↔ value = .text content :=
    Json.readString_eq_ok_iff shown
  exact (Json.Shape.exists_node_iff showsGiven isText field).trans (by simp)

end ComplianceEvidence.Evidence
