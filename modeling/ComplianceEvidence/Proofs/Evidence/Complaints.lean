import ComplianceEvidence.Evidence.Record
import ComplianceEvidence.Proofs.Json.Complaints

/-!
Contract: a text that is no evidence is complained about in plain words.

Owns: the two shapes that evidence is read with.
-/

set_option autoImplicit false

namespace ComplianceEvidence

open Attempt (FailsOnly)
open Json (Fault Node)
open Text (Plain)

theorem Time.Fault.plain_message (fault : Time.Fault) : Plain fault.message.toList := by
  cases fault <;> decide

theorem Subject.shape_plain : Subject.shape.Plain where
  expected := by decide
  label field := by cases field <;> decide
  read field depth node draft fixed := by
    have member := Json.readOptional_plain (Json.readString_plain fixed)
    exact member.bind fun _ => FailsOnly.pure _

namespace Evidence

theorem readTimestamp_plain {node : Node} (fixed : node.Fixed) :
    FailsOnly Fault.Plain (readTimestamp node) := by
  apply Json.readTextAs_plain (by decide) _ fixed
  intro text reason failed
  obtain ⟨fault, -, rfl⟩ := Attempt.mapError_eq_error_iff.1 failed
  exact fault.plain_message

theorem readOptionalText_plain {node : Node} (fixed : node.Fixed) :
    FailsOnly Fault.Plain (readOptionalText node) :=
  Json.readOptional_plain (Json.readString_plain fixed)

theorem shape_plain : shape.Plain where
  expected := by decide
  label field := by cases field <;> decide
  read field depth node draft fixed := by
    cases field with
    | engineName | ruleId => exact (Json.readString_plain fixed).map
    | id | engineVersion | ruleName | ruleUri | message =>
        exact (readOptionalText_plain fixed).map
    | decision => exact (Json.readString_plain fixed).map.map
    | timestamp => exact (readTimestamp_plain fixed).map
    | subject =>
        exact (Json.readOptional_plain (Subject.shape_plain.readNode fixed depth)).map
    | details => exact (Json.readOptional_plain (Node.readValue_plain fixed depth)).map

/-- Whatever a text holds, the complaint that it is no evidence is plain. -/
theorem ofText_plain (text : String) :
    FailsOnly (fun complaint => Plain complaint.message.toList) (ofText text) :=
  Json.readDocument_plain (fun _ fixed => shape_plain.readNode fixed Json.nestingLimit) text

end Evidence

end ComplianceEvidence
