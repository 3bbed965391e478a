import ComplianceEvidence.Finding.Attributes

/-!
Contract: what attributes of a log record are made of.

Owns: when attributes describe evidence, and the outcome that the attributes of a finding tell.
-/

set_option autoImplicit false

namespace ComplianceEvidence

namespace Attributes

variable {attributes : Attributes} {timestamp : Time.Instant}

/-- A required attribute that is absent. -/
def LacksRequired (attributes : Attributes) : Prop :=
  ∃ name ∈ PolicyAttribute.required, attributes.get name = none

instance (attributes : Attributes) : Decidable attributes.LacksRequired :=
  inferInstanceAs (Decidable (∃ name ∈ PolicyAttribute.required, attributes.get name = none))

theorem lacksRequired_iff : attributes.LacksRequired ↔
    attributes.get .ruleId = none ∨ attributes.get .engineName = none ∨
      attributes.get .result = none := by
  simp [LacksRequired, PolicyAttribute.required]

/-- Evidence made of attributes has the engine and the rule that they name. -/
theorem of_evidence_eq_ok {evidence : Evidence}
    (described : attributes.evidence timestamp = .ok evidence) :
    ¬ attributes.LacksRequired ∧ attributes.get .engineName = some evidence.engineName ∧
      attributes.get .ruleId = some evidence.ruleId := by
  unfold Attributes.evidence at described
  split at described
  · rename_i ruleId engineName result hasRule hasEngine hasResult
    obtain rfl := Except.ok.inj described
    rw [lacksRequired_iff, hasRule, hasEngine, hasResult]
    simp [Evidence.minimal]
  · cases described

/-- Attributes describe no evidence only where a required one is absent. -/
theorem of_evidence_eq_error {missing : List PolicyAttribute}
    (refused : attributes.evidence timestamp = .error missing) : attributes.LacksRequired := by
  unfold Attributes.evidence at refused
  split at refused
  · cases refused
  · rename_i incomplete
    rw [lacksRequired_iff]
    cases hasRule : attributes.get .ruleId with
    | none => exact .inl rfl
    | some ruleId =>
        cases hasEngine : attributes.get .engineName with
        | none => exact .inr (.inl rfl)
        | some engineName =>
            cases hasResult : attributes.get .result with
            | none => exact .inr (.inr rfl)
            | some result => exact (incomplete _ _ _ hasRule hasEngine hasResult).elim

end Attributes

/-- Of all outcomes, the attributes of a finding tell its own. -/
theorem Finding.outcomeAttribute_mem_attributes {finding : Finding} {outcome : Outcome} :
    outcomeAttribute outcome ∈ finding.attributes ↔ finding.outcome = outcome := by
  have sameText : outcome.text = finding.outcome.text ↔ finding.outcome = outcome := by
    cases outcome <;> cases finding.outcome <;> decide
  rw [← sameText]
  -- No other attribute has the key of the outcome.
  by_cases mapped : finding.outcome = .success <;>
    simp [attributes, outcomeAttribute, outcomeKey, mapped]

end ComplianceEvidence
