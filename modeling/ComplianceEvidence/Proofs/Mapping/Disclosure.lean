import ComplianceEvidence.Proofs.Finding.Attributes
import ComplianceEvidence.Proofs.Mapping.Independence

/-!
Contract: attributes disclose a finding about a control completely, and of any other finding the
outcome alone.

Owns: the form of the attributes of a finding, when two findings have the same attributes, and how
many attributes evidence comes back with.

The attributes of a finding about a control begin alike, so that only the remediation at their end
can make a difference in number. It goes back to the procedure that decides.
-/

set_option autoImplicit false

namespace ComplianceEvidence

open Text.Utf8 (encode)

/-- The procedure that decides what a rule means: the last one for it in the plans under the
smallest id that has a match. -/
def Decides (offers : Offers) (ruleId : String) (occurrence : Occurrence) : Prop :=
  ∃ catalogId catalog plans, offers catalogId catalog plans ∧
    Assesses plans ruleId occurrence ∧ catalog.HasControl occurrence.plan.control.entryId ∧
    ∀ other, Matching offers ruleId other → encode catalogId ≤ encode other

def Procedure.IsDocumented (procedure : Procedure) : Prop :=
  ∃ text, procedure.documentation = some text ∧ text ≠ ""

/-! ## Texts -/

theorem Verdict.text_inj {verdict other : Verdict} (same : verdict.text = other.text) :
    verdict = other := by
  have named := verdict.named?_text
  rw [same, other.named?_text] at named
  exact (Option.some.inj named).symm

/-! ## Attributes of a finding -/

namespace Finding

variable {finding other : Finding}

theorem attributes_of_not_success (notMapped : finding.outcome ≠ .success) :
    finding.attributes = [outcomeAttribute finding.outcome] := by
  rw [attributes, if_neg notMapped]

theorem keys_nodup (finding : Finding) : (finding.attributes.map Prod.fst).Nodup := by
  by_cases mapped : finding.outcome = .success
  · cases remedy : finding.control.remediation <;>
      simp [attributes, mapped, remedy, outcomeAttribute, outcomeKey]
  · rw [attributes_of_not_success mapped]
    exact List.nodup_singleton _

theorem length_attributes_of_success (mapped : finding.outcome = .success) :
    finding.attributes.length = if finding.control.remediation.isSome then 8 else 7 := by
  cases remedy : finding.control.remediation <;> simp [attributes, mapped, remedy]

theorem outcome_eq_of_attributes_eq (same : finding.attributes = other.attributes) :
    finding.outcome = other.outcome := by
  have told : outcomeAttribute finding.outcome ∈ finding.attributes :=
    outcomeAttribute_mem_attributes.2 rfl
  rw [same] at told
  exact (outcomeAttribute_mem_attributes.1 told).symm

/-- Findings about controls have the same attributes only if they are the same. -/
theorem eq_of_attributes_eq (mapped : finding.outcome = .success)
    (same : finding.attributes = other.attributes) : finding = other := by
  have otherMapped : other.outcome = .success := by
    rw [← outcome_eq_of_attributes_eq same, mapped]
  rw [attributes, attributes, if_pos mapped, if_pos otherMapped] at same
  simp only [List.cons_append, List.nil_append, List.cons.injEq, Prod.mk.injEq, true_and,
    AttributeValue.text.injEq, AttributeValue.texts.injEq] at same
  obtain ⟨-, sameText, id, catalogId, category, requirements, standards, sameEnd⟩ := same
  have verdict := Verdict.text_inj sameText
  have remediation : finding.control.remediation = other.control.remediation := by
    cases first : finding.control.remediation <;>
      cases second : other.control.remediation <;> simp_all
  obtain ⟨_, ⟨_, _, _, _⟩, ⟨_, _⟩, _⟩ := finding
  obtain ⟨_, ⟨_, _, _, _⟩, ⟨_, _⟩, _⟩ := other
  simp_all

theorem attributes_eq_iff :
    finding.attributes = other.attributes ↔
      (finding.outcome = .success ∧ other.outcome = .success ∧ finding = other) ∨
        (finding.outcome = other.outcome ∧ finding.outcome ≠ .success) := by
  constructor
  · intro same
    have sameOutcome := outcome_eq_of_attributes_eq same
    by_cases mapped : finding.outcome = .success
    · exact .inl ⟨mapped, sameOutcome ▸ mapped, eq_of_attributes_eq mapped same⟩
    · exact .inr ⟨sameOutcome, mapped⟩
  · rintro (⟨-, -, rfl⟩ | ⟨sameOutcome, notMapped⟩)
    · rfl
    · rw [attributes_of_not_success notMapped, attributes_of_not_success (sameOutcome ▸ notMapped),
        sameOutcome]

end Finding

/-! ## Attributes of what evidence means -/

theorem Means.exists_decides {offers : Offers} {evidence : Evidence} {finding : Finding}
    (means : Means offers evidence finding) (mapped : finding.outcome = .success) :
    ∃ occurrence, Decides offers evidence.ruleId occurrence := by
  cases means with
  | unmapped silent => cases mapped
  | @mapped catalogId catalog plans occurrence _ _ _ offered _ assessed defined least _ =>
      exact ⟨occurrence, catalogId, catalog, plans, offered, assessed,
        Catalog.exists_defines_iff.1 ⟨_, _, defined⟩, least⟩

namespace Mapper

variable {mapper : Mapper} {scope : Scope} {evidence : Evidence} {occurrence : Occurrence}

/-- The procedure that decides gives the remediation. -/
theorem remediation_of_decides
    (decides : Decides (mapper.plans.offers scope) evidence.ruleId occurrence) :
    let finding := (mapper.resolve scope evidence).finding
    finding.outcome = .success ∧
      finding.control.remediation =
        occurrence.procedure.documentation.filter fun text => text ≠ "" := by
  obtain ⟨catalogId, catalog, plans, offered, assessed, hasControl, least⟩ := decides
  obtain ⟨family, control, defined⟩ := Catalog.exists_defines_iff.2 hasControl
  have remedy (text : String) :
      (occurrence.procedure.documentation.filter fun text => text ≠ "") = some text ↔
        occurrence.procedure.documentation = some text ∧ text ≠ "" := by
    simp [Option.filter_eq_some_iff]
  have meaning := Means.mapped offered (Scope.id_of_find? offered.1) assessed defined least remedy
  have sameFinding := (mapper.means_resolve scope evidence).unique
    (mapper.plans.offers_functional scope) meaning
  rw [sameFinding]
  exact ⟨rfl, rfl⟩

/-- Attributes come back with a remediation exactly if the procedure that decides is documented. -/
theorem length_attributes_of_decides
    (decides : Decides (mapper.plans.offers scope) evidence.ruleId occurrence) :
    (occurrence.procedure.IsDocumented →
        (mapper.resolve scope evidence).finding.attributes.length = 8) ∧
      (¬ occurrence.procedure.IsDocumented →
        (mapper.resolve scope evidence).finding.attributes.length = 7) := by
  obtain ⟨mapped, remediation⟩ := remediation_of_decides decides
  have documented :
      (occurrence.procedure.documentation.filter fun text => text ≠ "").isSome = true ↔
        occurrence.procedure.IsDocumented := by
    rw [Option.isSome_iff_exists]
    apply exists_congr
    intro text
    rw [Option.filter_eq_some_iff, decide_eq_true_iff]
  rw [Finding.length_attributes_of_success mapped, remediation]
  exact ⟨fun isDocumented => if_pos (documented.2 isDocumented),
    fun notDocumented => if_neg (mt documented.1 notDocumented)⟩

/-- Attributes have distinct keys and begin with the outcome. They disclose a finding about a
control completely, and of any other finding the outcome alone. Of evidence without a control only
the outcome comes back, and of evidence with one seven attributes, or eight if the procedure that
decides is documented. -/
theorem attributes_disclose :
    (∀ finding : Finding, (finding.attributes.map Prod.fst).Nodup ∧
      ∃ rest, finding.attributes.map Prod.fst = "compliance.enrichment.status" :: rest) ∧
    (∀ finding other : Finding, finding.attributes = other.attributes ↔
      (finding.outcome = .success ∧ other.outcome = .success ∧ finding = other) ∨
        (finding.outcome = other.outcome ∧ finding.outcome ≠ .success)) ∧
    ∀ (mapper : Mapper) (scope : Scope) (evidence : Evidence),
      let finding := (mapper.resolve scope evidence).finding
      let count := finding.attributes.length
      (finding.outcome ≠ .success → finding.outcome = .unmapped ∧ count = 1) ∧
        (finding.outcome = .success ↔
          ∃ occurrence, Decides (mapper.plans.offers scope) evidence.ruleId occurrence) ∧
        ∀ occurrence, Decides (mapper.plans.offers scope) evidence.ruleId occurrence →
          (occurrence.procedure.IsDocumented → count = 8) ∧
            (¬ occurrence.procedure.IsDocumented → count = 7) := by
  refine ⟨fun finding => ⟨finding.keys_nodup, _, rfl⟩,
    fun finding other => Finding.attributes_eq_iff, ?_⟩
  intro mapper scope evidence finding count
  have means := mapper.means_resolve scope evidence
  refine ⟨?_, ?_, fun occurrence => length_attributes_of_decides⟩
  · intro notMapped
    have isUnmapped : finding.outcome = .unmapped := by
      cases outcome : finding.outcome with
      | success => exact absurd outcome notMapped
      | unmapped => rfl
      | skipped => exact absurd outcome means.outcome_ne_skipped
    refine ⟨isUnmapped, ?_⟩
    show finding.attributes.length = 1
    rw [Finding.attributes_of_not_success notMapped]
    rfl
  · constructor
    · exact means.exists_decides
    · rintro ⟨occurrence, decides⟩
      exact (remediation_of_decides decides).1

def remedyMapper : Mapper := basic.addPlans "b" [planFor "rule", remedyPlan]

theorem attributes_remedyMapper :
    (∃ occurrence, Decides (remedyMapper.plans.offers loginScope) "rule" occurrence ∧
        occurrence.procedure = remedy) ∧
      (remedyMapper.resolve loginScope loginEvidence).finding.attributes.length = 8 ∧
      (remedyMapper.resolve .empty loginEvidence).finding.attributes.length = 1 := by
  have least : ∀ other, Matching (remedyMapper.plans.offers loginScope) "rule" other →
      encode "b" ≤ encode other := by
    intro other matching
    rw [matching.catalogId_eq]
    exact List.le_refl _
  have decides : Decides (remedyMapper.plans.offers loginScope) "rule"
      ⟨remedyPlan, { requirement := { entryId := "mfa" }, procedures := [remedy] }, remedy⟩ :=
    ⟨"b", loginCatalog "b", [planFor "rule", remedyPlan], ⟨rfl, rfl⟩, assesses_remedyPlan,
      ⟨_, List.mem_singleton_self _, _, List.mem_singleton_self _, rfl⟩, least⟩
  have disclosed := attributes_disclose.2.2 remedyMapper
  obtain ⟨-, -, counts⟩ := disclosed loginScope loginEvidence
  obtain ⟨notMapped, -, -⟩ := disclosed .empty loginEvidence
  have documented : remedy.IsDocumented := ⟨_, rfl, by decide⟩
  refine ⟨⟨_, decides, rfl⟩, (counts _ decides).1 documented, (notMapped ?_).2⟩
  decide +kernel

end Mapper

end ComplianceEvidence
