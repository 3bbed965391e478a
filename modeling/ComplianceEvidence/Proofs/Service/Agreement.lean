import ComplianceEvidence.Proofs.Evidence.Texts
import ComplianceEvidence.Proofs.Service.Conservation

/-!
Contract: a log record is annotated with what its evidence would be answered.

Owns: the agreement between evidence in the attributes of a log record and evidence in a document,
in what a service answers and in what it counts.

An answer depends on the engine, the rule and the decision alone. So the two need not agree about
anything else, and the document may give anything else to the other fields.
-/

set_option autoImplicit false

namespace ComplianceEvidence

/-- Two steps that move every counter alike, up to the latency. -/
structure Counters.MoveAlike (before after otherBefore otherAfter : Counters) : Prop where
  total : after.total - before.total = otherAfter.total - otherBefore.total
  mapped : after.mapped - before.mapped = otherAfter.mapped - otherBefore.mapped
  unmapped : after.unmapped - before.unmapped = otherAfter.unmapped - otherBefore.unmapped
  skipped : after.skipped - before.skipped = otherAfter.skipped - otherBefore.skipped
  fallbacks : after.fallbacks - before.fallbacks = otherAfter.fallbacks - otherBefore.fallbacks

/-- A record moves the counters by what its outcome and its mapper tell. -/
theorem Counters.moveAlike_record (counters otherCounters : Counters) (outcome : Outcome)
    (isFallback : Bool) (latency otherLatency : Latency) :
    MoveAlike counters (counters.record outcome isFallback latency) otherCounters
      (otherCounters.record outcome isFallback otherLatency) := by
  have oneMore (count : UInt64) : count + 1 - count = 1 := by
    rw [UInt64.add_comm, UInt64.add_sub_cancel]
  constructor <;> cases outcome <;> cases isFallback <;> simp [record, addOutcome, oneMore]

/-- A complete list of attributes describes evidence with the engine, the rule and the decision
that they name. -/
theorem Attributes.evidence_of_complete {attributes : Attributes}
    {ruleId engineName result : String}
    (hasRule : attributes.get .ruleId = some ruleId)
    (hasEngine : attributes.get .engineName = some engineName)
    (hasResult : attributes.get .result = some result) (timestamp : Time.Instant) :
    ∃ evidence, attributes.evidence timestamp = .ok evidence ∧ evidence.ruleId = ruleId ∧
      evidence.engineName = engineName ∧ evidence.decision = Decision.ofText result := by
  simp only [Attributes.evidence, hasRule, hasEngine, hasResult]
  exact ⟨_, rfl, rfl, rfl, rfl⟩

namespace Service

variable (service : Service)

theorem respond_congr (source : String) {evidence other : Evidence}
    (sameRule : evidence.ruleId = other.ruleId)
    (sameDecision : evidence.decision = other.decision) :
    service.respond source evidence = service.respond source other := by
  simp only [respond, Mapper.respond, Mapper.resolve, sameRule, sameDecision]

/-- A record without a required attribute is skipped, and counted as such and as nothing else. -/
theorem annotate_of_lacksRequired {attributes : Attributes} (lacks : attributes.LacksRequired)
    (timestamp : Time.Instant) (latency : Latency) :
    (service.annotate attributes timestamp latency).value =
        [("compliance.enrichment.status", .text "skipped")] ∧
      (service.annotate attributes timestamp latency).service =
        { service with
          counters :=
            { service.counters with
              total := service.counters.total + 1
              skipped := service.counters.skipped + 1 } } := by
  have noTime : Latency.zero.microseconds = 0 := by
    simp [Latency.microseconds, Latency.totalNanoseconds, Latency.zero]
  rw [annotate]
  cases described : attributes.evidence timestamp with
  | ok evidence => exact absurd lacks (Attributes.of_evidence_eq_ok described).1
  | error missing =>
      refine ⟨rfl, ?_⟩
      simp [Counters.recordSkipped, Counters.record, Counters.addOutcome, noTime]

/-- Attributes are answered like any evidence with the same engine, rule and decision. -/
theorem annotate_of_same {attributes : Attributes} {timestamp : Time.Instant}
    {described evidence : Evidence} (isDescribed : attributes.evidence timestamp = .ok described)
    (sameRule : described.ruleId = evidence.ruleId)
    (sameEngine : described.engineName = evidence.engineName)
    (sameDecision : described.decision = evidence.decision) (counters : Counters)
    (latency otherLatency : Latency) :
    let annotated := service.annotate attributes timestamp latency
    let enriched := { service with counters := counters }.enrichOwn evidence otherLatency
    annotated.value = enriched.value.finding.attributes ∧
      Counters.MoveAlike service.counters annotated.service.counters counters
        enriched.service.counters := by
  have sameResponse := service.respond_congr described.engineName sameRule sameDecision
  simp only [annotate, isDescribed, enrichOwn, enrich]
  rw [← sameEngine]
  show (service.respond _ described).finding.attributes =
      (service.respond _ evidence).finding.attributes ∧
    Counters.MoveAlike _ (service.counters.record (service.respond _ described).finding.outcome _ _)
      _ (counters.record (service.respond _ evidence).finding.outcome _ _)
  rw [sameResponse]
  exact ⟨rfl, Counters.moveAlike_record _ _ _ _ _ _⟩

/-- A log record that lacks a required attribute is skipped. Any other is annotated with the finding
for a document that gives the same texts to the engine, the rule and the decision. -/
theorem annotate_agrees (attributes : Attributes) (timestamp : Time.Instant) (latency : Latency) :
    let annotated := service.annotate attributes timestamp latency
    (attributes.text? "policy.rule.id" = none ∨ attributes.text? "policy.engine.name" = none ∨
        attributes.text? "policy.evaluation.result" = none →
      annotated.value = [("compliance.enrichment.status", .text "skipped")] ∧
        annotated.service =
          { service with
            counters :=
              { service.counters with
                total := service.counters.total + 1
                skipped := service.counters.skipped + 1 } }) ∧
      ∀ ruleId engineName result : String,
        attributes.text? "policy.rule.id" = some ruleId →
        attributes.text? "policy.engine.name" = some engineName →
        attributes.text? "policy.evaluation.result" = some result →
          ∀ (document : String) (evidence : Evidence),
            Evidence.ofText document = .ok evidence →
            Evidence.GivesText document .ruleId ruleId →
            Evidence.GivesText document .engineName engineName →
            Evidence.GivesText document .decision result →
              ∀ (counters : Counters) (otherLatency : Latency),
                let enriched :=
                  { service with counters := counters }.enrichOwn evidence otherLatency
                annotated.value = enriched.value.finding.attributes ∧
                  Counters.MoveAlike service.counters annotated.service.counters counters
                    enriched.service.counters := by
  intro annotated
  constructor
  · intro lacks
    exact service.annotate_of_lacksRequired (Attributes.lacksRequired_iff.2 lacks) timestamp latency
  · intro ruleId engineName result hasRule hasEngine hasResult document evidence accepted givesRule
      givesEngine givesResult counters otherLatency
    obtain ⟨engineText, ruleText, spelling, decisionText, spelled⟩ :=
      Evidence.givesText_iff accepted
    obtain ⟨described, isDescribed, rule, engine, decision⟩ :=
      Attributes.evidence_of_complete hasRule hasEngine hasResult timestamp
    apply service.annotate_of_same isDescribed
    · rw [rule, (ruleText ruleId).1 givesRule]
    · rw [engine, (engineText engineName).1 givesEngine]
    · rw [decision, ← spelled, (decisionText result).1 givesResult]

/-- The three attributes that a record cannot do without, with the texts of a sample document. -/
def sampleAttributes : Attributes :=
  .ofList [("policy.rule.id", "rule"), ("policy.engine.name", "engine"),
    ("policy.evaluation.result", "SUCCESS")]

theorem annotate_sampleAttributes :
    let timestamp := sampleEvidence.timestamp
    let annotated := sampleService.annotate sampleAttributes timestamp ⟨0, 2000⟩
    let enriched := sampleService.enrichOwn Evidence.readSample ⟨0, 3000⟩
    (sampleService.annotate (.ofList []) timestamp .zero).value =
        [("compliance.enrichment.status", .text "skipped")] ∧
      annotated.value = enriched.value.finding.attributes ∧
      enriched.value.finding.outcome = .success ∧
      Counters.MoveAlike sampleService.counters annotated.service.counters sampleService.counters
        enriched.service.counters := by
  intro timestamp annotated enriched
  have room : (Json.Value.object Evidence.sampleMembers).nesting < Json.nestingLimit := by decide
  have accepted : Evidence.ofText Evidence.sampleText = .ok Evidence.readSample :=
    (Evidence.ofText_eq_ok_iff Evidence.spelled_sampleText room _).2
      Evidence.described_sampleMembers
  have given : Evidence.shape.gives? (.object Evidence.sampleMembers) =
      some Evidence.sampleGiven := rfl
  have gives := Evidence.givesText_iff_of_spelled Evidence.spelled_sampleText given
  have givesRule : Evidence.GivesText Evidence.sampleText .ruleId "rule" :=
    (gives .ruleId "rule").2 Evidence.describedBy_readSample.ruleId
  have givesEngine : Evidence.GivesText Evidence.sampleText .engineName "engine" :=
    (gives .engineName "engine").2 Evidence.describedBy_readSample.engineName
  have givesDecision : Evidence.GivesText Evidence.sampleText .decision "SUCCESS" :=
    (gives .decision "SUCCESS").2 (by simp [Evidence.sampleGiven])
  have skipped := (sampleService.annotate_agrees (.ofList []) timestamp .zero).1 (.inl rfl)
  have agrees := (sampleService.annotate_agrees sampleAttributes timestamp ⟨0, 2000⟩).2 "rule"
    "engine" "SUCCESS" rfl rfl rfl Evidence.sampleText Evidence.readSample accepted givesRule
    givesEngine givesDecision sampleService.counters ⟨0, 3000⟩
  exact ⟨skipped.1, agrees.1, by decide +kernel, agrees.2⟩

end Service

end ComplianceEvidence
