import ComplianceEvidence.Proofs.Finding.Attributes

/-!
Contract: evidence made of attributes says what they say, no more and no less.

Owns: what attributes say as evidence, told by their keys; when they say nothing because a required
one is absent; and what two sets of attributes have in common if they lead to the same evidence.

A field is absent exactly if its attribute is, and an empty text is not absent. That is why all
attributes can be told from the evidence, up to the spelling of the decision.
-/

set_option autoImplicit false

namespace ComplianceEvidence.Attributes

/-- The keys that evidence cannot do without, in the order in which they are missed. -/
def requiredKeys : List String :=
  ["policy.rule.id", "policy.engine.name", "policy.evaluation.result"]

/-- The keys that describe the subject. -/
def targetKeys : List String :=
  ["policy.target.id", "policy.target.name", "policy.target.type", "policy.target.environment"]

/-- All keys that evidence is made of. -/
def policyKeys : List String :=
  ["policy.rule.id", "policy.rule.name", "policy.rule.uri", "policy.engine.name",
    "policy.engine.version", "policy.evaluation.result", "policy.evaluation.message"] ++ targetKeys

/-- Evidence has the fields that attributes give to it, and there is a subject as soon as any part
of it is given. -/
structure Describe (attributes : Attributes) (timestamp : Time.Instant) (evidence : Evidence) :
    Prop where
  ruleId : attributes.text? "policy.rule.id" = some evidence.ruleId
  engineName : attributes.text? "policy.engine.name" = some evidence.engineName
  decision : (attributes.text? "policy.evaluation.result").map Decision.ofText =
    some evidence.decision
  ruleName : attributes.text? "policy.rule.name" = evidence.ruleName
  ruleUri : attributes.text? "policy.rule.uri" = evidence.ruleUri
  engineVersion : attributes.text? "policy.engine.version" = evidence.engineVersion
  message : attributes.text? "policy.evaluation.message" = evidence.message
  targeted : evidence.subject.isSome ↔ ∃ key ∈ targetKeys, ∃ text, attributes.text? key = some text
  subject : ∀ subject, evidence.subject = some subject →
    attributes.text? "policy.target.id" = subject.id ∧
      attributes.text? "policy.target.name" = subject.name ∧
      attributes.text? "policy.target.type" = subject.kind ∧
      attributes.text? "policy.target.environment" = subject.environment
  timestamp : evidence.timestamp = timestamp
  id : evidence.id = none
  details : evidence.details = none

/-- Attributes are the same under all keys that evidence is made of, up to the spelling of the
decision. -/
structure Similar (attributes other : Attributes) : Prop where
  texts : ∀ key ∈ policyKeys, key ≠ "policy.evaluation.result" →
    other.text? key = attributes.text? key
  decision : (other.text? "policy.evaluation.result").map Decision.ofText =
    (attributes.text? "policy.evaluation.result").map Decision.ofText

variable {attributes other : Attributes} {timestamp : Time.Instant} {evidence : Evidence}

/-! ## Subjects -/

theorem subject?_eq_none_iff :
    attributes.subject? = none ↔ ∀ key ∈ targetKeys, attributes.text? key = none := by
  simp [subject?, targetKeys, get, PolicyAttribute.key]

theorem isSome_subject?_iff :
    attributes.subject?.isSome ↔ ∃ key ∈ targetKeys, ∃ text, attributes.text? key = some text := by
  rw [Option.isSome_iff_ne_none, Ne, subject?_eq_none_iff]
  simp [Option.ne_none_iff_exists']

theorem of_subject?_eq_some {subject : Subject} (found : attributes.subject? = some subject) :
    attributes.text? "policy.target.id" = subject.id ∧
      attributes.text? "policy.target.name" = subject.name ∧
      attributes.text? "policy.target.type" = subject.kind ∧
      attributes.text? "policy.target.environment" = subject.environment := by
  simp only [subject?] at found
  split at found
  · cases found
  · obtain rfl := Option.some.inj found
    exact ⟨rfl, rfl, rfl, rfl⟩

/-! ## Evidence -/

theorem describe_of_evidence (described : attributes.evidence timestamp = .ok evidence) :
    attributes.Describe timestamp evidence := by
  unfold Attributes.evidence at described
  split at described
  · rename_i ruleId engineName result hasRule hasEngine hasResult
    obtain rfl := Except.ok.inj described
    constructor
    case ruleId => exact hasRule
    case engineName => exact hasEngine
    case decision => exact congrArg (Option.map Decision.ofText) hasResult
    case targeted => exact isSome_subject?_iff
    case subject => exact fun _ => of_subject?_eq_some
    all_goals rfl
  · cases described

theorem Describe.subject_eq (described : attributes.Describe timestamp evidence) :
    attributes.subject? = evidence.subject := by
  cases given : evidence.subject with
  | none =>
      rw [← Option.not_isSome_iff_eq_none, isSome_subject?_iff, ← described.targeted, given]
      simp
  | some subject =>
      have present : attributes.subject?.isSome := by
        apply isSome_subject?_iff.2
        apply described.targeted.1
        rw [given, Option.isSome_some]
      obtain ⟨own, found⟩ := Option.isSome_iff_exists.1 present
      obtain ⟨ownId, ownName, ownKind, ownEnvironment⟩ := of_subject?_eq_some found
      obtain ⟨id, name, kind, environment⟩ := described.subject subject given
      cases own
      cases subject
      simp_all

theorem evidence_of_describe (described : attributes.Describe timestamp evidence) :
    attributes.evidence timestamp = .ok evidence := by
  have hasRule : attributes.get .ruleId = some evidence.ruleId := described.ruleId
  have hasEngine : attributes.get .engineName = some evidence.engineName := described.engineName
  obtain ⟨result, resultGiven, sameDecision⟩ := Option.map_eq_some_iff.1 described.decision
  have hasResult : attributes.get .result = some result := resultGiven
  simp only [Attributes.evidence, hasRule, hasEngine, hasResult]
  cases evidence
  rw [Except.ok.injEq, Evidence.mk.injEq]
  exact ⟨described.id.symm, rfl, described.engineVersion, rfl, described.ruleName,
    described.ruleUri, sameDecision, described.message, described.timestamp.symm,
    described.subject_eq, described.details.symm⟩

theorem evidence_eq_ok_iff :
    attributes.evidence timestamp = .ok evidence ↔ attributes.Describe timestamp evidence :=
  ⟨describe_of_evidence, evidence_of_describe⟩

/-! ## Absent attributes -/

theorem lacksRequired_iff_requiredKeys :
    attributes.LacksRequired ↔ ∃ key ∈ requiredKeys, attributes.text? key = none := by
  rw [lacksRequired_iff]
  simp [requiredKeys, get, PolicyAttribute.key]

/-- Attributes are refused exactly if a required one is absent. -/
theorem exists_error_iff :
    (∃ missing, attributes.evidence timestamp = .error missing) ↔
      ∃ key ∈ requiredKeys, attributes.text? key = none := by
  rw [← lacksRequired_iff_requiredKeys]
  constructor
  · rintro ⟨missing, refused⟩
    exact of_evidence_eq_error refused
  · intro lacks
    cases described : attributes.evidence timestamp with
    | error missing => exact ⟨missing, rfl⟩
    | ok evidence => exact absurd lacks (of_evidence_eq_ok described).1

/-- A refusal names the required attributes that are absent. -/
theorem keys_of_evidence_eq_error {missing : List PolicyAttribute}
    (refused : attributes.evidence timestamp = .error missing) :
    missing.map PolicyAttribute.key =
      requiredKeys.filter fun key => (attributes.text? key).isNone := by
  have isMissing : missing = attributes.missing := by
    unfold Attributes.evidence at refused
    split at refused
    · cases refused
    · exact (Except.error.inj refused).symm
  rw [isMissing, Attributes.missing,
    show requiredKeys = PolicyAttribute.required.map PolicyAttribute.key from rfl, List.filter_map]
  rfl

/-! ## Two sets of attributes -/

theorem mem_policyKeys_iff {key : String} :
    key ∈ policyKeys ↔ ∃ name : PolicyAttribute, name.key = key := by
  constructor
  · intro member
    simp only [policyKeys, targetKeys, List.cons_append, List.nil_append, List.mem_cons,
      List.not_mem_nil, or_false] at member
    rcases member with rfl | rfl | rfl | rfl | rfl | rfl | rfl | rfl | rfl | rfl | rfl
    · exact ⟨.ruleId, rfl⟩
    · exact ⟨.ruleName, rfl⟩
    · exact ⟨.ruleUri, rfl⟩
    · exact ⟨.engineName, rfl⟩
    · exact ⟨.engineVersion, rfl⟩
    · exact ⟨.result, rfl⟩
    · exact ⟨.message, rfl⟩
    · exact ⟨.targetId, rfl⟩
    · exact ⟨.targetName, rfl⟩
    · exact ⟨.targetType, rfl⟩
    · exact ⟨.targetEnvironment, rfl⟩
  · rintro ⟨name, rfl⟩
    cases name <;> decide

/-- Attributes under other keys do not matter. -/
theorem evidence_congr (agree : ∀ key ∈ policyKeys, other.text? key = attributes.text? key)
    (timestamp : Time.Instant) : other.evidence timestamp = attributes.evidence timestamp := by
  have same : other.get = attributes.get := by
    funext name
    exact agree name.key (mem_policyKeys_iff.2 ⟨name, rfl⟩)
  simp only [Attributes.evidence, missing, subject?, same]

/-- Each part of the subject is the attribute that describes it, whether there is a subject or
not. -/
theorem bind_subject? (attributes : Attributes) :
    attributes.get .targetId = attributes.subject?.bind Subject.id ∧
      attributes.get .targetName = attributes.subject?.bind Subject.name ∧
      attributes.get .targetType = attributes.subject?.bind Subject.kind ∧
      attributes.get .targetEnvironment = attributes.subject?.bind Subject.environment := by
  cases found : attributes.subject? with
  | some subject => exact of_subject?_eq_some found
  | none =>
      have absent := subject?_eq_none_iff.1 found
      exact ⟨absent _ (by decide), absent _ (by decide), absent _ (by decide),
        absent _ (by decide)⟩

/-- What evidence tells about an attribute. It does not tell how the decision was spelled. -/
def told (evidence : Evidence) : PolicyAttribute → Option String
  | .ruleId => some evidence.ruleId
  | .ruleName => evidence.ruleName
  | .ruleUri => evidence.ruleUri
  | .engineName => some evidence.engineName
  | .engineVersion => evidence.engineVersion
  | .result => none
  | .message => evidence.message
  | .targetId => evidence.subject.bind Subject.id
  | .targetName => evidence.subject.bind Subject.name
  | .targetType => evidence.subject.bind Subject.kind
  | .targetEnvironment => evidence.subject.bind Subject.environment

theorem Describe.get_eq_told (described : attributes.Describe timestamp evidence)
    {name : PolicyAttribute} (notResult : name ≠ .result) :
    attributes.get name = told evidence name := by
  obtain ⟨targetId, targetName, targetType, targetEnvironment⟩ := attributes.bind_subject?
  rw [described.subject_eq] at targetId targetName targetType targetEnvironment
  cases name with
  | ruleId => exact described.ruleId
  | ruleName => exact described.ruleName
  | ruleUri => exact described.ruleUri
  | engineName => exact described.engineName
  | engineVersion => exact described.engineVersion
  | result => exact absurd rfl notResult
  | message => exact described.message
  | targetId => exact targetId
  | targetName => exact targetName
  | targetType => exact targetType
  | targetEnvironment => exact targetEnvironment

/-- Attributes that lead to the same evidence are similar. -/
theorem Describe.similar (described : attributes.Describe timestamp evidence)
    (also : other.Describe timestamp evidence) : attributes.Similar other := by
  constructor
  case texts =>
    intro key isPolicyKey notResult
    obtain ⟨name, rfl⟩ := mem_policyKeys_iff.1 isPolicyKey
    have notDecision : name ≠ .result := by
      rintro rfl
      exact notResult rfl
    exact (also.get_eq_told notDecision).trans (described.get_eq_told notDecision).symm
  case decision => exact also.decision.trans described.decision.symm

/-- Similar attributes lead to the same evidence. -/
theorem Describe.of_similar (described : attributes.Describe timestamp evidence)
    (similar : attributes.Similar other) : other.Describe timestamp evidence := by
  have sameTarget : ∀ key ∈ targetKeys, other.text? key = attributes.text? key := by
    intro key isTarget
    apply similar.texts
    · exact List.mem_append_right _ isTarget
    · rintro rfl
      exact absurd isTarget (by decide)
  constructor
  case ruleId => exact (similar.texts _ (by decide) (by decide)).trans described.ruleId
  case engineName => exact (similar.texts _ (by decide) (by decide)).trans described.engineName
  case decision => exact similar.decision.trans described.decision
  case ruleName => exact (similar.texts _ (by decide) (by decide)).trans described.ruleName
  case ruleUri => exact (similar.texts _ (by decide) (by decide)).trans described.ruleUri
  case engineVersion => exact (similar.texts _ (by decide) (by decide)).trans described.engineVersion
  case message => exact (similar.texts _ (by decide) (by decide)).trans described.message
  case targeted =>
    rw [described.targeted]
    apply exists_congr
    intro key
    apply and_congr_right
    intro isTarget
    rw [sameTarget key isTarget]
  case subject =>
    intro subject given
    obtain ⟨id, name, kind, environment⟩ := described.subject subject given
    exact ⟨(sameTarget _ (by decide)).trans id, (sameTarget _ (by decide)).trans name,
      (sameTarget _ (by decide)).trans kind, (sameTarget _ (by decide)).trans environment⟩
  case timestamp => exact described.timestamp
  case id => exact described.id
  case details => exact described.details

/-- Evidence is made of attributes exactly: it says what the eleven policy attributes say, or
nothing if a required one is absent, and then the refusal names all required ones that are. Other
attributes do not matter. Two sets of attributes lead to the same evidence only if they are the same
up to the spelling of the decision and to attributes that do not matter. -/
theorem evidence_exact (attributes : Attributes) (timestamp : Time.Instant) :
    let outcome := attributes.evidence timestamp
    ((∃ missing, outcome = .error missing) ↔
        ∃ key ∈ requiredKeys, attributes.text? key = none) ∧
      (∀ missing, outcome = .error missing → missing.map PolicyAttribute.key =
        requiredKeys.filter fun key => (attributes.text? key).isNone) ∧
      (∀ evidence, outcome = .ok evidence ↔ attributes.Describe timestamp evidence) ∧
      (∀ other : Attributes,
        (∀ key ∈ policyKeys, other.text? key = attributes.text? key) →
          other.evidence timestamp = outcome) ∧
      (∀ (other : Attributes) (evidence : Evidence), outcome = .ok evidence →
        (other.evidence timestamp = .ok evidence ↔ attributes.Similar other)) := by
  intro outcome
  refine ⟨exists_error_iff, fun _ => keys_of_evidence_eq_error, fun _ => evidence_eq_ok_iff,
    fun _ agree => evidence_congr agree timestamp, ?_⟩
  intro other evidence described
  have describes := evidence_eq_ok_iff.1 described
  rw [evidence_eq_ok_iff]
  exact ⟨describes.similar, describes.of_similar⟩

/-- Two empty texts, one of which is the only part of a subject, and a foreign attribute. -/
def emptyTarget : Attributes :=
  .ofList
    [("policy.rule.id", "rule"), ("policy.engine.name", ""), ("host.name", "node"),
      ("policy.evaluation.result", "success"), ("policy.target.name", "")]

/-- The same with another spelling of the decision. -/
def emptyTargetAgain : Attributes :=
  .ofList
    [("policy.rule.id", "rule"), ("policy.engine.name", ""),
      ("policy.evaluation.result", "PASSED"), ("policy.target.name", "")]

theorem evidence_emptyTarget :
    let timestamp : Time.Instant := ⟨⟨2026, 1, 1⟩, 0, 0, 0, 0⟩
    let evidence :=
      { Evidence.minimal "" "rule" .passed timestamp with
        subject := some ⟨none, some "", none, none⟩ }
    emptyTarget.Describe timestamp evidence ∧
      emptyTargetAgain.evidence timestamp = .ok evidence ∧
      ∃ missing,
        (ofList [("policy.engine.name", "")]).evidence timestamp = .error missing ∧
          missing.map PolicyAttribute.key = ["policy.rule.id", "policy.evaluation.result"] := by
  intro timestamp evidence
  have described : emptyTarget.evidence timestamp = .ok evidence := rfl
  have similar : emptyTarget.Similar emptyTargetAgain := ⟨by decide +kernel, by decide +kernel⟩
  obtain ⟨-, -, describes, -, sameEvidence⟩ := evidence_exact emptyTarget timestamp
  obtain ⟨refused, names, -, -, -⟩ :=
    evidence_exact (ofList [("policy.engine.name", "")]) timestamp
  obtain ⟨missing, isRefused⟩ := refused.2 ⟨"policy.rule.id", by decide, rfl⟩
  refine ⟨(describes evidence).1 described, (sameEvidence _ evidence described).2 similar,
    missing, isRefused, ?_⟩
  rw [names missing isRefused]
  decide +kernel

end ComplianceEvidence.Attributes
