import ComplianceEvidence.Evidence.Record
import ComplianceEvidence.Finding.Basic

/-!
Contract: evidence and findings as flat attributes of a log record.

Owns: the names of the attributes, evidence made from attributes, and the attributes that carry a
finding. Three attributes are required of a record; a present empty text counts as present.
-/

set_option autoImplicit false

namespace ComplianceEvidence

/-- The attributes that describe an evaluation. -/
inductive PolicyAttribute where
  | ruleId
  | ruleName
  | ruleUri
  | engineName
  | engineVersion
  | result
  | message
  | targetId
  | targetName
  | targetType
  | targetEnvironment
deriving DecidableEq, Repr

namespace PolicyAttribute

def key : PolicyAttribute → String
  | ruleId => "policy.rule.id"
  | ruleName => "policy.rule.name"
  | ruleUri => "policy.rule.uri"
  | engineName => "policy.engine.name"
  | engineVersion => "policy.engine.version"
  | result => "policy.evaluation.result"
  | message => "policy.evaluation.message"
  | targetId => "policy.target.id"
  | targetName => "policy.target.name"
  | targetType => "policy.target.type"
  | targetEnvironment => "policy.target.environment"

/-- What a record cannot do without, in the order of a complaint. -/
def required : List PolicyAttribute := [ruleId, engineName, result]

end PolicyAttribute

/-- The attributes of a log record: the text under each key. -/
structure Attributes where
  text? : String → Option String

namespace Attributes

/-- The attributes of a list of keys and texts; of several texts under one key the last counts. -/
def ofList (entries : List (String × String)) : Attributes :=
  ⟨fun key => entries.reverse.lookup key⟩

def get (attributes : Attributes) (name : PolicyAttribute) : Option String :=
  attributes.text? name.key

def missing (attributes : Attributes) : List PolicyAttribute :=
  PolicyAttribute.required.filter fun name => (attributes.get name).isNone

/-- The subject that the attributes describe, if they give any part of it. -/
def subject? (attributes : Attributes) : Option Subject :=
  let subject : Subject :=
    { id := attributes.get .targetId
      name := attributes.get .targetName
      kind := attributes.get .targetType
      environment := attributes.get .targetEnvironment }
  if subject = ⟨none, none, none, none⟩ then none else some subject

/-- The evidence that attributes describe, or the required attributes that are absent. -/
def evidence (attributes : Attributes) (timestamp : Time.Instant) :
    Except (List PolicyAttribute) Evidence :=
  match attributes.get .ruleId, attributes.get .engineName, attributes.get .result with
  | some ruleId, some engineName, some result =>
      .ok
        { Evidence.minimal engineName ruleId (Decision.ofText result) timestamp with
          engineVersion := attributes.get .engineVersion
          ruleName := attributes.get .ruleName
          ruleUri := attributes.get .ruleUri
          message := attributes.get .message
          subject := attributes.subject? }
  | _, _, _ => .error attributes.missing

end Attributes

inductive AttributeValue where
  | text (value : String)
  | texts (values : List String)
deriving DecidableEq, Repr

namespace Finding

def outcomeKey : String := "compliance.enrichment.status"

def outcomeAttribute (outcome : Outcome) : String × AttributeValue :=
  (outcomeKey, .text outcome.text)

/-- The attributes that carry a finding. One that is not about a control has its outcome only. -/
def attributes (finding : Finding) : List (String × AttributeValue) :=
  outcomeAttribute finding.outcome ::
    if finding.outcome = .success then
      [("compliance.status", .text finding.verdict.text),
        ("compliance.control.id", .text finding.control.id),
        ("compliance.control.catalog.id", .text finding.control.catalogId),
        ("compliance.control.category", .text finding.control.category),
        ("compliance.requirements", .texts finding.frameworks.requirements),
        ("compliance.frameworks", .texts finding.frameworks.standards)] ++
        (finding.control.remediation.toList.map
          fun remediation => ("compliance.remediation.description", .text remediation))
    else []

end Finding

end ComplianceEvidence
