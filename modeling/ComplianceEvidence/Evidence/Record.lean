import ComplianceEvidence.Evidence.Decision
import ComplianceEvidence.Json.Record
import ComplianceEvidence.Time.Reading

/-!
Contract: evidence records as policy engines emit them.

Owns: the record of one policy evaluation and its subject, their JSON form, and the names under
which a member may be given. Writing uses the first name of each field and leaves out what is
absent; a member that is null counts as absent.
-/

set_option autoImplicit false

namespace ComplianceEvidence

open Json (Node Shape Value)

/-- What a policy was evaluated against. -/
structure Subject where
  id : Option String
  name : Option String
  kind : Option String
  environment : Option String
deriving DecidableEq, Repr

namespace Subject

inductive Field where
  | id
  | name
  | kind
  | environment
deriving DecidableEq, Repr

namespace Field

def label : Field → String
  | id => "id"
  | name => "name"
  | kind => "type"
  | environment => "environment"

def all : List Field := [id, name, kind, environment]

def named? (key : String) : Option Field :=
  all.find? fun field => field.label = key

end Field

/-- The fields read so far. -/
structure Draft where
  id : Option (Option String) := none
  name : Option (Option String) := none
  kind : Option (Option String) := none
  environment : Option (Option String) := none

def Draft.isFilled (field : Field) (draft : Draft) : Bool :=
  match field with
  | .id => draft.id.isSome
  | .name => draft.name.isSome
  | .kind => draft.kind.isSome
  | .environment => draft.environment.isSome

def Draft.read (field : Field) (node : Node) (draft : Draft) : Except Json.Fault Draft := do
  let value ← Json.readOptional Json.readString node
  return match field with
    | .id => { draft with id := some value }
    | .name => { draft with name := some value }
    | .kind => { draft with kind := some value }
    | .environment => { draft with environment := some value }

def Draft.subject (draft : Draft) : Subject :=
  { id := draft.id.join
    name := draft.name.join
    kind := draft.kind.join
    environment := draft.environment.join }

def shape : Shape Field Draft Subject where
  expected := "struct Subject"
  order := Field.all
  named? := Field.named?
  label := Field.label
  isRequired := fun _ => false
  isFilled := Draft.isFilled
  read := fun field _ node draft => draft.read field node
  blank := {}
  finish := fun draft => .ok draft.subject

def toJson (subject : Subject) : Value :=
  .object <|
    Json.optionalText "id" subject.id ++ Json.optionalText "name" subject.name ++
      Json.optionalText "type" subject.kind ++
        Json.optionalText "environment" subject.environment

end Subject

/-- The outcome of one policy evaluation. -/
structure Evidence where
  id : Option String
  engineName : String
  engineVersion : Option String
  ruleId : String
  ruleName : Option String
  ruleUri : Option String
  decision : Decision
  message : Option String
  timestamp : Time.Instant
  subject : Option Subject
  details : Option Value

namespace Evidence

/-- A record with nothing but what is required. -/
def minimal (engineName ruleId : String) (decision : Decision) (timestamp : Time.Instant) :
    Evidence :=
  { id := none
    engineName := engineName
    engineVersion := none
    ruleId := ruleId
    ruleName := none
    ruleUri := none
    decision := decision
    message := none
    timestamp := timestamp
    subject := none
    details := none }

inductive Field where
  | id
  | engineName
  | engineVersion
  | ruleId
  | ruleName
  | ruleUri
  | decision
  | message
  | timestamp
  | subject
  | details
deriving DecidableEq, Repr

namespace Field

/-- The name that is written. -/
def label : Field → String
  | id => "id"
  | engineName => "policyEngineName"
  | engineVersion => "policyEngineVersion"
  | ruleId => "policyRuleId"
  | ruleName => "policyRuleName"
  | ruleUri => "policyRuleUri"
  | decision => "policyEvaluationStatus"
  | message => "policyEvaluationMessage"
  | timestamp => "timestamp"
  | subject => "subject"
  | details => "details"

/-- The further names that are read. -/
def aliases : Field → List String
  | engineName => ["source"]
  | decision => ["decision", "evaluationStatus"]
  | _ => []

def all : List Field :=
  [id, engineName, engineVersion, ruleId, ruleName, ruleUri, decision, message, timestamp,
    subject, details]

def isRequired : Field → Bool
  | engineName | ruleId | decision | timestamp => true
  | _ => false

def named? (key : String) : Option Field :=
  all.find? fun field => (field.label :: field.aliases).contains key

end Field

structure Draft where
  id : Option (Option String) := none
  engineName : Option String := none
  engineVersion : Option (Option String) := none
  ruleId : Option String := none
  ruleName : Option (Option String) := none
  ruleUri : Option (Option String) := none
  decision : Option Decision := none
  message : Option (Option String) := none
  timestamp : Option Time.Instant := none
  subject : Option (Option Subject) := none
  details : Option (Option Value) := none

def Draft.isFilled (field : Field) (draft : Draft) : Bool :=
  match field with
  | .id => draft.id.isSome
  | .engineName => draft.engineName.isSome
  | .engineVersion => draft.engineVersion.isSome
  | .ruleId => draft.ruleId.isSome
  | .ruleName => draft.ruleName.isSome
  | .ruleUri => draft.ruleUri.isSome
  | .decision => draft.decision.isSome
  | .message => draft.message.isSome
  | .timestamp => draft.timestamp.isSome
  | .subject => draft.subject.isSome
  | .details => draft.details.isSome

def readTimestamp (node : Node) : Except Json.Fault Time.Instant :=
  Json.readTextAs "an RFC 3339 formatted date and time string"
    (fun text => (Time.Instant.ofText text.toList).mapError Time.Fault.message) node

def readOptionalText (node : Node) : Except Json.Fault (Option String) :=
  Json.readOptional Json.readString node

def Draft.read (field : Field) (depth : Nat) (node : Node) (draft : Draft) :
    Except Json.Fault Draft :=
  match field with
  | .id => (readOptionalText node).map fun value => { draft with id := some value }
  | .engineName => (Json.readString node).map fun value => { draft with engineName := some value }
  | .engineVersion =>
      (readOptionalText node).map fun value => { draft with engineVersion := some value }
  | .ruleId => (Json.readString node).map fun value => { draft with ruleId := some value }
  | .ruleName => (readOptionalText node).map fun value => { draft with ruleName := some value }
  | .ruleUri => (readOptionalText node).map fun value => { draft with ruleUri := some value }
  | .decision => (Decision.read node).map fun value => { draft with decision := some value }
  | .message => (readOptionalText node).map fun value => { draft with message := some value }
  | .timestamp => (readTimestamp node).map fun value => { draft with timestamp := some value }
  | .subject =>
      (Json.readOptional (Subject.shape.readNode depth) node).map
        fun value => { draft with subject := some value }
  | .details =>
      (Json.readOptional (Node.readValue depth) node).map
        fun value => { draft with details := some value }

def Draft.finish (draft : Draft) : Except Field Evidence :=
  match draft.engineName, draft.ruleId, draft.decision, draft.timestamp with
  | none, _, _, _ => .error .engineName
  | _, none, _, _ => .error .ruleId
  | _, _, none, _ => .error .decision
  | _, _, _, none => .error .timestamp
  | some engineName, some ruleId, some decision, some timestamp =>
      .ok
        { id := draft.id.join
          engineName := engineName
          engineVersion := draft.engineVersion.join
          ruleId := ruleId
          ruleName := draft.ruleName.join
          ruleUri := draft.ruleUri.join
          decision := decision
          message := draft.message.join
          timestamp := timestamp
          subject := draft.subject.join
          details := draft.details.join }

def shape : Shape Field Draft Evidence where
  expected := "struct Evidence"
  order := Field.all
  named? := Field.named?
  label := Field.label
  isRequired := Field.isRequired
  isFilled := Draft.isFilled
  read := Draft.read
  blank := {}
  finish := Draft.finish

def read (depth : Nat) (node : Node) : Except Json.Fault Evidence :=
  shape.readNode depth node

def ofText (text : String) : Except Json.Complaint Evidence :=
  Json.readDocument (read Json.nestingLimit) text

def toJson (evidence : Evidence) : Value :=
  .object <|
    Json.optionalText "id" evidence.id ++
      [("policyEngineName", .text evidence.engineName)] ++
      Json.optionalText "policyEngineVersion" evidence.engineVersion ++
      [("policyRuleId", .text evidence.ruleId)] ++
      Json.optionalText "policyRuleName" evidence.ruleName ++
      Json.optionalText "policyRuleUri" evidence.ruleUri ++
      [("policyEvaluationStatus", evidence.decision.toJson)] ++
      Json.optionalText "policyEvaluationMessage" evidence.message ++
      [("timestamp", .text evidence.timestamp.render)] ++
      Json.optionalMember "subject" Subject.toJson evidence.subject ++
      Json.optionalMember "details" (fun details => details) evidence.details

end Evidence

/-- A request to enrich one record. -/
structure Request where
  evidence : Evidence

namespace Request

inductive Field where
  | evidence
deriving DecidableEq, Repr

/-- Reads a record with one required field; the draft is that field. -/
def shape : Shape Field (Option Evidence) Request where
  expected := "struct EnrichmentRequest"
  order := [.evidence]
  named? := fun key => if key = "evidence" then some .evidence else none
  label := fun _ => "evidence"
  isRequired := fun _ => true
  isFilled := fun _ draft => draft.isSome
  read := fun _ depth node _ => (Evidence.read depth node).map some
  blank := none
  finish := fun draft =>
    match draft with
    | some evidence => .ok ⟨evidence⟩
    | none => .error .evidence

def ofText (text : String) : Except Json.Complaint Request :=
  Json.readDocument (shape.readNode Json.nestingLimit) text

def toJson (request : Request) : Value :=
  .object [("evidence", request.evidence.toJson)]

end Request

end ComplianceEvidence
