import ComplianceEvidence.Finding.Status
import ComplianceEvidence.Json.Record

/-!
Contract: compliance findings.

Owns: the finding for one record, the finding for a record without a control, and the JSON form of
a finding and of the response that carries it.
-/

set_option autoImplicit false

namespace ComplianceEvidence

open Json (Node Shape Value)

/-- The control that a finding is about. -/
structure ControlContext where
  /-- The assessed requirement, which need not be the control's own identifier. -/
  id : String
  catalogId : String
  /-- The title of the family that owns the control. -/
  category : String
  /-- How to remedy a failure, from the procedure that was matched. -/
  remediation : Option String
deriving DecidableEq, Repr

/-- The standards that a control maps to, and the requirements within them. -/
structure Frameworks where
  requirements : List String
  standards : List String
deriving DecidableEq, Repr

structure Finding where
  verdict : Verdict
  control : ControlContext
  frameworks : Frameworks
  outcome : Outcome
deriving DecidableEq, Repr

namespace Finding

/-- The finding for a record that no control was found for. -/
def unmapped : Finding :=
  { verdict := .unknown
    control :=
      { id := "UNMAPPED"
        catalogId := "UNMAPPED"
        category := "UNCATEGORIZED"
        remediation := none }
    frameworks := ⟨[], []⟩
    outcome := .unmapped }

def isMapped (finding : Finding) : Bool :=
  finding.outcome = .success

end Finding

structure Response where
  finding : Finding
deriving DecidableEq, Repr

/-! ## Written form -/

def ControlContext.toJson (control : ControlContext) : Value :=
  .object <|
    [("id", .text control.id), ("catalogId", .text control.catalogId),
      ("category", .text control.category)] ++
      Json.optionalText "remediationDescription" control.remediation

def Frameworks.toJson (frameworks : Frameworks) : Value :=
  .object
    [("requirements", Json.texts frameworks.requirements),
      ("frameworks", Json.texts frameworks.standards)]

def Finding.toJson (finding : Finding) : Value :=
  .object
    [("status", finding.verdict.toJson), ("control", finding.control.toJson),
      ("frameworks", finding.frameworks.toJson), ("enrichmentStatus", finding.outcome.toJson)]

def Response.toJson (response : Response) : Value :=
  .object [("compliance", response.finding.toJson)]

/-! ## Reading -/

namespace ControlContext

inductive Field where
  | id
  | catalogId
  | category
  | remediation
deriving DecidableEq, Repr

namespace Field

def label : Field → String
  | id => "id"
  | catalogId => "catalogId"
  | category => "category"
  | remediation => "remediationDescription"

def all : List Field := [id, catalogId, category, remediation]

def named? (key : String) : Option Field :=
  all.find? fun field => field.label = key

end Field

/-- The fields read so far. -/
structure Draft where
  id : Option String := none
  catalogId : Option String := none
  category : Option String := none
  remediation : Option (Option String) := none

def Draft.isFilled (field : Field) (draft : Draft) : Bool :=
  match field with
  | .id => draft.id.isSome
  | .catalogId => draft.catalogId.isSome
  | .category => draft.category.isSome
  | .remediation => draft.remediation.isSome

def Draft.read (field : Field) (node : Node) (draft : Draft) : Except Json.Fault Draft :=
  match field with
  | .id => (Json.readString node).map fun value => { draft with id := some value }
  | .catalogId => (Json.readString node).map fun value => { draft with catalogId := some value }
  | .category => (Json.readString node).map fun value => { draft with category := some value }
  | .remediation =>
      (Json.readOptional Json.readString node).map
        fun value => { draft with remediation := some value }

def Draft.finish (draft : Draft) : Except Field ControlContext :=
  match draft.id, draft.catalogId, draft.category with
  | none, _, _ => .error .id
  | _, none, _ => .error .catalogId
  | _, _, none => .error .category
  | some id, some catalogId, some category =>
      .ok ⟨id, catalogId, category, draft.remediation.join⟩

def shape : Shape Field Draft ControlContext where
  expected := "struct ControlContext"
  order := Field.all
  named? := Field.named?
  label := Field.label
  isRequired := fun field => field ≠ .remediation
  isFilled := Draft.isFilled
  read := fun field _ node draft => draft.read field node
  blank := {}
  finish := Draft.finish

end ControlContext

namespace Frameworks

inductive Field where
  | requirements
  | standards
deriving DecidableEq, Repr

namespace Field

def label : Field → String
  | requirements => "requirements"
  | standards => "frameworks"

def all : List Field := [requirements, standards]

def named? (key : String) : Option Field :=
  all.find? fun field => field.label = key

end Field

structure Draft where
  requirements : Option (List String) := none
  standards : Option (List String) := none

def Draft.isFilled (field : Field) (draft : Draft) : Bool :=
  match field with
  | .requirements => draft.requirements.isSome
  | .standards => draft.standards.isSome

def Draft.read (field : Field) (depth : Nat) (node : Node) (draft : Draft) :
    Except Json.Fault Draft := do
  let values ← Json.readStrings depth node
  return match field with
    | .requirements => { draft with requirements := some values }
    | .standards => { draft with standards := some values }

def shape : Shape Field Draft Frameworks where
  expected := "struct Frameworks"
  order := Field.all
  named? := Field.named?
  label := Field.label
  isRequired := fun _ => false
  isFilled := Draft.isFilled
  read := Draft.read
  blank := {}
  finish := fun draft => .ok ⟨draft.requirements.getD [], draft.standards.getD []⟩

end Frameworks

namespace Finding

inductive Field where
  | verdict
  | control
  | frameworks
  | outcome
deriving DecidableEq, Repr

namespace Field

def label : Field → String
  | verdict => "status"
  | control => "control"
  | frameworks => "frameworks"
  | outcome => "enrichmentStatus"

def all : List Field := [verdict, control, frameworks, outcome]

def named? (key : String) : Option Field :=
  all.find? fun field => field.label = key

end Field

structure Draft where
  verdict : Option Verdict := none
  control : Option ControlContext := none
  frameworks : Option Frameworks := none
  outcome : Option Outcome := none

def Draft.isFilled (field : Field) (draft : Draft) : Bool :=
  match field with
  | .verdict => draft.verdict.isSome
  | .control => draft.control.isSome
  | .frameworks => draft.frameworks.isSome
  | .outcome => draft.outcome.isSome

def Draft.read (field : Field) (depth : Nat) (node : Node) (draft : Draft) :
    Except Json.Fault Draft :=
  match field with
  | .verdict =>
      (Json.readVariant Verdict.variants depth node).map
        fun value => { draft with verdict := some value }
  | .control =>
      (ControlContext.shape.readNode depth node).map
        fun value => { draft with control := some value }
  | .frameworks =>
      (Frameworks.shape.readNode depth node).map
        fun value => { draft with frameworks := some value }
  | .outcome =>
      (Json.readVariant Outcome.variants depth node).map
        fun value => { draft with outcome := some value }

def Draft.finish (draft : Draft) : Except Field Finding :=
  match draft.verdict, draft.control, draft.frameworks, draft.outcome with
  | none, _, _, _ => .error .verdict
  | _, none, _, _ => .error .control
  | _, _, none, _ => .error .frameworks
  | _, _, _, none => .error .outcome
  | some verdict, some control, some frameworks, some outcome =>
      .ok ⟨verdict, control, frameworks, outcome⟩

def shape : Shape Field Draft Finding where
  expected := "struct Compliance"
  order := Field.all
  named? := Field.named?
  label := Field.label
  isRequired := fun _ => true
  isFilled := Draft.isFilled
  read := Draft.read
  blank := {}
  finish := Draft.finish

end Finding

namespace Response

inductive Field where
  | finding
deriving DecidableEq, Repr

/-- Reads a record with one required field; the draft is that field. -/
def shape : Shape Field (Option Finding) Response where
  expected := "struct EnrichmentResponse"
  order := [.finding]
  named? := fun key => if key = "compliance" then some .finding else none
  label := fun _ => "compliance"
  isRequired := fun _ => true
  isFilled := fun _ draft => draft.isSome
  read := fun _ depth node _ => (Finding.shape.readNode depth node).map some
  blank := none
  finish := fun draft =>
    match draft with
    | some finding => .ok ⟨finding⟩
    | none => .error .finding

def ofText (text : String) : Except Json.Complaint Response :=
  Json.readDocument (shape.readNode Json.nestingLimit) text

end Response

end ComplianceEvidence
