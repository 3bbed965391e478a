import ComplianceEvidence.Plan.Basic
import ComplianceEvidence.Json.Value
import ComplianceEvidence.Yaml.Record

/-!
Contract: plans as YAML documents and as JSON values.

Owns: the names of the fields in both forms. Lists and both ids of a reference may be left out of a
document and are always written; other optional fields are written if they are present.
-/

set_option autoImplicit false

namespace ComplianceEvidence

open Yaml (Field Shape readList readOptional readText required)

/-! ## Documents -/

structure EntryReference.Draft where
  catalogId : Option String := none
  entryId : Option String := none
  remarks : Option (Option String) := none

def EntryReference.shape : Shape Draft EntryReference where
  expected := "struct EntryReference"
  fields :=
    [.of "reference-id" Draft.catalogId
        (fun value draft => { draft with catalogId := some value }) readText,
      .of "entry-id" Draft.entryId
        (fun value draft => { draft with entryId := some value }) readText,
      .of "remarks" Draft.remarks
        (fun value draft => { draft with remarks := some value }) (readOptional readText)]
  blank := {}
  finish := fun draft =>
    .ok
      { catalogId := draft.catalogId.getD ""
        entryId := draft.entryId.getD ""
        remarks := draft.remarks.join }

structure Procedure.Draft where
  id : Option String := none
  name : Option (Option String) := none
  description : Option (Option String) := none
  documentation : Option (Option String) := none

def Procedure.shape : Shape Draft Procedure where
  expected := "struct AssessmentProcedure"
  fields :=
    [.of "id" Draft.id (fun value draft => { draft with id := some value }) readText,
      .of "name" Draft.name
        (fun value draft => { draft with name := some value }) (readOptional readText),
      .of "description" Draft.description
        (fun value draft => { draft with description := some value }) (readOptional readText),
      .of "documentation" Draft.documentation
        (fun value draft => { draft with documentation := some value }) (readOptional readText)]
  blank := {}
  finish := fun draft => do
    let id ← required "id" draft.id
    return {
      id
      name := draft.name.join
      description := draft.description.join
      documentation := draft.documentation.join }

structure Assessment.Draft where
  requirement : Option EntryReference := none
  procedures : Option (List Procedure) := none

def Assessment.shape : Shape Draft Assessment where
  expected := "struct Assessment"
  fields :=
    [.of "requirement" Draft.requirement
        (fun value draft => { draft with requirement := some value }) EntryReference.shape.read,
      .of "procedures" Draft.procedures
        (fun value draft => { draft with procedures := some value })
        (readList Procedure.shape.read)]
  blank := {}
  finish := fun draft => do
    let requirement ← required "requirement" draft.requirement
    return { requirement, procedures := draft.procedures.getD [] }

structure Plan.Draft where
  control : Option EntryReference := none
  assessments : Option (List Assessment) := none

def Plan.shape : Shape Draft Plan where
  expected := "struct AssessmentPlan"
  fields :=
    [.of "control" Draft.control
        (fun value draft => { draft with control := some value }) EntryReference.shape.read,
      .of "assessments" Draft.assessments
        (fun value draft => { draft with assessments := some value })
        (readList Assessment.shape.read)]
  blank := {}
  finish := fun draft => do
    let control ← required "control" draft.control
    return { control, assessments := draft.assessments.getD [] }

structure PlanMetadata.Draft where
  id : Option (Option String) := none
  version : Option (Option String) := none
  author : Option (Option String) := none

def PlanMetadata.shape : Shape Draft PlanMetadata where
  expected := "struct PlanMetadata"
  fields :=
    [.of "id" Draft.id
        (fun value draft => { draft with id := some value }) (readOptional readText),
      .of "version" Draft.version
        (fun value draft => { draft with version := some value }) (readOptional readText),
      .of "author" Draft.author
        (fun value draft => { draft with author := some value }) (readOptional readText)]
  blank := {}
  finish := fun draft =>
    .ok
      { id := draft.id.join
        version := draft.version.join
        author := draft.author.join }

structure PlanDocument.Draft where
  metadata : Option (Option PlanMetadata) := none
  plans : Option (List Plan) := none

def PlanDocument.shape : Shape Draft PlanDocument where
  expected := "struct EvaluationPlan"
  fields :=
    [.of "metadata" Draft.metadata
        (fun value draft => { draft with metadata := some value })
        (readOptional PlanMetadata.shape.read),
      .of "plans" Draft.plans
        (fun value draft => { draft with plans := some value }) (readList Plan.shape.read)]
  blank := {}
  finish := fun draft =>
    .ok
      { metadata := draft.metadata.join
        plans := draft.plans.getD [] }

def PlanDocument.ofText (text : String) : Except Yaml.Fault PlanDocument :=
  shape.readDocument text

/-! ## Written form -/

open Json (Value)

def EntryReference.toJson (reference : EntryReference) : Value :=
  .object <|
    [("reference-id", .text reference.catalogId), ("entry-id", .text reference.entryId)] ++
      Json.optionalText "remarks" reference.remarks

def Procedure.toJson (procedure : Procedure) : Value :=
  .object <|
    [("id", .text procedure.id)] ++ Json.optionalText "name" procedure.name ++
      Json.optionalText "description" procedure.description ++
      Json.optionalText "documentation" procedure.documentation

def Assessment.toJson (assessment : Assessment) : Value :=
  .object
    [("requirement", assessment.requirement.toJson),
      ("procedures", .list (assessment.procedures.map Procedure.toJson))]

def Plan.toJson (plan : Plan) : Value :=
  .object
    [("control", plan.control.toJson),
      ("assessments", .list (plan.assessments.map Assessment.toJson))]

def PlanMetadata.toJson (metadata : PlanMetadata) : Value :=
  .object <|
    Json.optionalText "id" metadata.id ++ Json.optionalText "version" metadata.version ++
      Json.optionalText "author" metadata.author

def PlanDocument.toJson (document : PlanDocument) : Value :=
  .object <|
    Json.optionalMember "metadata" PlanMetadata.toJson document.metadata ++
      [("plans", .list (document.plans.map Plan.toJson))]

end ComplianceEvidence
