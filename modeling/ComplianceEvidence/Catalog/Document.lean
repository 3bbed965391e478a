import ComplianceEvidence.Catalog.Basic
import ComplianceEvidence.Json.Value
import ComplianceEvidence.Yaml.Record

/-!
Contract: catalogs as YAML documents and as JSON values.

Owns: the names of the fields in both forms. Lists may be left out of a document and are always
written; other optional fields are written if they are present.
-/

set_option autoImplicit false

namespace ComplianceEvidence.Catalog

open Yaml (Field Shape readList readOptional readText readOctet required)

/-! ## Documents -/

structure GuidelineEntry.Draft where
  requirement : Option String := none
  strength : Option (Option UInt8) := none
  remarks : Option (Option String) := none

def GuidelineEntry.shape : Shape Draft GuidelineEntry where
  expected := "struct MappingEntry"
  fields :=
    [.of "reference-id" Draft.requirement
        (fun value draft => { draft with requirement := some value }) readText,
      .of "strength" Draft.strength
        (fun value draft => { draft with strength := some value }) (readOptional readOctet),
      .of "remarks" Draft.remarks
        (fun value draft => { draft with remarks := some value }) (readOptional readText)]
  blank := {}
  finish := fun draft => do
    let requirement ← required "reference-id" draft.requirement
    return { requirement, strength := draft.strength.join, remarks := draft.remarks.join }

structure Guideline.Draft where
  standard : Option String := none
  entries : Option (List GuidelineEntry) := none

def Guideline.shape : Shape Draft Guideline where
  expected := "struct GuidelineMapping"
  fields :=
    [.of "reference-id" Draft.standard
        (fun value draft => { draft with standard := some value }) readText,
      .of "entries" Draft.entries
        (fun value draft => { draft with entries := some value })
        (readList GuidelineEntry.shape.read)]
  blank := {}
  finish := fun draft => do
    let standard ← required "reference-id" draft.standard
    return { standard, entries := draft.entries.getD [] }

structure Control.Draft where
  id : Option String := none
  title : Option (Option String) := none
  objective : Option (Option String) := none
  guidelines : Option (List Guideline) := none

def Control.shape : Shape Draft Control where
  expected := "struct Control"
  fields :=
    [.of "id" Draft.id (fun value draft => { draft with id := some value }) readText,
      .of "title" Draft.title
        (fun value draft => { draft with title := some value }) (readOptional readText),
      .of "objective" Draft.objective
        (fun value draft => { draft with objective := some value }) (readOptional readText),
      .of "guideline-mappings" Draft.guidelines
        (fun value draft => { draft with guidelines := some value })
        (readList Guideline.shape.read)]
  blank := {}
  finish := fun draft => do
    let id ← required "id" draft.id
    return {
      id
      title := draft.title.join
      objective := draft.objective.join
      guidelines := draft.guidelines.getD [] }

structure Family.Draft where
  id : Option (Option String) := none
  title : Option String := none
  description : Option (Option String) := none
  controls : Option (List Control) := none

def Family.shape : Shape Draft Family where
  expected := "struct ControlFamily"
  fields :=
    [.of "id" Draft.id
        (fun value draft => { draft with id := some value }) (readOptional readText),
      .of "title" Draft.title (fun value draft => { draft with title := some value }) readText,
      .of "description" Draft.description
        (fun value draft => { draft with description := some value }) (readOptional readText),
      .of "controls" Draft.controls
        (fun value draft => { draft with controls := some value }) (readList Control.shape.read)]
  blank := {}
  finish := fun draft => do
    let title ← required "title" draft.title
    return {
      id := draft.id.join
      title
      description := draft.description.join
      controls := draft.controls.getD [] }

/-- What a document tells about a catalog as a whole. -/
structure Metadata where
  id : String
  title : Option String
  version : Option String
  description : Option String

structure Metadata.Draft where
  id : Option String := none
  title : Option (Option String) := none
  version : Option (Option String) := none
  description : Option (Option String) := none

def Metadata.shape : Shape Draft Metadata where
  expected := "struct CatalogMetadata"
  fields :=
    [.of "id" Draft.id (fun value draft => { draft with id := some value }) readText,
      .of "title" Draft.title
        (fun value draft => { draft with title := some value }) (readOptional readText),
      .of "version" Draft.version
        (fun value draft => { draft with version := some value }) (readOptional readText),
      .of "description" Draft.description
        (fun value draft => { draft with description := some value }) (readOptional readText)]
  blank := {}
  finish := fun draft => do
    let id ← required "id" draft.id
    return {
      id
      title := draft.title.join
      version := draft.version.join
      description := draft.description.join }

structure Draft where
  metadata : Option Metadata := none
  families : Option (List Family) := none

def shape : Shape Draft Catalog where
  expected := "struct Catalog"
  fields :=
    [.of "metadata" Draft.metadata
        (fun value draft => { draft with metadata := some value }) Metadata.shape.read,
      .of "control-families" Draft.families
        (fun value draft => { draft with families := some value }) (readList Family.shape.read)]
  blank := {}
  finish := fun draft => do
    let metadata ← required "metadata" draft.metadata
    return {
      id := metadata.id
      title := metadata.title
      version := metadata.version
      description := metadata.description
      families := draft.families.getD [] }

def ofText (text : String) : Except Yaml.Fault Catalog :=
  shape.readDocument text

/-! ## Written form -/

open Json (Value)

def GuidelineEntry.toJson (entry : GuidelineEntry) : Value :=
  .object <|
    [("reference-id", .text entry.requirement)] ++
      Json.optionalMember "strength" (fun strength => Json.natural strength.toNat)
        entry.strength ++
      Json.optionalText "remarks" entry.remarks

def Guideline.toJson (guideline : Guideline) : Value :=
  .object
    [("reference-id", .text guideline.standard),
      ("entries", .list (guideline.entries.map GuidelineEntry.toJson))]

def Control.toJson (control : Control) : Value :=
  .object <|
    [("id", .text control.id)] ++ Json.optionalText "title" control.title ++
      Json.optionalText "objective" control.objective ++
      [("guideline-mappings", .list (control.guidelines.map Guideline.toJson))]

def Family.toJson (family : Family) : Value :=
  .object <|
    Json.optionalText "id" family.id ++ [("title", .text family.title)] ++
      Json.optionalText "description" family.description ++
      [("controls", .list (family.controls.map Control.toJson))]

def toJson (catalog : Catalog) : Value :=
  .object
    [("metadata",
        .object <|
          [("id", .text catalog.id)] ++ Json.optionalText "title" catalog.title ++
            Json.optionalText "version" catalog.version ++
            Json.optionalText "description" catalog.description),
      ("control-families", .list (catalog.families.map Family.toJson))]

end ComplianceEvidence.Catalog
