import ComplianceEvidence.Catalog.Basic
import ComplianceEvidence.Ordered.Table
import ComplianceEvidence.Plan.Basic

/-!
Contract: what the ids of procedures and of controls lead to.

Owns: the two indexes. Where an id is used several times, the last use counts, and everything that
an entry tells is told by that use.
-/

set_option autoImplicit false

namespace ComplianceEvidence

open Ordered (Table)

/-! ## Procedures -/

/-- What the id of a procedure leads to. -/
structure ProcedureEntry where
  controlId : String
  requirementId : String
  documentation : Option String
deriving DecidableEq, Repr

def Occurrence.entry (occurrence : Occurrence) : ProcedureEntry :=
  { controlId := occurrence.plan.control.entryId
    requirementId := occurrence.assessment.requirement.entryId
    documentation := occurrence.procedure.documentation }

structure ProcedureIndex where
  table : Table ProcedureEntry

namespace ProcedureIndex

def ofPlans (plans : List Plan) : ProcedureIndex :=
  ⟨.ofList ((Plan.occurrences plans).map fun occurrence =>
    (occurrence.procedure.id, occurrence.entry))⟩

def find? (index : ProcedureIndex) (id : String) : Option ProcedureEntry :=
  index.table.find? id

def size (index : ProcedureIndex) : Nat := index.table.size

def isEmpty (index : ProcedureIndex) : Bool := index.table.isEmpty

end ProcedureIndex

/-! ## Controls -/

/-- What the id of a control leads to. -/
structure ControlEntry where
  category : String
  guidelines : List Catalog.Guideline
deriving DecidableEq, Repr

namespace ControlEntry

def of (family : Catalog.Family) (control : Catalog.Control) : ControlEntry :=
  ⟨family.title, control.guidelines⟩

/-- The standards that a control is mapped to, in order. -/
def standards (entry : ControlEntry) : List String :=
  entry.guidelines.map Catalog.Guideline.standard

/-- The requirements that a control meets, of all standards in order. -/
def requirements (entry : ControlEntry) : List String :=
  entry.guidelines.flatMap fun guideline =>
    guideline.entries.map Catalog.GuidelineEntry.requirement

end ControlEntry

structure ControlIndex where
  table : Table ControlEntry

namespace ControlIndex

def ofCatalog (catalog : Catalog) : ControlIndex :=
  ⟨.ofList (catalog.controls.map fun (family, control) => (control.id, .of family control))⟩

def find? (index : ControlIndex) (id : String) : Option ControlEntry :=
  index.table.find? id

def size (index : ControlIndex) : Nat := index.table.size

def isEmpty (index : ControlIndex) : Bool := index.table.isEmpty

end ControlIndex

end ComplianceEvidence
