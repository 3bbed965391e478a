/-!
Contract: plans that say which procedures assess which controls.

Owns: the types of a plan, from the document down to a procedure, and the list of all procedures.
-/

set_option autoImplicit false

namespace ComplianceEvidence

structure EntryReference where
  catalogId : String := ""
  entryId : String := ""
  remarks : Option String := none
deriving DecidableEq, Repr

/-- A procedure that assesses a requirement. Its id is the id of a policy rule. -/
structure Procedure where
  id : String
  name : Option String := none
  description : Option String := none
  documentation : Option String := none
deriving DecidableEq, Repr

structure Assessment where
  requirement : EntryReference
  procedures : List Procedure := []
deriving DecidableEq, Repr

structure Plan where
  control : EntryReference
  assessments : List Assessment := []
deriving DecidableEq, Repr

namespace Plan

def catalogId (plan : Plan) : String := plan.control.catalogId

/-- Every procedure with its assessment, in the order of the plan. -/
def procedures (plan : Plan) : List (Assessment × Procedure) :=
  plan.assessments.flatMap fun assessment =>
    assessment.procedures.map fun procedure => (assessment, procedure)

end Plan

/-- A procedure with what it is part of. -/
structure Occurrence where
  plan : Plan
  assessment : Assessment
  procedure : Procedure
deriving DecidableEq, Repr

/-- Every procedure of several plans, in the order of the plans. -/
def Plan.occurrences (plans : List Plan) : List Occurrence :=
  plans.flatMap fun plan =>
    plan.procedures.map fun (assessment, procedure) => ⟨plan, assessment, procedure⟩

/-- What a document tells about its plans as a whole. -/
structure PlanMetadata where
  id : Option String := none
  version : Option String := none
  author : Option String := none
deriving DecidableEq, Repr

structure PlanDocument where
  metadata : Option PlanMetadata := none
  plans : List Plan := []
deriving DecidableEq, Repr

end ComplianceEvidence
