import ComplianceEvidence.Finding.Basic
import ComplianceEvidence.Mapping.Index
import ComplianceEvidence.Mapping.Scope

/-!
Contract: the search of a control for a policy rule.

Owns: the plans of a mapper by catalog, the match that a catalog offers for a rule, the reasons why
it offers none, and the search through all catalogs in ascending order of their ids. The first
catalog with a match decides.
-/

set_option autoImplicit false

namespace ComplianceEvidence

/-- Plans under the ids of the catalogs that they are meant for. -/
abbrev PlanStore := Ordered.Table (List Plan)

/-- Puts plans behind those that are stored under an id. -/
def PlanStore.append (store : PlanStore) (catalogId : String) (plans : List Plan) : PlanStore :=
  store.alter catalogId fun present => present.getD [] ++ plans

def PlanStore.planCount (store : PlanStore) : Nat :=
  store.values.flatten.length

/-! ## One catalog -/

/-- Why a catalog offers no match. -/
inductive Miss where
  | catalogAbsent (catalogId : String)
  | ruleAbsent (catalogId ruleId : String)
  | controlAbsent (catalogId controlId : String)
deriving DecidableEq, Repr

def Miss.text : Miss → String
  | catalogAbsent catalogId => "catalog " ++ catalogId ++ " not found"
  | ruleAbsent catalogId ruleId =>
      "policy rule " ++ ruleId ++ " not found in plans for catalog " ++ catalogId
  | controlAbsent catalogId controlId =>
      "control data for " ++ controlId ++ " not found in catalog " ++ catalogId

/-- A procedure for a rule and the control that it assesses. -/
structure Match where
  catalogId : String
  procedure : ProcedureEntry
  control : ControlEntry
deriving DecidableEq, Repr

def Match.finding (found : Match) (verdict : Verdict) : Finding :=
  { verdict := verdict
    control :=
      { id := found.procedure.requirementId
        catalogId := found.catalogId
        category := found.control.category
        remediation := found.procedure.documentation.filter fun text => text ≠ "" }
    frameworks :=
      { requirements := found.control.requirements
        standards := found.control.standards }
    outcome := .success }

/-- The match of a rule in one catalog. -/
def matchIn (scope : Scope) (ruleId catalogId : String) (plans : List Plan) :
    Except Miss Match :=
  match scope.find? catalogId with
  | none => .error (.catalogAbsent catalogId)
  | some catalog =>
      match (ProcedureIndex.ofPlans plans).find? ruleId with
      | none => .error (.ruleAbsent catalogId ruleId)
      | some procedure =>
          match (ControlIndex.ofCatalog catalog).find? procedure.controlId with
          | none => .error (.controlAbsent catalogId procedure.controlId)
          | some control => .ok ⟨catalogId, procedure, control⟩

/-! ## All catalogs -/

/-- The first match, and the misses before it. -/
def search (scope : Scope) (ruleId : String) :
    List (String × List Plan) → List Miss × Option Match
  | [] => ([], none)
  | (catalogId, plans) :: rest =>
      match matchIn scope ruleId catalogId plans with
      | .ok found => ([], some found)
      | .error miss =>
          let (misses, found) := search scope ruleId rest
          (miss :: misses, found)

/-- A finding with the misses before it. -/
structure Resolution where
  finding : Finding
  misses : List Miss
deriving DecidableEq, Repr

def resolve (scope : Scope) (store : PlanStore) (ruleId : String) (verdict : Verdict) :
    Resolution :=
  let (misses, found) := search scope ruleId store.entries
  { finding := (found.map fun present => present.finding verdict).getD Finding.unmapped
    misses := misses }

end ComplianceEvidence
