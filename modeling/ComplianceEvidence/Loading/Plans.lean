import ComplianceEvidence.Journal.Report
import ComplianceEvidence.Mapping.Mapper
import ComplianceEvidence.Plan.Document

/-!
Contract: plans loaded from the files below a directory, and mappers made of them.

Owns: which files hold plans, the order in which they are read, and the distribution of plans over
catalogs. Plans without a catalog are left out.
-/

set_option autoImplicit false

namespace ComplianceEvidence

def PlanDocument.ofContent (path : String) (content : List UInt8) :
    Except Failure PlanDocument :=
  match Files.textOf content with
  | .error fault => .error (.file fault)
  | .ok text => (PlanDocument.ofText text).mapError (.planMalformed path)

def PlanDocument.ofFile (files : Files) (path : String) : Except Failure PlanDocument :=
  match (do (← files.node path).bytes) with
  | .error fault => .error (.file fault)
  | .ok content => PlanDocument.ofContent path content

def planExtensions : List String := ["yaml", "yml"]

def Files.Listed.holdsPlans (file : Files.Listed) : Bool :=
  (Files.extension? file.fileName).any planExtensions.contains

namespace Plan

/-- Reads files below a directory, one after the other. -/
def readAll (directory : String) : List Files.Listed → Report (List Plan)
  | [] => return []
  | file :: rest => do
      let path := file.path directory
      let document ← Report.ofExcept (PlanDocument.ofContent path file.content)
      Report.note (.planFileRead path document.plans.length)
      let others ← readAll directory rest
      return document.plans ++ others

def load (files : Files) (directory : String) : Report (List Plan) :=
  match files.node directory with
  | .error _ => .fail (.plansAbsent directory)
  | .ok (.directory entries) =>
      readAll directory
        ((Files.Node.directory entries).files.filter Files.Listed.holdsPlans)
  | .ok _ => .fail (.plansNotInDirectory directory)

/-- Puts plans under their catalogs, each behind the ones that are there. -/
def store (plans : List Plan) : PlanStore :=
  plans.foldl (fun store plan => store.append plan.catalogId [plan]) Ordered.Table.empty

end Plan

namespace Mapper

def droppedEvents (mapperId : String) (plans : List Plan) : List Journal.Event :=
  (plans.filter fun plan => plan.catalogId = "").map fun plan =>
    .planWithoutCatalog mapperId plan.control.entryId

def storedEvents (mapper : Mapper) : List Journal.Event :=
  (mapper.plans.entries.map fun (catalogId, plans) =>
      .plansAdded mapper.id catalogId plans.length) ++
    mapper.plans.shared.map (.procedureShared mapper.id)

/-- The mapper that holds the plans with a catalog. -/
def ofPlans (mapperId : String) (plans : List Plan) : Mapper :=
  ⟨mapperId, Plan.store (plans.filter fun plan => plan.catalogId ≠ "")⟩

def load (files : Files) (mapperId directory : String) : Report Mapper := do
  let plans ← Plan.load files directory
  let mapper := ofPlans mapperId plans
  Report.mk (droppedEvents mapperId plans ++ mapper.storedEvents) (.ok mapper)

end Mapper

end ComplianceEvidence
