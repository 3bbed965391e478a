import ComplianceEvidence.Mapping.Resolution

/-!
Contract: procedures that plans use for several catalogs.

Owns: the report of every use of a procedure behind its first catalog. Catalogs are taken in
ascending order of their ids, and the first one with a procedure owns it.
-/

set_option autoImplicit false

namespace ComplianceEvidence

/-- A use of a procedure for another catalog than the one that owns it. -/
structure SharedProcedure where
  procedureId : String
  catalogId : String
  ownerId : String
deriving DecidableEq, Repr

def Plan.procedureIds (plans : List Plan) : List String :=
  (Plan.occurrences plans).map fun occurrence => occurrence.procedure.id

/-- Every procedure with the catalog that it is used for, in order. -/
def PlanStore.uses (store : PlanStore) : List (String × String) :=
  store.entries.flatMap fun (catalogId, plans) =>
    (Plan.procedureIds plans).map fun procedureId => (procedureId, catalogId)

/-- The shared uses among several, where some procedures have owners already. -/
def sharedAmong (owners : Ordered.Table String) : List (String × String) → List SharedProcedure
  | [] => []
  | (procedureId, catalogId) :: rest =>
      match owners.find? procedureId with
      | none => sharedAmong (owners.insert procedureId catalogId) rest
      | some owner =>
          if owner = catalogId then sharedAmong owners rest
          else ⟨procedureId, catalogId, owner⟩ :: sharedAmong owners rest

/-- Every use of a procedure for a catalog that does not own it. -/
def PlanStore.shared (store : PlanStore) : List SharedProcedure :=
  sharedAmong .empty store.uses

end ComplianceEvidence
