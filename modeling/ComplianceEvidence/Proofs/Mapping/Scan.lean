import ComplianceEvidence.Mapping.Index
import ComplianceEvidence.Proofs.Ordered.Keys

/-!
Contract: both indexes answer as a scan from the end would.

Owns: what look-up, size and emptiness of an index tell of the items that it was made of, the order
in which procedures and controls are met, and the index of plans behind other plans.

An index is made by insertions, each in the place of an earlier one for the same id. A scan from the
end meets the last of them first, so all parts of an entry are from one item, and it need not go on
to plans in front of a plan that has the id.
-/

set_option autoImplicit false

namespace ComplianceEvidence

open Ordered (Table)

/-- Look-up finds the entry of the last item with an id, each id is counted once, and there is
nothing to find only where there are no items. -/
structure Scans {Item Entry : Type} (items : List Item) (idOf : Item → String)
    (entryOf : Item → Entry) (find? : String → Option Entry) (size : Nat) (isEmpty : Bool) :
    Prop where
  found : ∀ id, find? id = (items.findRev? fun item => idOf item = id).map entryOf
  absent : ∀ id, find? id = none ↔ ∀ item ∈ items, idOf item ≠ id
  counted : size = (items.map idOf).dedup.length
  nothing : isEmpty = true ↔ items = []

theorem scans_ofList {Item Entry : Type} (items : List Item) (idOf : Item → String)
    (entryOf : Item → Entry) :
    let table := Table.ofList (items.map fun item => (idOf item, entryOf item))
    Scans items idOf entryOf table.find? table.size table.isEmpty := by
  constructor
  case found =>
    intro id
    exact Table.find?_ofList_map
  case absent =>
    intro id
    exact Table.find?_ofList_map_eq_none_iff
  case counted =>
    rw [Table.size_ofList, List.map_map]
    rfl
  case nothing => rw [Table.isEmpty_ofList_iff, List.map_eq_nil_iff]

/-! ## Procedures -/

namespace Plan

/-- Every procedure of some plans with what it is part of, plan by plan and assessment by
assessment. -/
def uses (plans : List Plan) : List (Plan × Assessment × Procedure) :=
  plans.flatMap fun plan =>
    plan.assessments.flatMap fun assessment =>
      assessment.procedures.map fun procedure => (plan, assessment, procedure)

/-- What a procedure leads to. -/
def entryOf : Plan × Assessment × Procedure → ProcedureEntry
  | (plan, assessment, procedure) =>
      { controlId := plan.control.entryId
        requirementId := assessment.requirement.entryId
        documentation := procedure.documentation }

/-- Puts the procedures of a plan into a table, each in the place of an earlier one with its id. -/
def insertInto (table : Table ProcedureEntry) (plan : Plan) : Table ProcedureEntry :=
  plan.assessments.foldl (fun table assessment =>
    assessment.procedures.foldl (fun table procedure =>
      table.insert procedure.id (entryOf (plan, assessment, procedure))) table) table

theorem map_occurrences (plans : List Plan) :
    ((occurrences plans).map fun occurrence => (occurrence.procedure.id, occurrence.entry)) =
      (uses plans).map fun item => (item.2.2.id, entryOf item) := by
  simp only [occurrences, procedures, uses, List.map_flatMap, List.map_map]
  rfl

theorem uses_append (plans more : List Plan) : uses (plans ++ more) = uses plans ++ uses more :=
  List.flatMap_append

end Plan

namespace ProcedureIndex

theorem scans_ofPlans (plans : List Plan) :
    let index := ofPlans plans
    Scans (Plan.uses plans) (fun (_, _, procedure) => procedure.id) Plan.entryOf index.find?
      index.size index.isEmpty := by
  have scans := scans_ofList (Plan.uses plans) (fun (_, _, procedure) => procedure.id) Plan.entryOf
  rw [← Plan.map_occurrences] at scans
  exact scans

/-- The index is what is left when one plan after the other is put into a table. -/
theorem table_ofPlans (plans : List Plan) :
    (ofPlans plans).table = plans.foldl Plan.insertInto .empty := by
  show Table.ofList _ = _
  rw [Plan.map_occurrences, Table.ofList, Plan.uses]
  simp only [List.foldl_map, List.foldl_flatMap]
  rfl

theorem find?_ofPlans_append (plans more : List Plan) (id : String) :
    (ofPlans (plans ++ more)).find? id =
      ((ofPlans more).find? id).or ((ofPlans plans).find? id) := by
  simp only [(scans_ofPlans _).found, Plan.uses_append, List.findRev?_eq_find?_reverse,
    List.reverse_append, List.find?_append, Option.map_or]

end ProcedureIndex

/-! ## Both indexes -/

/-- Both indexes find what a scan from the end meets first, though they are made by insertions from
the front. Behind other plans, some plans take the place of these for the ids that they have, and
leave the other ids alone. -/
theorem indexes_scan (plans : List Plan) (catalog : Catalog) :
    let procedures := ProcedureIndex.ofPlans plans
    let controls := ControlIndex.ofCatalog catalog
    procedures.table = plans.foldl Plan.insertInto .empty ∧
      Scans (Plan.uses plans) (fun (_, _, procedure) => procedure.id) Plan.entryOf
        procedures.find? procedures.size procedures.isEmpty ∧
      Scans
        (catalog.families.flatMap fun family =>
          family.controls.map fun control => (family, control))
        (fun (_, control) => control.id)
        (fun (family, control) => { category := family.title, guidelines := control.guidelines })
        controls.find? controls.size controls.isEmpty ∧
      ∀ (more : List Plan) (id : String),
        (ProcedureIndex.ofPlans (plans ++ more)).find? id =
          ((ProcedureIndex.ofPlans more).find? id).or (procedures.find? id) := by
  intro procedures controls
  refine ⟨ProcedureIndex.table_ofPlans plans, ProcedureIndex.scans_ofPlans plans, ?_, ?_⟩
  · exact scans_ofList catalog.controls (fun (_, control) => control.id)
      fun (family, control) => ControlEntry.of family control
  · intro more id
    exact ProcedureIndex.find?_ofPlans_append plans more id

/-- A later plan has the procedure, so its control counts, and so does the lack of documentation. -/
example :
    let planFor (controlId : String) (documentation : Option String) : Plan :=
      { control := { entryId := controlId }
        assessments :=
          [{ requirement := {}, procedures := [{ id := "p", documentation := documentation }] }] }
    (ProcedureIndex.ofPlans [planFor "first" (some "how"), planFor "second" none]).find? "p" =
      some ⟨"second", "", none⟩ := by
  decide +kernel

end ComplianceEvidence
