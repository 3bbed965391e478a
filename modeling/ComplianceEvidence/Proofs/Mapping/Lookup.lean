import ComplianceEvidence.Mapping.Index
import ComplianceEvidence.Proofs.Ordered.Last

/-!
Contract: both indexes agree with what plans and catalogs are made of.

Owns: which procedures some plans have and which controls a catalog has, and the last one with an
id, told part by part without a list of all; that a scan of all decides the same; and look-up in
either index in terms of them.

The last procedure with an id is found from the outside: in the last plan that has any, in the last
assessment of this plan that has any, the last one. The same holds for a control in its family.
-/

set_option autoImplicit false

namespace ComplianceEvidence

/-- There is one with a property among parts that are taken together with what they are part of. -/
theorem exists_mem_flatMap_map_iff {α β γ : Type} {items : List α} {parts : α → List β}
    {pair : α → β → γ} {holds : γ → Prop} :
    (∃ whole ∈ items.flatMap fun item => (parts item).map (pair item), holds whole) ↔
      ∃ item ∈ items, ∃ part ∈ parts item, holds (pair item part) := by
  simp only [List.mem_flatMap, List.mem_map]
  constructor
  · intro found
    rcases found with ⟨_, ⟨item, member, part, inItem, rfl⟩, property⟩
    exact ⟨item, member, part, inItem, property⟩
  · intro found
    rcases found with ⟨item, member, part, inItem, property⟩
    exact ⟨pair item part, ⟨item, member, part, inItem, rfl⟩, property⟩

/-! ## Procedures of plans -/

def Assessment.HasProcedure (assessment : Assessment) (id : String) : Prop :=
  ∃ procedure ∈ assessment.procedures, procedure.id = id

def Plan.HasProcedure (plan : Plan) (id : String) : Prop :=
  ∃ assessment ∈ plan.assessments, assessment.HasProcedure id

instance (plan : Plan) (id : String) : Decidable (plan.HasProcedure id) :=
  inferInstanceAs (Decidable (∃ assessment ∈ plan.assessments,
    ∃ procedure ∈ assessment.procedures, procedure.id = id))

/-- The last procedure for a rule among some plans, with what it is part of. -/
structure Assesses (plans : List Plan) (ruleId : String) (occurrence : Occurrence) : Prop where
  lastPlan : IsLast (fun plan => plan.HasProcedure ruleId) plans occurrence.plan
  lastAssessment : IsLast (fun assessment => assessment.HasProcedure ruleId)
    occurrence.plan.assessments occurrence.assessment
  lastProcedure : IsLast (fun procedure => procedure.id = ruleId)
    occurrence.assessment.procedures occurrence.procedure

section Procedures

variable {plans : List Plan} {id : String} {occurrence : Occurrence}

theorem Plan.exists_procedures_iff {plan : Plan} :
    (∃ part ∈ plan.procedures, part.2.id = id) ↔ plan.HasProcedure id :=
  exists_mem_flatMap_map_iff

theorem Plan.exists_occurrences_iff :
    (∃ occurrence ∈ occurrences plans, occurrence.procedure.id = id) ↔
      ∃ plan ∈ plans, plan.HasProcedure id := by
  simp only [← exists_procedures_iff]
  exact exists_mem_flatMap_map_iff

/-- The scan of a plan, assessment by assessment. -/
theorem Plan.isLast_procedures_iff {plan : Plan} {part : Assessment × Procedure} :
    IsLast (fun part => part.2.id = id) plan.procedures part ↔
      IsLast (fun assessment => assessment.HasProcedure id) plan.assessments part.1 ∧
        IsLast (fun procedure => procedure.id = id) part.1.procedures part.2 := by
  obtain ⟨assessment, procedure⟩ := part
  rw [procedures, IsLast.flatMap_map_iff]
  constructor
  · intro found
    rcases found with ⟨_, _, lastAssessment, lastProcedure, ⟨⟩⟩
    exact ⟨lastAssessment, lastProcedure⟩
  · intro both
    exact ⟨assessment, procedure, both.1, both.2, rfl⟩

/-- The scan of all plans, plan by plan. -/
theorem assesses_iff_isLast :
    Assesses plans id occurrence ↔
      IsLast (fun occurrence => occurrence.procedure.id = id) (Plan.occurrences plans)
        occurrence := by
  rw [Plan.occurrences, IsLast.flatMap_map_iff]
  simp only [Plan.exists_procedures_iff, Plan.isLast_procedures_iff]
  constructor
  · intro assesses
    have inPlan := And.intro assesses.lastAssessment assesses.lastProcedure
    exact ⟨occurrence.plan, (occurrence.assessment, occurrence.procedure), assesses.lastPlan,
      inPlan, rfl⟩
  · intro found
    rcases found with ⟨_, _, lastPlan, ⟨lastAssessment, lastProcedure⟩, rfl⟩
    exact ⟨lastPlan, lastAssessment, lastProcedure⟩

namespace Assesses

theorem unique {other : Occurrence} (first : Assesses plans id occurrence)
    (second : Assesses plans id other) : occurrence = other :=
  (assesses_iff_isLast.1 first).unique (assesses_iff_isLast.1 second)

/-- Only plans that there are assess a rule. -/
theorem ne_nil (assesses : Assesses plans id occurrence) : plans ≠ [] :=
  List.ne_nil_of_mem assesses.lastPlan.mem

end Assesses

end Procedures

/-! ## Controls of catalogs -/

namespace Catalog

def Family.HasControl (family : Family) (id : String) : Prop :=
  ∃ control ∈ family.controls, control.id = id

def HasControl (catalog : Catalog) (id : String) : Prop :=
  ∃ family ∈ catalog.families, family.HasControl id

/-- The last control with an id in a catalog, with its family. -/
structure Defines (catalog : Catalog) (controlId : String) (family : Family) (control : Control) :
    Prop where
  lastFamily : IsLast (fun family => family.HasControl controlId) catalog.families family
  lastControl : IsLast (fun control => control.id = controlId) family.controls control

variable {catalog : Catalog} {id : String} {family : Family} {control : Control}

theorem exists_controls_iff :
    (∃ owned ∈ catalog.controls, owned.2.id = id) ↔ catalog.HasControl id :=
  exists_mem_flatMap_map_iff

/-- A scan of all controls decides the same. -/
theorem defines_iff_isLast :
    catalog.Defines id family control ↔
      IsLast (fun owned => owned.2.id = id) catalog.controls (family, control) := by
  rw [controls, IsLast.flatMap_map_iff]
  constructor
  · intro defines
    exact ⟨_, _, defines.lastFamily, defines.lastControl, rfl⟩
  · intro found
    rcases found with ⟨_, _, lastFamily, lastControl, ⟨⟩⟩
    exact ⟨lastFamily, lastControl⟩

/-- There is a last control with an id as soon as there is any. -/
theorem exists_defines_iff :
    (∃ family control, catalog.Defines id family control) ↔ catalog.HasControl id := by
  simp only [defines_iff_isLast, ← exists_controls_iff, ← IsLast.exists_iff, Prod.exists]

theorem Defines.unique {otherFamily : Family} {otherControl : Control}
    (first : catalog.Defines id family control)
    (second : catalog.Defines id otherFamily otherControl) :
    family = otherFamily ∧ control = otherControl :=
  Prod.mk.inj ((defines_iff_isLast.1 first).unique (defines_iff_isLast.1 second))

end Catalog

/-! ## Indexes -/

namespace ProcedureIndex

variable {plans : List Plan} {id : String}

/-- The index has the entry of the last procedure with an id. -/
theorem find?_ofPlans_eq_some_iff {entry : ProcedureEntry} :
    (ofPlans plans).find? id = some entry ↔
      ∃ occurrence, Assesses plans id occurrence ∧ occurrence.entry = entry := by
  simp only [assesses_iff_isLast]
  exact Ordered.Table.find?_ofList_map_eq_some_iff

theorem find?_ofPlans_eq_none_iff :
    (ofPlans plans).find? id = none ↔ ∀ plan ∈ plans, ¬ plan.HasProcedure id := by
  have nothing : (ofPlans plans).find? id = none ↔ _ :=
    Ordered.Table.find?_ofList_map_eq_none_iff
  rw [nothing, ← not_iff_not]
  push Not
  exact Plan.exists_occurrences_iff

end ProcedureIndex

namespace ControlIndex

variable {catalog : Catalog} {id : String}

/-- The index has the entry of the last control with an id. -/
theorem find?_ofCatalog_eq_some_iff {entry : ControlEntry} :
    (ofCatalog catalog).find? id = some entry ↔
      ∃ family control, catalog.Defines id family control ∧
        ControlEntry.of family control = entry := by
  simp only [Catalog.defines_iff_isLast]
  exact Ordered.Table.find?_ofList_map_eq_some_iff.trans Prod.exists

theorem find?_ofCatalog_eq_none_iff :
    (ofCatalog catalog).find? id = none ↔ ¬ catalog.HasControl id := by
  have nothing : (ofCatalog catalog).find? id = none ↔ _ :=
    Ordered.Table.find?_ofList_map_eq_none_iff
  rw [nothing, ← Catalog.exists_controls_iff]
  push Not
  rfl

end ControlIndex

end ComplianceEvidence
