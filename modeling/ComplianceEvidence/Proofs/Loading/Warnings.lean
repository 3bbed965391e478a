import ComplianceEvidence.Proofs.Loading.Grouping
import ComplianceEvidence.Proofs.Mapping.Sharing

/-!
Contract: a finding comes from the catalog that owns the procedure, or loading warned that it may
not.

Owns: which findings agree with a report of shared procedures, the agreement of every resolution
with the report on its mapper, and the notes of the report in a journal.

The report names the first catalog with any procedure for a rule. A resolution takes the last
procedure of a catalog, and goes on behind catalogs without a match. It never turns back, since a
catalog with a match has a procedure too.
-/

set_option autoImplicit false

namespace ComplianceEvidence

open Text.Utf8 (encode)

/-- What a report of shared procedures lets expect of a finding for a rule with an owner. The
finding is not about a catalog below the owner, it is about the owner exactly if the owner has a
match, and every other catalog that it is about is reported. -/
structure PlanStore.Foretells (store : PlanStore) (scope : Scope) (ruleId ownerId : String)
    (finding : Finding) : Prop where
  notBelow : finding.isMapped = true → encode ownerId ≤ encode finding.control.catalogId
  atOwner_iff : finding.isMapped = true ∧ finding.control.catalogId = ownerId ↔
    Matching (store.offers scope) ruleId ownerId
  elsewhere : finding.isMapped = true → finding.control.catalogId ≠ ownerId →
    ⟨ruleId, finding.control.catalogId, ownerId⟩ ∈ store.shared

/-! ## Matches -/

theorem Matching.usedFor {store : PlanStore} {scope : Scope} {ruleId catalogId : String}
    (matching : Matching (store.offers scope) ruleId catalogId) :
    store.UsedFor ruleId catalogId := by
  obtain ⟨catalog, plans, occurrence, offered, assessed, -⟩ := matching
  exact ⟨plans, offered.2, occurrence.plan, assessed.lastPlan.mem, assessed.lastPlan.property⟩

namespace Means

variable {offers : Offers} {evidence : Evidence} {finding : Finding} {catalogId : String}

theorem eq_unmapped_of_silent (means : Means offers evidence finding)
    (silent : ∀ catalogId, ¬ Matching offers evidence.ruleId catalogId) :
    finding = .unmapped := by
  cases means with
  | mapped offered _ assessed defined _ _ =>
      exact absurd (.of_defines offered assessed defined) (silent _)
  | unmapped _ => rfl

theorem isMapped_of_matching (means : Means offers evidence finding)
    (matching : Matching offers evidence.ruleId catalogId) : finding.isMapped = true :=
  decide_eq_true (means.success_iff.2 ⟨catalogId, matching⟩)

/-- A mapped finding is about a catalog with a match. -/
theorem matching_of_isMapped (means : Means offers evidence finding)
    (mapped : finding.isMapped = true) :
    Matching offers evidence.ruleId finding.control.catalogId := by
  cases means with
  | mapped offered _ assessed defined _ _ => exact .of_defines offered assessed defined
  | unmapped _ => cases mapped

/-- No catalog below the one of a mapped finding has a match. -/
theorem least_of_isMapped (means : Means offers evidence finding)
    (mapped : finding.isMapped = true) (matching : Matching offers evidence.ruleId catalogId) :
    encode finding.control.catalogId ≤ encode catalogId := by
  cases means with
  | mapped _ _ _ _ least _ => exact least catalogId matching
  | unmapped _ => cases mapped

/-- The meaning of evidence is as foretold, since each match is a use. -/
theorem foretold {store : PlanStore} {scope : Scope} {ownerId : String}
    (means : Means (store.offers scope) evidence finding)
    (owns : store.Owns evidence.ruleId ownerId) :
    store.Foretells scope evidence.ruleId ownerId finding := by
  have used (mapped : finding.isMapped = true) :
      store.UsedFor evidence.ruleId finding.control.catalogId :=
    (means.matching_of_isMapped mapped).usedFor
  have notBelow (mapped : finding.isMapped = true) :
      encode ownerId ≤ encode finding.control.catalogId :=
    owns.least _ (used mapped)
  constructor
  case notBelow => exact notBelow
  case atOwner_iff =>
    constructor
    · intro atOwner
      rw [← atOwner.2]
      exact means.matching_of_isMapped atOwner.1
    · intro matching
      have mapped := means.isMapped_of_matching matching
      have notAbove := means.least_of_isMapped mapped matching
      exact ⟨mapped, String.le_antisymm (Text.Utf8.encode_le_encode_iff.1 notAbove)
        (Text.Utf8.encode_le_encode_iff.1 (notBelow mapped))⟩
  case elsewhere =>
    intro mapped foreign
    exact PlanStore.mem_shared_iff.2 ⟨used mapped, owns, Ne.symm foreign⟩

end Means

/-! ## Notes -/

namespace Mapper

variable {files : Files} {mapperId directory : String} {mapper : Mapper}

/-- Loading a mapper warns of the procedures that are reported for it, and of no others. -/
theorem procedureShared_mem_events_iff
    (loaded : (load files mapperId directory).outcome = .ok mapper) {entry : SharedProcedure} :
    .procedureShared mapperId entry ∈ (load files mapperId directory).events ↔
      entry ∈ mapper.plans.shared := by
  constructor
  · intro noted
    have kinds := noted_of_load loaded noted
    simpa using kinds
  · intro reported
    obtain ⟨plans, below, rfl⟩ := load_eq_ok_iff.1 loaded
    rw [load_of_ok (Plan.load_eq_ok_iff.2 below)]
    -- The notes of the report stand last, behind those of reading and of grouping.
    apply List.mem_append_right
    apply List.mem_append_right
    apply List.mem_append_right
    exact List.mem_map_of_mem reported

/-- The warning and the resolution agree. Evidence for a rule without procedures is unmapped. For
every other rule there is an owner, and the finding is as foretold: it is about the owner if the
owner has a match, and about another catalog only if a warning of this was noted, however the
mapper was loaded. -/
theorem resolve_agrees_with_warnings (mapper : Mapper) (scope : Scope) (evidence : Evidence) :
    let finding := (mapper.resolve scope evidence).finding
    ((∀ catalogId, ¬ mapper.plans.UsedFor evidence.ruleId catalogId) ∧ finding = .unmapped) ∨
      ∃ ownerId, mapper.plans.Owns evidence.ruleId ownerId ∧
        mapper.plans.Foretells scope evidence.ruleId ownerId finding ∧
        ∀ files directory, (load files mapper.id directory).outcome = .ok mapper →
          finding.isMapped = true → finding.control.catalogId ≠ ownerId →
            .procedureShared mapper.id ⟨evidence.ruleId, finding.control.catalogId, ownerId⟩ ∈
              (load files mapper.id directory).events := by
  intro finding
  have means : Means (mapper.plans.offers scope) evidence finding :=
    mapper.means_resolve scope evidence
  by_cases used : ∃ catalogId, mapper.plans.UsedFor evidence.ruleId catalogId
  · right
    obtain ⟨catalogId, usedThere⟩ := used
    obtain ⟨ownerId, owns⟩ := usedThere.exists_owner
    have foretold := means.foretold owns
    refine ⟨ownerId, owns, foretold, ?_⟩
    intro files directory loaded mapped foreign
    rw [procedureShared_mem_events_iff loaded]
    exact foretold.elsewhere mapped foreign
  · left
    have unused := not_exists.1 used
    refine ⟨unused, means.eq_unmapped_of_silent ?_⟩
    intro catalogId matching
    exact unused catalogId matching.usedFor

def warnedText (control : String) : String :=
  "plans:\n- control: " ++ control ++
    "\n  assessments: [{requirement: {}, procedures: [{id: rule}]}]"

def warnedDocument (control : EntryReference) : PlanDocument where
  plans := [⟨control, [{ requirement := {}, procedures := [{ id := "rule" }] }]⟩]

/-- A procedure for two catalogs, of which only the second one will be in scope. -/
def warnedFiles : Files where
  node path :=
    if path = "p" then
      .ok (.directory
        [("y.yml", .file (encode (warnedText "{reference-id: a}"))),
          ("x.yml", .file (encode (warnedText "{reference-id: b, entry-id: login}")))])
    else .error .absent

def warnedDocuments : List PlanDocument :=
  [warnedDocument { catalogId := "b", entryId := "login" }, warnedDocument { catalogId := "a" }]

def warnedMapper : Mapper := ofPlans "engine" (warnedDocuments.flatMap PlanDocument.plans)

theorem load_warnedFiles : (load warnedFiles "engine" "p").outcome = .ok warnedMapper := by
  have forB : PlanDocument.ofText (warnedText "{reference-id: b, entry-id: login}") =
      .ok (warnedDocument { catalogId := "b", entryId := "login" }) := by
    decide +kernel
  have forA : PlanDocument.ofText (warnedText "{reference-id: a}") =
      .ok (warnedDocument { catalogId := "a" }) := by
    decide +kernel
  refine load_eq_ok_iff.2 ⟨_, (Plan.below_iff_of_directory rfl).2 ?_, rfl⟩
  exact ⟨warnedDocuments, .cons ⟨_, rfl, forB⟩ (.cons ⟨_, rfl, forA⟩ .nil), rfl⟩

theorem resolve_warnedFiles :
    let finding := (warnedMapper.resolve loginScope loginEvidence).finding
    (load warnedFiles "engine" "p").outcome = .ok warnedMapper ∧
      warnedMapper.plans.Owns "rule" "a" ∧ finding.isMapped = true ∧
      finding.control.catalogId = "b" ∧
      .procedureShared "engine" ⟨"rule", "b", "a"⟩ ∈ (load warnedFiles "engine" "p").events := by
  intro finding
  have mapped : finding.isMapped = true := by decide +kernel
  have underB : finding.control.catalogId = "b" := by decide +kernel
  have keys : warnedMapper.plans.keys = ["a", "b"] := by decide +kernel
  have usedForA : warnedMapper.plans.UsedFor "rule" "a" := by decide +kernel
  rcases resolve_agrees_with_warnings warnedMapper loginScope loginEvidence with
    ⟨unused, -⟩ | ⟨ownerId, owns, -, warned⟩
  · exact absurd usedForA (unused "a")
  · have isA : ownerId = "a" := by
      have member := owns.used.mem_keys
      have notAbove := owns.least "a" usedForA
      rw [keys] at member
      rcases List.mem_cons.1 member with isA | rest
      · exact isA
      · rw [List.mem_singleton.1 rest] at notAbove
        exact absurd notAbove (by decide +kernel)
    subst isA
    have noted := warned warnedFiles "p" load_warnedFiles mapped (by rw [underB]; decide)
    rw [underB] at noted
    exact ⟨load_warnedFiles, owns, mapped, underB, noted⟩

end Mapper

end ComplianceEvidence
