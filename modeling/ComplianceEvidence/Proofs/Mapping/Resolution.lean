import ComplianceEvidence.Mapping.Mapper
import ComplianceEvidence.Proofs.Mapping.Lookup
import ComplianceEvidence.Proofs.Ordered.Keys
import ComplianceEvidence.Proofs.Text.Encoding

/-!
Contract: what a finding says, told without a search.

Owns: when a rule has a match under the id of a catalog, the finding that evidence has for catalogs
and plans under ids, offers that differ only where there are no plans, and the agreement of the
search with the finding.

Three rules decide between duplicates: of several catalogs the one with the smallest id, of several
procedures the last one, of several controls the last one.
-/

set_option autoImplicit false

namespace ComplianceEvidence

open Text.Utf8 (encode)

/-- Which catalog and which plans there are under an id. -/
abbrev Offers := String → Catalog → List Plan → Prop

/-- There are one catalog and one list of plans under an id. -/
def Offers.Functional (offers : Offers) : Prop :=
  ∀ catalogId catalog otherCatalog plans otherPlans,
    offers catalogId catalog plans → offers catalogId otherCatalog otherPlans →
      catalog = otherCatalog ∧ plans = otherPlans

/-- The catalogs of a scope with the plans that are stored under their ids. -/
def PlanStore.offers (store : PlanStore) (scope : Scope) : Offers :=
  fun catalogId catalog plans =>
    scope.find? catalogId = some catalog ∧ store.find? catalogId = some plans

/-- A rule has a match under an id: there are a catalog and plans, and the plan with the last
procedure for the rule is about a control that a family of the catalog has. -/
def Matching (offers : Offers) (ruleId catalogId : String) : Prop :=
  ∃ catalog plans occurrence, offers catalogId catalog plans ∧
    Assesses plans ruleId occurrence ∧ catalog.HasControl occurrence.plan.control.entryId

/-- What evidence means. The smallest id with a match decides; requirement and remediation are those
of the last procedure, category and frameworks those of the last control. -/
inductive Means (offers : Offers) (evidence : Evidence) : Finding → Prop where
  | mapped {catalogId : String} {catalog : Catalog} {plans : List Plan} {occurrence : Occurrence}
      {family : Catalog.Family} {control : Catalog.Control} {remediation : Option String}
      (offered : offers catalogId catalog plans)
      (sameId : catalog.id = catalogId)
      (assessed : Assesses plans evidence.ruleId occurrence)
      (defined : catalog.Defines occurrence.plan.control.entryId family control)
      (least : ∀ other, Matching offers evidence.ruleId other → encode catalogId ≤ encode other)
      (remedy : ∀ text, remediation = some text ↔
        occurrence.procedure.documentation = some text ∧ text ≠ "") :
      Means offers evidence
        { verdict := Verdict.ofDecision evidence.decision
          control :=
            { id := occurrence.assessment.requirement.entryId
              catalogId := catalogId
              category := family.title
              remediation := remediation }
          frameworks :=
            { requirements := control.guidelines.flatMap fun guideline =>
                guideline.entries.map Catalog.GuidelineEntry.requirement
              standards := control.guidelines.map Catalog.Guideline.standard }
          outcome := .success }
  | unmapped (silent : ∀ catalogId, ¬ Matching offers evidence.ruleId catalogId) :
      Means offers evidence Finding.unmapped

/-! ## One catalog -/

section OneCatalog

variable {scope : Scope} {ruleId catalogId : String} {plans : List Plan}

theorem matchIn_eq_ok_iff {found : Match} :
    matchIn scope ruleId catalogId plans = .ok found ↔
      ∃ catalog occurrence family control, scope.find? catalogId = some catalog ∧
        Assesses plans ruleId occurrence ∧
        catalog.Defines occurrence.plan.control.entryId family control ∧
        found = ⟨catalogId, occurrence.entry, .of family control⟩ := by
  constructor
  · intro matched
    unfold matchIn at matched
    split at matched
    · cases matched
    · rename_i catalog inScope
      split at matched
      · cases matched
      · rename_i procedure procedureFound
        split at matched
        · cases matched
        · rename_i entry controlFound
          obtain ⟨occurrence, assessed, rfl⟩ :=
            ProcedureIndex.find?_ofPlans_eq_some_iff.1 procedureFound
          obtain ⟨family, control, defined, rfl⟩ :=
            ControlIndex.find?_ofCatalog_eq_some_iff.1 controlFound
          exact ⟨catalog, occurrence, family, control, inScope, assessed, defined,
            (Except.ok.inj matched).symm⟩
  · intro parts
    rcases parts with ⟨catalog, occurrence, family, control, inScope, assessed, defined, rfl⟩
    have procedureFound := ProcedureIndex.find?_ofPlans_eq_some_iff.2 ⟨occurrence, assessed, rfl⟩
    have controlFound := ControlIndex.find?_ofCatalog_eq_some_iff.2 ⟨family, control, defined, rfl⟩
    have sameControl : occurrence.entry.controlId = occurrence.plan.control.entryId := rfl
    simp only [matchIn, inScope, procedureFound, sameControl, controlFound]

end OneCatalog

/-! ## The search -/

theorem search_found (scope : Scope) (ruleId : String) (entries : List (String × List Plan)) :
    (search scope ruleId entries).2 =
      entries.findSome? fun entry => (matchIn scope ruleId entry.1 entry.2).toOption := by
  induction entries with
  | nil => rfl
  | cons head tail inductionHypothesis =>
      obtain ⟨catalogId, plans⟩ := head
      rw [search, List.findSome?_cons]
      cases attempt : matchIn scope ruleId catalogId plans with
      | ok found => rfl
      | error miss => simpa [Except.toOption] using inductionHypothesis

theorem toOption_eq_some_iff {attempt : Except Miss Match} {found : Match} :
    attempt.toOption = some found ↔ attempt = .ok found := by
  cases attempt <;> simp [Except.toOption]

theorem catalogId_of_matchIn {scope : Scope} {ruleId catalogId : String} {plans : List Plan}
    {found : Match} (matched : matchIn scope ruleId catalogId plans = .ok found) :
    found.catalogId = catalogId := by
  obtain ⟨_, _, _, _, _, _, _, rfl⟩ := matchIn_eq_ok_iff.1 matched
  rfl

/-- The search finds the match under the smallest id that has one. -/
theorem least_of_search {scope : Scope} {store : PlanStore} {ruleId : String} {found : Match}
    (first : (search scope ruleId store.entries).2 = some found) :
    ∃ plans, store.find? found.catalogId = some plans ∧
      matchIn scope ruleId found.catalogId plans = .ok found ∧
      ∀ otherId otherPlans other, store.find? otherId = some otherPlans →
        matchIn scope ruleId otherId otherPlans = .ok other → found.catalogId ≤ otherId := by
  rw [search_found, List.findSome?_eq_some_iff] at first
  obtain ⟨before, ⟨catalogId, plans⟩, after, split, matched, missed⟩ := first
  have matchedHere := toOption_eq_some_iff.1 matched
  obtain rfl := catalogId_of_matchIn matchedHere
  have member : (found.catalogId, plans) ∈ store.entries := by simp [split]
  refine ⟨plans, Ordered.Table.find?_eq_some_iff_mem.2 member, matchedHere, ?_⟩
  intro otherId otherPlans other present otherMatched
  have otherMember := Ordered.Table.find?_eq_some_iff_mem.1 present
  have ascending := store.ascending
  rw [split] at otherMember
  rw [Ordered.Ascending, split, List.pairwise_append] at ascending
  -- The entries ascend: those before were tried in vain, and those after have larger ids.
  rcases List.mem_append.1 otherMember with inBefore | fromHere
  · have noMatch := missed _ inBefore
    rw [otherMatched] at noMatch
    simp [Except.toOption] at noMatch
  · rcases List.mem_cons.1 fromHere with same | inAfter
    · obtain rfl : otherId = found.catalogId := (Prod.mk.inj same).1
      exact String.le_refl _
    · have above : found.catalogId < otherId := (List.pairwise_cons.1 ascending.2.1).1 _ inAfter
      exact String.not_lt.1 fun below => String.lt_irrefl _ (String.lt_trans above below)

/-- The search finds nothing only where no id has a match. -/
theorem no_match_of_search {scope : Scope} {store : PlanStore} {ruleId : String}
    (nothing : (search scope ruleId store.entries).2 = none) {catalogId : String}
    {plans : List Plan} (present : store.find? catalogId = some plans) (found : Match) :
    matchIn scope ruleId catalogId plans ≠ .ok found := by
  intro matched
  rw [search_found, List.findSome?_eq_none_iff] at nothing
  have missed := nothing _ (Ordered.Table.find?_eq_some_iff_mem.1 present)
  rw [matched] at missed
  simp [Except.toOption] at missed

/-! ## Meaning -/

section Meaning

variable {offers : Offers} {evidence : Evidence} {finding : Finding}

/-- What means a control has a match. -/
theorem Matching.of_defines {ruleId catalogId : String} {catalog : Catalog} {plans : List Plan}
    {occurrence : Occurrence} {family : Catalog.Family} {control : Catalog.Control}
    (offered : offers catalogId catalog plans) (assessed : Assesses plans ruleId occurrence)
    (defined : catalog.Defines occurrence.plan.control.entryId family control) :
    Matching offers ruleId catalogId :=
  ⟨catalog, plans, occurrence, offered, assessed,
    Catalog.exists_defines_iff.1 ⟨family, control, defined⟩⟩

/-- Evidence is mapped as soon as some id has a match. -/
theorem Means.success_iff (means : Means offers evidence finding) :
    finding.outcome = .success ↔ ∃ catalogId, Matching offers evidence.ruleId catalogId := by
  cases means with
  | mapped offered _ assessed defined _ _ =>
      exact iff_of_true rfl ⟨_, .of_defines offered assessed defined⟩
  | unmapped silent =>
      refine iff_of_false (by decide) ?_
      intro someMatch
      rcases someMatch with ⟨catalogId, matching⟩
      exact silent catalogId matching

/-- Evidence is mapped or not, but never skipped. -/
theorem Means.outcome_ne_skipped (means : Means offers evidence finding) :
    finding.outcome ≠ .skipped := by
  intro skipped
  cases means with
  | mapped => cases skipped
  | unmapped => cases skipped

/-- Evidence has one meaning. -/
theorem Means.unique (functional : offers.Functional) {other : Finding}
    (first : Means offers evidence finding) (second : Means offers evidence other) :
    finding = other := by
  cases first with
  | @mapped catalogId catalog plans occurrence family control remediation
      offered sameId assessed defined least remedy =>
      cases second with
      | @mapped otherId otherCatalog otherPlans otherOccurrence otherFamily otherControl
          otherRemediation otherOffered otherSameId otherAssessed otherDefined otherLeast
          otherRemedy =>
          have below := least _ (.of_defines otherOffered otherAssessed otherDefined)
          have above := otherLeast _ (.of_defines offered assessed defined)
          obtain rfl : catalogId = otherId :=
            String.le_antisymm (Text.Utf8.encode_le_encode_iff.1 below)
              (Text.Utf8.encode_le_encode_iff.1 above)
          obtain ⟨rfl, rfl⟩ := functional _ _ _ _ _ offered otherOffered
          obtain rfl := assessed.unique otherAssessed
          obtain ⟨rfl, rfl⟩ := defined.unique otherDefined
          have sameRemediation : remediation = otherRemediation := by
            apply Option.ext
            intro text
            exact (remedy text).trans (otherRemedy text).symm
          rw [sameRemediation]
      | unmapped silent => exact absurd (.of_defines offered assessed defined) (silent _)
  | unmapped silent =>
      cases second with
      | mapped offered _ assessed defined _ _ =>
          exact absurd (.of_defines offered assessed defined) (silent _)
      | unmapped _ => rfl

end Meaning

/-! ## Offers without plans -/

/-- Offers that hold the same plans, up to ids under which there are none. -/
def Offers.Agree (offers others : Offers) : Prop :=
  ∀ catalogId catalog plans, plans ≠ [] →
    (offers catalogId catalog plans ↔ others catalogId catalog plans)

namespace Offers.Agree

variable {offers others : Offers}

theorem symm (agree : offers.Agree others) : others.Agree offers := by
  intro catalogId catalog plans hasPlans
  exact (agree catalogId catalog plans hasPlans).symm

theorem matching {ruleId catalogId : String} (agree : offers.Agree others)
    (matched : Matching offers ruleId catalogId) : Matching others ruleId catalogId := by
  obtain ⟨catalog, plans, occurrence, offered, assessed, defined⟩ := matched
  have offeredToo := (agree catalogId catalog plans assessed.ne_nil).1 offered
  exact ⟨catalog, plans, occurrence, offeredToo, assessed, defined⟩

theorem matching_iff {ruleId catalogId : String} (agree : offers.Agree others) :
    Matching offers ruleId catalogId ↔ Matching others ruleId catalogId :=
  ⟨agree.matching, agree.symm.matching⟩

theorem means {evidence : Evidence} {finding : Finding} (agree : offers.Agree others)
    (means : Means offers evidence finding) : Means others evidence finding := by
  cases means with
  | mapped offered sameId assessed defined least remedy =>
      have offeredToo := (agree _ _ _ assessed.ne_nil).1 offered
      apply Means.mapped offeredToo sameId assessed defined _ remedy
      intro other matching
      exact least other (agree.matching_iff.2 matching)
  | unmapped silent =>
      apply Means.unmapped
      intro catalogId matching
      exact silent catalogId (agree.matching_iff.2 matching)

end Offers.Agree

/-! ## The search finds the meaning -/

theorem PlanStore.offers_functional (store : PlanStore) (scope : Scope) :
    (store.offers scope).Functional := by
  intro catalogId catalog otherCatalog plans otherPlans first second
  exact ⟨Option.some.inj (first.1.symm.trans second.1),
    Option.some.inj (first.2.symm.trans second.2)⟩

/-- A rule has a match under an id exactly if the catalog with that id offers one. -/
theorem matching_iff_matchIn {store : PlanStore} {scope : Scope} {ruleId catalogId : String} :
    Matching (store.offers scope) ruleId catalogId ↔
      ∃ plans found, store.find? catalogId = some plans ∧
        matchIn scope ruleId catalogId plans = .ok found := by
  constructor
  · intro matching
    rcases matching with
      ⟨catalog, plans, occurrence, ⟨inScope, present⟩, assessed, hasControl⟩
    obtain ⟨family, control, defined⟩ := Catalog.exists_defines_iff.2 hasControl
    exact ⟨plans, _, present, matchIn_eq_ok_iff.2
      ⟨catalog, occurrence, family, control, inScope, assessed, defined, rfl⟩⟩
  · intro someMatch
    rcases someMatch with ⟨plans, found, present, matched⟩
    obtain ⟨catalog, occurrence, family, control, inScope, assessed, defined, _⟩ :=
      matchIn_eq_ok_iff.1 matched
    exact .of_defines ⟨inScope, present⟩ assessed defined

theorem Mapper.means_resolve (mapper : Mapper) (scope : Scope) (evidence : Evidence) :
    Means (mapper.plans.offers scope) evidence (mapper.resolve scope evidence).finding := by
  have findingEq : (mapper.resolve scope evidence).finding =
      ((search scope evidence.ruleId mapper.plans.entries).2.map fun found =>
        found.finding (Verdict.ofDecision evidence.decision)).getD Finding.unmapped := rfl
  rw [findingEq]
  cases result : (search scope evidence.ruleId mapper.plans.entries).2 with
  | none =>
      refine .unmapped ?_
      intro catalogId matching
      obtain ⟨plans, found, present, matched⟩ := matching_iff_matchIn.1 matching
      exact no_match_of_search result present found matched
  | some found =>
      obtain ⟨plans, present, matched, least⟩ := least_of_search result
      obtain ⟨catalog, occurrence, family, control, inScope, assessed, defined, foundEq⟩ :=
        matchIn_eq_ok_iff.1 matched
      have smallest : ∀ other, Matching (mapper.plans.offers scope) evidence.ruleId other →
          encode found.catalogId ≤ encode other := by
        intro other matching
        obtain ⟨otherPlans, otherFound, otherPresent, otherMatched⟩ :=
          matching_iff_matchIn.1 matching
        exact Text.Utf8.encode_le_encode_iff.2 (least _ _ _ otherPresent otherMatched)
      rw [Option.map_some, Option.getD_some, foundEq]
      exact .mapped ⟨inScope, present⟩ (Scope.id_of_find? inScope) assessed defined smallest
        (by simp [Occurrence.entry, Option.filter_eq_some_iff])

/-- Mappers whose plans offer the same find the same. -/
theorem Mapper.finding_eq_of_agree {mapper other : Mapper} {scope otherScope : Scope}
    (agree : (mapper.plans.offers scope).Agree (other.plans.offers otherScope))
    (evidence : Evidence) :
    (mapper.resolve scope evidence).finding = (other.resolve otherScope evidence).finding := by
  have means := agree.means (mapper.means_resolve scope evidence)
  apply means.unique (other.plans.offers_functional otherScope)
  exact other.means_resolve otherScope evidence

/-- A mapper finds what evidence means for its plans and the catalogs in scope: it succeeds as soon
as some id has a match, and its finding is the one that the evidence has. -/
theorem Mapper.resolve_eq_iff_means (mapper : Mapper) (scope : Scope) (evidence : Evidence) :
    ((mapper.resolve scope evidence).finding.outcome = .success ↔
        ∃ catalogId, Matching (mapper.plans.offers scope) evidence.ruleId catalogId) ∧
      ∀ finding, (mapper.resolve scope evidence).finding = finding ↔
        Means (mapper.plans.offers scope) evidence finding := by
  have means := mapper.means_resolve scope evidence
  refine ⟨means.success_iff, ?_⟩
  intro finding
  constructor
  · rintro rfl
    exact means
  · exact means.unique (PlanStore.offers_functional mapper.plans scope)

/-! ## Small mappers -/

/-- Where there is one catalog, a match is under its id. -/
theorem Matching.catalogId_eq {store : PlanStore} {catalog : Catalog} {ruleId catalogId : String}
    (matching : Matching (store.offers (Scope.empty.insert catalog)) ruleId catalogId) :
    catalogId = catalog.id := by
  obtain ⟨_, _, _, ⟨inScope, -⟩, -, -⟩ := matching
  by_contra different
  rw [Scope.find?_insert, if_neg different] at inScope
  cases inScope

namespace Mapper

/-- A plan whose only procedure has a given id. -/
def planFor (ruleId : String) : Plan where
  control := { entryId := "login" }
  assessments := [{ requirement := { entryId := "mfa" }, procedures := [{ id := ruleId }] }]

def remedy : Procedure := { id := "rule", documentation := some "Turn it on." }

/-- A second plan for the rule, which tells what to do. -/
def remedyPlan : Plan where
  control := { entryId := "login" }
  assessments := [{ requirement := { entryId := "mfa" }, procedures := [remedy] }]

theorem assesses_remedyPlan :
    Assesses [planFor "rule", remedyPlan] "rule"
      ⟨remedyPlan, { requirement := { entryId := "mfa" }, procedures := [remedy] }, remedy⟩ where
  lastPlan := ⟨[planFor "rule"], [], rfl, by decide, by simp⟩
  lastAssessment := ⟨[], [], rfl, ⟨remedy, List.mem_singleton_self _, rfl⟩, by simp⟩
  lastProcedure := ⟨[], [], rfl, rfl, by simp⟩

/-- A catalog whose only control is the one of these plans. -/
def loginCatalog (id : String) : Catalog where
  id := id
  families := [{ title := "Access", controls := [{ id := "login" }] }]

/-- A catalog that has the control in two families. -/
def doubledCatalog : Catalog where
  id := "b"
  families :=
    [{ title := "Access", controls := [{ id := "login" }] },
      { title := "Identity"
        controls :=
          [{ id := "login", guidelines := [.ofRequirements "standard" ["first", "second"]] }] }]

/-- There is no catalog for the first id. For the second one, two plans have the rule. -/
def doubledMapper : Mapper :=
  (basic.addPlans "b" [planFor "rule", remedyPlan]).addPlans "a" [planFor "rule"]

def loginEvidence : Evidence := .minimal "engine" "rule" .failed ⟨⟨2026, 1, 1⟩, 0, 0, 0, 0⟩

/-- The last plan and the last family count. -/
def doubledFinding : Finding where
  verdict := .nonCompliant
  control :=
    { id := "mfa", catalogId := "b", category := "Identity", remediation := some "Turn it on." }
  frameworks := { requirements := ["first", "second"], standards := ["standard"] }
  outcome := .success

theorem resolve_doubledMapper :
    let scope := Scope.empty.insert doubledCatalog
    Matching (doubledMapper.plans.offers scope) "rule" "b" ∧
      (doubledMapper.resolve scope loginEvidence).finding = doubledFinding := by
  intro scope
  have defined : doubledCatalog.Defines "login" doubledCatalog.families[1]
      doubledCatalog.families[1].controls[0] :=
    { lastFamily := ⟨doubledCatalog.families.take 1, [], rfl, ⟨_, List.mem_singleton_self _, rfl⟩,
        by simp⟩
      lastControl := ⟨[], [], rfl, rfl, by simp⟩ }
  have offered : doubledMapper.plans.offers scope "b" doubledCatalog
      [planFor "rule", remedyPlan] := ⟨rfl, rfl⟩
  have least : ∀ other, Matching (doubledMapper.plans.offers scope) "rule" other →
      encode "b" ≤ encode other := by
    intro other matching
    rw [matching.catalogId_eq]
    exact List.le_refl _
  have documented (text : String) : some "Turn it on." = some text ↔
      remedy.documentation = some text ∧ text ≠ "" := by
    simp only [remedy, Option.some.injEq]
    exact ⟨fun same => ⟨same, same ▸ by decide⟩, And.left⟩
  have assessed : Assesses [planFor "rule", remedyPlan] loginEvidence.ruleId _ :=
    assesses_remedyPlan
  have means := Means.mapped offered rfl assessed defined least documented
  obtain ⟨-, finding⟩ := resolve_eq_iff_means doubledMapper scope loginEvidence
  exact ⟨.of_defines offered assessed defined, (finding doubledFinding).2 means⟩

end Mapper

end ComplianceEvidence
