import ComplianceEvidence.Proofs.Mapping.Resolution

/-!
Contract: what a resolution depends on.

Owns: what two searches need to have in common to end alike, and the comparison of two resolutions
whose evidence, scopes or plans differ elsewhere.

A search that finds a match under an id has looked at nothing behind that id. Of evidence it knows
the rule; the decision only tells the verdict of a match.
-/

set_option autoImplicit false

namespace ComplianceEvidence

open Ordered (upTo above)
open Text.Utf8 (encode)

/-! ## Two searches -/

/-- Of a scope, only the catalog under the id that is tried counts. -/
theorem matchIn_congr {scope other : Scope} {catalogId : String}
    (same : scope.find? catalogId = other.find? catalogId) (ruleId : String) (plans : List Plan) :
    matchIn scope ruleId catalogId plans = matchIn other ruleId catalogId plans := by
  rw [matchIn, matchIn, same]

/-- Of a scope, only the catalogs under the ids that are tried count. -/
theorem search_congr {scope other : Scope} {ruleId : String} {entries : List (String × List Plan)}
    (agree : ∀ entry ∈ entries, scope.find? entry.1 = other.find? entry.1) :
    search scope ruleId entries = search other ruleId entries := by
  induction entries with
  | nil => rfl
  | cons head tail inductionHypothesis =>
      obtain ⟨headAgrees, tailAgrees⟩ := List.forall_mem_cons.1 agree
      rw [search, search, matchIn_congr headAgrees, inductionHypothesis tailAgrees]

/-- A search that ends with a match does not go on. -/
theorem search_append_of_found {scope : Scope} {ruleId : String}
    {front : List (String × List Plan)} (back : List (String × List Plan)) {found : Match}
    (first : (search scope ruleId front).2 = some found) :
    search scope ruleId (front ++ back) = search scope ruleId front := by
  induction front with
  | nil => cases first
  | cons head tail inductionHypothesis =>
      rw [List.cons_append, search, search]
      rw [search] at first
      cases attempt : matchIn scope ruleId head.1 head.2 with
      | ok found => rfl
      | error miss =>
          rw [attempt] at first
          simp only [inductionHypothesis first]

/-- A match is found under one of the ids that are tried. -/
theorem mem_of_search {scope : Scope} {ruleId : String} {entries : List (String × List Plan)}
    {found : Match} (first : (search scope ruleId entries).2 = some found) :
    ∃ plans, (found.catalogId, plans) ∈ entries := by
  rw [search_found, List.findSome?_eq_some_iff] at first
  obtain ⟨before, ⟨catalogId, plans⟩, after, rfl, matched, -⟩ := first
  obtain rfl := catalogId_of_matchIn (toOption_eq_some_iff.1 matched)
  exact ⟨plans, by simp⟩

/-- A search that finds a match under an id needs no entries behind that id. -/
theorem search_upTo {scope : Scope} {ruleId : String} {store : PlanStore} {found : Match}
    (first : (search scope ruleId store.entries).2 = some found) :
    search scope ruleId (upTo found.catalogId store.entries) =
      search scope ruleId store.entries := by
  have split := Ordered.upTo_append_above store.ascending found.catalogId
  cases front : (search scope ruleId (upTo found.catalogId store.entries)).2 with
  | some earlier =>
      have whole := search_append_of_found (above found.catalogId store.entries) front
      rw [split] at whole
      exact whole.symm
  | none =>
      -- The match would lie behind the id that it has.
      have back : (search scope ruleId (above found.catalogId store.entries)).2 = some found := by
        rw [search_found] at front first ⊢
        rw [← split, List.findSome?_append, front] at first
        exact first
      obtain ⟨plans, member⟩ := mem_of_search back
      have passed : found.catalogId < found.catalogId := by
        simpa using (List.mem_filter.1 member).2
      exact absurd passed (String.lt_irrefl _)

/-- Stores and scopes that agree up to the id of a match lead to the same search. -/
theorem search_eq_of_agree {scope other : Scope} {ruleId : String} {store changed : PlanStore}
    {found : Match} (first : (search scope ruleId store.entries).2 = some found)
    (samePlans : ∀ id ≤ found.catalogId, store.find? id = changed.find? id)
    (sameCatalogs : ∀ id ≤ found.catalogId, scope.find? id = other.find? id) :
    search other ruleId changed.entries = search scope ruleId store.entries := by
  have sameEntries := Ordered.Table.upTo_congr samePlans
  have inScope : ∀ entry ∈ upTo found.catalogId store.entries,
      scope.find? entry.1 = other.find? entry.1 := by
    intro entry member
    exact sameCatalogs entry.1 (by simpa using (List.mem_filter.1 member).2)
  have whole := search_upTo first
  have atFront : (search other ruleId (upTo found.catalogId changed.entries)).2 = some found := by
    rw [← sameEntries, ← search_congr inScope, whole, first]
  have ended := search_append_of_found (above found.catalogId changed.entries) atFront
  rw [Ordered.upTo_append_above changed.ascending, ← sameEntries, ← search_congr inScope,
    whole] at ended
  exact ended

/-! ## Two resolutions -/

namespace Mapper

variable {mapper : Mapper} {scope : Scope} {evidence : Evidence}

/-- A finding that is about a control comes from a match under the id that it names. -/
theorem found_of_isMapped (mapped : (mapper.resolve scope evidence).finding.isMapped = true) :
    ∃ found, (search scope evidence.ruleId mapper.plans.entries).2 = some found ∧
      found.catalogId = (mapper.resolve scope evidence).finding.control.catalogId := by
  cases result : (search scope evidence.ruleId mapper.plans.entries).2 with
  | none =>
      have nothing : (mapper.resolve scope evidence).finding = .unmapped := by
        simp [resolve, ComplianceEvidence.resolve, result]
      rw [nothing] at mapped
      cases mapped
  | some found =>
      refine ⟨found, rfl, ?_⟩
      simp [resolve, ComplianceEvidence.resolve, result, Match.finding]

/-- Another decision changes the verdict of a match and nothing else. -/
theorem resolve_with_decision (decision : Decision) :
    mapper.resolve scope { evidence with decision := decision } =
      { misses := (mapper.resolve scope evidence).misses
        finding :=
          if (mapper.resolve scope evidence).finding.isMapped then
            { (mapper.resolve scope evidence).finding with verdict := .ofDecision decision }
          else (mapper.resolve scope evidence).finding } := by
  -- Both searches are the same, since a search does not ask for the decision.
  cases result : (search scope evidence.ruleId mapper.plans.entries).2 with
  | none =>
      simp [resolve, ComplianceEvidence.resolve, result, Finding.isMapped, Finding.unmapped]
  | some found =>
      simp [resolve, ComplianceEvidence.resolve, result, Finding.isMapped, Match.finding]

/-- Mappers and scopes that agree up to the id of a mapped finding make the same of evidence. -/
theorem resolve_eq_of_agree (mapped : (mapper.resolve scope evidence).finding.isMapped = true)
    {other : Mapper} {otherScope : Scope}
    (agree : ∀ id, encode id ≤ encode (mapper.resolve scope evidence).finding.control.catalogId →
      other.plans.find? id = mapper.plans.find? id ∧ otherScope.find? id = scope.find? id) :
    other.resolve otherScope evidence = mapper.resolve scope evidence := by
  obtain ⟨found, first, sameId⟩ := found_of_isMapped mapped
  rw [← sameId] at agree
  have agreeHere (id : String) (reached : id ≤ found.catalogId) :=
    agree id (Text.Utf8.encode_le_encode_iff.2 reached)
  have sameSearch := search_eq_of_agree first
    (fun id reached => (agreeHere id reached).1.symm)
    (fun id reached => (agreeHere id reached).2.symm)
  rw [resolve, resolve, ComplianceEvidence.resolve, ComplianceEvidence.resolve, sameSearch]

/-- What a resolution depends on. Of evidence, the rule and the decision count, and the decision
only for the verdict of a mapped finding. Of a scope, the catalogs under the ids of stored plans
count. Once evidence is mapped, plans and catalogs under ids with greater bytes do not. -/
theorem resolve_independent (mapper : Mapper) (scope : Scope) (evidence : Evidence) :
    let resolution := mapper.resolve scope evidence
    (∀ other : Evidence, other.ruleId = evidence.ruleId → other.decision = evidence.decision →
      mapper.resolve scope other = resolution) ∧
    (∀ decision : Decision,
      let changed := mapper.resolve scope { evidence with decision := decision }
      changed.misses = resolution.misses ∧
        changed.finding = { resolution.finding with verdict := changed.finding.verdict } ∧
        (resolution.finding.isMapped = false → changed = resolution)) ∧
    (∀ other : Scope, (∀ id ∈ mapper.plans.keys, other.find? id = scope.find? id) →
      mapper.resolve other evidence = resolution) ∧
    (resolution.finding.isMapped = true → ∀ (other : Mapper) (otherScope : Scope),
      (∀ id, encode id ≤ encode resolution.finding.control.catalogId →
        other.plans.find? id = mapper.plans.find? id ∧ otherScope.find? id = scope.find? id) →
      other.resolve otherScope evidence = resolution) := by
  intro resolution
  refine ⟨?_, ?_, ?_, ?_⟩
  · intro other sameRule sameDecision
    show ComplianceEvidence.resolve _ _ _ _ = ComplianceEvidence.resolve _ _ _ _
    rw [sameRule, sameDecision]
  · intro decision changed
    have changedEq : changed = _ := resolve_with_decision decision
    rw [changedEq]
    by_cases mapped : (mapper.resolve scope evidence).finding.isMapped = true
    · refine ⟨rfl, ?_, ?_⟩
      · rw [if_pos mapped]
      · intro unmapped
        rw [mapped] at unmapped
        cases unmapped
    · rw [if_neg mapped]
      exact ⟨rfl, rfl, fun _ => rfl⟩
  · intro other agree
    have sameSearch : search other evidence.ruleId mapper.plans.entries =
        search scope evidence.ruleId mapper.plans.entries := by
      apply search_congr
      intro entry member
      exact agree entry.1 (List.mem_map_of_mem member)
    show ComplianceEvidence.resolve _ _ _ _ = ComplianceEvidence.resolve _ _ _ _
    rw [ComplianceEvidence.resolve, ComplianceEvidence.resolve, sameSearch]
  · intro mapped other otherScope agree
    exact resolve_eq_of_agree mapped agree

/-- There is no catalog for the first id; the second one has a match. -/
def loginMapper : Mapper :=
  (basic.addPlans "a" [planFor "rule"]).addPlans "b" [planFor "rule"]

def loginScope : Scope := Scope.empty.insert (loginCatalog "b")

/-- Evidence that differs elsewhere, a catalog under an id without plans, and plans with a catalog
under a greater id change nothing; another decision changes the verdict. -/
theorem resolve_loginEvidence :
    let resolution := loginMapper.resolve loginScope loginEvidence
    resolution.misses = [.catalogAbsent "a"] ∧
      resolution.finding.isMapped = true ∧
      loginMapper.resolve loginScope
          { loginEvidence with engineName := "other", message := some "denied" } = resolution ∧
      (loginMapper.resolve loginScope { loginEvidence with decision := .passed }).misses =
        resolution.misses ∧
      loginMapper.resolve (loginScope.insert (loginCatalog "0")) loginEvidence = resolution ∧
      (loginMapper.addPlans "c" [planFor "rule"]).resolve
          (loginScope.insert (loginCatalog "c")) loginEvidence = resolution := by
  intro resolution
  have mapped : resolution.finding.isMapped = true := by decide +kernel
  have underB : resolution.finding.control.catalogId = "b" := by decide +kernel
  obtain ⟨sameEvidence, otherDecision, sameScope, behind⟩ :=
    resolve_independent loginMapper loginScope loginEvidence
  refine ⟨by decide +kernel, mapped, sameEvidence _ rfl rfl, (otherDecision .passed).1, ?_, ?_⟩
  · apply sameScope
    decide +kernel
  · apply behind mapped
    intro id reached
    have notC : id ≠ "c" := by
      rintro rfl
      rw [show (loginMapper.resolve loginScope loginEvidence).finding.control.catalogId = "b" from
        underB] at reached
      exact absurd reached (by decide +kernel)
    constructor
    · exact Ordered.Table.find?_alter_of_ne _ notC _
    · rw [Scope.find?_insert]
      exact if_neg notC

end Mapper

end ComplianceEvidence
