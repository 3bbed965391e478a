import ComplianceEvidence.Proofs.Mapping.Independence

/-!
Contract: what data under a new id can do to a finding about a control.

Owns: the comparison of two searches that differ under one id, of the findings before and after a
catalog or plans were added, and runs of such additions.

A match that there was before is still one, so the search ends under its id at the latest. It ends
earlier only under the new id. Data under an id that is in use already may put an end to a match.
-/

set_option autoImplicit false

namespace ComplianceEvidence

open Text.Utf8 (encode)

/-! ## Two searches -/

section Searches

variable {scope grownScope : Scope} {store grownStore : PlanStore} {ruleId addedId : String}
  {found : Match}

/-- Where data were added under an id that is not the one of the match, the search finds the match
again, or else one under the added id, which is then the smaller one. -/
theorem search_grown (first : (search scope ruleId store.entries).2 = some found)
    (different : found.catalogId ≠ addedId)
    (elsewhere : ∀ id, id ≠ addedId →
      grownStore.find? id = store.find? id ∧ grownScope.find? id = scope.find? id) :
    ∃ next, (search grownScope ruleId grownStore.entries).2 = some next ∧
      (next = found ∨ next.catalogId = addedId ∧ addedId < found.catalogId) := by
  obtain ⟨plans, stored, matched, least⟩ := least_of_search first
  have agree (id : String) (notAdded : id ≠ addedId) (plans : List Plan) :
      grownStore.find? id = store.find? id ∧
        matchIn grownScope ruleId id plans = matchIn scope ruleId id plans :=
    ⟨(elsewhere id notAdded).1, matchIn_congr (elsewhere id notAdded).2 ruleId plans⟩
  obtain ⟨sameStored, sameMatch⟩ := agree found.catalogId different plans
  have storedStill := sameStored.trans stored
  have matchedStill := sameMatch.trans matched
  cases result : (search grownScope ruleId grownStore.entries).2 with
  | none => exact absurd matchedStill (no_match_of_search result storedStill found)
  | some next =>
      refine ⟨next, rfl, ?_⟩
      obtain ⟨nextPlans, nextStored, nextMatched, nextLeast⟩ := least_of_search result
      have notAbove : next.catalogId ≤ found.catalogId :=
        nextLeast found.catalogId plans found storedStill matchedStill
      by_cases added : next.catalogId = addedId
      · right
        refine ⟨added, String.not_le.1 fun notBelow => ?_⟩
        rw [added] at notAbove
        exact different (String.le_antisymm notBelow notAbove)
      · left
        obtain ⟨sameNext, sameNextMatch⟩ := agree next.catalogId added nextPlans
        have storedBefore := sameNext.symm.trans nextStored
        have matchedBefore := sameNextMatch.symm.trans nextMatched
        have notBelow := least next.catalogId nextPlans next storedBefore matchedBefore
        have sameId := String.le_antisymm notAbove notBelow
        -- Under one id there are one list of plans and one match.
        rw [sameId, stored] at storedBefore
        obtain rfl := Option.some.inj storedBefore
        rw [sameId, matched] at matchedBefore
        exact (Except.ok.inj matchedBefore).symm

end Searches

/-! ## Two findings -/

/-- A finding is about a control still, after data were added under an id. It has moved to that id
exactly if the id is smaller and has a match, and it is unchanged otherwise. -/
structure StillMapped (offers : Offers) (ruleId addedId : String) (before after : Finding) :
    Prop where
  isMapped : after.isMapped = true
  place : after.control.catalogId = before.control.catalogId ∨
    after.control.catalogId = addedId
  moved_iff : after.control.catalogId = addedId ↔
    encode addedId < encode before.control.catalogId ∧ Matching offers ruleId addedId
  unchanged : after.control.catalogId = before.control.catalogId → after = before

/-- A finding is about a control and either is the same as before or names a smaller id. -/
def MovesDown (before after : Finding) : Prop :=
  after.isMapped = true ∧
    (after = before ∨ encode after.control.catalogId < encode before.control.catalogId)

theorem StillMapped.movesDown {offers : Offers} {ruleId addedId : String} {before after : Finding}
    (still : StillMapped offers ruleId addedId before after) : MovesDown before after := by
  refine ⟨still.isMapped, still.place.imp still.unchanged fun added => ?_⟩
  rw [added]
  exact (still.moved_iff.1 added).1

theorem MovesDown.trans {first second third : Finding} (down : MovesDown first second)
    (further : MovesDown second third) : MovesDown first third := by
  obtain ⟨-, rfl | below⟩ := down
  · exact further
  · refine ⟨further.1, .inr ?_⟩
    rcases further.2 with rfl | belowThat
    · exact below
    · rw [Text.Utf8.encode_lt_encode_iff] at below belowThat ⊢
      exact String.lt_trans belowThat below

namespace Mapper

variable {mapper grown : Mapper} {scope grownScope : Scope} {evidence : Evidence}

theorem finding_of_search {found : Match}
    (first : (search scope evidence.ruleId mapper.plans.entries).2 = some found) :
    (mapper.resolve scope evidence).finding =
      found.finding (Verdict.ofDecision evidence.decision) := by
  simp only [resolve, ComplianceEvidence.resolve, first, Option.map_some, Option.getD_some]

theorem stillMapped_of_elsewhere {addedId : String}
    (mapped : (mapper.resolve scope evidence).finding.isMapped = true)
    (different : (mapper.resolve scope evidence).finding.control.catalogId ≠ addedId)
    (elsewhere : ∀ id, id ≠ addedId →
      grown.plans.find? id = mapper.plans.find? id ∧ grownScope.find? id = scope.find? id) :
    StillMapped (grown.plans.offers grownScope) evidence.ruleId addedId
      (mapper.resolve scope evidence).finding (grown.resolve grownScope evidence).finding := by
  obtain ⟨found, first, -⟩ := found_of_isMapped mapped
  rw [finding_of_search first] at different ⊢
  obtain ⟨next, second, outcome⟩ := search_grown first different elsewhere
  rw [finding_of_search second]
  obtain ⟨nextPlans, nextStored, nextMatched, nextLeast⟩ := least_of_search second
  refine ⟨rfl, ?_, ?_, ?_⟩
  · show next.catalogId = found.catalogId ∨ next.catalogId = addedId
    exact outcome.imp (congrArg Match.catalogId) And.left
  · show next.catalogId = addedId ↔ encode addedId < encode found.catalogId ∧ _
    rw [Text.Utf8.encode_lt_encode_iff, matching_iff_matchIn]
    constructor
    · rintro rfl
      rcases outcome with rfl | ⟨-, below⟩
      · exact absurd rfl different
      · exact ⟨below, nextPlans, next, nextStored, nextMatched⟩
    · rintro ⟨below, plans, other, stored, matched⟩
      rcases outcome with rfl | ⟨added, -⟩
      · exact absurd below (String.not_lt.2 (nextLeast addedId plans other stored matched))
      · exact added
  · intro sameId
    rcases outcome with rfl | ⟨added, below⟩
    · rfl
    · have same : addedId = found.catalogId := added.symm.trans sameId
      exact absurd (same ▸ below) (String.lt_irrefl _)

/-- A mapped finding names an id with a catalog in scope and stored plans. -/
theorem present_of_isMapped (mapped : (mapper.resolve scope evidence).finding.isMapped = true) :
    let catalogId := (mapper.resolve scope evidence).finding.control.catalogId
    scope.contains catalogId = true ∧ mapper.plans.contains catalogId = true := by
  obtain ⟨found, first, sameId⟩ := found_of_isMapped mapped
  obtain ⟨plans, stored, matched, -⟩ := least_of_search first
  obtain ⟨catalog, -, -, -, inScope, -⟩ := matchIn_eq_ok_iff.1 matched
  rw [← sameId]
  exact ⟨Option.isSome_of_eq_some inScope, Option.isSome_of_eq_some stored⟩

theorem stillMapped_insert (mapped : (mapper.resolve scope evidence).finding.isMapped = true)
    {catalog : Catalog} (new : scope.contains catalog.id = false) :
    StillMapped (mapper.plans.offers (scope.insert catalog)) evidence.ruleId catalog.id
      (mapper.resolve scope evidence).finding
      (mapper.resolve (scope.insert catalog) evidence).finding := by
  apply stillMapped_of_elsewhere mapped
  · intro same
    have present := (present_of_isMapped mapped).1
    rw [same, new] at present
    cases present
  · intro id different
    exact ⟨rfl, (scope.find?_insert catalog id).trans (if_neg different)⟩

theorem stillMapped_addPlans (mapped : (mapper.resolve scope evidence).finding.isMapped = true)
    {catalogId : String} (new : mapper.plans.contains catalogId = false) (plans : List Plan) :
    StillMapped ((mapper.addPlans catalogId plans).plans.offers scope) evidence.ruleId catalogId
      (mapper.resolve scope evidence).finding
      ((mapper.addPlans catalogId plans).resolve scope evidence).finding := by
  apply stillMapped_of_elsewhere mapped
  · intro same
    have present := (present_of_isMapped mapped).2
    rw [same, new] at present
    cases present
  · intro id different
    exact ⟨mapper.plans.find?_alter_of_ne different _, rfl⟩

/-- Neither a catalog under a new id nor plans under a new id take a mapping away. -/
theorem stillMapped_of_new (mapper : Mapper) (scope : Scope) (evidence : Evidence)
    (mapped : (mapper.resolve scope evidence).finding.isMapped = true) :
    let finding := (mapper.resolve scope evidence).finding
    (∀ catalog : Catalog, scope.contains catalog.id = false →
      StillMapped (mapper.plans.offers (scope.insert catalog)) evidence.ruleId catalog.id finding
        (mapper.resolve (scope.insert catalog) evidence).finding) ∧
    (∀ (catalogId : String) (plans : List Plan), mapper.plans.contains catalogId = false →
      StillMapped ((mapper.addPlans catalogId plans).plans.offers scope) evidence.ruleId catalogId
        finding ((mapper.addPlans catalogId plans).resolve scope evidence).finding) := by
  constructor
  · intro catalog new
    exact stillMapped_insert mapped new
  · intro catalogId plans new
    exact stillMapped_addPlans mapped new plans

/-- A catalog under the smaller id takes the finding over; plans under a greater id change
nothing. -/
theorem stillMapped_loginEvidence :
    let finding := (loginMapper.resolve loginScope loginEvidence).finding
    let moved := (loginMapper.resolve (loginScope.insert (loginCatalog "a")) loginEvidence).finding
    let kept := ((loginMapper.addPlans "c" [planFor "rule"]).resolve loginScope loginEvidence).finding
    finding.isMapped = true ∧ finding.control.catalogId = "b" ∧
      moved.isMapped = true ∧ moved.control.catalogId = "a" ∧ kept = finding := by
  intro finding moved kept
  have mapped : finding.isMapped = true := by decide +kernel
  obtain ⟨afterCatalog, afterPlans⟩ :=
    stillMapped_of_new loginMapper loginScope loginEvidence mapped
  have smaller := afterCatalog (loginCatalog "a") (by decide +kernel)
  have greater := afterPlans "c" [planFor "rule"] (by decide +kernel)
  exact ⟨mapped, by decide +kernel, smaller.isMapped, by decide +kernel,
    greater.unchanged (by decide +kernel)⟩

/-- More plans under an id that is in use may take the mapping away: the last procedure counts. -/
example :
    let later : Plan := { planFor "rule" with control := { entryId := "logout" } }
    ((loginMapper.addPlans "b" [later]).resolve loginScope loginEvidence).finding.isMapped =
      false := by
  decide +kernel

/-! ## Runs of additions -/

/-- Catalogs and plans are added under new ids, one after the other. -/
inductive Grows (mapper : Mapper) (scope : Scope) : Mapper → Scope → Prop where
  | start : Grows mapper scope mapper scope
  | catalog {grown : Mapper} {grownScope : Scope} (past : Grows mapper scope grown grownScope)
      {catalog : Catalog} (new : grownScope.contains catalog.id = false) :
      Grows mapper scope grown (grownScope.insert catalog)
  | plans {grown : Mapper} {grownScope : Scope} (past : Grows mapper scope grown grownScope)
      {catalogId : String} (new : grown.plans.contains catalogId = false) (plans : List Plan) :
      Grows mapper scope (grown.addPlans catalogId plans) grownScope

/-- However much is added under new ids, evidence stays mapped, and the id that its finding names
never grows. As long as the id stays the same, so does the finding. -/
theorem movesDown_of_grows (growth : Grows mapper scope grown grownScope)
    (mapped : (mapper.resolve scope evidence).finding.isMapped = true) :
    MovesDown (mapper.resolve scope evidence).finding
      (grown.resolve grownScope evidence).finding := by
  induction growth with
  | start => exact ⟨mapped, .inl rfl⟩
  | catalog past new inductionHypothesis =>
      exact inductionHypothesis.trans (stillMapped_insert inductionHypothesis.1 new).movesDown
  | plans past new plans inductionHypothesis =>
      exact inductionHypothesis.trans
        (stillMapped_addPlans inductionHypothesis.1 new plans).movesDown

end Mapper

end ComplianceEvidence
