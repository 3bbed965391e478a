import ComplianceEvidence.Proofs.Mapping.Growth
import ComplianceEvidence.Service.Basic
import Mathlib.Data.List.Forall2

/-!
Contract: what a search leaves behind on its way to a match.

Owns: the reasons why a rule has no match under an id, told without a search, the ids that have
been tried when a search ends, and the events that a resolution is noted with.

Every id before the match has one miss, and without a match every id has. A miss names the first of
three reasons: no catalog, no procedure for the rule, no control of the last such procedure.
-/

set_option autoImplicit false

namespace ComplianceEvidence

open Journal (Event)
open Text.Utf8 (encode)

/-! ## One miss -/

def Miss.catalogId : Miss → String
  | .catalogAbsent catalogId => catalogId
  | .ruleAbsent catalogId _ => catalogId
  | .controlAbsent catalogId _ => catalogId

/-- A rule has no match under an id with some plans, for the first reason that applies. -/
inductive Misses (scope : Scope) (ruleId catalogId : String) (plans : List Plan) : Miss → Prop where
  | catalogAbsent (absent : scope.find? catalogId = none) :
      Misses scope ruleId catalogId plans (.catalogAbsent catalogId)
  | ruleAbsent {catalog : Catalog} (inScope : scope.find? catalogId = some catalog)
      (silent : ∀ plan ∈ plans, ¬ plan.HasProcedure ruleId) :
      Misses scope ruleId catalogId plans (.ruleAbsent catalogId ruleId)
  | controlAbsent {catalog : Catalog} {occurrence : Occurrence}
      (inScope : scope.find? catalogId = some catalog)
      (assessed : Assesses plans ruleId occurrence)
      (undefined : ¬ catalog.HasControl occurrence.plan.control.entryId) :
      Misses scope ruleId catalogId plans
        (.controlAbsent catalogId occurrence.plan.control.entryId)

section OneMiss

variable {scope : Scope} {ruleId catalogId : String} {plans : List Plan} {miss : Miss}

theorem matchIn_eq_error_iff :
    matchIn scope ruleId catalogId plans = .error miss ↔
      Misses scope ruleId catalogId plans miss := by
  constructor
  · intro failed
    unfold matchIn at failed
    split at failed
    · rename_i absent
      cases failed
      exact .catalogAbsent absent
    · rename_i catalog inScope
      split at failed
      · rename_i notFound
        cases failed
        exact .ruleAbsent inScope (ProcedureIndex.find?_ofPlans_eq_none_iff.1 notFound)
      · rename_i procedure procedureFound
        obtain ⟨occurrence, assessed, rfl⟩ :=
          ProcedureIndex.find?_ofPlans_eq_some_iff.1 procedureFound
        split at failed
        · rename_i notFound
          cases failed
          exact .controlAbsent inScope assessed
            (ControlIndex.find?_ofCatalog_eq_none_iff.1 notFound)
        · cases failed
  · intro misses
    cases misses with
    | catalogAbsent absent => simp only [matchIn, absent]
    | ruleAbsent inScope silent =>
        have notFound := ProcedureIndex.find?_ofPlans_eq_none_iff.2 silent
        simp only [matchIn, inScope, notFound]
    | @controlAbsent _ occurrence inScope assessed undefined =>
        have procedureFound :=
          ProcedureIndex.find?_ofPlans_eq_some_iff.2 ⟨occurrence, assessed, rfl⟩
        have sameControl : occurrence.entry.controlId = occurrence.plan.control.entryId := rfl
        have notFound := ControlIndex.find?_ofCatalog_eq_none_iff.2 undefined
        simp only [matchIn, inScope, procedureFound, sameControl, notFound]

theorem Misses.catalogId_eq (misses : Misses scope ruleId catalogId plans miss) :
    miss.catalogId = catalogId := by
  cases misses <;> rfl

/-- Which of the three reasons a miss names, and what it names besides the catalog. -/
structure Miss.Classified (scope : Scope) (ruleId : String) (plans : List Plan) (miss : Miss) :
    Prop where
  catalogAbsent_iff : miss = .catalogAbsent miss.catalogId ↔ scope.find? miss.catalogId = none
  ruleAbsent_iff : miss = .ruleAbsent miss.catalogId ruleId ↔
    (∃ catalog, scope.find? miss.catalogId = some catalog) ∧
      ∀ plan ∈ plans, ¬ plan.HasProcedure ruleId
  controlAbsent_iff : ∀ controlId, miss = .controlAbsent miss.catalogId controlId ↔
    ∃ catalog occurrence, scope.find? miss.catalogId = some catalog ∧
      Assesses plans ruleId occurrence ∧ occurrence.plan.control.entryId = controlId
  undefined : ∀ catalog occurrence, scope.find? miss.catalogId = some catalog →
    Assesses plans ruleId occurrence → ¬ catalog.HasControl occurrence.plan.control.entryId

theorem Misses.classified (misses : Misses scope ruleId catalogId plans miss) :
    miss.Classified scope ruleId plans := by
  cases misses with
  | catalogAbsent absent =>
      have noCatalog : ∀ catalog, scope.find? catalogId ≠ some catalog := by simp [absent]
      exact
        { catalogAbsent_iff := iff_of_true rfl absent
          ruleAbsent_iff := iff_of_false nofun fun ⟨⟨catalog, inScope⟩, _⟩ =>
            noCatalog catalog inScope
          controlAbsent_iff := fun _ => iff_of_false nofun fun ⟨catalog, _, inScope, _⟩ =>
            noCatalog catalog inScope
          undefined := fun catalog _ inScope => absurd inScope (noCatalog catalog) }
  | @ruleAbsent catalog inScope silent =>
      have notAssessed : ∀ occurrence, ¬ Assesses plans ruleId occurrence := by
        intro occurrence assessed
        exact silent occurrence.plan assessed.lastPlan.mem assessed.lastPlan.property
      exact
        { catalogAbsent_iff := iff_of_false nofun (by simp [Miss.catalogId, inScope])
          ruleAbsent_iff := iff_of_true rfl ⟨⟨catalog, inScope⟩, silent⟩
          controlAbsent_iff := fun _ => iff_of_false nofun fun ⟨_, occurrence, _, assessed, _⟩ =>
            notAssessed occurrence assessed
          undefined := fun _ occurrence _ assessed => absurd assessed (notAssessed occurrence) }
  | @controlAbsent catalog occurrence inScope assessed undefined =>
      refine
        { catalogAbsent_iff := iff_of_false nofun (by simp [Miss.catalogId, inScope])
          ruleAbsent_iff := iff_of_false nofun fun ⟨_, silent⟩ =>
            silent occurrence.plan assessed.lastPlan.mem assessed.lastPlan.property
          controlAbsent_iff := ?_
          undefined := ?_ }
      · intro controlId
        constructor
        · rintro ⟨⟩
          exact ⟨catalog, occurrence, inScope, assessed, rfl⟩
        · rintro ⟨_, other, _, otherAssessed, rfl⟩
          rw [assessed.unique otherAssessed]
          rfl
      · intro other otherOccurrence otherInScope otherAssessed
        obtain rfl := Option.some.inj (inScope.symm.trans otherInScope)
        rw [← assessed.unique otherAssessed]
        exact undefined

end OneMiss

/-! ## All misses -/

/-- A search tries entries from the front and misses each of them, up to the one with the match. -/
theorem exists_tried (scope : Scope) (ruleId : String) (entries : List (String × List Plan)) :
    ∃ tried rest, entries = tried ++ rest ∧
      List.Forall₂ (fun entry miss => Misses scope ruleId entry.1 entry.2 miss) tried
        (search scope ruleId entries).1 ∧
      ((search scope ruleId entries).2 = none → rest = []) ∧
      ∀ found, (search scope ruleId entries).2 = some found →
        ∃ plans later, rest = (found.catalogId, plans) :: later := by
  induction entries with
  | nil => exact ⟨[], [], rfl, .nil, fun _ => rfl, by simp [search]⟩
  | cons head tail inductionHypothesis =>
      rw [search]
      cases attempt : matchIn scope ruleId head.1 head.2 with
      | ok found =>
          refine ⟨[], head :: tail, rfl, .nil, by simp, ?_⟩
          rintro _ ⟨⟩
          exact ⟨head.2, tail, by rw [catalogId_of_matchIn attempt]⟩
      | error miss =>
          obtain ⟨tried, rest, split, each, ended⟩ := inductionHypothesis
          exact ⟨head :: tried, rest, congrArg (head :: ·) split,
            .cons (matchIn_eq_error_iff.1 attempt) each, ended⟩

theorem exists_entry_of_miss {scope : Scope} {ruleId : String}
    {tried : List (String × List Plan)} {misses : List Miss} {miss : Miss}
    (each : List.Forall₂ (fun entry miss => Misses scope ruleId entry.1 entry.2 miss) tried misses)
    (member : miss ∈ misses) :
    ∃ entry ∈ tried, Misses scope ruleId entry.1 entry.2 miss := by
  induction each with
  | nil => cases member
  | @cons entry _ _ _ missed _ inductionHypothesis =>
      rcases List.mem_cons.1 member with rfl | inside
      · exact ⟨entry, List.mem_cons_self, missed⟩
      · obtain ⟨entry, tried, missed⟩ := inductionHypothesis inside
        exact ⟨entry, List.mem_cons_of_mem _ tried, missed⟩

theorem map_catalogId_eq {scope : Scope} {ruleId : String} {tried : List (String × List Plan)}
    {misses : List Miss}
    (each : List.Forall₂ (fun entry miss => Misses scope ruleId entry.1 entry.2 miss) tried
      misses) : misses.map Miss.catalogId = tried.map Prod.fst := by
  induction each with
  | nil => rfl
  | cons missed _ inductionHypothesis =>
      rw [List.map_cons, List.map_cons, missed.catalogId_eq, inductionHypothesis]

namespace Mapper

variable {mapper : Mapper} {scope : Scope} {evidence : Evidence}

theorem isMapped_iff :
    (mapper.resolve scope evidence).finding.isMapped = true ↔
      ∃ found, (search scope evidence.ruleId mapper.plans.entries).2 = some found := by
  constructor
  · intro mapped
    obtain ⟨found, first, -⟩ := found_of_isMapped mapped
    exact ⟨found, first⟩
  · rintro ⟨found, first⟩
    rw [finding_of_search first]
    rfl

/-- The ids with a miss are the first ones of the store, up to the one of a mapped finding. -/
theorem exists_missed (mapper : Mapper) (scope : Scope) (evidence : Evidence) :
    let resolution := mapper.resolve scope evidence
    ∃ rest, mapper.plans.keys = resolution.misses.map Miss.catalogId ++ rest ∧
      (resolution.finding.isMapped = false → rest = []) ∧
      (resolution.finding.isMapped = true →
        ∃ later, rest = resolution.finding.control.catalogId :: later) := by
  intro resolution
  obtain ⟨tried, rest, split, each, exhausted, ended⟩ :=
    exists_tried scope evidence.ruleId mapper.plans.entries
  refine ⟨rest.map Prod.fst, ?_, ?_, ?_⟩
  · rw [show resolution.misses.map _ = _ from map_catalogId_eq each, ← List.map_append, ← split]
    rfl
  · intro unmapped
    rw [exhausted, List.map_nil]
    rw [← Bool.not_eq_true, isMapped_iff] at unmapped
    exact Option.eq_none_iff_forall_ne_some.2 fun found first => unmapped ⟨found, first⟩
  · intro mapped
    obtain ⟨found, first, sameId⟩ := found_of_isMapped mapped
    obtain ⟨plans, later, rfl⟩ := ended found first
    exact ⟨later.map Prod.fst, by rw [List.map_cons, sameId]⟩

/-- The ids with a miss are exactly those of the store that are smaller than the one of a mapped
finding, or all of them. -/
theorem mem_missed_iff {catalogId : String} :
    let resolution := mapper.resolve scope evidence
    catalogId ∈ resolution.misses.map Miss.catalogId ↔
      catalogId ∈ mapper.plans.keys ∧
        (resolution.finding.isMapped = true →
          catalogId < resolution.finding.control.catalogId) := by
  intro resolution
  obtain ⟨rest, split, exhausted, ended⟩ := exists_missed mapper scope evidence
  have ascending := mapper.plans.keys_ascending
  rw [split] at ascending ⊢
  cases mapped : resolution.finding.isMapped with
  | false =>
      rw [exhausted mapped]
      simp [resolution]
  | true =>
      obtain ⟨later, rfl⟩ := ended mapped
      obtain ⟨-, laterAbove, below⟩ := List.pairwise_append.1 ascending
      constructor
      · intro missed
        exact ⟨List.mem_append_left _ missed, fun _ => below _ missed _ List.mem_cons_self⟩
      · rintro ⟨stored, smaller⟩
        rcases List.mem_append.1 stored with missed | behind
        · exact missed
        · rcases List.mem_cons.1 behind with rfl | inLater
          · exact absurd (smaller rfl) (String.lt_irrefl _)
          · have greater := (List.pairwise_cons.1 laterAbove).1 _ inLater
            exact absurd (String.lt_trans (smaller rfl) greater) (String.lt_irrefl _)

theorem missed_ascending (mapper : Mapper) (scope : Scope) (evidence : Evidence) :
    ((mapper.resolve scope evidence).misses.map Miss.catalogId).Pairwise (· < ·) := by
  obtain ⟨rest, split, -⟩ := exists_missed mapper scope evidence
  have ascending := mapper.plans.keys_ascending
  rw [split] at ascending
  exact (List.pairwise_append.1 ascending).1

theorem exists_classified {miss : Miss} (member : miss ∈ (mapper.resolve scope evidence).misses) :
    ∃ plans, mapper.plans.find? miss.catalogId = some plans ∧
      miss.Classified scope evidence.ruleId plans := by
  obtain ⟨tried, rest, split, each, -⟩ :=
    exists_tried scope evidence.ruleId mapper.plans.entries
  obtain ⟨entry, inTried, misses⟩ := exists_entry_of_miss each member
  have stored : entry ∈ mapper.plans.entries := split ▸ List.mem_append_left _ inTried
  refine ⟨entry.2, ?_, misses.classified⟩
  rw [misses.catalogId_eq]
  exact Ordered.Table.find?_eq_some_iff_mem.2 stored

/-- The trail of a resolution. There is one miss for every stored id below the one of a mapped
finding, and for every stored id without such a finding, by ascending ids, and each names the first
reason that applies. The response has the finding of the resolution, and what is noted is each miss
in this order, and at the end that the evidence is unmapped, if it is. -/
theorem resolve_leaves_trail (mapper : Mapper) (scope : Scope) (evidence : Evidence) :
    let resolution := mapper.resolve scope evidence
    let finding := resolution.finding
    let missedIds := resolution.misses.map Miss.catalogId
    (∀ catalogId, catalogId ∈ missedIds ↔
      catalogId ∈ mapper.plans.keys ∧
        (finding.isMapped = true → encode catalogId < encode finding.control.catalogId)) ∧
    missedIds.Pairwise (fun left right => encode left < encode right) ∧
    (∀ miss ∈ resolution.misses, ∃ plans, mapper.plans.find? miss.catalogId = some plans ∧
      miss.Classified scope evidence.ruleId plans) ∧
    (mapper.respond scope evidence).finding = finding ∧
    mapper.trail scope evidence =
      resolution.misses.map (.resolutionMissed mapper.id evidence.ruleId) ++
        (if finding.isMapped then []
          else [.evidenceUnmapped mapper.id evidence.ruleId mapper.plans.keys.length]) ∧
    (mapper.trail scope evidence).map Event.message =
      List.replicate missedIds.length "Resolution miss" ++
        (if finding.isMapped then [] else ["Evidence unmapped"]) := by
  intro resolution finding missedIds
  have noted : mapper.trail scope evidence =
      resolution.misses.map (.resolutionMissed mapper.id evidence.ruleId) ++
        (if finding.isMapped then []
          else [.evidenceUnmapped mapper.id evidence.ruleId mapper.plans.keys.length]) := by
    rw [Ordered.Table.keys, List.length_map]
    rfl
  refine ⟨?_, ?_, fun _ => exists_classified, rfl, noted, ?_⟩
  · intro catalogId
    rw [Text.Utf8.encode_lt_encode_iff]
    exact mem_missed_iff
  · refine (missed_ascending mapper scope evidence).imp ?_
    intro left right below
    exact Text.Utf8.encode_lt_encode_iff.2 below
  · rw [noted, List.map_append, List.map_map, List.length_map]
    congr 1
    · exact List.map_const' ..
    · cases finding.isMapped <;> rfl

/-- Of five stored ids, the first three miss for one reason each, and the fourth one matches. -/
def mixedMapper : Mapper :=
  let logout : Plan := { planFor "rule" with control := { entryId := "logout" } }
  ((((basic.addPlans "e" [planFor "rule"]).addPlans "d" [planFor "rule"]).addPlans "c"
    [planFor "rule", logout]).addPlans "b" [planFor "other"]).addPlans "a" []

def mixedScope : Scope :=
  .ofList [loginCatalog "b", loginCatalog "c", loginCatalog "d", loginCatalog "e"]

theorem resolve_mixedMapper :
    let resolution := mixedMapper.resolve mixedScope loginEvidence
    resolution.misses =
        [.catalogAbsent "a", .ruleAbsent "b" "rule", .controlAbsent "c" "logout"] ∧
      resolution.finding.isMapped = true ∧ resolution.finding.control.catalogId = "d" ∧
      "c" ∈ resolution.misses.map Miss.catalogId ∧ "e" ∉ resolution.misses.map Miss.catalogId ∧
      (∃ catalog occurrence, mixedScope.find? "c" = some catalog ∧
        Assesses [planFor "rule", { planFor "rule" with control := { entryId := "logout" } }]
          "rule" occurrence ∧
        occurrence.plan.control.entryId = "logout") ∧
      (mixedMapper.trail mixedScope loginEvidence).map Event.message =
        ["Resolution miss", "Resolution miss", "Resolution miss"] := by
  intro resolution
  have misses : resolution.misses =
      [.catalogAbsent "a", .ruleAbsent "b" "rule", .controlAbsent "c" "logout"] := by
    decide +kernel
  have mapped : resolution.finding.isMapped = true := by decide +kernel
  have underD : resolution.finding.control.catalogId = "d" := by decide +kernel
  obtain ⟨missed, -, classified, -, -, messages⟩ :=
    resolve_leaves_trail mixedMapper mixedScope loginEvidence
  have behind : "e" ∉ resolution.misses.map Miss.catalogId := by
    intro inMissed
    have smaller := ((missed "e").1 inMissed).2 mapped
    rw [show (mixedMapper.resolve mixedScope loginEvidence).finding.control.catalogId = "d" from
      underD] at smaller
    exact absurd smaller (by decide +kernel)
  have lastMiss : Miss.controlAbsent "c" "logout" ∈ resolution.misses := by simp [misses]
  obtain ⟨plans, stored, reasons⟩ := classified _ lastMiss
  obtain rfl : plans = _ := Option.some.inj (stored.symm.trans rfl)
  refine ⟨misses, mapped, underD, by simp [misses, Miss.catalogId], behind,
    (reasons.controlAbsent_iff "logout").1 rfl, ?_⟩
  rw [messages]
  decide +kernel

end Mapper

end ComplianceEvidence
