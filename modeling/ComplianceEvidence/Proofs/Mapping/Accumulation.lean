import Mathlib.Data.List.Induction
import ComplianceEvidence.Proofs.Mapping.Resolution

/-!
Contract: a mapper accumulates the plans that are added to it.

Owns: runs of additions, the plans that a run gives to each catalog, the store behind a run, and the
comparison of two runs.

An addition is put behind the plans that are there, so additions for different catalogs commute, and
those for the same catalog do not. One without plans still leaves its id behind. There it may give a
search one more miss, but never a match.
-/

set_option autoImplicit false

namespace ComplianceEvidence

open Text.Utf8 (encode)

/-- Plans and the id of the catalog that they are added for. -/
abbrev Addition := String × List Plan

/-- The plans that additions give to a catalog, in their order. -/
def Addition.gathered (additions : List Addition) (catalogId : String) : List Plan :=
  (additions.filter fun addition => addition.1 = catalogId).flatMap Prod.snd

/-- Two runs name the same catalogs, and give the same plans to each of them. -/
structure Addition.SameGathered (additions others : List Addition) : Prop where
  ids : ∀ catalogId, catalogId ∈ additions.map Prod.fst ↔ catalogId ∈ others.map Prod.fst
  plans : ∀ catalogId, gathered additions catalogId = gathered others catalogId

namespace Mapper

def addAll (mapper : Mapper) (additions : List Addition) : Mapper :=
  additions.foldl (fun built addition => built.addPlans addition.1 addition.2) mapper

/-- The store of a mapper has the ids that additions name, in ascending order and whether they come
with plans or not, and under each of them the plans that they give to it. -/
structure Accumulates (mapper : Mapper) (additions : List Addition) : Prop where
  ids : ∀ catalogId, catalogId ∈ mapper.plans.keys ↔ ∃ plans, (catalogId, plans) ∈ additions
  ascending : mapper.plans.keys.Pairwise fun left right => encode left < encode right
  plans : ∀ catalogId ∈ mapper.plans.keys,
    mapper.plans.find? catalogId = some (Addition.gathered additions catalogId)

end Mapper

/-! ## Gathered plans -/

namespace Addition

variable {additions others : List Addition} {catalogId : String}

theorem gathered_append (front back : List Addition) (catalogId : String) :
    gathered (front ++ back) catalogId = gathered front catalogId ++ gathered back catalogId := by
  simp [gathered]

theorem gathered_singleton (addition : Addition) (catalogId : String) :
    gathered [addition] catalogId = if addition.1 = catalogId then addition.2 else [] := by
  by_cases same : addition.1 = catalogId <;> simp [gathered, same]

theorem gathered_pieces (addedId : String) (pieces : List (List Plan)) (catalogId : String) :
    gathered (pieces.map fun piece => (addedId, piece)) catalogId =
      if addedId = catalogId then pieces.flatten else [] := by
  by_cases same : addedId = catalogId <;>
    simp [gathered, same, List.filter_map, Function.comp_def, List.flatMap_def]

theorem gathered_of_not_mem (absent : catalogId ∉ additions.map Prod.fst) :
    gathered additions catalogId = [] := by
  have none : (additions.filter fun addition => addition.1 = catalogId) = [] := by
    rw [List.filter_eq_nil_iff]
    intro addition member same
    exact absent (of_decide_eq_true same ▸ List.mem_map_of_mem member)
  rw [gathered, none, List.flatMap_nil]

/-- Runs that have the same additions for each catalog in the same order, however the catalogs take
turns, gather the same. -/
theorem sameGathered_of_filter
    (same : ∀ catalogId, (additions.filter fun addition => addition.1 = catalogId) =
      others.filter fun addition => addition.1 = catalogId) :
    SameGathered additions others := by
  constructor
  case ids =>
    intro catalogId
    have named (run : List Addition) : catalogId ∈ run.map Prod.fst ↔
        (run.filter fun addition => addition.1 = catalogId) ≠ [] := by
      rw [Ne, List.filter_eq_nil_iff]
      simp
    rw [named, named, same]
  case plans =>
    intro catalogId
    rw [gathered, gathered, same]

/-- Plans that are added piece by piece are gathered as if they were added at once. -/
theorem sameGathered_of_pieces {cuts : List (String × List (List Plan))}
    (notEmpty : ∀ cut ∈ cuts, cut.2 ≠ []) :
    SameGathered (cuts.flatMap fun cut => cut.2.map fun piece => (cut.1, piece))
      (cuts.map fun cut => (cut.1, cut.2.flatten)) := by
  constructor
  case ids =>
    intro catalogId
    simp only [List.map_flatMap, List.map_map, List.mem_flatMap, List.mem_map]
    constructor
    · rintro ⟨cut, member, piece, -, same⟩
      exact ⟨cut, member, same⟩
    · rintro ⟨cut, member, same⟩
      obtain ⟨piece, inCut⟩ := List.exists_mem_of_ne_nil _ (notEmpty cut member)
      exact ⟨cut, member, piece, inCut, same⟩
  case plans =>
    intro catalogId
    clear notEmpty
    induction cuts with
    | nil => rfl
    | cons head tail inductionHypothesis =>
        rw [List.flatMap_cons, gathered_append, gathered_pieces, inductionHypothesis, List.map_cons,
          ← List.singleton_append, gathered_append, gathered_singleton]

/-- An addition without plans gives nothing to any catalog. -/
theorem gathered_without_plans (front back : List Addition) (addedId catalogId : String) :
    gathered (front ++ (addedId, []) :: back) catalogId = gathered (front ++ back) catalogId := by
  rw [← List.singleton_append, gathered_append, gathered_append, gathered_append,
    gathered_singleton]
  simp

end Addition

/-! ## Stores behind runs -/

namespace Mapper

open Addition (gathered SameGathered)

variable {mapperId otherId catalogId : String} {additions others : List Addition}

theorem find?_addPlans (mapper : Mapper) (addedId catalogId : String) (plans : List Plan) :
    (mapper.addPlans addedId plans).plans.find? catalogId =
      if catalogId = addedId then some ((mapper.plans.find? addedId).getD [] ++ plans)
      else mapper.plans.find? catalogId := by
  show (mapper.plans.alter addedId _).find? catalogId = _
  by_cases same : catalogId = addedId
  · rw [if_pos same, same, Ordered.Table.find?_alter_self]
  · rw [if_neg same, Ordered.Table.find?_alter_of_ne _ same]

theorem addAll_append_singleton (mapper : Mapper) (front : List Addition) (final : Addition) :
    mapper.addAll (front ++ [final]) = (mapper.addAll front).addPlans final.1 final.2 := by
  simp [addAll]

theorem id_addAll (mapper : Mapper) (additions : List Addition) :
    (mapper.addAll additions).id = mapper.id := by
  induction additions generalizing mapper with
  | nil => rfl
  | cons head tail inductionHypothesis => exact inductionHypothesis (mapper.addPlans head.1 head.2)

/-- Behind a run of additions, every id that was named has what was gathered for it. -/
theorem find?_addAll (mapperId catalogId : String) (additions : List Addition) :
    ((withId mapperId).addAll additions).plans.find? catalogId =
      if catalogId ∈ additions.map Prod.fst then some (gathered additions catalogId) else none := by
  induction additions using List.reverseRecOn with
  | nil => rfl
  | append_singleton front final inductionHypothesis =>
      rw [addAll_append_singleton, find?_addPlans, Addition.gathered_append,
        Addition.gathered_singleton]
      by_cases same : catalogId = final.1
      · subst same
        have before : (((withId mapperId).addAll front).plans.find? final.1).getD [] =
            gathered front final.1 := by
          rw [inductionHypothesis]
          split
          · rfl
          · rename_i absent
            rw [Addition.gathered_of_not_mem absent]
            rfl
        rw [before]
        simp
      · have sameIds : catalogId ∈ (front ++ [final]).map Prod.fst ↔
            catalogId ∈ front.map Prod.fst := by
          simp [same]
        rw [if_neg same, if_neg (Ne.symm same), List.append_nil, inductionHypothesis]
        simp only [sameIds]

theorem mem_keys_addAll_iff (mapperId : String) :
    catalogId ∈ ((withId mapperId).addAll additions).plans.keys ↔
      catalogId ∈ additions.map Prod.fst := by
  rw [Ordered.Table.mem_keys_iff, find?_addAll]
  by_cases named : catalogId ∈ additions.map Prod.fst <;> simp [named]

theorem accumulates_addAll (mapperId : String) (additions : List Addition) :
    ((withId mapperId).addAll additions).Accumulates additions := by
  constructor
  case ids =>
    intro catalogId
    rw [mem_keys_addAll_iff]
    simp
  case ascending => exact Text.Utf8.encode_ascending (Ordered.Table.keys_ascending _)
  case plans =>
    intro catalogId isKey
    rw [find?_addAll, if_pos ((mem_keys_addAll_iff mapperId).1 isKey)]

/-! ## Two runs -/

theorem plans_addAll_eq_iff :
    ((withId mapperId).addAll additions).plans = ((withId otherId).addAll others).plans ↔
      SameGathered additions others := by
  constructor
  · intro same
    have sameFound (catalogId : String) := congrArg (Ordered.Table.find? · catalogId) same
    simp only [find?_addAll] at sameFound
    have sameIds (catalogId : String) :
        catalogId ∈ additions.map Prod.fst ↔ catalogId ∈ others.map Prod.fst := by
      rw [← mem_keys_addAll_iff mapperId, same, mem_keys_addAll_iff]
    refine ⟨sameIds, fun catalogId => ?_⟩
    by_cases named : catalogId ∈ additions.map Prod.fst
    · have found := sameFound catalogId
      rw [if_pos named, if_pos ((sameIds catalogId).1 named)] at found
      exact Option.some.inj found
    · have absent := mt (sameIds catalogId).2 named
      rw [Addition.gathered_of_not_mem named, Addition.gathered_of_not_mem absent]
  · intro same
    apply Ordered.Table.eq_of_find?
    intro catalogId plans
    rw [find?_addAll, find?_addAll, same.plans catalogId]
    simp only [same.ids catalogId]

theorem resolve_eq_of_plans {mapper other : Mapper} (same : mapper.plans = other.plans)
    (scope : Scope) (evidence : Evidence) :
    mapper.resolve scope evidence = other.resolve scope evidence := by
  rw [resolve, resolve, same]

/-- Runs that give the same plans to each catalog offer the same, even if one of them names more
catalogs. -/
theorem agree_of_gathered
    (same : ∀ catalogId, gathered additions catalogId = gathered others catalogId)
    (scope : Scope) :
    (((withId mapperId).addAll additions).plans.offers scope).Agree
      (((withId otherId).addAll others).plans.offers scope) := by
  have stored (mapperId : String) (run : List Addition) {catalogId : String} {plans : List Plan}
      (hasPlans : plans ≠ []) :
      ((withId mapperId).addAll run).plans.find? catalogId = some plans ↔
        gathered run catalogId = plans := by
    rw [find?_addAll]
    by_cases named : catalogId ∈ run.map Prod.fst
    · rw [if_pos named, Option.some.injEq]
    · rw [if_neg named, Addition.gathered_of_not_mem named]
      simp [Ne.symm hasPlans]
  intro catalogId catalog plans hasPlans
  show scope.find? catalogId = some catalog ∧ _ ↔ scope.find? catalogId = some catalog ∧ _
  rw [stored mapperId additions hasPlans, stored otherId others hasPlans, same]

/-- A mapper accumulates what is added to it. Its store depends on no more than the ids that are
named and the plans that are gathered for each of them, and neither do its resolutions: catalogs may
take turns, and plans may come piece by piece. An addition without plans changes no finding. -/
theorem addAll_accumulates (mapperId : String) (additions : List Addition) :
    let mapper := (withId mapperId).addAll additions
    mapper.Accumulates additions ∧
      (∀ (otherId : String) (others : List Addition),
        let other := (withId otherId).addAll others
        (mapper.plans = other.plans ↔ SameGathered additions others) ∧
          (SameGathered additions others → ∀ scope evidence,
            mapper.resolve scope evidence = other.resolve scope evidence)) ∧
      (∀ others : List Addition,
        (∀ catalogId, (additions.filter fun addition => addition.1 = catalogId) =
          others.filter fun addition => addition.1 = catalogId) →
        SameGathered additions others) ∧
      (∀ cuts : List (String × List (List Plan)), (∀ cut ∈ cuts, cut.2 ≠ []) →
        additions = (cuts.flatMap fun cut => cut.2.map fun piece => (cut.1, piece)) →
        SameGathered additions (cuts.map fun cut => (cut.1, cut.2.flatten))) ∧
      (∀ (front back : List Addition) (addedId : String), additions = front ++ back →
        ∀ scope evidence,
          (((withId mapperId).addAll (front ++ (addedId, []) :: back)).resolve scope
            evidence).finding = (mapper.resolve scope evidence).finding) := by
  intro mapper
  refine ⟨accumulates_addAll mapperId additions, ?_, ?_, ?_, ?_⟩
  · intro otherId others other
    refine ⟨plans_addAll_eq_iff, ?_⟩
    intro same scope evidence
    exact resolve_eq_of_plans (plans_addAll_eq_iff.2 same) scope evidence
  · intro others same
    exact Addition.sameGathered_of_filter same
  · intro cuts notEmpty areCut
    rw [areCut]
    exact Addition.sameGathered_of_pieces notEmpty
  · intro front back addedId split scope evidence
    apply finding_eq_of_agree
    apply agree_of_gathered
    intro catalogId
    rw [split]
    exact Addition.gathered_without_plans front back addedId catalogId

def planAbout (controlId : String) : Plan := { control := { entryId := controlId } }

/-- Plans for one catalog, between which an addition without plans names another one. -/
def sampleAdditions : List Addition :=
  [("b", [planAbout "x"]), ("a", []), ("b", [planAbout "y"])]

/-- The same additions, one catalog after the other. -/
def sampleInTurn : List Addition :=
  [("a", []), ("b", [planAbout "x"]), ("b", [planAbout "y"])]

theorem addAll_sampleAdditions :
    let mapper := (withId "opa").addAll sampleAdditions
    let inTurn := (withId "opa").addAll sampleInTurn
    let atOnce := (withId "opa").addAll [("a", []), ("b", [planAbout "x", planAbout "y"])]
    let evidence := Evidence.minimal "opa" "rule" .failed ⟨⟨2026, 1, 1⟩, 0, 0, 0, 0⟩
    mapper.plans.keys = ["a", "b"] ∧
      mapper.plans.find? "b" = some [planAbout "x", planAbout "y"] ∧
      mapper.plans = inTurn.plans ∧ inTurn.plans = atOnce.plans ∧
      mapper.resolve .empty evidence = inTurn.resolve .empty evidence ∧
      (((withId "opa").addAll (("c", []) :: sampleAdditions)).resolve .empty evidence).finding =
        (mapper.resolve .empty evidence).finding := by
  intro mapper inTurn atOnce evidence
  have sameTurns : SameGathered sampleAdditions sampleInTurn := by
    apply (addAll_accumulates "opa" sampleAdditions).2.2.1
    intro catalogId
    by_cases isA : "a" = catalogId
    · subst isA
      rfl
    · simp [sampleAdditions, sampleInTurn, List.filter_cons, isA]
  obtain ⟨accumulates, others, -, -, withoutPlans⟩ := addAll_accumulates "opa" sampleAdditions
  obtain ⟨-, inTurnOthers, -, pieces, -⟩ := addAll_accumulates "opa" sampleInTurn
  have samePieces := pieces [("a", [[]]), ("b", [[planAbout "x"], [planAbout "y"]])] (by simp) rfl
  have keys : mapper.plans.keys = ["a", "b"] := by decide +kernel
  have isKey : "b" ∈ mapper.plans.keys := by
    rw [keys]
    decide
  exact ⟨keys, accumulates.plans "b" isKey, (others "opa" _).1.2 sameTurns,
    (inTurnOthers "opa" _).1.2 samePieces, (others "opa" _).2 sameTurns .empty evidence,
    withoutPlans [] _ "c" rfl .empty evidence⟩

/-- Plans for the same catalog do not commute: the last one comes last. -/
example :
    ((withId "opa").addAll [("b", [planAbout "y"]), ("b", [planAbout "x"])]).plans.find? "b" =
      some [planAbout "y", planAbout "x"] := by
  decide +kernel

end Mapper

end ComplianceEvidence
