import ComplianceEvidence.Mapping.Sharing
import ComplianceEvidence.Proofs.Mapping.Independence

/-!
Contract: the report of shared procedures names each use behind the owner, and nothing else.

Owns: which catalogs a procedure is used for and which of them owns it, told without a traversal;
traversals that start with some owners; and the agreement of the report with both.

A traversal gives a procedure to the first catalog that uses it. Catalogs come by ascending ids, so
this is the one with the least id.
-/

set_option autoImplicit false

namespace ComplianceEvidence

open Text.Utf8 (encode)

namespace PlanStore

/-- A plan that is stored for a catalog has a procedure with an id. -/
def UsedFor (store : PlanStore) (procedureId catalogId : String) : Prop :=
  ∃ plans ∈ store.find? catalogId, ∃ plan ∈ plans, plan.HasProcedure procedureId

instance (store : PlanStore) (procedureId catalogId : String) :
    Decidable (store.UsedFor procedureId catalogId) :=
  inferInstanceAs (Decidable (∃ plans ∈ store.find? catalogId, _))

/-- Of the catalogs that a procedure is used for, the one with the least id owns it. -/
structure Owns (store : PlanStore) (procedureId ownerId : String) : Prop where
  used : store.UsedFor procedureId ownerId
  least : ∀ catalogId, store.UsedFor procedureId catalogId → encode ownerId ≤ encode catalogId

/-- A procedure is used for a catalog with a smaller id. -/
def UsedBelow (store : PlanStore) (procedureId catalogId : String) : Prop :=
  ∃ smallerId ∈ store.keys, encode smallerId < encode catalogId ∧
    store.UsedFor procedureId smallerId

instance (store : PlanStore) (procedureId catalogId : String) :
    Decidable (store.UsedBelow procedureId catalogId) :=
  inferInstanceAs (Decidable (∃ smallerId ∈ store.keys, _))

end PlanStore

/-! ## Traversals -/

/-- What is reported of a use, if the procedure has an owner. -/
def SharedProcedure.ofUse? (owner : Option String) (use : String × String) :
    Option SharedProcedure :=
  owner.bind fun ownerId => if ownerId = use.2 then none else some ⟨use.1, use.2, ownerId⟩

theorem SharedProcedure.ofUse?_eq_some_iff {owner : Option String} {use : String × String}
    {entry : SharedProcedure} :
    ofUse? owner use = some entry ↔
      owner = some entry.ownerId ∧ use = (entry.procedureId, entry.catalogId) ∧
        entry.ownerId ≠ entry.catalogId := by
  rw [ofUse?, Option.bind_eq_some_iff]
  constructor
  · intro reported
    rcases reported with ⟨ownerId, isOwner, kept⟩
    split at kept
    · cases kept
    · rename_i foreign
      obtain rfl := Option.some.inj kept
      exact ⟨isOwner, rfl, foreign⟩
  · intro parts
    rcases parts with ⟨isOwner, rfl, foreign⟩
    exact ⟨entry.ownerId, isOwner, if_neg foreign⟩

/-- A procedure without an owner gets the catalog of its first use. -/
theorem sharedAmong_eq_filterMap (owners : Ordered.Table String)
    (uses : List (String × String)) :
    sharedAmong owners uses =
      uses.filterMap fun use =>
        SharedProcedure.ofUse? ((owners.find? use.1).or (uses.lookup use.1)) use := by
  induction uses generalizing owners with
  | nil => rfl
  | cons head tail inductionHypothesis =>
      obtain ⟨procedureId, catalogId⟩ := head
      rw [sharedAmong, List.filterMap_cons]
      cases known : owners.find? procedureId with
      | none =>
          -- The first use makes its catalog the owner, and is not reported itself.
          have sameOwner (id : String) :
              ((owners.insert procedureId catalogId).find? id).or (tail.lookup id) =
                (owners.find? id).or (((procedureId, catalogId) :: tail).lookup id) := by
            rw [Ordered.Table.find?_insert]
            by_cases same : id = procedureId
            · rw [if_pos same, same, known, List.lookup_cons_self]
              rfl
            · rw [if_neg same, List.lookup_cons, beq_false_of_ne same]
          simp only [inductionHypothesis, sameOwner, List.lookup_cons_self, SharedProcedure.ofUse?,
            Option.none_or, Option.bind_some, if_true]
      | some ownerId =>
          have sameOwner (id : String) :
              (owners.find? id).or (((procedureId, catalogId) :: tail).lookup id) =
                (owners.find? id).or (tail.lookup id) := by
            by_cases same : id = procedureId
            · rw [same, known, Option.some_or, Option.some_or]
            · rw [List.lookup_cons, beq_false_of_ne same]
          simp only [inductionHypothesis, sameOwner, SharedProcedure.ofUse?, Option.some_or,
            Option.bind_some]
          by_cases own : ownerId = catalogId
          · rw [if_pos own, if_pos own]
          · rw [if_neg own, if_neg own]

/-- Where catalogs ascend, the first use of a procedure is for the one with the least id. -/
theorem lookup_eq_some_iff_least {uses : List (String × String)}
    (ascending : uses.Pairwise fun left right => left.2 ≤ right.2) {procedureId ownerId : String} :
    uses.lookup procedureId = some ownerId ↔
      (procedureId, ownerId) ∈ uses ∧
        ∀ catalogId, (procedureId, catalogId) ∈ uses → ownerId ≤ catalogId := by
  have least_of_lookup {firstId : String} (first : uses.lookup procedureId = some firstId) :
      (procedureId, firstId) ∈ uses ∧
        ∀ catalogId, (procedureId, catalogId) ∈ uses → firstId ≤ catalogId := by
    obtain ⟨before, after, split, different⟩ := List.lookup_eq_some_iff.1 first
    refine ⟨by simp [split], ?_⟩
    intro catalogId member
    rw [split] at member ascending
    rcases List.mem_append.1 member with early | late
    · exact absurd (different _ early) (by simp)
    · rcases List.mem_cons.1 late with same | later
      · obtain rfl : catalogId = firstId := (Prod.mk.inj same).2
        exact String.le_refl _
      · exact (List.pairwise_cons.1 (List.pairwise_append.1 ascending).2.1).1 _ later
  constructor
  · exact least_of_lookup
  · intro isLeast
    cases first : uses.lookup procedureId with
    | none =>
        have absent := List.lookup_eq_none_iff.1 first _ isLeast.1
        simp at absent
    | some firstId =>
        obtain ⟨member, least⟩ := least_of_lookup first
        rw [String.le_antisymm (least _ isLeast.1) (isLeast.2 _ member)]

/-! ## Stores -/

theorem Plan.procedureIds_eq (plans : List Plan) :
    procedureIds plans =
      plans.flatMap fun plan => plan.assessments.flatMap fun assessment =>
        assessment.procedures.map Procedure.id := by
  simp only [procedureIds, occurrences, procedures, List.map_flatMap, List.map_map]
  rfl

namespace PlanStore

variable {store : PlanStore} {procedureId catalogId ownerId : String}

theorem mem_uses_iff :
    (procedureId, catalogId) ∈ store.uses ↔ store.UsedFor procedureId catalogId := by
  simp only [uses, UsedFor, Plan.procedureIds, List.mem_flatMap, List.mem_map, Option.mem_def,
    Ordered.Table.find?_eq_some_iff_mem, ← Plan.exists_occurrences_iff]
  constructor
  · rintro ⟨⟨_, plans⟩, stored, _, ⟨occurrence, member, rfl⟩, ⟨⟩⟩
    exact ⟨plans, stored, occurrence, member, rfl⟩
  · rintro ⟨plans, stored, occurrence, member, rfl⟩
    exact ⟨(catalogId, plans), stored, _, ⟨occurrence, member, rfl⟩, rfl⟩

theorem uses_ascending (store : PlanStore) :
    store.uses.Pairwise fun left right => left.2 ≤ right.2 := by
  rw [uses, List.pairwise_flatMap]
  constructor
  · intro entry _
    rw [List.pairwise_map]
    apply List.pairwise_of_forall
    intro _ _
    exact String.le_refl entry.1
  · refine store.ascending.imp ?_
    intro left right below leftUse inLeft rightUse inRight
    obtain ⟨_, -, rfl⟩ := List.mem_map.1 inLeft
    obtain ⟨_, -, rfl⟩ := List.mem_map.1 inRight
    exact String.not_lt.1 (String.lt_asymm below)

theorem lookup_uses_eq_some_iff :
    store.uses.lookup procedureId = some ownerId ↔ store.Owns procedureId ownerId := by
  rw [lookup_eq_some_iff_least store.uses_ascending, mem_uses_iff]
  simp only [mem_uses_iff, ← Text.Utf8.encode_le_encode_iff]
  exact ⟨fun owner => ⟨owner.1, owner.2⟩, fun owner => ⟨owner.used, owner.least⟩⟩

theorem UsedFor.mem_keys (used : store.UsedFor procedureId catalogId) : catalogId ∈ store.keys := by
  obtain ⟨plans, stored, -⟩ := used
  exact Ordered.Table.mem_keys_iff.2 ⟨plans, stored⟩

/-- A procedure that is used at all has an owner. -/
theorem UsedFor.exists_owner (used : store.UsedFor procedureId catalogId) :
    ∃ ownerId, store.Owns procedureId ownerId := by
  cases first : store.uses.lookup procedureId with
  | none =>
      have absent := List.lookup_eq_none_iff.1 first _ (mem_uses_iff.2 used)
      simp at absent
  | some ownerId => exact ⟨ownerId, lookup_uses_eq_some_iff.1 first⟩

/-- A procedure is used below a catalog exactly if the owner has a smaller id. -/
theorem Owns.usedBelow_iff (owns : store.Owns procedureId ownerId) :
    store.UsedBelow procedureId catalogId ↔ encode ownerId < encode catalogId := by
  constructor
  · rintro ⟨smallerId, -, smaller, used⟩
    rw [Text.Utf8.encode_lt_encode_iff] at smaller ⊢
    have least := Text.Utf8.encode_le_encode_iff.1 (owns.least smallerId used)
    apply String.not_le.1
    intro notAbove
    exact String.not_le.2 smaller (String.le_trans notAbove least)
  · intro smaller
    exact ⟨ownerId, owns.used.mem_keys, smaller, owns.used⟩

theorem Owns.unique {otherId : String} (owns : store.Owns procedureId ownerId)
    (other : store.Owns procedureId otherId) : ownerId = otherId :=
  String.le_antisymm (Text.Utf8.encode_le_encode_iff.1 (owns.least _ other.used))
    (Text.Utf8.encode_le_encode_iff.1 (other.least _ owns.used))

/-! ## The report -/

theorem shared_eq_filterMap (store : PlanStore) :
    store.shared = store.uses.filterMap fun use =>
      SharedProcedure.ofUse? (store.uses.lookup use.1) use := by
  rw [shared, sharedAmong_eq_filterMap]
  simp only [Ordered.Table.find?_empty, Option.none_or]

/-- An entry names a use, its owner, and a catalog that is not the owner. -/
theorem mem_shared_iff {entry : SharedProcedure} :
    entry ∈ store.shared ↔
      store.UsedFor entry.procedureId entry.catalogId ∧
        store.Owns entry.procedureId entry.ownerId ∧ entry.ownerId ≠ entry.catalogId := by
  rw [shared_eq_filterMap, List.mem_filterMap]
  simp only [SharedProcedure.ofUse?_eq_some_iff]
  constructor
  · intro reported
    rcases reported with ⟨use, member, first, rfl, foreign⟩
    exact ⟨mem_uses_iff.1 member, lookup_uses_eq_some_iff.1 first, foreign⟩
  · intro parts
    rcases parts with ⟨used, owns, foreign⟩
    exact ⟨_, mem_uses_iff.2 used, lookup_uses_eq_some_iff.2 owns, rfl, foreign⟩

theorem shared_ascending (store : PlanStore) :
    store.shared.Pairwise fun left right => left.catalogId ≤ right.catalogId := by
  rw [shared_eq_filterMap, List.pairwise_filterMap]
  refine store.uses_ascending.imp ?_
  intro left right notAbove entry reported other otherReported
  obtain ⟨-, rfl, -⟩ := SharedProcedure.ofUse?_eq_some_iff.1 reported
  obtain ⟨-, rfl, -⟩ := SharedProcedure.ofUse?_eq_some_iff.1 otherReported
  exact notAbove

/-- A use is reported exactly if the procedure is used below its catalog. -/
theorem ofUse?_map_eq (used : store.UsedFor procedureId catalogId) :
    (SharedProcedure.ofUse? (store.uses.lookup procedureId) (procedureId, catalogId)).map
        (fun entry => (entry.catalogId, entry.procedureId)) =
      if store.UsedBelow procedureId catalogId then some (catalogId, procedureId) else none := by
  obtain ⟨ownerId, owns⟩ := used.exists_owner
  rw [lookup_uses_eq_some_iff.2 owns, SharedProcedure.ofUse?, Option.bind_some]
  by_cases own : ownerId = catalogId
  · have notBelow : ¬ store.UsedBelow procedureId catalogId := by
      rw [owns.usedBelow_iff, own, Text.Utf8.encode_lt_encode_iff]
      exact String.lt_irrefl catalogId
    rw [if_pos own, if_neg notBelow, Option.map_none]
  · have below : store.UsedBelow procedureId catalogId := by
      rw [owns.usedBelow_iff, Text.Utf8.encode_lt_encode_iff]
      apply String.not_le.1
      intro above
      have notAbove := Text.Utf8.encode_le_encode_iff.1 (owns.least catalogId used)
      exact own (String.le_antisymm notAbove above)
    rw [if_neg own, if_pos below, Option.map_some]

theorem map_shared_eq (store : PlanStore) :
    store.shared.map (fun entry => (entry.catalogId, entry.procedureId)) =
      store.entries.flatMap fun (catalogId, plans) =>
        plans.flatMap fun plan => plan.assessments.flatMap fun assessment =>
          (assessment.procedures.filter fun procedure =>
            store.UsedBelow procedure.id catalogId).map fun procedure =>
              (catalogId, procedure.id) := by
  have reported : ∀ use ∈ store.uses,
      (SharedProcedure.ofUse? (store.uses.lookup use.1) use).map
          (fun entry => (entry.catalogId, entry.procedureId)) =
        if store.UsedBelow use.1 use.2 then some (use.2, use.1) else none := by
    intro use member
    exact ofUse?_map_eq (mem_uses_iff.1 member)
  have ofAssessment (catalogId : String) (procedures : List Procedure) :
      ((procedures.map Procedure.id).map fun procedureId => (procedureId, catalogId)).filterMap
          (fun use => if store.UsedBelow use.1 use.2 then some (use.2, use.1) else none) =
        (procedures.filter fun procedure => store.UsedBelow procedure.id catalogId).map
          fun procedure => (catalogId, procedure.id) := by
    rw [List.map_map, List.filterMap_map, ← List.filterMap_eq_map, List.filterMap_filter]
    simp only [decide_eq_true_eq, Function.comp_def]
  rw [shared_eq_filterMap, List.map_filterMap, List.filterMap_congr reported, uses]
  simp only [Plan.procedureIds_eq, List.map_flatMap, List.filterMap_flatMap, ofAssessment]

theorem shared_eq_nil_iff :
    store.shared = [] ↔
      ∀ procedureId catalogId otherId, store.UsedFor procedureId catalogId →
        store.UsedFor procedureId otherId → catalogId = otherId := by
  rw [List.eq_nil_iff_forall_not_mem]
  constructor
  · intro silent procedureId catalogId otherId used otherUsed
    obtain ⟨ownerId, owns⟩ := used.exists_owner
    have atOwner (id : String) (usedThere : store.UsedFor procedureId id) : ownerId = id := by
      by_contra foreign
      exact silent ⟨procedureId, id, ownerId⟩ (mem_shared_iff.2 ⟨usedThere, owns, foreign⟩)
    exact (atOwner catalogId used).symm.trans (atOwner otherId otherUsed)
  · intro single entry reported
    obtain ⟨used, owns, foreign⟩ := mem_shared_iff.1 reported
    exact foreign (single _ _ _ owns.used used)

/-- The report of shared procedures is exact. Catalog by catalog, by ascending ids and in the order
of the plans, it has one entry for each procedure that a catalog with a smaller id has too, and
every entry names the catalog that owns the procedure. There is none if no procedure is used for
two catalogs, none for a procedure that is used for one catalog only, however often, and none for
the owner. -/
theorem shared_lists_uses_behind_owner (store : PlanStore) :
    let report := store.shared
    report.map (fun entry => (entry.catalogId, entry.procedureId)) =
        (store.entries.flatMap fun (catalogId, plans) =>
          plans.flatMap fun plan => plan.assessments.flatMap fun assessment =>
            (assessment.procedures.filter fun procedure =>
              store.UsedBelow procedure.id catalogId).map fun procedure =>
                (catalogId, procedure.id)) ∧
      report.Pairwise (fun left right => encode left.catalogId ≤ encode right.catalogId) ∧
      (∀ entry ∈ report, store.Owns entry.procedureId entry.ownerId) ∧
      (report = [] ↔ ∀ procedureId catalogId otherId, store.UsedFor procedureId catalogId →
        store.UsedFor procedureId otherId → catalogId = otherId) ∧
      (∀ procedureId catalogId,
        (∀ otherId, store.UsedFor procedureId otherId → otherId = catalogId) →
          ∀ entry ∈ report, entry.procedureId ≠ procedureId) ∧
      ∀ entry ∈ report, ¬ store.Owns entry.procedureId entry.catalogId := by
  intro report
  refine ⟨map_shared_eq store, ?_, ?_, shared_eq_nil_iff, ?_, ?_⟩
  · refine store.shared_ascending.imp ?_
    intro left right notAbove
    exact Text.Utf8.encode_le_encode_iff.2 notAbove
  · intro entry reported
    exact (mem_shared_iff.1 reported).2.1
  · intro procedureId catalogId single entry reported same
    obtain ⟨used, owns, foreign⟩ := mem_shared_iff.1 reported
    rw [same] at used owns
    exact foreign ((single _ owns.used).trans (single _ used).symm)
  · intro entry reported ownsItself
    obtain ⟨-, owns, foreign⟩ := mem_shared_iff.1 reported
    exact foreign (owns.unique ownsItself)

/-- Both catalogs have the first procedure, the second one twice, and only the second one has the
other procedure. -/
def sharingStore : PlanStore :=
  let plans := [Mapper.planFor "rule", Mapper.planFor "own", Mapper.planFor "own",
    Mapper.planFor "rule"]
  ((Mapper.basic.addPlans "b" plans).addPlans "a" [Mapper.planFor "rule"]).plans

theorem shared_sharingStore :
    sharingStore.shared = [⟨"rule", "b", "a"⟩, ⟨"rule", "b", "a"⟩] ∧
      sharingStore.Owns "rule" "a" ∧ ¬ sharingStore.Owns "rule" "b" ∧
      ∀ entry ∈ sharingStore.shared, entry.procedureId ≠ "own" := by
  have report : sharingStore.shared = [⟨"rule", "b", "a"⟩, ⟨"rule", "b", "a"⟩] := by
    decide +kernel
  have first : ⟨"rule", "b", "a"⟩ ∈ sharingStore.shared := by simp [report]
  have onlyForB : ∀ otherId, sharingStore.UsedFor "own" otherId → otherId = "b" := by
    intro otherId used
    have member := used.mem_keys
    have keys : sharingStore.keys = ["a", "b"] := by decide +kernel
    have notForA : ¬ sharingStore.UsedFor "own" "a" := by decide +kernel
    rw [keys] at member
    rcases List.mem_cons.1 member with rfl | rest
    · exact absurd used notForA
    · exact List.mem_singleton.1 rest
  obtain ⟨-, -, owned, -, single, foreign⟩ := shared_lists_uses_behind_owner sharingStore
  exact ⟨report, owned _ first, foreign _ first, single "own" "b" onlyForB⟩

end PlanStore

end ComplianceEvidence
