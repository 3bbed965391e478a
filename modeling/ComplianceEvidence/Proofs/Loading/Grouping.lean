import Mathlib.Algebra.GroupWithZero.Nat
import ComplianceEvidence.Proofs.Loading.PlanFiles
import ComplianceEvidence.Proofs.Mapping.Accumulation

/-!
Contract: a loaded mapper has every plan with a catalog under the id of that catalog, and no other.

Owns: what it means for a mapper to group plans, the groups of a list, the mapper that is made group
by group, and what is noted while plans and mappers are loaded.

Plans are put behind the ones that are there, so a group keeps the order of the list. All groups
together are a rearrangement of the plans with a catalog, which is why none is lost.
-/

set_option autoImplicit false

namespace ComplianceEvidence

open Text.Utf8 (encode)

/-- The plans of a mapper are those of a list, each under the id of its own catalog and in the order
of the list. What is not stored has no catalog. -/
structure Mapper.Groups (mapper : Mapper) (plans : List Plan) : Prop where
  group : ∀ catalogId, catalogId ≠ "" →
    (mapper.plans.find? catalogId).getD [] =
      plans.filter fun plan => plan.control.catalogId = catalogId
  key_iff : ∀ catalogId, catalogId ≠ "" →
    (catalogId ∈ mapper.plans.keys ↔ ∃ plan ∈ plans, plan.control.catalogId = catalogId)
  named : "" ∉ mapper.plans.keys
  filed : ∀ entry ∈ mapper.plans.entries, ∀ plan ∈ entry.2, plan.control.catalogId = entry.1
  counted : (mapper.plans.values.map List.length).sum +
    (plans.filter fun plan => plan.control.catalogId = "").length = plans.length

/-! ## Groups -/

namespace Ordered

variable {α : Type}

/-- What is put behind the items under a key is put behind all items, up to their order. -/
theorem flatten_alter_perm (key : String) (added : List α) (entries : List (String × List α)) :
    ((alter key (fun present => present.getD [] ++ added) entries).map Prod.snd).flatten.Perm
      ((entries.map Prod.snd).flatten ++ added) := by
  induction entries with
  | nil => simp [alter]
  | cons head tail inductionHypothesis =>
      obtain ⟨current, items⟩ := head
      simp only [alter]
      by_cases less : key < current
      · rw [if_pos less]
        exact List.perm_append_comm
      · rw [if_neg less]
        by_cases same : key = current
        · rw [if_pos same]
          simp only [Option.getD_some, List.map_cons, List.flatten_cons, List.append_assoc]
          exact List.perm_append_comm.append_left items
        · rw [if_neg same]
          simp only [List.map_cons, List.flatten_cons, List.append_assoc]
          exact inductionHypothesis.append_left items

end Ordered

namespace Plan

variable {plans : List Plan}

/-- A store loses no plan, and makes none. -/
theorem flatten_store_perm (plans : List Plan) : (store plans).values.flatten.Perm plans := by
  induction plans using List.reverseRecOn with
  | nil => exact .refl []
  | append_singleton front final inductionHypothesis =>
      rw [store_append_singleton]
      exact (Ordered.flatten_alter_perm final.catalogId [final] (store front).entries).trans
        (inductionHypothesis.append_right [final])

end Plan

namespace Mapper

open Addition (gathered)

variable {files : Files} {mapperId directory catalogId : String} {plans : List Plan}

theorem find?_ofPlans_empty : (ofPlans mapperId plans).plans.find? "" = none := by
  apply Option.eq_none_iff_forall_ne_some.2
  intro stored found
  obtain ⟨notEmpty, rfl⟩ := Plan.find?_store_eq_some_iff.1 found
  apply notEmpty
  rw [List.filter_filter, List.filter_eq_nil_iff]
  intro plan _
  by_cases unnamed : plan.catalogId = "" <;> simp [unnamed]

theorem mem_keys_ofPlans_iff (named : catalogId ≠ "") :
    catalogId ∈ (ofPlans mapperId plans).plans.keys ↔
      ∃ plan ∈ plans, plan.control.catalogId = catalogId := by
  rw [Ordered.Table.mem_keys_iff]
  simp only [find?_ofPlans_eq_some_iff named]
  constructor
  · intro found
    rcases found with ⟨stored, notEmpty, rfl⟩
    obtain ⟨plan, member⟩ := List.exists_mem_of_ne_nil _ notEmpty
    obtain ⟨inPlans, same⟩ := List.mem_filter.1 member
    exact ⟨plan, inPlans, of_decide_eq_true same⟩
  · intro found
    rcases found with ⟨plan, inPlans, same⟩
    have member : plan ∈ plans.filter fun plan => plan.catalogId = catalogId :=
      List.mem_filter.2 ⟨inPlans, decide_eq_true same⟩
    exact ⟨_, List.ne_nil_of_mem member, rfl⟩

/-- Every plan with a catalog is stored. -/
theorem length_stored (mapperId : String) (plans : List Plan) :
    ((ofPlans mapperId plans).plans.values.map List.length).sum =
      (plans.filter fun plan => plan.catalogId ≠ "").length := by
  rw [← List.length_flatten]
  exact (Plan.flatten_store_perm _).length_eq

/-- A plan is stored, or it has no catalog. -/
theorem length_stored_add_length_dropped (mapperId : String) (plans : List Plan) :
    ((ofPlans mapperId plans).plans.values.map List.length).sum +
      (plans.filter fun plan => plan.control.catalogId = "").length = plans.length := by
  have complement (plan : Plan) :
      decide (plan.catalogId ≠ "") = !decide (plan.control.catalogId = "") := decide_not
  have split : plans.length = _ :=
    List.length_eq_length_filter_add fun plan => plan.control.catalogId = ""
  rw [length_stored, split, Nat.add_comm]
  simp only [complement]

theorem groups_ofPlans (mapperId : String) (plans : List Plan) :
    (ofPlans mapperId plans).Groups plans := by
  constructor
  case group =>
    intro catalogId named
    exact Plan.getD_eq_of_some_iff (find?_ofPlans_eq_some_iff named)
  case key_iff =>
    intro catalogId named
    exact mem_keys_ofPlans_iff named
  case named =>
    rw [Ordered.Table.mem_keys_iff, find?_ofPlans_empty]
    simp
  case filed =>
    intro entry member plan inGroup
    have found := Ordered.Table.find?_eq_some_iff_mem.2 member
    obtain ⟨-, isGroup⟩ := Plan.find?_store_eq_some_iff.1 found
    rw [isGroup] at inGroup
    exact of_decide_eq_true (List.mem_filter.1 inGroup).2
  case counted => exact length_stored_add_length_dropped mapperId plans

/-! ## Group by group -/

/-- Groups with ascending ids are what is gathered from them, each for its own id. -/
theorem find?_eq_gathered {entries : List Addition} (ascending : Ordered.Ascending entries) :
    Ordered.find? catalogId entries =
      if catalogId ∈ entries.map Prod.fst then some (gathered entries catalogId) else none := by
  induction entries with
  | nil => rfl
  | cons head tail inductionHypothesis =>
      obtain ⟨current, group⟩ := head
      obtain ⟨below, tailAscending⟩ := List.pairwise_cons.1 ascending
      rw [Ordered.find?, ← List.singleton_append, Addition.gathered_append,
        Addition.gathered_singleton, inductionHypothesis tailAscending]
      by_cases same : catalogId = current
      · subst same
        have notLater : catalogId ∉ tail.map Prod.fst := by
          intro later
          obtain ⟨entry, member, again⟩ := List.mem_map.1 later
          exact String.lt_irrefl _ (again ▸ below entry member)
        simp [Addition.gathered_of_not_mem notLater]
      · have sameIds : catalogId ∈ ((current, group) :: tail).map Prod.fst ↔
            catalogId ∈ tail.map Prod.fst := by
          simp [same]
        rw [if_neg same, if_neg (Ne.symm same), List.nil_append]
        exact if_congr sameIds.symm rfl rfl

/-- A mapper is made of its groups, which are added one after the other by ascending ids. -/
theorem eq_addAll (mapper : Mapper) :
    mapper = (withId mapper.id).addAll mapper.plans.entries := by
  have samePlans : mapper.plans = ((withId mapper.id).addAll mapper.plans.entries).plans := by
    apply Ordered.Table.eq_of_find?
    intro catalogId group
    rw [find?_addAll, ← find?_eq_gathered mapper.plans.ascending]
    rfl
  have sameId : mapper.id = _ := (id_addAll (withId mapper.id) mapper.plans.entries).symm
  generalize (withId mapper.id).addAll _ = built at samePlans sameId ⊢
  cases mapper
  cases built
  cases samePlans
  cases sameId
  rfl

end Mapper

/-! ## Loading -/

/-- A note that a plan was left out. -/
def Journal.Event.tellsDropped (event : Journal.Event) : Bool :=
  event.message = "Skipping plan without catalog reference"

section Loading

variable {files : Files} {mapperId directory : String} {plans : List Plan} {event : Journal.Event}

theorem Plan.planFileRead_of_mem_events_readAll {listed : List Files.Listed}
    (noted : event ∈ (readAll directory listed).events) :
    ∃ path count, event = .planFileRead path count := by
  induction listed with
  | nil => cases noted
  | cons head tail inductionHypothesis =>
      rw [readAll, Report.mem_events_bind_iff] at noted
      rcases noted with inNothing | ⟨document, -, noted⟩
      · cases inNothing
      · rw [Report.mem_events_bind_iff] at noted
        rcases noted with isRead | ⟨-, -, noted⟩
        · exact ⟨_, _, List.mem_singleton.1 isRead⟩
        · rw [Report.mem_events_bind_iff] at noted
          rcases noted with inRest | ⟨others, -, inNothing⟩
          · exact inductionHypothesis inRest
          · cases inNothing

/-- Loading plans notes the files that are read, and nothing else. -/
theorem Plan.planFileRead_of_mem_events (noted : event ∈ (load files directory).events) :
    ∃ path count, event = .planFileRead path count := by
  unfold load at noted
  split at noted
  · cases noted
  · exact planFileRead_of_mem_events_readAll noted
  · cases noted

namespace Mapper

theorem load_of_ok (loaded : (Plan.load files directory).outcome = .ok plans) :
    load files mapperId directory =
      ⟨(Plan.load files directory).events ++
          (droppedEvents mapperId plans ++ (ofPlans mapperId plans).storedEvents),
        .ok (ofPlans mapperId plans)⟩ := by
  rw [load, Report.bind_of_ok loaded]

/-- A mapper notes its groups and the procedures that are shared, and nothing else. -/
theorem noted_of_mem_storedEvents {mapper : Mapper} (noted : event ∈ mapper.storedEvents) :
    (∃ catalogId count, event = .plansAdded mapper.id catalogId count) ∨
      ∃ entry ∈ mapper.plans.shared, event = .procedureShared mapper.id entry := by
  rcases List.mem_append.1 noted with inAdded | inShared
  · obtain ⟨entry, -, rfl⟩ := List.mem_map.1 inAdded
    exact .inl ⟨_, _, rfl⟩
  · obtain ⟨entry, reported, rfl⟩ := List.mem_map.1 inShared
    exact .inr ⟨entry, reported, rfl⟩

/-- Loading a mapper notes files that are read, plans without a catalog, groups, and the procedures
that are shared, and nothing else. -/
theorem noted_of_load {mapper : Mapper}
    (loaded : (load files mapperId directory).outcome = .ok mapper)
    (noted : event ∈ (load files mapperId directory).events) :
    (∃ path count, event = .planFileRead path count) ∨
      (∃ controlId, event = .planWithoutCatalog mapperId controlId) ∨
      (∃ catalogId count, event = .plansAdded mapperId catalogId count) ∨
      ∃ entry ∈ mapper.plans.shared, event = .procedureShared mapperId entry := by
  obtain ⟨plans, below, rfl⟩ := load_eq_ok_iff.1 loaded
  rw [load_of_ok (Plan.load_eq_ok_iff.2 below)] at noted
  rcases List.mem_append.1 noted with inReading | inRest
  · exact .inl (Plan.planFileRead_of_mem_events inReading)
  · rcases List.mem_append.1 inRest with inDropped | inStored
    · obtain ⟨plan, -, rfl⟩ := List.mem_map.1 inDropped
      exact .inr (.inl ⟨_, rfl⟩)
    · exact .inr (.inr (noted_of_mem_storedEvents inStored))

/-- The notes about plans that are left out stand in the middle, and nowhere else. -/
theorem filter_tellsDropped_load (loaded : (Plan.load files directory).outcome = .ok plans) :
    (load files mapperId directory).events.filter Journal.Event.tellsDropped =
      droppedEvents mapperId plans := by
  have beforehand :
      (Plan.load files directory).events.filter Journal.Event.tellsDropped = [] := by
    rw [List.filter_eq_nil_iff]
    intro event noted
    obtain ⟨path, count, rfl⟩ := Plan.planFileRead_of_mem_events noted
    simp [Journal.Event.tellsDropped, Journal.Event.message]
  have dropped : (droppedEvents mapperId plans).filter Journal.Event.tellsDropped =
      droppedEvents mapperId plans := by
    rw [List.filter_eq_self]
    intro event noted
    obtain ⟨plan, -, rfl⟩ := List.mem_map.1 noted
    rfl
  have afterwards :
      (ofPlans mapperId plans).storedEvents.filter Journal.Event.tellsDropped = [] := by
    rw [List.filter_eq_nil_iff]
    intro event noted
    rcases noted_of_mem_storedEvents noted with ⟨catalogId, count, rfl⟩ | ⟨entry, -, rfl⟩ <;>
      simp [Journal.Event.tellsDropped, Journal.Event.message]
  rw [load_of_ok loaded, List.filter_append, List.filter_append, beforehand, dropped, afterwards,
    List.nil_append, List.append_nil]

end Mapper

end Loading

namespace Mapper

/-- As soon as the plans below a directory can be loaded, so can a mapper with a given id. It groups
these plans, and it is the one that results when each group is added to a mapper without plans. Each
plan without a catalog is noted once. -/
theorem load_groups_plans (files : Files) (mapperId directory : String) (plans : List Plan)
    (loaded : (Plan.load files directory).outcome = .ok plans) :
    let report := load files mapperId directory
    ∃ mapper, report.outcome = .ok mapper ∧ mapper.id = mapperId ∧ mapper.Groups plans ∧
      mapper = mapper.plans.entries.foldl (fun built entry => built.addPlans entry.1 entry.2)
        (withId mapperId) ∧
      report.events.filter Journal.Event.tellsDropped =
        (plans.filter fun plan => plan.control.catalogId = "").map fun plan =>
          .planWithoutCatalog mapperId plan.control.entryId := by
  intro report
  have success : report.outcome = .ok (ofPlans mapperId plans) :=
    load_eq_ok_iff.2 ⟨plans, Plan.load_eq_ok_iff.1 loaded, rfl⟩
  exact ⟨ofPlans mapperId plans, success, rfl, groups_ofPlans mapperId plans,
    eq_addAll (ofPlans mapperId plans), filter_tellsDropped_load loaded⟩

def groupedEarly : String := "plans: [{control: {reference-id: b}}, {control: {reference-id: a}}]"

def groupedLate : String := "plans: [{control: {}}, {control: {reference-id: b, entry-id: d}}]"

/-- Two files, over which the plans of two catalogs are spread, and a plan without a catalog. -/
def groupedFiles : Files where
  node path :=
    if path = "p" then
      .ok (.directory
        [("x.yml", .file (encode groupedLate)),
          ("n", .directory [("y.yaml", .file (encode groupedEarly))])])
    else .error .absent

def groupedPlans : List Plan :=
  [{ control := { catalogId := "b" } }, { control := { catalogId := "a" } }, { control := {} },
    { control := { catalogId := "b", entryId := "d" } }]

theorem load_groupedPlans : (Plan.load groupedFiles "p").outcome = .ok groupedPlans := by
  have early : PlanDocument.ofText groupedEarly = .ok { plans := groupedPlans.take 2 } := by
    decide +kernel
  have late : PlanDocument.ofText groupedLate = .ok { plans := groupedPlans.drop 2 } := by
    decide +kernel
  apply Plan.load_eq_ok_iff.2
  apply (Plan.below_iff_of_directory rfl).2
  exact ⟨[{ plans := groupedPlans.take 2 }, { plans := groupedPlans.drop 2 }],
    .cons ⟨_, rfl, early⟩ (.cons ⟨_, rfl, late⟩ .nil), rfl⟩

theorem load_groupedFiles :
    (Plan.load groupedFiles "p").outcome = .ok groupedPlans ∧
      ∃ mapper, (load groupedFiles "opa" "p").outcome = .ok mapper ∧ mapper.id = "opa" ∧
        (mapper.plans.find? "b").getD [] =
          [{ control := { catalogId := "b" } },
            { control := { catalogId := "b", entryId := "d" } }] ∧
        "a" ∈ mapper.plans.keys ∧ "" ∉ mapper.plans.keys ∧
        (mapper.plans.values.map List.length).sum + 1 = 4 ∧
        .planWithoutCatalog "opa" "" ∈ (load groupedFiles "opa" "p").events := by
  obtain ⟨mapper, success, id, groups, -, dropped⟩ :=
    load_groups_plans groupedFiles "opa" "p" groupedPlans load_groupedPlans
  refine ⟨load_groupedPlans, mapper, success, id, groups.group "b" (by decide),
    (groups.key_iff "a" (by decide)).2
      ⟨{ control := { catalogId := "a" } }, by simp [groupedPlans], rfl⟩, groups.named,
    groups.counted, ?_⟩
  apply List.mem_of_mem_filter
  rw [dropped]
  exact List.mem_singleton_self _

end Mapper

end ComplianceEvidence
