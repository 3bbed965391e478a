import ComplianceEvidence.Mapping.Mapper
import ComplianceEvidence.Proofs.Ordered.Keys
import ComplianceEvidence.Proofs.Text.Encoding

/-!
Contract: a registry tells which mapper was registered last under each id.

Owns: runs of changes to a registry, the mapper that serves an id after a run, and what every
look-up in the registry has to do with the run. Registered mappers and fallbacks are two histories
of their own: neither shows in look-ups of the other.
-/

set_option autoImplicit false

namespace ComplianceEvidence.Registry

open Text.Utf8 (encode)

/-! ## Runs -/

inductive Change where
  | register (mapper : Mapper)
  | fallBack (mapper : Mapper)

def change (registry : Registry) : Change → Registry
  | .register mapper => (registry.register mapper).2
  | .fallBack mapper => registry.withFallback mapper

/-- The registry behind a run of changes, the first of which found it empty. -/
def after (changes : List Change) : Registry :=
  changes.foldl change empty

/-- The mappers that are registered on the way, in order. -/
def registered (changes : List Change) : List Mapper :=
  changes.filterMap fun
    | .register mapper => some mapper
    | .fallBack _ => none

/-- The last mapper to fall back to, or else the one that a registry starts with. -/
def currentFallback (changes : List Change) : Mapper :=
  let fallbacks := changes.filterMap fun
    | .register _ => none
    | .fallBack mapper => some mapper
  fallbacks.getLast?.getD .basic

/-- A mapper is the last one that was registered under an id. -/
def Serves (changes : List Change) (id : String) : Mapper → Prop :=
  IsLast (fun mapper => mapper.id = id) (registered changes)

theorem after_append_singleton (changes : List Change) (next : Change) :
    after (changes ++ [next]) = (after changes).change next := by
  simp [after]

variable {changes : List Change}

theorem serves_register_iff {added mapper : Mapper} {id : String} :
    Serves (changes ++ [.register added]) id mapper ↔
      if id = added.id then mapper = added else Serves changes id mapper := by
  have grown : registered (changes ++ [.register added]) = registered changes ++ [added] := by
    simp [registered]
  rw [Serves, grown, IsLast.append_singleton_iff]
  split
  · rename_i same
    simp [same]
  · rename_i different
    simp [Ne.symm different, Serves]

theorem serves_fallBack_iff {added mapper : Mapper} {id : String} :
    Serves (changes ++ [.fallBack added]) id mapper ↔ Serves changes id mapper := by
  simp [Serves, registered]

theorem exists_serves_iff {id : String} :
    (∃ mapper, Serves changes id mapper) ↔ ∃ mapper ∈ registered changes, mapper.id = id :=
  IsLast.exists_iff

/-! ## One step and all steps -/

/-- A registry keeps what a run of changes left: the mappers that serve, and the fallback. -/
structure Keeps (registry : Registry) (changes : List Change) : Prop where
  found : ∀ id mapper, registry.find? id = some mapper ↔ Serves changes id mapper
  fallback : registry.fallback = currentFallback changes

theorem Keeps.change {registry : Registry} (kept : Keeps registry changes) (next : Change) :
    Keeps (registry.change next) (changes ++ [next]) := by
  cases next with
  | register added =>
      constructor
      · intro id mapper
        rw [Registry.change, register_eq, find?_insert, serves_register_iff]
        split
        · rw [Option.some.injEq, eq_comm]
        · exact kept.found id mapper
      · rw [Registry.change, register_eq]
        show registry.fallback = _
        rw [kept.fallback]
        simp [currentFallback]
  | fallBack added =>
      constructor
      · intro id mapper
        rw [serves_fallBack_iff]
        exact kept.found id mapper
      · simp [Registry.change, withFallback, currentFallback]

theorem keeps_after (changes : List Change) : Keeps (after changes) changes := by
  induction changes using List.reverseRecOn with
  | nil => exact ⟨fun id mapper => by simp [after, Serves, registered], rfl⟩
  | append_singleton front next inductionHypothesis =>
      rw [after_append_singleton]
      exact inductionHypothesis.change next

/-! ## Look-ups -/

section LookUps

variable {registry : Registry} {id : String}

theorem contains_iff : registry.contains id = true ↔ ∃ mapper, registry.find? id = some mapper := by
  rw [contains, Option.isSome_iff_exists]

theorem contains_insert {mapper : Mapper} :
    (registry.insert mapper).contains id =
      if id = mapper.id then true else registry.contains id := by
  rw [contains, find?_insert, contains]
  split <;> rfl

theorem mem_ids_iff : id ∈ registry.ids ↔ ∃ mapper, registry.find? id = some mapper :=
  Ordered.Table.mem_keys_iff

theorem select_of_find? {mapper : Mapper} (found : registry.find? id = some mapper) :
    registry.select id = ⟨mapper, false⟩ := by
  rw [select, found]

theorem select_of_not_contains (absent : ¬ registry.contains id = true) :
    registry.select id = ⟨registry.fallback, true⟩ := by
  rw [contains, Bool.not_eq_true, Option.isSome_eq_false_iff, Option.isNone_iff_eq_none] at absent
  rw [select, absent]

end LookUps

/-- Everything that can be asked of a registry, told by the run of changes behind it. -/
structure Tells (registry : Registry) (changes : List Change) : Prop where
  stored : ∀ entry ∈ registry.mappers.entries, entry.2.id = entry.1
  found : ∀ id mapper, registry.find? id = some mapper ↔ Serves changes id mapper
  contains : ∀ id, registry.contains id = true ↔ ∃ mapper ∈ registered changes, mapper.id = id
  served : ∀ id mapper, Serves changes id mapper → registry.select id = ⟨mapper, false⟩
  foreign : ∀ id, (∀ mapper ∈ registered changes, mapper.id ≠ id) →
    registry.select id = ⟨currentFallback changes, true⟩
  ids : ∀ id, id ∈ registry.ids ↔ ∃ mapper ∈ registered changes, mapper.id = id
  ascending : registry.ids.Pairwise fun left right => encode left < encode right
  size : registry.ids.length = registry.size
  fallback : registry.fallback = currentFallback changes

theorem Keeps.tells {registry : Registry} (kept : Keeps registry changes) :
    Tells registry changes := by
  have known (id : String) : (∃ mapper, registry.find? id = some mapper) ↔
      ∃ mapper ∈ registered changes, mapper.id = id := by
    rw [← exists_serves_iff]
    exact exists_congr fun mapper => kept.found id mapper
  constructor
  case stored =>
    intro entry member
    exact id_of_find? (Ordered.Table.find?_eq_some_iff_mem.2 member)
  case found => exact kept.found
  case contains =>
    intro id
    exact contains_iff.trans (known id)
  case served =>
    intro id mapper serves
    exact select_of_find? ((kept.found id mapper).2 serves)
  case foreign =>
    intro id silent
    rw [← kept.fallback]
    apply select_of_not_contains
    rw [contains_iff, known]
    rintro ⟨mapper, member, sameId⟩
    exact silent mapper member sameId
  case ids =>
    intro id
    exact mem_ids_iff.trans (known id)
  case ascending => exact Text.Utf8.encode_ascending registry.ids_ascending
  case size => exact List.length_map _
  case fallback => exact kept.fallback

/-- After any run of changes a registry tells the mapper that was registered last under each id.
A registration gives the mapper that it takes the place of, and leaves the other ids and the
fallback alone. A change of the fallback leaves all ids alone, and no id leads to a fallback that
was not registered. -/
theorem tells_after (changes : List Change) :
    let registry := after changes
    Tells registry changes ∧
      (∀ mapper : Mapper,
        let replaced := (registry.register mapper).1
        let next := (registry.register mapper).2
        (∀ old, replaced = some old ↔ Serves changes mapper.id old) ∧
          next.find? mapper.id = some mapper ∧
          (∀ id, id ≠ mapper.id → next.find? id = registry.find? id) ∧
          next.fallback = registry.fallback) ∧
      (∀ mapper : Mapper,
        let next := registry.withFallback mapper
        next.fallback = mapper ∧ next.ids = registry.ids ∧
          ∀ id, next.find? id = registry.find? id) ∧
      (∀ id, registry.find? id = some registry.fallback →
        registry.fallback ∈ registered changes) ∧
      ((∀ mapper ∈ registered changes, mapper.id ≠ registry.fallback.id) →
        registry.find? registry.fallback.id = none ∧
          registry.fallback.id ∉ registry.ids) := by
  intro registry
  have kept : Keeps registry changes := keeps_after changes
  have tells := kept.tells
  refine ⟨tells, ?_, ?_, ?_, ?_⟩
  · intro mapper replaced next
    have exchanged : (replaced, next) = (registry.find? mapper.id, registry.insert mapper) :=
      registry.register_eq mapper
    obtain ⟨replacedEq, nextEq⟩ := Prod.mk.inj exchanged
    rw [replacedEq, nextEq]
    refine ⟨kept.found mapper.id, ?_, ?_, rfl⟩
    · rw [find?_insert, if_pos rfl]
    · intro id different
      rw [find?_insert, if_neg different]
  · intro mapper next
    exact ⟨rfl, rfl, fun _ => rfl⟩
  · intro id found
    exact ((kept.found id _).1 found).mem
  · intro silent
    have absent : registry.fallback.id ∉ registry.ids := by
      rw [tells.ids]
      rintro ⟨mapper, member, sameId⟩
      exact silent mapper member sameId
    refine ⟨?_, absent⟩
    rw [mem_ids_iff] at absent
    exact Option.eq_none_iff_forall_ne_some.2 fun mapper found => absent ⟨mapper, found⟩

/-- An engine is registered twice, and a fallback takes its name; another one comes in between. -/
def sampleChanges : List Change :=
  [.register (.withId "opa"), .fallBack (.withId "opa"), .register (.withId "kyverno"),
    .register ((Mapper.withId "opa").addPlans "base" [])]

theorem tells_sampleChanges :
    let registry := after sampleChanges
    let latest := (Mapper.withId "opa").addPlans "base" []
    registry.select "opa" = ⟨latest, false⟩ ∧
      registry.select "other" = ⟨.withId "opa", true⟩ ∧
      registry.ids = ["kyverno", "opa"] ∧
      (registry.register (.withId "opa")).1 = some latest ∧
      (registry.register (.withId "opa")).2.find? "kyverno" = registry.find? "kyverno" ∧
      (registry.withFallback .basic).find? "basic" = none := by
  intro registry latest
  have serves : Serves sampleChanges "opa" latest :=
    ⟨[.withId "opa", .withId "kyverno"], [], rfl, rfl, by simp⟩
  obtain ⟨tells, registers, fallsBack, -, -⟩ := tells_after sampleChanges
  have foreign : ∀ mapper ∈ registered sampleChanges, mapper.id ≠ "other" := by decide
  obtain ⟨replaced, -, others, -⟩ := registers (.withId "opa")
  refine ⟨tells.served "opa" latest serves, tells.foreign "other" foreign, by decide +kernel,
    (replaced latest).2 serves, others "kyverno" (by decide), ?_⟩
  rw [(fallsBack .basic).2.2 "basic"]
  decide +kernel

end ComplianceEvidence.Registry
