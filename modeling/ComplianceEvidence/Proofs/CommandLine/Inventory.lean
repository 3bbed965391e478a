import ComplianceEvidence.CommandLine.Summary
import ComplianceEvidence.Proofs.Loading.Plugins
import ComplianceEvidence.Proofs.Mapping.Scope
import ComplianceEvidence.Proofs.Service.Enrichment

/-!
Contract: the summary of a service reports what the service has.

Owns: the entries of a table as a list of what is found, the entries of a summary, what a summary
depends on, and the plans that were loaded for a mapper.

The number at the head of a list, the ids in it and what is looked up under each id come from the
same table, so none of them can be out of step with the others.
-/

set_option autoImplicit false

namespace ComplianceEvidence

open Number (naturalText)
open Text.Utf8 (encode)

/-- Entries are what is found under ids: each of it once, in ascending order of the ids. -/
structure Lists {α : Type} (find? : String → Option α) (entries : List (String × α)) : Prop where
  found : ∀ id value, (id, value) ∈ entries ↔ find? id = some value
  ascending : (entries.map Prod.fst).Pairwise fun left right => encode left < encode right

/-- The number of control declarations, whether ids come twice or not. -/
def Catalog.declared (catalog : Catalog) : Nat :=
  (catalog.families.map fun family => family.controls.length).sum

/-- The number of plans for all catalogs together. -/
def Mapper.stored (mapper : Mapper) : Nat :=
  (mapper.plans.values.map List.length).sum

theorem Catalog.length_controls (catalog : Catalog) :
    catalog.controls.length = catalog.declared := by
  simp [controls, declared, List.length_flatMap]

theorem Mapper.planCount_plans (mapper : Mapper) : mapper.plans.planCount = mapper.stored :=
  List.length_flatten

/-! ## Tables -/

namespace Ordered.Table

variable {α β : Type}

theorem lists (table : Table α) : Lists table.find? table.entries := by
  constructor
  case found =>
    intro id value
    exact find?_eq_some_iff_mem.symm
  case ascending => exact Text.Utf8.encode_ascending table.keys_ascending

/-- To look up every key is to go through the entries. -/
theorem map_keys (table : Table α) (read : String → Option α → β) :
    (table.keys.map fun key => read key (table.find? key)) =
      table.entries.map fun entry => read entry.1 (some entry.2) := by
  rw [keys, List.map_map]
  apply List.map_congr_left
  intro entry member
  show read entry.1 (table.find? entry.1) = _
  rw [find?_eq_some_iff_mem.2 member]

/-- A loop over the keys drops none of them for want of a value. -/
theorem filterMap_keys (table : Table α) (read : String → α → β) :
    (table.keys.filterMap fun key => (table.find? key).map (read key)) =
      table.entries.map fun entry => read entry.1 entry.2 := by
  calc
    (table.keys.filterMap fun key => (table.find? key).map (read key)) =
        table.entries.filterMap (some ∘ fun entry => read entry.1 entry.2) := by
      rw [keys, List.filterMap_map]
      apply List.filterMap_congr
      intro entry member
      show (table.find? entry.1).map (read entry.1) = _
      rw [find?_eq_some_iff_mem.2 member]
      rfl
    _ = table.entries.map fun entry => read entry.1 entry.2 := by
      rw [List.filterMap_eq_map]

end Ordered.Table

/-! ## Text of a summary -/

namespace CommandLine

/-- What is printed about a catalog. -/
def catalogEntry (entry : String × Catalog) : String :=
  line ("  " ++ entry.1 ++ " (" ++ naturalText entry.2.declared ++ " controls)")

/-- What is printed about a mapper. -/
def mapperEntry (entry : String × Mapper) : String :=
  line
    ("  " ++ entry.1 ++ " (" ++ naturalText entry.2.stored ++ " plans across " ++
      naturalText entry.2.plans.keys.length ++ " catalogs)")

theorem map_catalogLine (scope : Scope) :
    scope.ids.map (catalogLine scope) = scope.catalogs.entries.map catalogEntry := by
  refine (scope.catalogs.map_keys fun id found? =>
    line ("  " ++ id ++ " (" ++
      naturalText ((found?.map fun catalog => catalog.controls.length).getD 0) ++
        " controls)")).trans ?_
  apply List.map_congr_left
  intro entry _
  rw [catalogEntry, ← Catalog.length_controls]
  rfl

theorem filterMap_mapperLine? (registry : Registry) :
    registry.ids.filterMap (mapperLine? registry) =
      registry.mappers.entries.map mapperEntry := by
  refine (registry.mappers.filterMap_keys fun id mapper =>
    line
      ("  " ++ id ++ " (" ++ naturalText mapper.plans.planCount ++ " plans across " ++
        naturalText mapper.plans.size ++ " catalogs)")).trans ?_
  apply List.map_congr_left
  intro entry _
  rw [mapperEntry, ← Mapper.planCount_plans, Ordered.Table.keys, List.length_map]
  rfl

theorem summary_eq (service : Service) :
    summary service =
      line ("Catalogs: " ++ naturalText service.scope.catalogs.entries.length) ++
        String.join (service.scope.catalogs.entries.map catalogEntry) ++
        line ("Mappers: " ++ naturalText service.registry.mappers.entries.length) ++
        String.join (service.registry.mappers.entries.map mapperEntry) := by
  rw [summary, map_catalogLine, filterMap_mapperLine?]
  rfl

/-- Services in which look-up finds the same have the same summary. -/
theorem summary_congr {service other : Service}
    (sameCatalogs : ∀ id catalog,
      service.scope.find? id = some catalog ↔ other.scope.find? id = some catalog)
    (sameMappers : ∀ id mapper,
      service.registry.find? id = some mapper ↔ other.registry.find? id = some mapper) :
    summary service = summary other := by
  have catalogs : service.scope.catalogs = other.scope.catalogs :=
    Ordered.Table.eq_of_find? sameCatalogs
  have mappers : service.registry.mappers = other.registry.mappers :=
    Ordered.Table.eq_of_find? sameMappers
  rw [summary_eq, summary_eq, catalogs, mappers]

end CommandLine

/-! ## Histories and files -/

namespace Registry

theorem registered_map_register (mappers : List Mapper) :
    registered (mappers.map .register) = mappers := by
  simp [registered, List.filterMap_map]

end Registry

/-- A mapper that was loaded with a service has the plans with a catalog below the directory of the
plugin that counts for its id. -/
theorem Service.exists_below_of_find? {files : Files} {configuration : Configuration}
    {service : Service} (success : (load files configuration).outcome = .ok service)
    {id : String} {mapper : Mapper} (found : service.registry.find? id = some mapper) :
    ∃ plugin plans, Plugin.Counts configuration.plugins id plugin ∧
      Plan.Below files plugin.directory plans ∧ mapper = .ofPlans id plans := by
  obtain ⟨scope, registry, -, loaded, rfl⟩ := load_eq_ok_iff.1 success
  have honours := Registry.honours_of_load loaded
  have present := (honours.ids id).1 (Registry.mem_ids_iff.2 ⟨mapper, found⟩)
  obtain ⟨plugin, counts⟩ := IsLast.exists_iff.2 present
  obtain ⟨plans, below, selected⟩ := Registry.select_of_counts loaded counts
  have same := (Registry.select_of_find? found).symm.trans selected
  exact ⟨plugin, plans, counts, below, congrArg Registry.Selection.mapper same⟩

theorem Mapper.stored_ofPlans (mapperId : String) (plans : List Plan) :
    (ofPlans mapperId plans).stored = plans.countP fun plan => plan.control.catalogId ≠ "" :=
  (length_stored mapperId plans).trans List.countP_eq_length_filter.symm

/-! ## Report -/

namespace CommandLine

/-- Histories with the same last catalogs and the same last mappers under all ids end in the same
summary. -/
theorem summary_eq_of_histories {catalogs otherCatalogs : List Catalog}
    {changes otherChanges : List Registry.Change}
    (sameCatalogs : ∀ id catalog, IsLast (fun catalog => catalog.id = id) catalogs catalog ↔
      IsLast (fun catalog => catalog.id = id) otherCatalogs catalog)
    (sameMappers : ∀ id mapper, Registry.Serves changes id mapper ↔
      Registry.Serves otherChanges id mapper)
    (counters otherCounters : Counters) :
    summary ⟨.after changes, .ofList catalogs, counters⟩ =
      summary ⟨.after otherChanges, .ofList otherCatalogs, otherCounters⟩ := by
  apply summary_congr
  · intro id catalog
    rw [Scope.find?_ofList_iff_isLast, Scope.find?_ofList_iff_isLast, sameCatalogs]
  · intro id mapper
    rw [(Registry.keeps_after changes).found, (Registry.keeps_after otherChanges).found,
      sameMappers]

/-- A summary reports what a service has. Each list has as many entries as its head tells: the
catalogs that are found in scope with the numbers of their controls, and the mappers that are found
in the registry with the numbers of their plans and of the catalogs of these, by ascending ids.
Only what is found counts, and not how it came there. Plans that were loaded are those of the plugin
that counts for an id, less those without a catalog. -/
theorem summary_reports :
    (∀ service : Service, ∃ catalogs mappers,
      Lists service.scope.find? catalogs ∧ Lists service.registry.find? mappers ∧
        summary service =
          line ("Catalogs: " ++ naturalText catalogs.length) ++
            String.join (catalogs.map catalogEntry) ++
            line ("Mappers: " ++ naturalText mappers.length) ++
            String.join (mappers.map mapperEntry)) ∧
      (∀ (catalogs otherCatalogs : List Catalog) (changes otherChanges : List Registry.Change)
          (counters otherCounters : Counters),
        (∀ id catalog, IsLast (fun catalog => catalog.id = id) catalogs catalog ↔
          IsLast (fun catalog => catalog.id = id) otherCatalogs catalog) →
        (∀ id mapper, Registry.Serves changes id mapper ↔
          Registry.Serves otherChanges id mapper) →
        summary ⟨.after changes, .ofList catalogs, counters⟩ =
          summary ⟨.after otherChanges, .ofList otherCatalogs, otherCounters⟩) ∧
      (∀ (catalogs permutedCatalogs : List Catalog) (mappers permutedMappers : List Mapper)
          (counters : Counters),
        (catalogs.map Catalog.id).Nodup → permutedCatalogs.Perm catalogs →
        (mappers.map Mapper.id).Nodup → permutedMappers.Perm mappers →
        summary ⟨.after (permutedMappers.map .register), .ofList permutedCatalogs, counters⟩ =
          summary ⟨.after (mappers.map .register), .ofList catalogs, counters⟩) ∧
      ∀ files configuration service, (Service.load files configuration).outcome = .ok service →
        ∀ id mapper, service.registry.find? id = some mapper →
          ∃ plugin plans, Plugin.Counts configuration.plugins id plugin ∧
            Plan.Below files plugin.directory plans ∧
            mapper.stored = plans.countP fun plan => plan.control.catalogId ≠ "" := by
  refine ⟨?_, ?_, ?_, ?_⟩
  · intro service
    exact ⟨service.scope.catalogs.entries, service.registry.mappers.entries,
      service.scope.catalogs.lists, service.registry.mappers.lists, summary_eq service⟩
  · intro catalogs otherCatalogs changes otherChanges counters otherCounters sameCatalogs
      sameMappers
    exact summary_eq_of_histories sameCatalogs sameMappers counters otherCounters
  · intro catalogs permutedCatalogs mappers permutedMappers counters distinctCatalogs
      catalogsFrom distinctMappers mappersFrom
    apply summary_eq_of_histories
    · intro id catalog
      exact IsLast.iff_of_perm distinctCatalogs catalogsFrom
    · intro id mapper
      unfold Registry.Serves
      rw [Registry.registered_map_register, Registry.registered_map_register]
      exact IsLast.iff_of_perm distinctMappers mappersFrom
  · intro files configuration service success id mapper found
    obtain ⟨plugin, plans, counts, below, rfl⟩ := Service.exists_below_of_find? success found
    exact ⟨plugin, plans, counts, below, Mapper.stored_ofPlans id plans⟩

def titled (id title : String) : Catalog := { id, title := some title }

/-- One plugin, below whose directory there are four plans: three with a catalog, of which there are
two. -/
def groupedConfiguration : Configuration where
  plugins := [⟨"opa", "p"⟩]

/-- The summary of a service that was loaded, and summaries of services with other histories: one
in which a catalog and a mapper are replaced, and one in another order. -/
theorem summary_groupedConfiguration :
    let full := Mapper.ofPlans "opa" Mapper.groupedPlans
    let other := Mapper.withId "kyverno"
    let service := Service.of (Registry.empty.insert full) .empty
    (Service.load Mapper.groupedFiles groupedConfiguration).outcome = .ok service ∧
      summary service = "Catalogs: 0\nMappers: 1\n  opa (3 plans across 2 catalogs)\n" ∧
      (∃ plugin plans, Plugin.Counts groupedConfiguration.plugins "opa" plugin ∧
        Plan.Below Mapper.groupedFiles plugin.directory plans ∧
        full.stored = plans.countP fun plan => plan.control.catalogId ≠ "") ∧
      summary ⟨.after [.register (.withId "opa"), .register full],
          .ofList [titled "base" "old", titled "base" "new"], .zero⟩ =
        summary ⟨.after [.register full], .ofList [titled "base" "new"], .zero⟩ ∧
      summary ⟨.after ([other, full].map .register), .ofList [], .zero⟩ =
        summary ⟨.after ([full, other].map .register), .ofList [], .zero⟩ := by
  intro full other service
  obtain ⟨-, histories, permuted, loads⟩ := summary_reports
  have mapperLoaded : (Mapper.load Mapper.groupedFiles "opa" "p").outcome = .ok full :=
    Mapper.load_eq_ok_iff.2 ⟨_, Plan.load_eq_ok_iff.1 Mapper.load_groupedPlans, rfl⟩
  have registryLoaded : (Registry.load Mapper.groupedFiles groupedConfiguration.plugins).outcome =
      .ok (Registry.empty.insert full) :=
    (Registry.loadInto_cons_of_enabled (by decide)).2 ⟨full, mapperLoaded, rfl⟩
  have success := Service.load_eq_ok_iff.2 ⟨.empty, _, rfl, registryLoaded, rfl⟩
  refine ⟨success, by decide +kernel, loads _ _ _ success "opa" full rfl, ?_, ?_⟩
  · apply histories
    · intro id catalog
      exact IsLast.cons_iff_of_replaced ⟨_, List.mem_singleton_self _, rfl⟩
    · intro id mapper
      exact IsLast.cons_iff_of_replaced ⟨_, List.mem_singleton_self _, rfl⟩
  · exact permuted [] [] [full, other] [other, full] .zero .nil (.refl _) (by decide)
      (.swap full other [])

end CommandLine

end ComplianceEvidence
