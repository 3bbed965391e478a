import ComplianceEvidence.Proofs.Loading.Catalogs
import ComplianceEvidence.Proofs.Loading.Registry
import ComplianceEvidence.Proofs.Mapping.Resolution
import ComplianceEvidence.Service.Basic

/-!
Contract: a loaded service finds what evidence means for the files it was loaded from.

Owns: the catalogs and plans that a configuration offers to a policy engine, and the agreement of
a service with them. It goes through the scope and the stores, which hold the same up to ids
without plans.
-/

set_option autoImplicit false

namespace ComplianceEvidence

open Text.Utf8 (encode)

/-- What the files of a configuration offer for a policy engine: a catalog from a configured path,
and those of the plans below the directory of the plugin that counts that are about the catalog. -/
inductive Configuration.OffersFor (files : Files) (configuration : Configuration)
    (source : String) : Offers where
  | intro {path : String} {catalog : Catalog} {plugin : Plugin} {below : List Plan}
      (configured : path ∈ configuration.catalogs)
      (declared : files.Declares path catalog)
      (counts : Plugin.Counts configuration.plugins source plugin)
      (found : Plan.Below files plugin.directory below) :
      OffersFor files configuration source catalog.id catalog
        (below.filter fun plan => plan.control.catalogId = catalog.id)

/-! ## Loaded services -/

namespace Service

variable {files : Files} {configuration : Configuration} {service : Service}

theorem load_eq_ok_iff :
    (load files configuration).outcome = .ok service ↔
      ∃ scope registry, (Scope.load files configuration.catalogs).outcome = .ok scope ∧
        (Registry.load files configuration.plugins).outcome = .ok registry ∧
        of registry scope = service := by
  rw [load, Report.bind_eq_ok_iff]
  simp only [Report.bind_eq_ok_iff, Report.outcome_pure, Except.ok.injEq, exists_and_left]

/-- The plans that serve an engine are those that the files offer. -/
theorem agree_of_load {scope : Scope} {registry : Registry} {source : String}
    (scopeLoaded : (Scope.load files configuration.catalogs).outcome = .ok scope)
    (registryLoaded : (Registry.load files configuration.plugins).outcome = .ok registry) :
    ((registry.select source).mapper.plans.offers scope).Agree
      (configuration.OffersFor files source) := by
  intro catalogId catalog plans hasPlans
  constructor
  · intro offered
    rcases offered with ⟨inScope, stored⟩
    have hasId := Scope.id_ne_empty_of_load scopeLoaded inScope
    obtain ⟨path, configured, declared, rfl⟩ := (Scope.find?_load scopeLoaded).1 inScope
    by_cases served : ∃ plugin ∈ configuration.plugins, plugin.IsFor source
    · obtain ⟨plugin, counts⟩ := IsLast.exists_iff.2 served
      obtain ⟨below, found, selected⟩ := Registry.select_of_counts registryLoaded counts
      rw [selected, Mapper.find?_ofPlans_eq_some_iff hasId] at stored
      obtain ⟨-, rfl⟩ := stored
      exact .intro configured declared counts found
    · -- The fallback serves the engine, and it has no plans.
      have silent : ∀ plugin ∈ configuration.plugins, ¬ plugin.IsFor source := by
        intro plugin member isFor
        exact served ⟨plugin, member, isFor⟩
      rw [Registry.select_of_silent registryLoaded silent] at stored
      cases stored
  · intro offered
    rcases offered with ⟨configured, declared, counts, found⟩
    have inScope := (Scope.find?_load scopeLoaded).2 ⟨_, configured, declared, rfl⟩
    have hasId := Scope.id_ne_empty_of_load scopeLoaded inScope
    obtain ⟨below, foundAgain, selected⟩ := Registry.select_of_counts registryLoaded counts
    obtain rfl := found.unique foundAgain
    refine ⟨inScope, ?_⟩
    rw [selected, Mapper.find?_ofPlans_eq_some_iff hasId]
    exact ⟨hasPlans, rfl⟩

/-- A service that was loaded finds what evidence means for the files, however often it was asked
before: it succeeds as soon as they offer a match, and its finding is the one that the evidence
has. -/
theorem enrich_eq_iff_means (success : (load files configuration).outcome = .ok service)
    (counters : Counters) (source : String) (evidence : Evidence) (latency : Latency) :
    let answer := { service with counters := counters }.enrich source evidence latency
    (answer.value.finding.outcome = .success ↔
        ∃ catalogId, Matching (configuration.OffersFor files source) evidence.ruleId catalogId) ∧
      ∀ finding, answer.value.finding = finding ↔
        Means (configuration.OffersFor files source) evidence finding := by
  obtain ⟨scope, registry, scopeLoaded, registryLoaded, rfl⟩ := load_eq_ok_iff.1 success
  intro answer
  let mapper := (registry.select source).mapper
  have agree : (mapper.plans.offers scope).Agree (configuration.OffersFor files source) :=
    agree_of_load scopeLoaded registryLoaded
  have found : Means (mapper.plans.offers scope) evidence answer.value.finding :=
    mapper.means_resolve scope evidence
  refine ⟨(agree.means found).success_iff, ?_⟩
  intro finding
  constructor
  · rintro rfl
    exact agree.means found
  · intro means
    exact found.unique (mapper.plans.offers_functional scope) (agree.symm.means means)

/-- A catalog at one path, and a directory with a document of one plan at another. -/
def sampleFiles : Files where
  node path :=
    if path = "c" then
      .ok (.file (encode
        "{metadata: {id: base}, control-families: [{title: Access, controls: [{id: login}]}]}"))
    else if path = "p" then
      .ok (.directory [("a.yml", .file (encode
        "plans: [{control: {reference-id: base, entry-id: login},
          assessments: [{requirement: {entry-id: mfa}, procedures: [{id: rule}]}]}]"))])
    else .error .absent

/-- Of the two plugins for the engine only the first one has a directory. -/
def sampleConfiguration : Configuration where
  catalogs := ["c"]
  plugins := [⟨"engine", "p"⟩, ⟨"engine", ""⟩]

def sampleEvidence : Evidence :=
  .minimal "engine" "rule" .passed ⟨⟨2026, 1, 1⟩, 0, 0, 0, 0⟩

def sampleFinding : Finding where
  verdict := .compliant
  control := ⟨"mfa", "base", "Access", none⟩
  frameworks := ⟨[], []⟩
  outcome := .success

theorem sampleEvidence_means_sampleFinding :
    ∃ service, (load sampleFiles sampleConfiguration).outcome = .ok service ∧
      Means (sampleConfiguration.OffersFor sampleFiles "engine") sampleEvidence sampleFinding := by
  have evaluated :
      ((load sampleFiles sampleConfiguration).outcome.map fun service =>
        (service.enrich "engine" sampleEvidence .zero).value.finding) = .ok sampleFinding := by
    decide +kernel
  obtain ⟨service, success, found⟩ := Attempt.map_eq_ok_iff.1 evaluated
  have meaning := enrich_eq_iff_means success service.counters "engine" sampleEvidence .zero
  exact ⟨service, success, (meaning.2 sampleFinding).1 found⟩

end Service

end ComplianceEvidence
