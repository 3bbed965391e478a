import ComplianceEvidence.Loading.Registry
import ComplianceEvidence.Proofs.Loading.Plans
import ComplianceEvidence.Proofs.Ordered.Last

/-!
Contract: a loaded registry serves each policy engine with the plugin that counts for it.

Owns: which plugin counts, and the selection from a registry that was loaded. An engine without a
plugin is served by the fallback, which has no plans.
-/

set_option autoImplicit false

namespace ComplianceEvidence

/-- A plugin is there for a policy engine. -/
def Plugin.IsFor (source : String) (plugin : Plugin) : Prop :=
  plugin.id = source ∧ plugin.directory ≠ ""

/-- The plugin that counts for a policy engine: the last one that is there for it. -/
def Plugin.Counts (plugins : List Plugin) (source : String) : Plugin → Prop :=
  IsLast (Plugin.IsFor source) plugins

theorem Plugin.isEnabled_iff {plugin : Plugin} :
    plugin.isEnabled = true ↔ plugin.directory ≠ "" :=
  decide_eq_true_iff

theorem Plugin.not_isEnabled_iff {plugin : Plugin} :
    ¬ plugin.isEnabled = true ↔ plugin.directory = "" := by
  rw [isEnabled_iff, not_not]

namespace Registry

variable {files : Files} {registry loaded : Registry} {source : String} {plugin : Plugin}
  {plugins : List Plugin}

theorem loadInto_cons_of_enabled (enabled : plugin.directory ≠ "") :
    (loadInto files registry (plugin :: plugins)).outcome = .ok loaded ↔
      ∃ mapper, (Mapper.load files plugin.id plugin.directory).outcome = .ok mapper ∧
        (loadInto files (registry.insert mapper) plugins).outcome = .ok loaded := by
  rw [loadInto, if_pos (Plugin.isEnabled_iff.2 enabled), Report.bind_eq_ok_iff]
  simp only [Report.note_bind_outcome, Report.bind_eq_ok_iff, replace, Except.ok.injEq,
    exists_eq_left']

theorem loadInto_cons_of_disabled (disabled : plugin.directory = "") :
    (loadInto files registry (plugin :: plugins)).outcome =
      (loadInto files registry plugins).outcome := by
  rw [loadInto, if_neg (Plugin.not_isEnabled_iff.2 disabled), Report.note_bind_outcome]

theorem id_of_load {directory : String} {mapperId : String} {mapper : Mapper}
    (success : (Mapper.load files mapperId directory).outcome = .ok mapper) :
    mapper.id = mapperId := by
  obtain ⟨plans, -, rfl⟩ := Mapper.load_eq_ok_iff.1 success
  rfl

theorem fallback_loadInto (success : (loadInto files registry plugins).outcome = .ok loaded) :
    loaded.fallback = registry.fallback := by
  induction plugins generalizing registry with
  | nil =>
      obtain rfl : registry = loaded := Except.ok.inj success
      rfl
  | cons head tail inductionHypothesis =>
      by_cases disabled : head.directory = ""
      · rw [loadInto_cons_of_disabled disabled] at success
        exact inductionHypothesis success
      · obtain ⟨mapper, -, rest⟩ := (loadInto_cons_of_enabled disabled).1 success
        rw [inductionHypothesis rest]
        rfl

/-- Plugins for other engines leave the mapper of an engine alone. -/
theorem find?_loadInto_of_silent
    (success : (loadInto files registry plugins).outcome = .ok loaded)
    (silent : ∀ plugin ∈ plugins, ¬ plugin.IsFor source) :
    loaded.find? source = registry.find? source := by
  induction plugins generalizing registry with
  | nil =>
      obtain rfl : registry = loaded := Except.ok.inj success
      rfl
  | cons head tail inductionHypothesis =>
      have tailSilent : ∀ plugin ∈ tail, ¬ plugin.IsFor source := by
        intro plugin member
        exact silent plugin (List.mem_cons_of_mem _ member)
      by_cases disabled : head.directory = ""
      · rw [loadInto_cons_of_disabled disabled] at success
        exact inductionHypothesis success tailSilent
      · obtain ⟨mapper, mapperLoaded, rest⟩ := (loadInto_cons_of_enabled disabled).1 success
        have otherId : source ≠ mapper.id := by
          rw [id_of_load mapperLoaded]
          intro same
          exact silent head List.mem_cons_self ⟨same.symm, disabled⟩
        rw [inductionHypothesis rest tailSilent, find?_insert, if_neg otherId]

/-- The plugin that counts gives the mapper. -/
theorem find?_loadInto_of_counts
    (success : (loadInto files registry plugins).outcome = .ok loaded)
    (counts : Plugin.Counts plugins source plugin) :
    ∃ mapper, (Mapper.load files plugin.id plugin.directory).outcome = .ok mapper ∧
      loaded.find? source = some mapper := by
  induction plugins generalizing registry with
  | nil => exact absurd counts IsLast.not_nil
  | cons head tail inductionHypothesis =>
      rcases IsLast.cons_iff.1 counts with later | ⟨⟨sameId, enabled⟩, rfl, silent⟩
      · by_cases disabled : head.directory = ""
        · rw [loadInto_cons_of_disabled disabled] at success
          exact inductionHypothesis success later
        · obtain ⟨mapper, -, rest⟩ := (loadInto_cons_of_enabled disabled).1 success
          exact inductionHypothesis rest later
      · obtain ⟨mapper, mapperLoaded, rest⟩ := (loadInto_cons_of_enabled enabled).1 success
        refine ⟨mapper, mapperLoaded, ?_⟩
        have ownId : source = mapper.id := by
          rw [id_of_load mapperLoaded, sameId]
        rw [find?_loadInto_of_silent rest silent, find?_insert, if_pos ownId]

section Loaded

variable (success : (load files plugins).outcome = .ok loaded)
include success

/-- An engine is served by the plans below the directory of the plugin that counts for it. -/
theorem select_of_counts (counts : Plugin.Counts plugins source plugin) :
    ∃ plans, Plan.Below files plugin.directory plans ∧
      loaded.select source = ⟨.ofPlans source plans, false⟩ := by
  obtain ⟨mapper, mapperLoaded, found⟩ := find?_loadInto_of_counts success counts
  obtain ⟨plans, below, rfl⟩ := Mapper.load_eq_ok_iff.1 mapperLoaded
  obtain ⟨rfl, -⟩ := counts.property
  exact ⟨plans, below, by rw [select, found]⟩

/-- An engine for which no plugin is there is served without plans. -/
theorem select_of_silent (silent : ∀ plugin ∈ plugins, ¬ plugin.IsFor source) :
    loaded.select source = ⟨.basic, true⟩ := by
  have notFound : loaded.find? source = none := find?_loadInto_of_silent success silent
  rw [select, notFound, fallback_loadInto success]
  rfl

end Loaded

end Registry

end ComplianceEvidence
