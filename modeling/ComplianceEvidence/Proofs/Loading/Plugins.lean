import ComplianceEvidence.Proofs.Loading.Grouping
import ComplianceEvidence.Proofs.Loading.Registry
import ComplianceEvidence.Proofs.Mapping.Registry

/-!
Contract: a loaded registry does what the whole list of plugins asks for.

Owns: when plugins can be loaded, the first one at fault, what a registry has to do with the plugins
it was loaded from, and the notes about plugins that are replaced.

A plugin that is replaced later has to be loadable all the same. The notes follow from what is
registered already: each plugin for an engine is noted but the first one.
-/

set_option autoImplicit false

namespace ComplianceEvidence

instance (source : String) (plugin : Plugin) : Decidable (plugin.IsFor source) :=
  inferInstanceAs (Decidable (_ ∧ _))

/-- A mapper can be loaded for a plugin. -/
def Plugin.Loads (files : Files) (plugin : Plugin) : Prop :=
  ∃ mapper, (Mapper.load files plugin.id plugin.directory).outcome = .ok mapper

/-- A note that a plugin with an id was replaced. -/
def Journal.Event.tellsReplaced (id : String) (event : Journal.Event) : Bool :=
  event.message = "Plugin configured twice, keeping the last entry" ∧
    event.details = [("mapper", .text id)]

/-- What a registry has to do with plugins. Those that are enabled give the ids, the last one with
an id gives the plans, and all other ids are left to a fallback without plans. -/
structure Registry.Honours (registry : Registry) (files : Files) (plugins : List Plugin) :
    Prop where
  ids : ∀ id, id ∈ registry.ids ↔ ∃ plugin ∈ plugins, plugin.IsFor id
  served : ∀ id plugin, Plugin.Counts plugins id plugin →
    ∃ mapper plans, registry.select id = ⟨mapper, false⟩ ∧ mapper.id = id ∧
      (Plan.load files plugin.directory).outcome = .ok plans ∧ mapper.Groups plans
  fallback : registry.fallback = ⟨"basic", .empty⟩
  foreign : ∀ id, (∀ plugin ∈ plugins, ¬ plugin.IsFor id) →
    registry.select id = ⟨registry.fallback, true⟩ ∧
      ∀ scope evidence, ((registry.select id).mapper.resolve scope evidence).finding = .unmapped

/-! ## Notes -/

theorem Journal.Event.tellsReplaced_iff {id : String} {event : Journal.Event} :
    event.tellsReplaced id = true ↔ event = .pluginReplaced id := by
  cases event <;> simp [tellsReplaced, message, details]

/-- What is noted while a mapper is loaded says nothing about plugins. -/
theorem Mapper.countP_tellsReplaced_load {files : Files} {mapperId directory : String}
    {mapper : Mapper} (loaded : (load files mapperId directory).outcome = .ok mapper)
    (id : String) :
    (load files mapperId directory).events.countP (Journal.Event.tellsReplaced id) = 0 := by
  rw [List.countP_eq_zero]
  intro event noted
  rw [Journal.Event.tellsReplaced_iff]
  rintro rfl
  have kinds := noted_of_load loaded noted
  simp at kinds

namespace Registry

variable {files : Files} {registry loaded : Registry} {plugin : Plugin} {plugins : List Plugin}
  {failure : Failure} {id : String}

/-! ## Success and failure -/

theorem loadInto_cons_eq_error_iff (enabled : plugin.directory ≠ "") :
    (loadInto files registry (plugin :: plugins)).outcome = .error failure ↔
      (Mapper.load files plugin.id plugin.directory).outcome = .error failure ∨
        ∃ mapper, (Mapper.load files plugin.id plugin.directory).outcome = .ok mapper ∧
          (loadInto files (registry.insert mapper) plugins).outcome = .error failure := by
  rw [loadInto, if_pos (Plugin.isEnabled_iff.2 enabled), Report.bind_eq_error_iff]
  simp only [Report.note_bind_outcome, Report.bind_eq_error_iff, replace, reduceCtorEq, false_or,
    Except.ok.injEq, exists_eq_left']

/-- Loading succeeds if each plugin that is enabled can be loaded. -/
theorem exists_loadInto_iff :
    (∃ loaded, (loadInto files registry plugins).outcome = .ok loaded) ↔
      ∀ plugin ∈ plugins, plugin.directory ≠ "" → plugin.Loads files := by
  induction plugins generalizing registry with
  | nil => exact iff_of_true ⟨registry, rfl⟩ nofun
  | cons head tail inductionHypothesis =>
      rw [List.forall_mem_cons]
      by_cases disabled : head.directory = ""
      · rw [loadInto_cons_of_disabled disabled, inductionHypothesis]
        simp [disabled]
      · simp only [loadInto_cons_of_enabled disabled]
        constructor
        · intro success
          obtain ⟨loaded, mapper, mapperLoaded, rest⟩ := success
          exact ⟨fun _ => ⟨mapper, mapperLoaded⟩, inductionHypothesis.1 ⟨loaded, rest⟩⟩
        · intro each
          obtain ⟨mapper, mapperLoaded⟩ := each.1 disabled
          obtain ⟨loaded, rest⟩ := inductionHypothesis.2 each.2
          exact ⟨loaded, mapper, mapperLoaded, rest⟩

/-- The first plugin at fault gives the failure, whatever is registered already. -/
theorem loadInto_eq_error_iff :
    (loadInto files registry plugins).outcome = .error failure ↔
      ∃ before plugin after, plugins = before ++ plugin :: after ∧
        (∀ earlier ∈ before, earlier.directory ≠ "" → earlier.Loads files) ∧
        plugin.directory ≠ "" ∧
        (Mapper.load files plugin.id plugin.directory).outcome = .error failure := by
  induction plugins generalizing registry with
  | nil =>
      refine iff_of_false nofun ?_
      rintro ⟨before, plugin, after, isNil, -⟩
      simp at isNil
  | cons head tail inductionHypothesis =>
      rw [Attempt.exists_first_cons_iff]
      by_cases disabled : head.directory = ""
      · rw [loadInto_cons_of_disabled disabled, inductionHypothesis]
        simp [disabled]
      · rw [loadInto_cons_eq_error_iff disabled]
        simp only [inductionHypothesis, exists_and_right, Plugin.Loads, ne_eq, disabled,
          not_false_eq_true, true_and, forall_const]

/-- Plugins that are disabled have no part in the outcome. -/
theorem outcome_loadInto_filter (files : Files) (registry : Registry) (plugins : List Plugin) :
    (loadInto files registry (plugins.filter Plugin.isEnabled)).outcome =
      (loadInto files registry plugins).outcome := by
  induction plugins generalizing registry with
  | nil => rfl
  | cons head tail inductionHypothesis =>
      by_cases enabled : head.isEnabled = true
      · rw [List.filter_cons_of_pos enabled, loadInto, loadInto, if_pos enabled, if_pos enabled]
        simp only [Report.outcome_bind, replace, inductionHypothesis]
      · rw [List.filter_cons_of_neg enabled,
          loadInto_cons_of_disabled (Plugin.not_isEnabled_iff.1 enabled), inductionHypothesis]

/-! ## Replacements -/

theorem events_loadInto_of_disabled (disabled : plugin.directory = "") :
    (loadInto files registry (plugin :: plugins)).events =
      .pluginDisabled plugin.id :: (loadInto files registry plugins).events := by
  rw [loadInto, if_neg (Plugin.not_isEnabled_iff.2 disabled),
    Report.bind_of_ok (Report.outcome_note _)]
  rfl

theorem events_loadInto_of_enabled {mapper : Mapper} (enabled : plugin.directory ≠ "")
    (mapperLoaded : (Mapper.load files plugin.id plugin.directory).outcome = .ok mapper) :
    (loadInto files registry (plugin :: plugins)).events =
      (Mapper.load files plugin.id plugin.directory).events ++
        .mapperLoaded plugin.id mapper.plans.size ::
          ((if registry.contains plugin.id then [.pluginReplaced plugin.id] else []) ++
            (loadInto files (registry.insert mapper) plugins).events) := by
  rw [loadInto, if_pos (Plugin.isEnabled_iff.2 enabled), Report.bind_of_ok mapperLoaded,
    ← id_of_load mapperLoaded]
  rfl

/-- Each plugin for an engine is noted, except for the first one where there is no mapper yet. -/
theorem countP_tellsReplaced_loadInto
    (success : (loadInto files registry plugins).outcome = .ok loaded) :
    (loadInto files registry plugins).events.countP (Journal.Event.tellsReplaced id) =
      (plugins.countP fun plugin => plugin.IsFor id) - if registry.contains id then 0 else 1 := by
  induction plugins generalizing registry with
  | nil =>
      show List.countP _ [] = _
      simp
  | cons head tail inductionHypothesis =>
      by_cases disabled : head.directory = ""
      · have notFor : ¬ head.IsFor id := fun isFor => isFor.2 disabled
        rw [loadInto_cons_of_disabled disabled] at success
        rw [events_loadInto_of_disabled disabled,
          List.countP_cons_of_neg (by simp [Journal.Event.tellsReplaced_iff]),
          List.countP_cons_of_neg (by simpa using notFor), inductionHypothesis success]
      · obtain ⟨mapper, mapperLoaded, rest⟩ := (loadInto_cons_of_enabled disabled).1 success
        rw [events_loadInto_of_enabled disabled mapperLoaded, List.countP_append,
          Mapper.countP_tellsReplaced_load mapperLoaded,
          List.countP_cons_of_neg (by simp [Journal.Event.tellsReplaced_iff]), List.countP_append,
          inductionHypothesis rest, contains_insert, id_of_load mapperLoaded]
        by_cases same : head.id = id
        · have isFor : head.IsFor id := ⟨same, disabled⟩
          rw [List.countP_cons_of_pos (by simpa using isFor), same, if_pos rfl]
          have noted : (Journal.Event.pluginReplaced id).tellsReplaced id = true :=
            Journal.Event.tellsReplaced_iff.2 rfl
          cases registry.contains id with
          | true =>
              rw [if_pos rfl, List.countP_singleton, if_pos noted, if_pos rfl]
              omega
          | false =>
              rw [if_neg (by decide), List.countP_nil, if_pos rfl, if_neg (by decide)]
              omega
        · have notFor : ¬ head.IsFor id := fun isFor => same isFor.1
          rw [List.countP_cons_of_neg (by simpa using notFor), if_neg (Ne.symm same)]
          have notNoted : List.countP (Journal.Event.tellsReplaced id)
              (if registry.contains head.id then [.pluginReplaced head.id] else []) = 0 := by
            split <;> simp [Journal.Event.tellsReplaced_iff, same]
          rw [notNoted, Nat.zero_add, Nat.zero_add]

/-! ## The whole list -/

theorem honours_of_load (success : (load files plugins).outcome = .ok loaded) :
    loaded.Honours files plugins := by
  constructor
  case ids =>
    intro id
    rw [mem_ids_iff]
    constructor
    · intro registered
      obtain ⟨mapper, found⟩ := registered
      by_contra none
      have silent : ∀ plugin ∈ plugins, ¬ plugin.IsFor id :=
        fun plugin member isFor => none ⟨plugin, member, isFor⟩
      rw [find?_loadInto_of_silent success silent] at found
      cases found
    · intro present
      obtain ⟨plugin, counts⟩ := IsLast.exists_iff.2 present
      obtain ⟨mapper, -, found⟩ := find?_loadInto_of_counts success counts
      exact ⟨mapper, found⟩
  case served =>
    intro id plugin counts
    obtain ⟨plans, below, selected⟩ := select_of_counts success counts
    exact ⟨.ofPlans id plans, plans, selected, rfl, Plan.load_eq_ok_iff.2 below,
      Mapper.groups_ofPlans id plans⟩
  case fallback => exact fallback_loadInto success
  case foreign =>
    intro id silent
    rw [select_of_silent success silent, fallback_loadInto success]
    exact ⟨rfl, fun _ _ => rfl⟩

/-- A registry can be loaded if a mapper can be loaded for each plugin that is enabled, also for
those that are replaced later. Then it does what the plugins ask for, and each plugin that takes the
place of another one is noted once. Else the first plugin at fault gives the failure. Plugins that
are disabled have no part in it. -/
theorem load_honours_plugins (files : Files) (plugins : List Plugin) :
    let report := load files plugins
    ((∃ registry, report.outcome = .ok registry) ↔
        ∀ plugin ∈ plugins, plugin.directory ≠ "" → plugin.Loads files) ∧
      (∀ registry, report.outcome = .ok registry →
        registry.Honours files plugins ∧
          ∀ id, report.events.countP (Journal.Event.tellsReplaced id) =
            (plugins.countP fun plugin => plugin.IsFor id) - 1) ∧
      (∀ failure, report.outcome = .error failure ↔
        ∃ before plugin after, plugins = before ++ plugin :: after ∧
          (∀ earlier ∈ before, earlier.directory ≠ "" → earlier.Loads files) ∧
          plugin.directory ≠ "" ∧
          (Mapper.load files plugin.id plugin.directory).outcome = .error failure) ∧
      (load files (plugins.filter Plugin.isEnabled)).outcome = report.outcome := by
  intro report
  refine ⟨exists_loadInto_iff, ?_, fun failure => loadInto_eq_error_iff,
    outcome_loadInto_filter files .empty plugins⟩
  intro registry success
  exact ⟨honours_of_load success, fun id => countP_tellsReplaced_loadInto success⟩

/-- The directory of the other files, beside one without plans. -/
def pluginFiles : Files where
  node path := if path = "e" then .ok (.directory []) else Mapper.groupedFiles.node path

def samplePlugins : List Plugin :=
  [⟨"opa", "p"⟩, ⟨"opa", ""⟩, ⟨"other", "p"⟩, ⟨"opa", "e"⟩]

theorem load_samplePlugins :
    ∃ registry, (load pluginFiles samplePlugins).outcome = .ok registry ∧
      "opa" ∈ registry.ids ∧ "gate" ∉ registry.ids ∧
      (∃ mapper, registry.select "opa" = ⟨mapper, false⟩ ∧ "a" ∉ mapper.plans.keys) ∧
      (∃ mapper, registry.select "other" = ⟨mapper, false⟩ ∧ "a" ∈ mapper.plans.keys) ∧
      (load pluginFiles samplePlugins).events.countP (Journal.Event.tellsReplaced "opa") = 1 ∧
      (load pluginFiles [⟨"opa", "q"⟩, ⟨"opa", "e"⟩]).outcome = .error (.plansAbsent "q") := by
  have full : (Plan.load pluginFiles "p").outcome = .ok Mapper.groupedPlans :=
    Mapper.load_groupedPlans
  have empty : (Plan.load pluginFiles "e").outcome = .ok [] := rfl
  have loadsFull (id : String) : Plugin.Loads pluginFiles ⟨id, "p"⟩ :=
    ⟨_, Mapper.load_eq_ok_iff.2 ⟨_, Plan.load_eq_ok_iff.1 full, rfl⟩⟩
  have loadsEmpty : Plugin.Loads pluginFiles ⟨"opa", "e"⟩ :=
    ⟨_, Mapper.load_eq_ok_iff.2 ⟨_, Plan.load_eq_ok_iff.1 empty, rfl⟩⟩
  obtain ⟨succeeds, honoured, -, -⟩ := load_honours_plugins pluginFiles samplePlugins
  obtain ⟨registry, success⟩ := succeeds.2 (by simp [samplePlugins, loadsFull, loadsEmpty])
  obtain ⟨⟨ids, served, -, -⟩, replaced⟩ := honoured registry success
  refine ⟨registry, success, (ids _).2 (by decide), mt (ids _).1 (by decide), ?_, ?_,
    replaced "opa", ?_⟩
  · obtain ⟨mapper, plans, selected, -, read, groups⟩ := served "opa" ⟨"opa", "e"⟩
      ⟨samplePlugins.take 3, [], rfl, by decide, by simp⟩
    obtain rfl : [] = plans := Except.ok.inj (empty.symm.trans read)
    refine ⟨mapper, selected, fun isKey => ?_⟩
    obtain ⟨plan, inNothing, -⟩ := (groups.key_iff "a" (by decide)).1 isKey
    cases inNothing
  · obtain ⟨mapper, plans, selected, -, read, groups⟩ := served "other" ⟨"other", "p"⟩
      ⟨samplePlugins.take 2, [⟨"opa", "e"⟩], rfl, by decide, by decide⟩
    obtain rfl : Mapper.groupedPlans = plans := Except.ok.inj (full.symm.trans read)
    exact ⟨mapper, selected, (groups.key_iff "a" (by decide)).2
      ⟨{ control := { catalogId := "a" } }, by simp [Mapper.groupedPlans], rfl⟩⟩
  · obtain ⟨-, -, fails, -⟩ := load_honours_plugins pluginFiles [⟨"opa", "q"⟩, ⟨"opa", "e"⟩]
    exact (fails _).2 ⟨[], ⟨"opa", "q"⟩, _, rfl, by simp, by decide, rfl⟩

end Registry

end ComplianceEvidence
