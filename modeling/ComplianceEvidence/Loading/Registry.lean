import ComplianceEvidence.Loading.Configuration
import ComplianceEvidence.Loading.Plans

/-!
Contract: the registry of the mappers that a configuration asks for.

Owns: one mapper for each enabled plugin. The last plugin with an id counts, but all of them are
loaded, and the first at fault ends the loading.
-/

set_option autoImplicit false

namespace ComplianceEvidence.Registry

/-- Registers a mapper, with a note if another one makes room for it. -/
def replace (registry : Registry) (mapper : Mapper) : Report Registry :=
  ⟨if registry.contains mapper.id then [.pluginReplaced mapper.id] else [],
    .ok (registry.insert mapper)⟩

def loadInto (files : Files) (registry : Registry) : List Plugin → Report Registry
  | [] => return registry
  | plugin :: rest =>
      if plugin.isEnabled then do
        let mapper ← Mapper.load files plugin.id plugin.directory
        Report.note (.mapperLoaded plugin.id mapper.plans.size)
        let next ← registry.replace mapper
        loadInto files next rest
      else do
        Report.note (.pluginDisabled plugin.id)
        loadInto files registry rest

def load (files : Files) (plugins : List Plugin) : Report Registry :=
  loadInto files .empty plugins

end ComplianceEvidence.Registry
