import ComplianceEvidence.Finding.Attributes
import ComplianceEvidence.Mapping.Sharing
import ComplianceEvidence.Text.Quoted

/-!
Contract: what the program notes about its work.

Owns: the events, and the level, the message and the fields of each.
-/

set_option autoImplicit false

namespace ComplianceEvidence.Journal

inductive Level where
  | debug
  | info
  | warning
deriving DecidableEq, Repr

def Level.text : Level → String
  | debug => "DEBUG"
  | info => "INFO"
  | warning => "WARN"

inductive Detail where
  | text (value : String)
  | count (value : Nat)
deriving DecidableEq, Repr

def Detail.written : Detail → String
  | text value => value
  | count value => Number.naturalText value

inductive Event where
  | defaultsUsed
  | configurationLoaded (catalogs plugins : Nat)
  | catalogLoaded (catalogId path : String) (controls : Nat)
  | planFileRead (path : String) (plans : Nat)
  | planWithoutCatalog (mapperId controlId : String)
  | plansAdded (mapperId catalogId : String) (plans : Nat)
  | procedureShared (mapperId : String) (shared : SharedProcedure)
  | pluginDisabled (pluginId : String)
  | mapperLoaded (mapperId : String) (catalogs : Nat)
  | pluginReplaced (pluginId : String)
  | serviceReady (catalogs mappers : Nat)
  | fallbackUsed (source fallbackId : String)
  | resolutionMissed (mapperId ruleId : String) (miss : Miss)
  | evidenceUnmapped (mapperId ruleId : String) (catalogs : Nat)
  | evidenceEnriched (source ruleId : String) (verdict : Verdict) (outcome : Outcome)
  | recordSkipped (missing : List PolicyAttribute)
  | recordRejected (line : Nat) (reason : String)
deriving DecidableEq, Repr

namespace Event

def level : Event → Level
  | defaultsUsed => .debug
  | configurationLoaded _ _ => .info
  | catalogLoaded _ _ _ => .info
  | planFileRead _ _ => .debug
  | planWithoutCatalog _ _ => .warning
  | plansAdded _ _ _ => .debug
  | procedureShared _ _ => .warning
  | pluginDisabled _ => .info
  | mapperLoaded _ _ => .info
  | pluginReplaced _ => .warning
  | serviceReady _ _ => .info
  | fallbackUsed _ _ => .warning
  | resolutionMissed _ _ _ => .debug
  | evidenceUnmapped _ _ _ => .debug
  | evidenceEnriched _ _ _ _ => .debug
  | recordSkipped _ => .debug
  | recordRejected _ _ => .warning

def message : Event → String
  | defaultsUsed => "No config file, using defaults"
  | configurationLoaded _ _ => "Configuration loaded"
  | catalogLoaded _ _ _ => "Loaded catalog"
  | planFileRead _ _ => "Read evaluation plan"
  | planWithoutCatalog _ _ => "Skipping plan without catalog reference"
  | plansAdded _ _ _ => "Adding plans"
  | procedureShared _ _ => "Procedure appears under several catalogs"
  | pluginDisabled _ => "No evaluations directory, skipping plugin"
  | mapperLoaded _ _ => "Loaded mapper"
  | pluginReplaced _ => "Plugin configured twice, keeping the last entry"
  | serviceReady _ _ => "Service ready"
  | fallbackUsed _ _ => "No mapper registered for source, using fallback"
  | resolutionMissed _ _ _ => "Resolution miss"
  | evidenceUnmapped _ _ _ => "Evidence unmapped"
  | evidenceEnriched _ _ _ _ => "Enriched evidence"
  | recordSkipped _ => "Skipping record without evidence attributes"
  | recordRejected _ _ => "Rejected evidence record"

def details : Event → List (String × Detail)
  | defaultsUsed => []
  | configurationLoaded catalogs plugins =>
      [("catalogs", .count catalogs), ("plugins", .count plugins)]
  | catalogLoaded catalogId path controls =>
      [("catalog_id", .text catalogId), ("path", .text path), ("controls", .count controls)]
  | planFileRead path plans => [("path", .text path), ("plans", .count plans)]
  | planWithoutCatalog mapperId controlId =>
      [("mapper", .text mapperId), ("control_id", .text controlId)]
  | plansAdded mapperId catalogId plans =>
      [("mapper", .text mapperId), ("catalog_id", .text catalogId), ("plans", .count plans)]
  | procedureShared mapperId shared =>
      [("mapper", .text mapperId), ("policy_rule_id", .text shared.procedureId),
        ("catalog_id", .text shared.catalogId), ("resolved_catalog_id", .text shared.ownerId)]
  | pluginDisabled pluginId => [("mapper", .text pluginId)]
  | mapperLoaded mapperId catalogs => [("mapper", .text mapperId), ("catalogs", .count catalogs)]
  | pluginReplaced pluginId => [("mapper", .text pluginId)]
  | serviceReady catalogs mappers => [("catalogs", .count catalogs), ("mappers", .count mappers)]
  | fallbackUsed source fallbackId =>
      [("source", .text source), ("fallback", .text fallbackId)]
  | resolutionMissed mapperId ruleId miss =>
      [("mapper", .text mapperId), ("policy_rule_id", .text ruleId), ("reason", .text miss.text)]
  | evidenceUnmapped mapperId ruleId catalogs =>
      [("mapper", .text mapperId), ("policy_rule_id", .text ruleId),
        ("catalogs", .count catalogs)]
  | evidenceEnriched source ruleId verdict outcome =>
      [("source", .text source), ("policy_rule_id", .text ruleId),
        ("status", .text verdict.text), ("enrichment_status", .text outcome.text)]
  | recordSkipped missing =>
      [("missing", .text (Text.quotedList (missing.map PolicyAttribute.key)))]
  | recordRejected line reason =>
      [("line", .text (Number.naturalText line)), ("error", .text reason)]

def line (event : Event) : String :=
  let words := event.details.map fun (key, detail) => " " ++ key ++ "=" ++ detail.written
  event.level.text ++ " " ++ event.message ++ String.join words ++ "\n"

end Event

end ComplianceEvidence.Journal
