import ComplianceEvidence.Loading.Catalogs
import ComplianceEvidence.Loading.Registry
import ComplianceEvidence.Telemetry.Counters

/-!
Contract: the service that enriches evidence.

Owns: the three ways to ask it, the counters that each of them moves, and what is noted on the way.
A record is enriched by the mapper of its policy engine, or by the fallback.
-/

set_option autoImplicit false

namespace ComplianceEvidence

open Journal (Event)

structure Service where
  registry : Registry
  scope : Scope
  counters : Counters

/-- What is answered, the service behind the answer, and the events noted. -/
structure Answer (α : Type) where
  value : α
  service : Service
  events : List Event

def Mapper.trail (mapper : Mapper) (scope : Scope) (evidence : Evidence) : List Event :=
  let resolution := mapper.resolve scope evidence
  resolution.misses.map (.resolutionMissed mapper.id evidence.ruleId) ++
    if resolution.finding.isMapped then []
    else [.evidenceUnmapped mapper.id evidence.ruleId mapper.plans.size]

namespace Service

/-- A service that has not been asked yet. -/
def of (registry : Registry) (scope : Scope) : Service := ⟨registry, scope, .zero⟩

/-- The service that a configuration describes. Catalogs are loaded before plans. -/
def load (files : Files) (configuration : Configuration) : Report Service := do
  let scope ← Scope.load files configuration.catalogs
  let registry ← Registry.load files configuration.plugins
  return .of registry scope

/-! ## Enrichment -/

/-- The answer to evidence from a policy engine, whatever was asked before. -/
def respond (service : Service) (source : String) (evidence : Evidence) : Response :=
  (service.registry.select source).mapper.respond service.scope evidence

def trail (service : Service) (source : String) (evidence : Evidence) : List Event :=
  let selection := service.registry.select source
  let finding := (service.respond source evidence).finding
  (if selection.isFallback then [.fallbackUsed source selection.mapper.id] else []) ++
    selection.mapper.trail service.scope evidence ++
    [.evidenceEnriched source evidence.ruleId finding.verdict finding.outcome]

def enrich (service : Service) (source : String) (evidence : Evidence) (latency : Latency) :
    Answer Response :=
  let response := service.respond source evidence
  let isFallback := (service.registry.select source).isFallback
  { value := response
    service :=
      { service with
        counters := service.counters.record response.finding.outcome isFallback latency }
    events := service.trail source evidence }

def enrichOwn (service : Service) (evidence : Evidence) (latency : Latency) : Answer Response :=
  service.enrich evidence.engineName evidence latency

/-- The attributes to add to a log record. One that lacks a required attribute is skipped. -/
def annotate (service : Service) (attributes : Attributes) (timestamp : Time.Instant)
    (latency : Latency) : Answer (List (String × AttributeValue)) :=
  match attributes.evidence timestamp with
  | .ok evidence =>
      let answer := service.enrichOwn evidence latency
      { answer with value := answer.value.finding.attributes }
  | .error missing =>
      { value := [Finding.outcomeAttribute .skipped]
        service := { service with counters := service.counters.recordSkipped }
        events := [.recordSkipped missing] }

end Service

end ComplianceEvidence
