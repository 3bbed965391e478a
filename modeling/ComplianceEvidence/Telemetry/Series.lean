import ComplianceEvidence.Telemetry.Counters

/-!
Contract: the series that are emitted about the enrichment of records.

Owns: the names and descriptions of the series, what one record adds to them, and counters that
several holders share.
-/

set_option autoImplicit false

namespace ComplianceEvidence.Telemetry

inductive Series where
  | enrichments
  | fallbacks
  | latency
deriving DecidableEq, Repr

namespace Series

/-- All series, in the order in which they are described. -/
def all : List Series := [enrichments, fallbacks, latency]

def name : Series → String
  | enrichments => "compass_enrichments_total"
  | fallbacks => "compass_fallback_total"
  | latency => "compass_enrich_latency_us"

def description : Series → String
  | enrichments => "Total number of enriched evidence records by enrichment status"
  | fallbacks => "Total number of records handled by the fallback mapper"
  | latency => "Enrichment latency in microseconds"

def unit? : Series → Option String
  | latency => some "microseconds"
  | _ => none

end Series

/-- What is added to a series. -/
inductive Emission where
  | enrichment (outcome : Outcome)
  | latency (microseconds : UInt64)
  | fallback
deriving DecidableEq, Repr

def Emission.series : Emission → Series
  | enrichment _ => .enrichments
  | latency _ => .latency
  | fallback => .fallbacks

def Emission.labels : Emission → List (String × String)
  | enrichment outcome => [("status", outcome.text)]
  | _ => []

/-- What one record adds. -/
def emissions (outcome : Outcome) (isFallback : Bool) (latency : Latency) : List Emission :=
  [.enrichment outcome, .latency latency.microseconds] ++ if isFallback then [.fallback] else []

/-! ## Shared counters -/

/-- Families of handles. All handles of a family share its counters. -/
structure Handles where
  families : List Counters
  owners : List Nat

namespace Handles

def start : Handles := ⟨[.zero], [0]⟩

def counters (handles : Handles) (handle : Nat) : Counters :=
  ((handles.owners[handle]?).bind fun family => handles.families[family]?).getD .zero

def record (handles : Handles) (handle : Nat) (outcome : Outcome) (isFallback : Bool)
    (latency : Latency) : Handles :=
  match handles.owners[handle]? with
  | none => handles
  | some family =>
      { handles with
        families := handles.families.modify family fun counters =>
          counters.record outcome isFallback latency }

def recordSkipped (handles : Handles) (handle : Nat) : Handles :=
  handles.record handle .skipped false .zero

/-- One more handle of the family of a handle. -/
def clone (handles : Handles) (handle : Nat) : Handles :=
  match handles.owners[handle]? with
  | none => handles
  | some family => { handles with owners := handles.owners ++ [family] }

/-- One more handle with counters of its own. -/
def fresh (handles : Handles) : Handles :=
  { families := handles.families ++ [.zero]
    owners := handles.owners ++ [handles.families.length] }

end Handles

end ComplianceEvidence.Telemetry
