import ComplianceEvidence.Finding.Status
import ComplianceEvidence.Json.Value

/-!
Contract: what is counted about the enrichment of records.

Owns: the counters with the effect of one record on them, latencies in microseconds, and the rates
and the average that follow from the counters.

Counters are words of 64 bits and wrap. A latency that no such word holds counts as the greatest.
-/

set_option autoImplicit false

namespace ComplianceEvidence

structure Latency where
  seconds : Nat
  nanoseconds : Nat
deriving DecidableEq, Repr

namespace Latency

def zero : Latency := ⟨0, 0⟩

def totalNanoseconds (latency : Latency) : Nat :=
  latency.seconds * 1000000000 + latency.nanoseconds

/-- Whole microseconds, at most as many as a word holds. -/
def microseconds (latency : Latency) : UInt64 :=
  UInt64.ofNat (min (latency.totalNanoseconds / 1000) (Number.wordLimit - 1))

end Latency

structure Counters where
  total : UInt64 := 0
  mapped : UInt64 := 0
  unmapped : UInt64 := 0
  skipped : UInt64 := 0
  fallbacks : UInt64 := 0
  latency : UInt64 := 0
deriving DecidableEq, Repr

namespace Counters

def zero : Counters := {}

/-- One more record with an outcome. -/
def addOutcome (counters : Counters) : Outcome → Counters
  | .success => { counters with mapped := counters.mapped + 1 }
  | .unmapped => { counters with unmapped := counters.unmapped + 1 }
  | .skipped => { counters with skipped := counters.skipped + 1 }

/-- One more record, with its latency. -/
def record (counters : Counters) (outcome : Outcome) (isFallback : Bool) (latency : Latency) :
    Counters :=
  let counted := counters.addOutcome outcome
  { counted with
    total := counted.total + 1
    latency := counted.latency + latency.microseconds
    fallbacks := if isFallback then counted.fallbacks + 1 else counted.fallbacks }

/-- One more record that was not enriched. -/
def recordSkipped (counters : Counters) : Counters :=
  counters.record .skipped false .zero

/-! ## Derived figures -/

/-- The whole part of a quotient. There is none for the divisor zero. -/
def quotient? (dividend divisor : UInt64) : Option UInt64 :=
  if divisor = 0 then none else some (dividend / divisor)

/-- The average by a division that could fail. It is asked for only behind a check. -/
def averageLatency? (counters : Counters) : Option UInt64 :=
  if counters.total = 0 then some 0 else quotient? counters.latency counters.total

theorem isSome_averageLatency? (counters : Counters) : counters.averageLatency?.isSome := by
  unfold averageLatency? quotient?
  split <;> rfl

def averageLatency (counters : Counters) : UInt64 :=
  counters.averageLatency?.get counters.isSome_averageLatency?

/-- A count as a part of all records. -/
def rate (counters : Counters) (count : UInt64) : Binary64 :=
  if counters.total = 0 then Binary64.zero
  else (Binary64.ofNat count.toNat).dividedBy (Binary64.ofNat counters.total.toNat)

def mappedRate (counters : Counters) : Binary64 :=
  counters.rate counters.mapped

def fallbackRate (counters : Counters) : Binary64 :=
  counters.rate counters.fallbacks

/-! ## Written forms -/

def entries (counters : Counters) : List (String × UInt64) :=
  [("total_requests", counters.total), ("mapped", counters.mapped),
    ("unmapped", counters.unmapped), ("skipped", counters.skipped),
    ("fallbacks", counters.fallbacks), ("total_latency_us", counters.latency)]

def toJson (counters : Counters) : Json.Value :=
  .object (counters.entries.map fun (name, count) => (name, Json.natural count.toNat))

def debugText (counters : Counters) : String :=
  let fields := counters.entries.map fun (name, count) =>
    name ++ ": " ++ Number.naturalText count.toNat
  "EnrichmentMetrics(MetricsSnapshot \x7b " ++ ", ".intercalate fields ++ " \x7d)"

end Counters

end ComplianceEvidence
