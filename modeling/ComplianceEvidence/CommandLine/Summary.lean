import ComplianceEvidence.Service.Stream

/-!
Contract: what the commands print about a service.

Owns: the summary of what was loaded, and the account of an enriched stream.
-/

set_option autoImplicit false

namespace ComplianceEvidence.CommandLine

open Number (naturalText tenthsText)

def line (text : String) : String := text ++ "\n"

/-! ## What was loaded -/

/-- The line for the catalog under an id, with the number of its controls. -/
def catalogLine (scope : Scope) (id : String) : String :=
  let controls := ((scope.find? id).map fun catalog => catalog.controls.length).getD 0
  line ("  " ++ id ++ " (" ++ naturalText controls ++ " controls)")

/-- The line for the mapper under an id, with the numbers of its plans and of their catalogs. There
is none where there is no mapper. -/
def mapperLine? (registry : Registry) (id : String) : Option String :=
  (registry.find? id).map fun mapper =>
    line
      ("  " ++ id ++ " (" ++ naturalText mapper.plans.planCount ++ " plans across " ++
        naturalText mapper.plans.size ++ " catalogs)")

/-- The catalogs and the mappers of a service, each by ascending ids. -/
def summary (service : Service) : String :=
  line ("Catalogs: " ++ naturalText service.scope.size) ++
    String.join (service.scope.ids.map (catalogLine service.scope)) ++
    line ("Mappers: " ++ naturalText service.registry.size) ++
    String.join (service.registry.ids.filterMap (mapperLine? service.registry))

/-! ## What was counted -/

def account (counters : Counters) : String :=
  line
    ("Enriched " ++ naturalText counters.total.toNat ++ " records: " ++
      naturalText counters.mapped.toNat ++ " mapped, " ++
      naturalText counters.unmapped.toNat ++ " unmapped, " ++
      naturalText counters.fallbacks.toNat ++ " via fallback (" ++
      tenthsText (counters.mappedRate.times (Binary64.ofNat 100)) ++ "% mapped, avg " ++
      naturalText counters.averageLatency.toNat ++ "us)")

def rejectionAccount (count : Nat) : String :=
  if count = 0 then "" else line ("Rejected " ++ naturalText count ++ " malformed records")

end ComplianceEvidence.CommandLine
