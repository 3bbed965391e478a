import ComplianceEvidence.Evidence.Decision

/-!
Contract: the verdict of a finding and the outcome of enriching a record.

Owns: the two closed sets, the verdict that a decision stands for, and their written names.
-/

set_option autoImplicit false

namespace ComplianceEvidence

/-- Whether what was evaluated complies. -/
inductive Verdict where
  | compliant
  | nonCompliant
  | notApplicable
  | unknown
deriving DecidableEq, Repr

namespace Verdict

def text : Verdict → String
  | compliant => "COMPLIANT"
  | nonCompliant => "NON_COMPLIANT"
  | notApplicable => "NOT_APPLICABLE"
  | unknown => "UNKNOWN"

def ofDecision : Decision → Verdict
  | .passed => compliant
  | .failed => nonCompliant
  | .notRun => notApplicable
  | .notApplicable => notApplicable
  | .unknown => unknown

/-- The verdict that a decision's spelling stands for. -/
def ofSpelling (decision : String) : Verdict :=
  ofDecision (Decision.ofText decision)

/-- The names that are read; one verdict has two. -/
def names : List (String × Verdict) :=
  [("COMPLIANT", compliant), ("NONCOMPLIANT", nonCompliant), ("NON_COMPLIANT", nonCompliant),
    ("NOT_APPLICABLE", notApplicable), ("UNKNOWN", unknown)]

def variants : Json.Variants Verdict where
  known := names.map (·.1)
  named? := fun text => names.lookup text

def toJson (verdict : Verdict) : Json.Value :=
  .text verdict.text

theorem named?_text (verdict : Verdict) : variants.named? verdict.text = some verdict := by
  cases verdict <;> decide

end Verdict

/-- What became of a record. -/
inductive Outcome where
  /-- A control of a loaded catalog was found for it. -/
  | success
  /-- No plan and catalog that are loaded match it. -/
  | unmapped
  /-- It lacks what is needed to look for a control. -/
  | skipped
deriving DecidableEq, Repr

namespace Outcome

def text : Outcome → String
  | success => "success"
  | unmapped => "unmapped"
  | skipped => "skipped"

def all : List Outcome := [success, unmapped, skipped]

def variants : Json.Variants Outcome where
  known := all.map text
  named? := fun name => all.find? fun outcome => outcome.text = name

def toJson (outcome : Outcome) : Json.Value :=
  .text outcome.text

theorem named?_text (outcome : Outcome) : variants.named? outcome.text = some outcome := by
  cases outcome <;> decide

end Outcome

end ComplianceEvidence
