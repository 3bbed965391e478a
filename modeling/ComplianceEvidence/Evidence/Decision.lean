import ComplianceEvidence.Json.Reader

/-!
Contract: what a policy engine decided, as a closed set.

Owns: the accepted spellings of a decision, compared without regard to the case of ASCII letters,
and the canonical spelling. A text that is no such spelling is the unknown decision, so reading
never fails.
-/

set_option autoImplicit false

namespace ComplianceEvidence

inductive Decision where
  | passed
  | failed
  | notRun
  | notApplicable
  | unknown
deriving DecidableEq, Repr

namespace Decision

/-- The accepted spellings, in lower case. -/
def spellings : List (String × Decision) :=
  [("passed", .passed), ("success", .passed), ("failed", .failed), ("failure", .failed),
    ("not-run", .notRun), ("not-applicable", .notApplicable)]

/-- A text with its ASCII letters in lower case; all other characters are kept. -/
def lowered (text : String) : String :=
  String.ofList (text.toList.map Char.toLower)

def ofText (text : String) : Decision :=
  ((spellings.find? fun spelling => spelling.1 = lowered text).map (·.2)).getD .unknown

def text : Decision → String
  | passed => "passed"
  | failed => "failed"
  | notRun => "not-run"
  | notApplicable => "not-applicable"
  | unknown => "unknown"

def toJson (decision : Decision) : Json.Value :=
  .text decision.text

/-- A decision written as a text of any content. -/
def read (node : Json.Node) : Except Json.Fault Decision :=
  (Json.readString node).map ofText

/-- The canonical spelling is read as the decision it spells. -/
theorem ofText_text (decision : Decision) : ofText decision.text = decision := by
  cases decision <;> decide

end Decision

end ComplianceEvidence
