import ComplianceEvidence.Files.Reading
import ComplianceEvidence.Journal.Event
import ComplianceEvidence.Yaml.Fault

/-!
Contract: why the program cannot do what it is asked for, and work that is noted in a journal.

Owns: the failures with their categories and wording, and the result of work together with the
events noted on the way, which are kept if the work fails.
-/

set_option autoImplicit false

namespace ComplianceEvidence

inductive Category where
  | configuration
  | catalog
  | plan
  | attributes
  | files
  | records
  | documents
deriving DecidableEq, Repr

def Category.heading : Category → String
  | configuration => "configuration error: "
  | catalog => "catalog error: "
  | plan => "evaluation plan error: "
  | attributes => "missing required attributes: "
  | files => "io error: "
  | records => "serialization error: "
  | documents => "yaml error: "

inductive Failure where
  | configurationAbsent (path : String)
  | configurationMalformed (path : String) (fault : Yaml.Fault)
  | catalogMalformed (path : String) (fault : Yaml.Fault)
  | catalogWithoutId (path : String)
  | catalogRepeated (catalogId path : String)
  | plansAbsent (path : String)
  | plansNotInDirectory (path : String)
  | planMalformed (path : String) (fault : Yaml.Fault)
  | attributesAbsent (missing : List PolicyAttribute)
  | file (fault : Files.Fault)
  | record (complaint : Json.Complaint)
  | document (fault : Yaml.Fault)
deriving DecidableEq, Repr

namespace Failure

def category : Failure → Category
  | configurationAbsent _ => .configuration
  | configurationMalformed _ _ => .configuration
  | catalogMalformed _ _ => .catalog
  | catalogWithoutId _ => .catalog
  | catalogRepeated _ _ => .configuration
  | plansAbsent _ => .configuration
  | plansNotInDirectory _ => .configuration
  | planMalformed _ _ => .plan
  | attributesAbsent _ => .attributes
  | file _ => .files
  | record _ => .records
  | document _ => .documents

def reason : Failure → String
  | configurationAbsent path => "config file " ++ path ++ " not found"
  | configurationMalformed path fault =>
      "failed to parse " ++ path ++ ": " ++ Category.documents.heading ++ fault.message
  | catalogMalformed path fault => "failed to parse " ++ path ++ ": " ++ fault.message
  | catalogWithoutId path => "catalog " ++ path ++ " has no metadata.id"
  | catalogRepeated catalogId path => "duplicate catalog ID " ++ catalogId ++ " in " ++ path
  | plansAbsent path => "evaluations directory " ++ path ++ " not found"
  | plansNotInDirectory path => "evaluations path " ++ path ++ " is not a directory"
  | planMalformed path fault => "failed to parse " ++ path ++ ": " ++ fault.message
  | attributesAbsent missing => ", ".intercalate (missing.map PolicyAttribute.key)
  | file fault => fault.message
  | record complaint => complaint.message
  | document fault => fault.message

def message (failure : Failure) : String :=
  failure.category.heading ++ failure.reason

end Failure

/-- The outcome of work, and the events noted on the way. -/
structure Report (α : Type) where
  events : List Journal.Event
  outcome : Except Failure α

namespace Report

variable {α β : Type}

def ok (value : α) : Report α := ⟨[], .ok value⟩

def fail (failure : Failure) : Report α := ⟨[], .error failure⟩

def note (event : Journal.Event) : Report Unit := ⟨[event], .ok ()⟩

def ofExcept (outcome : Except Failure α) : Report α := ⟨[], outcome⟩

/-- Goes on with a result; the events of both parts are kept in order. -/
def bind (report : Report α) (next : α → Report β) : Report β :=
  match report.outcome with
  | .error failure => ⟨report.events, .error failure⟩
  | .ok value => ⟨report.events ++ (next value).events, (next value).outcome⟩

instance : Monad Report where
  pure := ok
  bind := bind

@[simp] theorem outcome_pure (value : α) : (pure value : Report α).outcome = .ok value := rfl

@[simp] theorem outcome_note (event : Journal.Event) : (note event).outcome = .ok () := rfl

@[simp] theorem outcome_bind (report : Report α) (next : α → Report β) :
    (report >>= next).outcome = report.outcome.bind fun value => (next value).outcome := by
  change (Report.bind report next).outcome = _
  unfold Report.bind
  cases report.outcome <;> rfl

end Report

end ComplianceEvidence
