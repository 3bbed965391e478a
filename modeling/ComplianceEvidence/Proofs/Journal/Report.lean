import ComplianceEvidence.Journal.Report
import ComplianceEvidence.Proofs.Attempt

/-!
Contract: noted work succeeds and fails as its parts do.

Owns: success and failure of composed reports, and of reports with a note before the rest, and the
events of composed reports.
-/

set_option autoImplicit false

namespace ComplianceEvidence.Report

variable {α β : Type} {result : β}

theorem bind_eq_ok_iff {report : Report α} {next : α → Report β} :
    (report >>= next).outcome = .ok result ↔
      ∃ value, report.outcome = .ok value ∧ (next value).outcome = .ok result := by
  rw [outcome_bind]
  exact Attempt.bind_eq_ok_iff

theorem ofExcept_bind_eq_ok_iff {outcome : Except Failure α} {next : α → Report β} :
    (ofExcept outcome >>= next).outcome = .ok result ↔
      ∃ value, outcome = .ok value ∧ (next value).outcome = .ok result :=
  bind_eq_ok_iff

theorem bind_eq_error_iff {report : Report α} {next : α → Report β} {failure : Failure} :
    (report >>= next).outcome = .error failure ↔
      report.outcome = .error failure ∨
        ∃ value, report.outcome = .ok value ∧ (next value).outcome = .error failure := by
  rw [outcome_bind]
  exact Attempt.bind_eq_error_iff

theorem ofExcept_bind_eq_error_iff {outcome : Except Failure α} {next : α → Report β}
    {failure : Failure} :
    (ofExcept outcome >>= next).outcome = .error failure ↔
      outcome = .error failure ∨
        ∃ value, outcome = .ok value ∧ (next value).outcome = .error failure :=
  bind_eq_error_iff

/-- A note changes nothing about success. -/
theorem note_bind_outcome {event : Journal.Event} {next : Unit → Report β} :
    (note event >>= next).outcome = (next ()).outcome := by
  rw [outcome_bind]
  rfl

/-- Behind a success the rest is done, and its events stand behind the others. -/
theorem bind_of_ok {report : Report α} {next : α → Report β} {value : α}
    (success : report.outcome = .ok value) :
    report >>= next = ⟨report.events ++ (next value).events, (next value).outcome⟩ := by
  show Report.bind report next = _
  rw [Report.bind, success]

/-- An event of composed work is one of its first part, or one of the rest behind a success. -/
theorem mem_events_bind_iff {report : Report α} {next : α → Report β} {event : Journal.Event} :
    event ∈ (report >>= next).events ↔
      event ∈ report.events ∨
        ∃ value, report.outcome = .ok value ∧ event ∈ (next value).events := by
  show event ∈ (Report.bind report next).events ↔ _
  rw [Report.bind]
  cases report.outcome <;> simp

end ComplianceEvidence.Report
