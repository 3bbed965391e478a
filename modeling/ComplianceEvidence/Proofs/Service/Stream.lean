import ComplianceEvidence.Proofs.Evidence.Complaints
import ComplianceEvidence.Proofs.Json.Writing
import ComplianceEvidence.Proofs.Mapping.Resolution
import ComplianceEvidence.Proofs.Service.Lines

/-!
Contract: enriching a stream accounts for each of its lines.

Owns: what each line adds to the output, to the complaints and to the counters. The induction over
the lines carries the service along, of which only the counters change.
-/

set_option autoImplicit false

namespace ComplianceEvidence

open Attempt (FailsOnly)
open Text (Plain)

/-! ## Complaints -/

theorem Text.Utf8.Fault.plain_message (fault : Text.Utf8.Fault) : Plain fault.message.toList := by
  have number (value : Nat) : Plain (toString value).toList := Number.plain_naturalText value
  cases fault with
  | malformed length index =>
      show Plain ("invalid utf-8 sequence of " ++ toString length ++ " bytes from index " ++
        toString index).toList
      simp only [String.toList_append, Text.plain_append]
      exact ⟨⟨⟨by decide, number length⟩, by decide⟩, number index⟩
  | incomplete index =>
      show Plain ("incomplete utf-8 byte sequence from index " ++ toString index).toList
      rw [String.toList_append, Text.plain_append]
      exact ⟨by decide, number index⟩

namespace Stream

/-- The reason why a line is rejected is one line itself. -/
theorem Line.plain_message {line : List UInt8} {reason : Reason}
    (rejected : Line.of line = .rejected reason) : Plain reason.message.toList := by
  unfold Line.of at rejected
  split at rejected
  · rename_i fault _
    obtain rfl := Line.rejected.inj rejected
    show Plain ("invalid UTF-8: " ++ fault.message).toList
    rw [String.toList_append, Text.plain_append]
    exact ⟨by decide, fault.plain_message⟩
  · split at rejected
    · cases rejected
    · split at rejected
      · cases rejected
      · rename_i complaint failed
        obtain rfl := Line.rejected.inj rejected
        show Plain ("serialization error: " ++ complaint.message).toList
        rw [String.toList_append, Text.plain_append]
        exact ⟨by decide, Evidence.ofText_plain _ complaint failed⟩

/-! ## One line -/

namespace Line

/-- What is written for a line. -/
def output (service : Service) : Line → String
  | .record evidence => (service.respond evidence.engineName evidence).toJson.render ++ "\n"
  | .blank | .rejected _ => ""

/-- What is complained about the line with a number. -/
def errors (number : Nat) : Line → String
  | .rejected reason =>
      "line " ++ Number.naturalText number ++ ": " ++ reason.message ++ "\n"
  | .blank | .record _ => ""

/-- Nothing is written for a line without evidence. -/
theorem output_of_not_holds (service : Service) {line : List UInt8}
    (empty : ∀ evidence, ¬ Holds line evidence) : (Line.of line).output service = "" := by
  cases kind : Line.of line with
  | blank => rfl
  | rejected reason => rfl
  | record evidence => exact absurd (Line.of_eq_record_iff.1 kind) (empty evidence)

def isRecord : Line → Bool
  | .record _ => true
  | .blank | .rejected _ => false

def isRejected : Line → Bool
  | .rejected _ => true
  | .blank | .record _ => false

end Line

theorem skipped_addOutcome {counters : Counters} {outcome : Outcome}
    (notSkipped : outcome ≠ .skipped) :
    (counters.addOutcome outcome).skipped = counters.skipped := by
  cases outcome with
  | success => rfl
  | unmapped => rfl
  | skipped => exact absurd rfl notSkipped

/-- No record counts as skipped: a mapper either finds a control or says that it found none. -/
theorem skipped_enrichOwn (service : Service) (evidence : Evidence) (latency : Latency) :
    (service.enrichOwn evidence latency).service.counters.skipped = service.counters.skipped := by
  let mapper := (service.registry.select evidence.engineName).mapper
  have means := mapper.means_resolve service.scope evidence
  exact skipped_addOutcome means.outcome_ne_skipped

theorem total_enrichOwn (service : Service) (evidence : Evidence) (latency : Latency) :
    (service.enrichOwn evidence latency).service.counters.total = service.counters.total + 1 := by
  have unchanged (outcome : Outcome) :
      (service.counters.addOutcome outcome).total = service.counters.total := by
    cases outcome <;> rfl
  exact congrArg (· + 1) (unchanged _)

/-! ## All lines -/

section Run

variable (service : Service) (number : Nat) (latencies : List Latency) (lines : List Line)

theorem output_enrichLines :
    (enrichLines service number latencies lines).output =
      String.join (lines.map (Line.output service)) := by
  induction lines generalizing service number latencies with
  | nil => rfl
  | cons head tail inductionHypothesis =>
      rw [List.map_cons, String.join_cons]
      cases head with
      | blank =>
          rw [Line.output, String.empty_append]
          exact inductionHypothesis _ _ _
      | rejected reason =>
          rw [Line.output, String.empty_append]
          exact inductionHypothesis _ _ _
      | record evidence =>
          let latency := latencies.head?.getD .zero
          let later := (service.enrichOwn evidence latency).service
          have rest := inductionHypothesis later (number + 1) (latencies.drop 1)
          -- The record moves the counters, and no answer looks at them.
          have written : Line.output later = Line.output service := by
            funext line
            cases line <;> rfl
          rw [written] at rest
          rw [← rest, enrichLines, Result.output, List.map_cons, String.join_cons]
          rfl

theorem errors_enrichLines :
    (enrichLines service number latencies lines).errors =
      String.join ((lines.zipIdx number).map fun (line, number) => line.errors number) := by
  induction lines generalizing service number latencies with
  | nil => rfl
  | cons head tail inductionHypothesis =>
      rw [List.zipIdx_cons, List.map_cons, String.join_cons]
      cases head with
      | blank =>
          show _ = "" ++ _
          rw [String.empty_append]
          exact inductionHypothesis _ _ _
      | rejected reason =>
          have rest := inductionHypothesis service (number + 1) latencies
          rw [← rest, enrichLines, Result.errors, List.map_cons, String.join_cons]
          rfl
      | record evidence =>
          show _ = "" ++ _
          rw [String.empty_append]
          exact inductionHypothesis _ _ _

theorem rejections_enrichLines :
    (enrichLines service number latencies lines).rejections.length =
      lines.countP Line.isRejected := by
  induction lines generalizing service number latencies with
  | nil => rfl
  | cons head tail inductionHypothesis =>
      rw [List.countP_cons]
      cases head with
      | blank => exact inductionHypothesis _ _ _
      | rejected reason => exact congrArg (· + 1) (inductionHypothesis _ _ _)
      | record evidence => exact inductionHypothesis _ _ _

/-- Only the counters of a service change: one record more for each line with evidence. -/
theorem service_enrichLines :
    let result := (enrichLines service number latencies lines).service
    result.registry = service.registry ∧ result.scope = service.scope ∧
      result.counters.total =
        service.counters.total + UInt64.ofNat (lines.countP Line.isRecord) ∧
      result.counters.skipped = service.counters.skipped := by
  induction lines generalizing service number latencies with
  | nil => exact ⟨rfl, rfl, (UInt64.add_zero _).symm, rfl⟩
  | cons head tail inductionHypothesis =>
      rw [List.countP_cons]
      cases head with
      | blank => exact inductionHypothesis _ _ _
      | rejected reason => exact inductionHypothesis _ _ _
      | record evidence =>
          let latency := latencies.head?.getD .zero
          let later := (service.enrichOwn evidence latency).service
          obtain ⟨sameRegistry, sameScope, total, skipped⟩ :=
            inductionHypothesis later (number + 1) (latencies.drop 1)
          have once : later.counters.total = service.counters.total + 1 :=
            total_enrichOwn service evidence latency
          refine ⟨sameRegistry, sameScope, ?_, ?_⟩
          · have isRecord : (Line.record evidence).isRecord = true := rfl
            rw [if_pos isRecord, UInt64.ofNat_add, UInt64.add_comm (UInt64.ofNat _),
              ← UInt64.add_assoc]
            exact total.trans (congrArg (· + _) once)
          · exact skipped.trans (skipped_enrichOwn service evidence latency)

end Run

/-- How a stream is accounted for. What a line adds depends on the line, on its number and on the
service, and not on the other lines. -/
structure Accounts (service : Service) (bytes : List UInt8) (result : Result) : Prop where
  cut : Cut bytes (lines bytes)
  blank : ∀ line, Line.of line = .blank ↔ Blank line
  record : ∀ line evidence, Line.of line = .record evidence ↔ Holds line evidence
  output : result.output = String.join ((lines bytes).map fun line => (Line.of line).output service)
  passedOver : ∀ front line back, lines bytes = front ++ line :: back →
    (∀ evidence, ¬ Holds line evidence) →
      result.output = String.join ((front ++ back).map fun line => (Line.of line).output service)
  errors : result.errors = String.join
    (((lines bytes).zipIdx 1).map fun (line, number) => (Line.of line).errors number)
  rejected : result.rejections.length = (lines bytes).countP fun line => (Line.of line).isRejected
  oneLineOfOutput : ∀ response : Response, '\n' ∉ response.toJson.render.toList
  oneLineOfErrors : ∀ line reason, Line.of line = .rejected reason →
    '\n' ∉ reason.message.toList
  total : result.service.counters.total = service.counters.total +
    UInt64.ofNat ((lines bytes).countP fun line => (Line.of line).isRecord)
  skipped : result.service.counters.skipped = service.counters.skipped
  kept : result.service.registry = service.registry ∧ result.service.scope = service.scope

end Stream

end ComplianceEvidence
