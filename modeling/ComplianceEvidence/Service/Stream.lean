import ComplianceEvidence.Service.Basic
import ComplianceEvidence.Text.Blank

/-!
Contract: streams with one evidence record on each line.

Owns: the cut of bytes into lines, the three kinds of lines, and the answers and complaints that a
stream leads to. A line that cannot be read is counted and passed over.
-/

set_option autoImplicit false

namespace ComplianceEvidence.Stream

open Journal (Event)

/-! ## Lines -/

def lineFeed : UInt8 := 10

/-- Cuts bytes behind each line feed; `reversed` is what was read of the line at the start. -/
def cutLines (reversed : List UInt8) : List UInt8 → List (List UInt8)
  | [] => if reversed.isEmpty then [] else [reversed.reverse]
  | byte :: rest =>
      if byte = lineFeed then (byte :: reversed).reverse :: cutLines [] rest
      else cutLines (byte :: reversed) rest

/-- The lines of a stream, each with its line feed; the last one may lack it. -/
def lines (bytes : List UInt8) : List (List UInt8) :=
  cutLines [] bytes

inductive Reason where
  | notUtf8 (fault : Text.Utf8.Fault)
  | notEvidence (complaint : Json.Complaint)
deriving DecidableEq, Repr

def Reason.message : Reason → String
  | notUtf8 fault => "invalid UTF-8: " ++ fault.message
  | notEvidence complaint => (Failure.record complaint).message

inductive Line where
  | blank
  | record (evidence : Evidence)
  | rejected (reason : Reason)

def Line.of (bytes : List UInt8) : Line :=
  match Text.Utf8.decode bytes with
  | .error fault => .rejected (.notUtf8 fault)
  | .ok text =>
      if Text.isBlankText text then .blank
      else
        match Evidence.ofText (String.ofList text) with
        | .ok evidence => .record evidence
        | .error complaint => .rejected (.notEvidence complaint)

/-! ## Results -/

/-- A line that was rejected; lines are counted from one. -/
structure Rejection where
  line : Nat
  reason : Reason
deriving DecidableEq, Repr

def Rejection.text (rejection : Rejection) : String :=
  "line " ++ Number.naturalText rejection.line ++ ": " ++ rejection.reason.message ++ "\n"

structure Result where
  responses : List Response
  rejections : List Rejection
  service : Service
  events : List Event

namespace Result

/-- The responses, one on each line. -/
def output (result : Result) : String :=
  String.join (result.responses.map fun response => response.toJson.render ++ "\n")

/-- The complaints, one on each line. -/
def errors (result : Result) : String :=
  String.join (result.rejections.map Rejection.text)

end Result

/-- Enriches the records on some lines, the first of which has a number. The latencies are those
of the records in order. -/
def enrichLines (service : Service) (number : Nat) (latencies : List Latency) :
    List Line → Result
  | [] => ⟨[], [], service, []⟩
  | .blank :: rest => enrichLines service (number + 1) latencies rest
  | .rejected reason :: rest =>
      let result := enrichLines service (number + 1) latencies rest
      { result with
        rejections := ⟨number, reason⟩ :: result.rejections
        events := .recordRejected number reason.message :: result.events }
  | .record evidence :: rest =>
      let answer := service.enrichOwn evidence (latencies.head?.getD .zero)
      let result := enrichLines answer.service (number + 1) (latencies.drop 1) rest
      { result with
        responses := answer.value :: result.responses
        events := answer.events ++ result.events }

/-- Enriches the records of a stream. Where no latency is given for a record, none is counted. -/
def enrich (service : Service) (latencies : List Latency) (bytes : List UInt8) : Result :=
  enrichLines service 1 latencies ((lines bytes).map Line.of)

end ComplianceEvidence.Stream
