import Mathlib.Data.List.Forall2
import ComplianceEvidence.Proofs.Finding.RoundTrip
import ComplianceEvidence.Proofs.Service.Stream
import ComplianceEvidence.Proofs.Text.Encoding

/-!
Contract: the output of a stream is read back as the responses that it was written for.

Owns: the responses of a run, record by record, and the pieces between the line feeds of an output.

The argument goes through bytes, since the output is cut before it is read as text.
-/

set_option autoImplicit false

namespace ComplianceEvidence

open Text.Utf8 (encode)

/-- The bytes of a written response are no controls, so none of them is a line feed. -/
theorem Response.le_of_mem_render (response : Response) {byte : UInt8}
    (member : byte ∈ encode response.toJson.render) : 0x20 ≤ byte.toNat :=
  Text.Utf8.le_of_mem_encode (by decide) response.toJson.plain_render member

namespace Stream

/-! ## Responses of a run -/

def Line.evidence? : Line → Option Evidence
  | .record evidence => some evidence
  | .blank | .rejected _ => none

/-- What a service answers does not depend on the records before. -/
theorem responses_enrichLines (service : Service) (number : Nat) (latencies : List Latency)
    (lines : List Line) :
    (enrichLines service number latencies lines).responses =
      (lines.filterMap Line.evidence?).map fun evidence =>
        service.respond evidence.engineName evidence := by
  induction lines generalizing service number latencies with
  | nil => rfl
  | cons head tail inductionHypothesis =>
      cases head with
      | blank => exact inductionHypothesis _ _ _
      | rejected reason => exact inductionHypothesis _ _ _
      | record evidence => exact congrArg (_ :: ·) (inductionHypothesis _ _ _)

/-! ## Pieces of an output -/

/-- The bytes that are written for a response, without the line feed. -/
def piece (response : Response) : List UInt8 :=
  encode response.toJson.render

/-- A piece that is read as a response. -/
def Carries (bytes : List UInt8) (response : Response) : Prop :=
  ∃ text, encode text = bytes ∧ Response.ofText text = .ok response

theorem carries_piece (response : Response) : Carries (piece response) response :=
  ⟨response.toJson.render, rfl, response.ofText_render⟩

theorem lineFeed_not_mem_piece (response : Response) : lineFeed ∉ piece response := by
  intro member
  have shown : 0x20 ≤ lineFeed.toNat := response.le_of_mem_render member
  exact absurd shown (by decide)

theorem encode_output (result : Result) :
    encode result.output = result.responses.flatMap fun response => piece response ++ [lineFeed] := by
  have feed : "\n".toList.flatMap String.utf8EncodeChar = [lineFeed] := by decide
  rw [Result.output]
  induction result.responses with
  | nil => simp [Text.Utf8.encode_eq_flatMap]
  | cons head tail inductionHypothesis =>
      rw [List.map_cons, String.join_cons, List.flatMap_cons, ← inductionHypothesis]
      simp only [Text.Utf8.encode_eq_flatMap, piece, String.toList_append, List.flatMap_append, feed]

/-- An output is cut into the pieces of its responses; behind the last line feed is nothing. -/
theorem splitOn_encode_output (result : Result) :
    (encode result.output).splitOn lineFeed = result.responses.map piece ++ [[]] := by
  rw [encode_output]
  induction result.responses with
  | nil => rfl
  | cons head tail inductionHypothesis =>
      rw [List.flatMap_cons, List.append_assoc, List.singleton_append,
        List.splitOn_append_cons_self_of_not_mem (lineFeed_not_mem_piece head),
        inductionHypothesis, List.map_cons, List.cons_append]

/-- Responses are written without loss and without control bytes, so an output that is cut at its
line feeds gives the responses to the records of the stream, in order. -/
theorem output_lossless :
    (∀ response : Response,
      (∀ byte ∈ encode response.toJson.render, 0x20 ≤ byte.toNat) ∧
        Response.ofText response.toJson.render = .ok response) ∧
    ∀ (service : Service) (latencies : List Latency) (bytes : List UInt8),
      let result := enrich service latencies bytes
      let records := (lines bytes).filterMap fun line => (Line.of line).evidence?
      result.responses =
          records.map (fun evidence => service.respond evidence.engineName evidence) ∧
        ∃ pieces, (encode result.output).splitOn lineFeed = pieces ++ [[]] ∧
          List.Forall₂ Carries pieces result.responses := by
  constructor
  · intro response
    exact ⟨fun _ => response.le_of_mem_render, response.ofText_render⟩
  intro service latencies bytes result records
  constructor
  · show (enrichLines service 1 latencies _).responses = _
    rw [responses_enrichLines, List.filterMap_map]
    rfl
  · refine ⟨_, splitOn_encode_output result, ?_⟩
    rw [List.forall₂_map_left_iff]
    exact List.forall₂_same.2 fun response _ => carries_piece response

end Stream

end ComplianceEvidence
