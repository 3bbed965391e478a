import ComplianceEvidence.CommandLine.Summary
import ComplianceEvidence.Proofs.Service.Conservation
import ComplianceEvidence.Proofs.Service.Output

/-!
Contract: what is printed about a stream adds up.

Owns: the lines that a text consists of; the counters behind a stream, which are those behind its
records as requests; and the lines of the account of a stream.
-/

set_option autoImplicit false

namespace ComplianceEvidence

open Text (Plain)

/-! ## Counters behind a stream -/

namespace Stream

variable (service : Service) (number : Nat) (latencies : List Latency) (lines : List Line)

/-- A stream is its records as requests, one after the other. -/
theorem exists_calls :
    ∃ calls : List Call,
      calls.map Call.question =
          (lines.filterMap Line.evidence?).map (fun evidence => .request ⟨evidence⟩) ∧
        (enrichLines service number latencies lines).service = (service.answers calls).2 := by
  induction lines generalizing service number latencies with
  | nil => exact ⟨[], rfl, rfl⟩
  | cons head tail inductionHypothesis =>
      cases head with
      | blank => exact inductionHypothesis _ _ _
      | rejected reason => exact inductionHypothesis _ _ _
      | record evidence =>
          let latency := latencies.head?.getD .zero
          obtain ⟨calls, questions, same⟩ := inductionHypothesis
            (service.enrichOwn evidence latency).service (number + 1) (latencies.drop 1)
          exact ⟨⟨.request ⟨evidence⟩, latency⟩ :: calls, congrArg (_ :: ·) questions, same⟩

theorem length_evidence : (lines.filterMap Line.evidence?).length = lines.countP Line.isRecord := by
  rw [List.length_filterMap_eq_countP]
  apply List.countP_congr
  intro line _
  cases line <;> simp [Line.evidence?, Line.isRecord]

theorem length_responses :
    (enrichLines service number latencies lines).responses.length =
      lines.countP Line.isRecord := by
  rw [responses_enrichLines, List.length_map, length_evidence]

/-- Every record of a stream is counted as mapped or as unmapped. -/
theorem total_eq_mapped_add_unmapped (registry : Registry) (scope : Scope)
    (few : lines.countP Line.isRecord < Number.wordLimit) :
    let counters :=
      (enrichLines (.of registry scope) number latencies lines).service.counters
    counters.total.toNat = lines.countP Line.isRecord ∧
      counters.total.toNat = counters.mapped.toNat + counters.unmapped.toNat := by
  obtain ⟨calls, questions, same⟩ := exists_calls (.of registry scope) number latencies lines
  have callCount : calls.length = lines.countP Line.isRecord := by
    rw [← length_evidence, ← List.length_map Call.question, questions, List.length_map]
  have noneLacks : ∀ call ∈ calls, ¬ call.question.LacksRequired := by
    intro call member
    have asked : call.question ∈ calls.map Call.question := List.mem_map_of_mem member
    rw [questions] at asked
    obtain ⟨evidence, -, isRequest⟩ := List.mem_map.1 asked
    rw [← isRequest]
    exact id
  have balances := Service.balances_answers calls registry scope (by rwa [callCount])
  have noneSkipped := balances.skipped
  rw [List.countP_eq_zero.2 fun call member => by simpa using noneLacks call member] at noneSkipped
  rw [same]
  refine ⟨balances.total.trans callCount, ?_⟩
  rw [balances.sum, noneSkipped, Nat.add_zero]

/-- A rejection has the reason for which a line of the stream was rejected. -/
theorem rejected_of_mem {rejection : Rejection}
    (member : rejection ∈ (enrichLines service number latencies lines).rejections) :
    Line.rejected rejection.reason ∈ lines := by
  induction lines generalizing service number latencies with
  | nil => cases member
  | cons head tail inductionHypothesis =>
      cases head with
      | blank => exact List.mem_cons_of_mem _ (inductionHypothesis _ _ _ member)
      | record evidence => exact List.mem_cons_of_mem _ (inductionHypothesis _ _ _ member)
      | rejected reason =>
          rcases List.mem_cons.1 member with rfl | later
          · exact List.mem_cons_self
          · exact List.mem_cons_of_mem _ (inductionHypothesis _ _ _ later)

end Stream

/-! ## Lines of a text -/

namespace CommandLine

/-- A text is made of lines, each of them ended by the only line feed in it. -/
def ConsistsOf (text : String) (lines : List String) : Prop :=
  text = String.join (lines.map line) ∧ ∀ single ∈ lines, '\n' ∉ single.toList

namespace ConsistsOf

variable {text more : String} {lines others : List String}

theorem nil : ConsistsOf "" [] :=
  ⟨rfl, by simp⟩

theorem single {text : String} (plain : Plain text.toList) : ConsistsOf (line text) [text] := by
  refine ⟨by simp [String.join_cons], ?_⟩
  intro other member
  rw [List.mem_singleton.1 member]
  exact plain.lineFeed_not_mem

theorem append (first : ConsistsOf text lines) (second : ConsistsOf more others) :
    ConsistsOf (text ++ more) (lines ++ others) := by
  refine ⟨by rw [first.1, second.1, List.map_append, String.join_append], ?_⟩
  intro other member
  rcases List.mem_append.1 member with early | late
  · exact first.2 other early
  · exact second.2 other late

theorem join {α : Type} {spell : α → String} {values : List α}
    (plain : ∀ value ∈ values, Plain (spell value).toList) :
    ConsistsOf (String.join (values.map fun value => line (spell value))) (values.map spell) := by
  refine ⟨by rw [List.map_map]; rfl, ?_⟩
  intro other member
  obtain ⟨value, among, rfl⟩ := List.mem_map.1 member
  exact (plain value among).lineFeed_not_mem

end ConsistsOf

/-! ## Lines of an account -/

open Number (naturalText)

/-- The report about a rejected line. -/
def report (rejection : Stream.Rejection) : String :=
  "line " ++ naturalText rejection.line ++ ": " ++ rejection.reason.message

def rejectionLines (count : Nat) : List String :=
  if count = 0 then [] else ["Rejected " ++ naturalText count ++ " malformed records"]

theorem consistsOf_output (result : Stream.Result) :
    ConsistsOf result.output (result.responses.map fun response => response.toJson.render) :=
  ConsistsOf.join fun response _ => response.toJson.plain_render

theorem consistsOf_errors (service : Service) (latencies : List Latency) (bytes : List UInt8) :
    ConsistsOf (Stream.enrich service latencies bytes).errors
      ((Stream.enrich service latencies bytes).rejections.map report) := by
  let result := Stream.enrich service latencies bytes
  have eachPlain : ∀ rejection ∈ result.rejections, Plain (report rejection).toList := by
    intro rejection member
    obtain ⟨bytesOfLine, -, isRejected⟩ := List.mem_map.1 (Stream.rejected_of_mem _ _ _ _ member)
    simp only [report, String.toList_append, Text.plain_append]
    exact ⟨⟨⟨by decide, Number.plain_naturalText _⟩, by decide⟩,
      Stream.Line.plain_message isRejected⟩
  exact ConsistsOf.join eachPlain

theorem plain_tenthsText (value : Binary64) : Plain (Number.tenthsText value).toList := by
  simp only [Number.tenthsText, String.toList_append, Text.plain_append]
  exact ⟨⟨Number.plain_naturalText _, by decide⟩, Number.plain_naturalText _⟩

/-- The line that sums up; `rest` is what it says besides the numbers of records. -/
def sumLine (total mapped unmapped : Nat) (rest : String) : String :=
  "Enriched " ++ naturalText total ++ " records: " ++ naturalText mapped ++ " mapped, " ++
    naturalText unmapped ++ " unmapped, " ++ rest

theorem sumLine_eq (total mapped unmapped : Nat) (rest : String) :
    sumLine total mapped unmapped rest =
      "Enriched " ++ (naturalText total ++ (" records: " ++ (naturalText mapped ++ (" mapped, " ++
        (naturalText unmapped ++ (" unmapped, " ++ rest)))))) := by
  show "Enriched " ++ naturalText total ++ " records: " ++ naturalText mapped ++ " mapped, " ++
    naturalText unmapped ++ " unmapped, " ++ rest = _
  simp only [String.append_assoc]

theorem plain_sumLine (total mapped unmapped : Nat) {rest : String} (plain : Plain rest.toList) :
    Plain (sumLine total mapped unmapped rest).toList := by
  simp only [sumLine_eq, String.toList_append, Text.plain_append, Number.plain_naturalText, plain,
    true_and, and_true]
  decide

/-- The account of counters is one line. -/
theorem consistsOf_account (counters : Counters) :
    ∃ rest, ConsistsOf (account counters)
      [sumLine counters.total.toNat counters.mapped.toNat counters.unmapped.toNat rest] := by
  let rest := naturalText counters.fallbacks.toNat ++ " via fallback (" ++
    Number.tenthsText (counters.mappedRate.times (Binary64.ofNat 100)) ++ "% mapped, avg " ++
    naturalText counters.averageLatency.toNat ++ "us)"
  have plainRest : Plain rest.toList := by
    simp only [rest, String.toList_append, Text.plain_append, Number.plain_naturalText,
      plain_tenthsText, and_true, true_and]
    decide
  have same : account counters =
      line (sumLine counters.total.toNat counters.mapped.toNat counters.unmapped.toNat rest) := by
    simp only [account, sumLine_eq, rest, String.append_assoc]
  rw [same]
  exact ⟨rest, ConsistsOf.single (plain_sumLine _ _ _ plainRest)⟩

theorem consistsOf_rejectionAccount (count : Nat) :
    ConsistsOf (rejectionAccount count) (rejectionLines count) := by
  unfold rejectionAccount rejectionLines
  split
  · exact ConsistsOf.nil
  · apply ConsistsOf.single
    simp only [String.toList_append, Text.plain_append]
    exact ⟨⟨by decide, Number.plain_naturalText _⟩, by decide⟩

end CommandLine

end ComplianceEvidence
