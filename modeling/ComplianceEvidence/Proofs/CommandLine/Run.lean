import ComplianceEvidence.CommandLine.Run
import ComplianceEvidence.Proofs.CommandLine.Summary
import ComplianceEvidence.Proofs.Files.Reading

/-!
Contract: what the two commands share, and what they leave behind.

Owns: the input of a run, the account that a run over an input gives, and the comparison of checking
with enriching for the same configuration.

Both commands begin with the same work, so one fails in it if and only if the other does. Behind it
nothing but the input itself can fail: what the records are is only reported.
-/

set_option autoImplicit false

namespace ComplianceEvidence

namespace CommandLine

open Number (naturalText)

/-! ## Loading -/

/-- Loading depends on the configuration and the catalogs that a command names, and on no more. -/
theorem loadService_congr (files : Files) {command other : Command}
    (sameConfiguration : command.configuration = other.configuration)
    (sameCatalogs : command.catalogs = other.catalogs) :
    loadService files command = loadService files other := by
  rw [loadService, sameConfiguration, sameCatalogs, loadService]

theorem Work.bind_eq_ok_iff {α β : Type} {work : Work α} {next : α → Work β} {result : β} :
    (work.bind next).outcome = .ok result ↔
      ∃ value, work.outcome = .ok value ∧ (next value).outcome = .ok result := by
  unfold Work.bind
  cases work.outcome <;> simp

/-- A service that is loaded for a command has not been asked yet. -/
theorem eq_of_loadService {files : Files} {command : Command} {service : Service}
    (loaded : (loadService files command).outcome = .ok service) :
    ∃ registry scope, service = .of registry scope := by
  simp only [loadService, Work.bind_eq_ok_iff, Work.of, Attempt.mapError_eq_ok_iff] at loaded
  obtain ⟨_, -, configuration, -, serviceLoaded⟩ := loaded
  obtain ⟨scope, registry, -, -, rfl⟩ := Service.load_eq_ok_iff.1 serviceLoaded
  exact ⟨registry, scope, rfl⟩

/-! ## Inputs -/

/-- Bytes that a run can open and read under the name of its input. -/
def Supplies (world : World) (input : String) (bytes : List UInt8) : Prop :=
  if input = "-" then bytes = world.standardInput
  else world.files.node input = .ok (.file bytes)

/-- Enriching an input gives a result as soon as there are bytes, whatever they are. -/
theorem enrichInput_eq_ok_iff {world : World} {command : Command} {service : Service}
    {result : Stream.Result} :
    enrichInput world command service = .ok result ↔
      ∃ bytes, Supplies world command.input bytes ∧
        Stream.enrich service world.latencies bytes = result := by
  simp only [enrichInput, readInput, openInput, standardInput, Supplies, Attempt.bind_eq_ok_iff,
    Attempt.mapError_eq_ok_iff, Attempt.pure_eq_ok_iff, Files.Node.bytes_eq_ok_iff]
  by_cases isStandard : command.input = "-"
  · simp [isStandard]
  · simp [isStandard]

/-! ## Accounts -/

/-- An ending with a complaint and nothing else. -/
structure Ending.Fails (ending : Ending) (complaint : String) : Prop where
  code : ending.code = 1
  output : ending.output = ""
  errors : ending.errors = complaint

theorem fails_failed (trouble : Trouble) (events : List Journal.Event) :
    (failed trouble events).Fails trouble.text :=
  ⟨rfl, rfl, rfl⟩

/-- What is told about an input: the answers, the reports about lines, and numbers of records. -/
structure Account where
  answers : List String
  reports : List String
  enriched : Nat
  mapped : Nat
  unmapped : Nat
  rest : String

namespace Account

def sum (account : Account) : String :=
  sumLine account.enriched account.mapped account.unmapped account.rest

/-- The reports, the sum, and the number of the reports if there are any. -/
def errorLines (account : Account) : List String :=
  account.reports ++ [account.sum] ++ rejectionLines account.reports.length

end Account

def startsWith (beginning text : String) : Bool :=
  beginning.toList.isPrefixOf text.toList

/-- A run ends well and tells an account of its input. -/
structure Ending.Tells (ending : Ending) (bytes : List UInt8) (account : Account) : Prop where
  code : ending.code = 0
  output : ConsistsOf ending.output account.answers
  errors : ConsistsOf ending.errors account.errorLines
  once : account.errorLines.filter (startsWith "Enriched ") = [account.sum]
  reports : ∀ single ∈ account.reports, ∃ number message,
    single = "line " ++ naturalText number ++ ": " ++ message
  answered : account.answers.length =
    (Stream.lines bytes).countP fun line => (Stream.Line.of line).isRecord
  rejected : account.reports.length =
    (Stream.lines bytes).countP fun line => (Stream.Line.of line).isRejected
  enriched : account.answers.length < Number.wordLimit → account.enriched = account.answers.length
  balanced : account.answers.length < Number.wordLimit →
    account.enriched = account.mapped + account.unmapped

/-- No other line of an account looks like its sum. -/
theorem filter_errorLines {account : Account}
    (reports : ∀ single ∈ account.reports, ∃ number message,
      single = "line " ++ naturalText number ++ ": " ++ message) :
    account.errorLines.filter (startsWith "Enriched ") = [account.sum] := by
  have noReport : account.reports.filter (startsWith "Enriched ") = [] := by
    rw [List.filter_eq_nil_iff]
    intro single member
    obtain ⟨number, message, rfl⟩ := reports single member
    simp [startsWith]
  have noRejections :
      (rejectionLines account.reports.length).filter (startsWith "Enriched ") = [] := by
    unfold rejectionLines
    split
    · rfl
    · simp [startsWith]
  have isSum : startsWith "Enriched " account.sum = true := by
    simp [startsWith, Account.sum, sumLine_eq]
  rw [Account.errorLines, List.filter_append, List.filter_append, noReport, noRejections,
    List.filter_cons_of_pos isSum]
  rfl

/-- Enriching an input with a service that has not been asked yet is accounted for. -/
theorem exists_tells (registry : Registry) (scope : Scope) (latencies : List Latency)
    (bytes : List UInt8) {ending : Ending} (code : ending.code = 0)
    (output : ending.output = (Stream.enrich (.of registry scope) latencies bytes).output)
    (errors : ending.errors =
      let result := Stream.enrich (.of registry scope) latencies bytes
      result.errors ++ account result.service.counters ++
        rejectionAccount result.rejections.length) :
    ∃ account, ending.Tells bytes account := by
  let service := Service.of registry scope
  let result := Stream.enrich service latencies bytes
  let counters := result.service.counters
  obtain ⟨rest, accountLine⟩ := consistsOf_account counters
  let told : Account :=
    { answers := result.responses.map fun response => response.toJson.render
      reports := result.rejections.map report
      enriched := counters.total.toNat
      mapped := counters.mapped.toNat
      unmapped := counters.unmapped.toNat
      rest := rest }
  have reports : ∀ single ∈ told.reports, ∃ number message,
      single = "line " ++ naturalText number ++ ": " ++ message := by
    intro single member
    obtain ⟨rejection, -, rfl⟩ := List.mem_map.1 member
    exact ⟨_, _, rfl⟩
  have reportCount : told.reports.length = result.rejections.length := List.length_map _
  have answerCount : told.answers.length =
      ((Stream.lines bytes).map Stream.Line.of).countP Stream.Line.isRecord :=
    (List.length_map _).trans (Stream.length_responses _ _ _ _)
  have numbers (few : told.answers.length < Number.wordLimit) :=
    Stream.total_eq_mapped_add_unmapped 1 latencies ((Stream.lines bytes).map Stream.Line.of)
      registry scope (answerCount ▸ few)
  refine ⟨told, code, ?_, ?_, filter_errorLines reports, reports, ?_, ?_, ?_, ?_⟩
  · rw [output]
    exact consistsOf_output result
  · rw [errors, Account.errorLines, reportCount]
    exact ((consistsOf_errors service latencies bytes).append accountLine).append
      (consistsOf_rejectionAccount _)
  · rw [answerCount, List.countP_map]
    rfl
  · rw [reportCount]
    show (Stream.enrichLines service 1 latencies _).rejections.length = _
    rw [Stream.rejections_enrichLines, List.countP_map]
    rfl
  · intro few
    exact (numbers few).1.trans answerCount.symm
  · intro few
    exact (numbers few).2

/-! ## Both commands -/

section Commands

variable {world : World} {words : List String} {command : Command}
  (parsed : parse world.ambient words = .ok command)
include parsed

theorem run_of_error {trouble : Trouble}
    (refused : (loadService world.files command).outcome = .error trouble) :
    (run world words).Fails trouble.text := by
  simp only [run, parsed, runCommand, refused]
  exact fails_failed _ _

theorem code_run_of_check (isCheck : command.verb = .check) {service : Service}
    (loaded : (loadService world.files command).outcome = .ok service) :
    (run world words).code = 0 := by
  simp only [run, parsed, runCommand, loaded, perform, isCheck]

/-- Behind the loading only a missing input makes enriching fail. -/
theorem code_run_of_noInput (isEnrich : command.verb = .enrich) {service : Service}
    (loaded : (loadService world.files command).outcome = .ok service)
    (noInput : ∀ bytes, ¬ Supplies world command.input bytes) : (run world words).code = 1 := by
  simp only [run, parsed, runCommand, loaded, perform, isEnrich]
  cases enriched : enrichInput world command service with
  | error trouble => exact (fails_failed _ _).code
  | ok result =>
      obtain ⟨bytes, supplied, -⟩ := enrichInput_eq_ok_iff.1 enriched
      exact absurd supplied (noInput bytes)

theorem tells_run_of_enrich (isEnrich : command.verb = .enrich) {service : Service}
    (loaded : (loadService world.files command).outcome = .ok service) {bytes : List UInt8}
    (supplied : Supplies world command.input bytes) :
    ∃ account, (run world words).Tells bytes account := by
  obtain ⟨registry, scope, rfl⟩ := eq_of_loadService loaded
  have enriched : enrichInput world command (.of registry scope) = .ok _ :=
    enrichInput_eq_ok_iff.2 ⟨bytes, supplied, rfl⟩
  simp only [run, parsed, runCommand, loaded, perform, isEnrich, enriched]
  exact exists_tells registry scope world.latencies bytes rfl rfl rfl

end Commands

/-- Files with a catalog and a directory, and an input with a record, an empty line and a line that
is no record. -/
def sampleWorld : World where
  files := Service.sampleFiles
  standardInput := Text.Utf8.encode
    "[null,\"engine\",null,\"rule\",null,null,\"passed\",null,\"2026-01-01T00:00:00Z\"]\n\nrule\n"
  ambient := none
  isStyled := false
  latencies := []

def sampleCommand (verb : Verb) (input : String) : Command where
  verb := verb
  configuration := none
  catalogs := ["c"]
  isVerbose := false
  input := input

def lostCommand (verb : Verb) : Command :=
  { sampleCommand verb "-" with configuration := some "lost" }

example : (run sampleWorld ["enrich"]).errors =
    "line 3: serialization error: expected value at line 1 column 1\n" ++
      "Enriched 1 records: 0 mapped, 1 unmapped, 1 via fallback (0.0% mapped, avg 0us)\n" ++
      "Rejected 1 malformed records\n" := by
  decide +kernel

end CommandLine

end ComplianceEvidence
