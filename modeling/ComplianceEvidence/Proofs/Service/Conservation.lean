import ComplianceEvidence.Proofs.Finding.Attributes
import ComplianceEvidence.Proofs.Service.Enrichment
import ComplianceEvidence.Proofs.Telemetry.Counters

/-!
Contract: the counters of a service agree with what it was asked and what it answered.

Owns: the questions that a service is asked, its answers to a run of them, and the comparison of
the counters with both. The numbers are told by the questions and the replies alone.

A reply depends on the question and on what the service was built from, so questions may come in
any order.
-/

set_option autoImplicit false

namespace ComplianceEvidence

/-! ## Questions and replies -/

inductive Question where
  | enrich (source : String) (evidence : Evidence)
  | request (request : Request)
  | annotate (attributes : Attributes) (timestamp : Time.Instant)

/-- A question and the time that it takes to answer. -/
structure Call where
  question : Question
  latency : Latency

inductive Reply where
  | response (response : Response)
  | attributes (entries : List (String × AttributeValue))

namespace Question

/-- The attributes of a record lack one that is required. -/
def LacksRequired : Question → Prop
  | .annotate attributes _ => attributes.LacksRequired
  | .enrich _ _ | .request _ => False

instance : DecidablePred LacksRequired
  | .annotate attributes _ => inferInstanceAs (Decidable attributes.LacksRequired)
  | .enrich _ _ | .request _ => inferInstanceAs (Decidable False)

/-- The policy engine that a question names. -/
def source? : Question → Option String
  | .enrich source _ => some source
  | .request ⟨evidence⟩ => some evidence.engineName
  | .annotate attributes _ => attributes.get .engineName

/-- A question that can be looked into and names a policy engine without a mapper. -/
def IsForeign (registry : Registry) (question : Question) : Prop :=
  ¬ question.LacksRequired ∧ ∃ source ∈ question.source?, registry.contains source = false

instance (registry : Registry) : DecidablePred (IsForeign registry) :=
  fun question => inferInstanceAs (Decidable (¬ question.LacksRequired ∧
    ∃ source ∈ question.source?, registry.contains source = false))

end Question

/-- A reply tells an outcome: a response with its finding, attributes with one of their own. -/
def Reply.reports (outcome : Outcome) : Reply → Bool
  | .response ⟨finding⟩ => finding.outcome = outcome
  | .attributes entries => Finding.outcomeAttribute outcome ∈ entries

/-! ## Mappers without plans -/

/-- A mapper has no plan under any id, though it may have ids. -/
def Mapper.HasNoPlans (mapper : Mapper) : Prop :=
  ∀ catalogId plans, mapper.plans.find? catalogId = some plans → plans = []

namespace Mapper.HasNoPlans

variable {mapper : Mapper}

theorem of_isEmpty (isEmpty : mapper.plans.isEmpty = true) : mapper.HasNoPlans := by
  intro catalogId plans stored
  have member := Ordered.Table.find?_eq_some_iff_mem.1 stored
  rw [List.isEmpty_iff.1 isEmpty] at member
  cases member

theorem outcome_eq (noPlans : mapper.HasNoPlans) (scope : Scope) (evidence : Evidence) :
    (mapper.resolve scope evidence).finding.outcome = .unmapped := by
  have means := mapper.means_resolve scope evidence
  generalize (mapper.resolve scope evidence).finding = finding at means
  cases means with
  | mapped offered _ assessed _ _ _ => exact absurd (noPlans _ _ offered.2) assessed.ne_nil
  | unmapped _ => rfl

end Mapper.HasNoPlans

namespace Service

variable (service : Service)

/-- The reply to a call, and the service behind it. -/
def answer (call : Call) : Reply × Service :=
  match call.question with
  | .enrich source evidence =>
      let answer := service.enrich source evidence call.latency
      (.response answer.value, answer.service)
  | .request request =>
      let answer := service.enrichOwn request.evidence call.latency
      (.response answer.value, answer.service)
  | .annotate attributes timestamp =>
      let answer := service.annotate attributes timestamp call.latency
      (.attributes answer.value, answer.service)

/-- The replies to a run of calls, and the service behind them. -/
def answers : Service → List Call → List Reply × Service
  | service, [] => ([], service)
  | service, call :: calls =>
      let (reply, next) := service.answer call
      let (replies, final) := next.answers calls
      (reply :: replies, final)

/-! ## One call -/

/-- What a service replies to a question, whatever it was asked before. -/
def reply (question : Question) : Reply :=
  (service.answer ⟨question, .zero⟩).1

/-- What a service counts about a call. -/
def tally (call : Call) : Tally :=
  match call.question with
  | .enrich source evidence =>
      ⟨(service.respond source evidence).finding.outcome,
        (service.registry.select source).isFallback, call.latency⟩
  | .request ⟨evidence⟩ =>
      ⟨(service.respond evidence.engineName evidence).finding.outcome,
        (service.registry.select evidence.engineName).isFallback, call.latency⟩
  | .annotate attributes timestamp =>
      match attributes.evidence timestamp with
      | .ok evidence =>
          ⟨(service.respond evidence.engineName evidence).finding.outcome,
            (service.registry.select evidence.engineName).isFallback, call.latency⟩
      | .error _ => ⟨.skipped, false, .zero⟩

/-- A call is replied to, and nothing but the counters changes. -/
theorem answer_eq (call : Call) :
    service.answer call =
      (service.reply call.question,
        { service with counters := service.counters.add (service.tally call) }) := by
  obtain ⟨question, latency⟩ := call
  cases question with
  | enrich source evidence => rfl
  | request request => rfl
  | annotate attributes timestamp =>
      simp only [answer, reply, tally, annotate]
      cases attributes.evidence timestamp with
      | ok evidence => rfl
      | error missing => rfl

/-- Another run of counters changes neither replies nor tallies. -/
theorem answers_eq (calls : List Call) :
    service.answers calls =
      (calls.map fun call => service.reply call.question,
        { service with counters := service.counters.after (calls.map service.tally) }) := by
  induction calls generalizing service with
  | nil => rfl
  | cons call calls inductionHypothesis =>
      let next : Service := { service with counters := service.counters.add (service.tally call) }
      have sameReply : next.reply = service.reply := by
        funext question
        cases question with
        | enrich source evidence => rfl
        | request request => rfl
        | annotate attributes timestamp =>
            simp only [reply, answer, annotate]
            cases attributes.evidence timestamp with
            | ok evidence => rfl
            | error missing => rfl
      have sameTally : next.tally = service.tally := rfl
      rw [answers, answer_eq]
      show (_ :: (next.answers calls).1, (next.answers calls).2) = _
      rw [inductionHypothesis next, sameReply, sameTally]
      rfl

/-! ## What is counted -/

theorem outcome_respond_ne_skipped (source : String) (evidence : Evidence) :
    (service.respond source evidence).finding.outcome ≠ .skipped :=
  ((service.registry.select source).mapper.means_resolve service.scope evidence).outcome_ne_skipped

theorem isFallback_select (source : String) :
    (service.registry.select source).isFallback = !service.registry.contains source := by
  unfold Registry.select Registry.contains
  cases service.registry.find? source <;> rfl

/-- The outcome that is counted is the one that the reply tells. -/
theorem reports_reply_iff (call : Call) (outcome : Outcome) :
    (service.reply call.question).reports outcome = true ↔
      (service.tally call).outcome = outcome := by
  obtain ⟨question, latency⟩ := call
  cases question with
  | enrich source evidence => exact decide_eq_true_iff
  | request request => exact decide_eq_true_iff
  | annotate attributes timestamp =>
      simp only [reply, answer, annotate, tally]
      cases attributes.evidence timestamp with
      | ok evidence =>
          exact decide_eq_true_iff.trans Finding.outcomeAttribute_mem_attributes
      | error missing =>
          show decide (_ ∈ [Finding.outcomeAttribute .skipped]) = true ↔ Outcome.skipped = outcome
          cases outcome <;> decide

/-- What counts as skipped is what lacks a required attribute. -/
theorem outcome_tally_eq_skipped_iff (call : Call) :
    (service.tally call).outcome = .skipped ↔ call.question.LacksRequired := by
  obtain ⟨question, latency⟩ := call
  cases question with
  | enrich source evidence =>
      exact iff_of_false (service.outcome_respond_ne_skipped source evidence) id
  | request request => exact iff_of_false (service.outcome_respond_ne_skipped _ _) id
  | annotate attributes timestamp =>
      simp only [tally]
      cases described : attributes.evidence timestamp with
      | ok evidence =>
          exact iff_of_false (service.outcome_respond_ne_skipped _ _)
            (Attributes.of_evidence_eq_ok described).1
      | error missing => exact iff_of_true rfl (Attributes.of_evidence_eq_error described)

/-- The fallback is counted for foreign questions. -/
theorem isFallback_tally_iff (call : Call) :
    (service.tally call).isFallback = true ↔ call.question.IsForeign service.registry := by
  obtain ⟨question, latency⟩ := call
  cases question with
  | enrich source evidence =>
      simp [tally, isFallback_select, Question.IsForeign, Question.LacksRequired, Question.source?]
  | request request =>
      simp [tally, isFallback_select, Question.IsForeign, Question.LacksRequired, Question.source?]
  | annotate attributes timestamp =>
      simp only [tally, Question.IsForeign, Question.LacksRequired, Question.source?]
      cases described : attributes.evidence timestamp with
      | ok evidence =>
          obtain ⟨complete, hasEngine, -⟩ := Attributes.of_evidence_eq_ok described
          simp [isFallback_select, complete, hasEngine]
      | error missing => simp [Attributes.of_evidence_eq_error described]

/-- A fallback without plans finds no control. -/
theorem outcome_tally_of_isFallback (noPlans : service.registry.fallback.HasNoPlans)
    {call : Call} (isFallback : (service.tally call).isFallback = true) :
    (service.tally call).outcome = .unmapped := by
  have unmapped {source : String} (evidence : Evidence)
      (foreign : (service.registry.select source).isFallback = true) :
      (service.respond source evidence).finding.outcome = .unmapped := by
    rw [isFallback_select, Bool.not_eq_true', Registry.contains, Option.isSome_eq_false_iff,
      Option.isNone_iff_eq_none] at foreign
    simp only [respond, Registry.select, foreign, Mapper.respond]
    exact noPlans.outcome_eq service.scope evidence
  obtain ⟨question, latency⟩ := call
  cases question with
  | enrich source evidence => exact unmapped evidence isFallback
  | request request => exact unmapped request.evidence isFallback
  | annotate attributes timestamp =>
      simp only [tally] at isFallback ⊢
      cases described : attributes.evidence timestamp with
      | ok evidence =>
          rw [described] at isFallback
          exact unmapped evidence isFallback
      | error missing =>
          rw [described] at isFallback
          cases isFallback

/-- The time that a question takes changes nothing but the time that is counted. -/
theorem tally_with_latency (question : Question) (latency : Latency) :
    (service.tally ⟨question, latency⟩).outcome = (service.tally ⟨question, .zero⟩).outcome ∧
      (service.tally ⟨question, latency⟩).isFallback =
        (service.tally ⟨question, .zero⟩).isFallback := by
  cases question with
  | enrich source evidence => exact ⟨rfl, rfl⟩
  | request request => exact ⟨rfl, rfl⟩
  | annotate attributes timestamp =>
      simp only [tally]
      cases attributes.evidence timestamp with
      | ok evidence => exact ⟨rfl, rfl⟩
      | error missing => exact ⟨rfl, rfl⟩

/-- The fallback of a loaded service has no plans. -/
theorem isEmpty_fallback_of_load {files : Files} {configuration : Configuration} {loaded : Service}
    (success : (load files configuration).outcome = .ok loaded) :
    loaded.registry.fallback.plans.isEmpty = true := by
  obtain ⟨scope, registry, -, registryLoaded, rfl⟩ := load_eq_ok_iff.1 success
  show registry.fallback.plans.isEmpty = true
  rw [Registry.fallback_loadInto registryLoaded]
  rfl

/-! ## Runs -/

/-- The counters balance a run: each of them is a number of calls or of replies. -/
structure Balances (registry : Registry) (calls : List Call) (replies : List Reply)
    (counters : Counters) : Prop where
  replied : replies.length = calls.length
  total : counters.total.toNat = calls.length
  mapped : counters.mapped.toNat = replies.countP (Reply.reports .success)
  unmapped : counters.unmapped.toNat = replies.countP (Reply.reports .unmapped)
  skipped : counters.skipped.toNat = calls.countP fun call => call.question.LacksRequired
  sum : counters.total.toNat =
    counters.mapped.toNat + counters.unmapped.toNat + counters.skipped.toNat
  fallbacks : counters.fallbacks.toNat = calls.countP fun call => call.question.IsForeign registry

section Run

variable (calls : List Call)

theorem counters_answers :
    (service.answers calls).2.counters = service.counters.after (calls.map service.tally) := by
  rw [answers_eq]

/-- As many calls are counted with an outcome as there are replies that tell it. -/
theorem count_outcome (outcome : Outcome) :
    ((calls.map service.tally).map Tally.outcome).count outcome =
      (service.answers calls).1.countP (Reply.reports outcome) := by
  rw [answers_eq, List.count, List.map_map, List.countP_map, List.countP_map]
  apply List.countP_congr
  intro call _
  simp only [Function.comp_apply, beq_iff_eq]
  exact (service.reports_reply_iff call outcome).symm

theorem count_skipped :
    ((calls.map service.tally).map Tally.outcome).count .skipped =
      calls.countP fun call => call.question.LacksRequired := by
  rw [List.count, List.map_map, List.countP_map]
  apply List.countP_congr
  intro call _
  simp only [Function.comp_apply, beq_iff_eq, decide_eq_true_eq]
  exact service.outcome_tally_eq_skipped_iff call

theorem count_fallbacks :
    (calls.map service.tally).countP Tally.isFallback =
      calls.countP fun call => call.question.IsForeign service.registry := by
  rw [List.countP_map]
  apply List.countP_congr
  intro call _
  simp only [Function.comp_apply, decide_eq_true_eq]
  exact service.isFallback_tally_iff call

theorem balances_answers (registry : Registry) (scope : Scope)
    (few : calls.length < Number.wordLimit) :
    Balances registry calls ((of registry scope).answers calls).1
      ((of registry scope).answers calls).2.counters := by
  let service := of registry scope
  have sameLength : (calls.map service.tally).length = calls.length := List.length_map _
  obtain ⟨total, mapped, unmapped, skipped, fallbacks⟩ :=
    Counters.toNat_zero_after (sameLength ▸ few)
  have outcomes := Outcome.length_eq_counts ((calls.map service.tally).map Tally.outcome)
  rw [List.length_map, sameLength] at outcomes
  rw [counters_answers]
  exact
    { replied := by rw [answers_eq, List.length_map]
      total := total.trans sameLength
      mapped := mapped.trans (service.count_outcome calls .success)
      unmapped := unmapped.trans (service.count_outcome calls .unmapped)
      skipped := skipped.trans (service.count_skipped calls)
      sum := (total.trans sameLength).trans (by rw [outcomes, ← mapped, ← unmapped, ← skipped]; rfl)
      fallbacks := fallbacks.trans (service.count_fallbacks calls) }

/-- Where the fallback has no plans, every record that it gets stays unmapped. -/
theorem fallbacks_le_unmapped {registry : Registry} {scope : Scope}
    (noPlans : registry.fallback.HasNoPlans) (few : calls.length < Number.wordLimit) :
    let counters := ((of registry scope).answers calls).2.counters
    counters.fallbacks ≤ counters.unmapped := by
  let service := of registry scope
  have few : (calls.map service.tally).length < Number.wordLimit := by rwa [List.length_map]
  obtain ⟨-, -, unmapped, -, fallbacks⟩ := Counters.toNat_zero_after few
  intro counters
  show counters.fallbacks.toNat ≤ counters.unmapped.toNat
  rw [show counters = Counters.zero.after (calls.map service.tally) from counters_answers _ _,
    unmapped, fallbacks, List.count, List.map_map, List.countP_map, List.countP_map]
  apply List.countP_mono_left
  intro call _ isFallback
  rw [Function.comp_apply, beq_iff_eq]
  exact service.outcome_tally_of_isFallback noPlans isFallback

/-- The same questions in another order move all counters but the latency alike. -/
theorem answers_of_perm {others : List Call}
    (permutation : (others.map Call.question).Perm (calls.map Call.question)) :
    let counters := (service.answers calls).2.counters
    { (service.answers others).2.counters with latency := counters.latency } = counters := by
  have untimed (run : List Call) :
      (run.map service.tally).map (fun tally => (tally.outcome, tally.isFallback)) =
        (run.map Call.question).map fun question =>
          ((service.tally ⟨question, .zero⟩).outcome,
            (service.tally ⟨question, .zero⟩).isFallback) := by
    rw [List.map_map, List.map_map]
    apply List.map_congr_left
    intro call _
    obtain ⟨sameOutcome, sameFallback⟩ := service.tally_with_latency call.question call.latency
    exact Prod.ext sameOutcome sameFallback
  intro counters
  rw [counters_answers, show counters = _ from counters_answers _ _]
  apply Counters.after_eq_of_perm_but_latency
  rw [untimed, untimed]
  exact permutation.map _

/-- The counters of a service that was asked fewer times than there are words balance. A fallback
without plans, such as that of a loaded service, is never asked for more than stays unmapped. The
order of the questions matters neither to a reply nor to a counter; with the times that they take,
it does not matter to the latency either. -/
theorem counters_conserved (registry : Registry) (scope : Scope) (calls : List Call)
    (few : calls.length < Number.wordLimit) :
    let service := of registry scope
    let counters := (service.answers calls).2.counters
    Balances registry calls (service.answers calls).1 counters ∧
      (registry.fallback.HasNoPlans → counters.fallbacks ≤ counters.unmapped) ∧
      (∀ files configuration, (load files configuration).outcome = .ok service →
        registry.fallback.plans.isEmpty = true ∧ counters.fallbacks ≤ counters.unmapped) ∧
      ∃ reply : Question → Reply, ∀ others : List Call,
        (others.map Call.question).Perm (calls.map Call.question) →
          (service.answers others).1 = others.map (fun call => reply call.question) ∧
          { (service.answers others).2.counters with latency := counters.latency } = counters ∧
          (others.Perm calls → (service.answers others).2.counters = counters) := by
  intro service counters
  refine ⟨balances_answers calls registry scope few, ?_, ?_, service.reply, ?_⟩
  · intro noPlans
    exact fallbacks_le_unmapped calls noPlans few
  · intro files configuration success
    have isEmpty := isEmpty_fallback_of_load success
    exact ⟨isEmpty, fallbacks_le_unmapped calls (.of_isEmpty isEmpty) few⟩
  · intro others permutation
    refine ⟨by rw [answers_eq], service.answers_of_perm calls permutation, ?_⟩
    intro timed
    rw [counters_answers, show counters = _ from counters_answers _ _]
    exact Counters.after_eq_of_perm _ (timed.map service.tally)

end Run

/-- One engine has a mapper, with a plan for the only control of the only catalog. -/
def sampleService : Service :=
  let plan : Plan :=
    { control := { entryId := "login" }
      assessments := [{ requirement := { entryId := "mfa" }, procedures := [{ id := "rule" }] }] }
  let catalog : Catalog :=
    { id := "base", families := [{ title := "Access", controls := [{ id := "login" }] }] }
  of (Registry.empty.insert ((Mapper.withId "engine").addPlans "base" [plan]))
    (Scope.empty.insert catalog)

/-- Each kind of question, one of them for an engine without a mapper and one that lacks a rule. -/
def sampleCalls : List Call :=
  [⟨.enrich "engine" sampleEvidence, ⟨0, 2000⟩⟩,
    ⟨.request ⟨{ sampleEvidence with engineName := "other" }⟩, ⟨0, 3000⟩⟩,
    ⟨.annotate (.ofList [("policy.engine.name", "engine")]) sampleEvidence.timestamp, ⟨0, 1000⟩⟩,
    ⟨.annotate (.ofList [("policy.rule.id", "rule"), ("policy.engine.name", "engine"),
      ("policy.evaluation.result", "Passed")]) sampleEvidence.timestamp, ⟨1, 0⟩⟩]

theorem counters_sampleCalls :
    let counters := (sampleService.answers sampleCalls).2.counters
    counters = { total := 4, mapped := 2, unmapped := 1, skipped := 1, fallbacks := 1,
                 latency := 1000005 } ∧
      Balances sampleService.registry sampleCalls (sampleService.answers sampleCalls).1 counters ∧
      counters.fallbacks ≤ counters.unmapped ∧
      (sampleService.answers sampleCalls.reverse).2.counters = counters := by
  obtain ⟨balances, bounded, -, reply, inAnyOrder⟩ :=
    counters_conserved sampleService.registry sampleService.scope sampleCalls (by decide)
  have reversed := List.reverse_perm sampleCalls
  refine ⟨by decide +kernel, balances, bounded (.of_isEmpty rfl), ?_⟩
  exact (inAnyOrder _ (reversed.map Call.question)).2.2 reversed

end Service

end ComplianceEvidence
