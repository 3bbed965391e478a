import ComplianceEvidence.Telemetry.Counters

/-!
Contract: counters hold what was counted, as words.

Owns: what is counted about one record, and every counter after a list of records. No counter
depends on the order of the records.
-/

set_option autoImplicit false

namespace ComplianceEvidence

/-- What is counted about one record. -/
structure Tally where
  outcome : Outcome
  isFallback : Bool
  latency : Latency

/-- Every record has one outcome. -/
theorem Outcome.length_eq_counts (outcomes : List Outcome) :
    outcomes.length =
      outcomes.count .success + outcomes.count .unmapped + outcomes.count .skipped := by
  induction outcomes with
  | nil => rfl
  | cons head tail inductionHypothesis =>
      rw [List.length_cons, List.count_cons, List.count_cons, List.count_cons]
      cases head <;> simp <;> omega

namespace Counters

def add (counters : Counters) (tally : Tally) : Counters :=
  counters.record tally.outcome tally.isFallback tally.latency

/-- The microseconds that some records took together. -/
def microseconds (tallies : List Tally) : Nat :=
  tallies.foldr (fun tally others => tally.latency.microseconds.toNat + others) 0

@[simp] theorem microseconds_nil : microseconds [] = 0 := rfl

@[simp] theorem microseconds_cons (head : Tally) (tail : List Tally) :
    microseconds (head :: tail) = head.latency.microseconds.toNat + microseconds tail := rfl

/-- The counters behind some records. -/
def after (counters : Counters) (tallies : List Tally) : Counters :=
  tallies.foldl add counters

/-- Every counter has moved by a number that the records give, up to full turns of a word. -/
theorem after_eq (counters : Counters) (tallies : List Tally) :
    counters.after tallies =
      { total := counters.total + .ofNat tallies.length
        mapped := counters.mapped + .ofNat ((tallies.map Tally.outcome).count .success)
        unmapped := counters.unmapped + .ofNat ((tallies.map Tally.outcome).count .unmapped)
        skipped := counters.skipped + .ofNat ((tallies.map Tally.outcome).count .skipped)
        fallbacks := counters.fallbacks + .ofNat (tallies.countP Tally.isFallback)
        latency := counters.latency + .ofNat (microseconds tallies) } := by
  induction tallies generalizing counters with
  | nil => simp [after]
  | cons head tail inductionHypothesis =>
      obtain ⟨outcome, isFallback, latency⟩ := head
      have step : counters.after (⟨outcome, isFallback, latency⟩ :: tail) =
          (counters.record outcome isFallback latency).after tail := rfl
      have carry (count word : UInt64) (more : Nat) :
          count + word + .ofNat more = count + .ofNat (more + word.toNat) := by
        rw [UInt64.ofNat_add, UInt64.ofNat_toNat, UInt64.add_assoc, UInt64.add_comm word]
      rw [step, inductionHypothesis]
      cases outcome <;> cases isFallback <;>
        simp [record, addOutcome, carry, Nat.add_comm]

/-- Counters that start at zero and count fewer records than there are words have not turned. -/
theorem toNat_zero_after {tallies : List Tally} (few : tallies.length < Number.wordLimit) :
    (zero.after tallies).total.toNat = tallies.length ∧
      (zero.after tallies).mapped.toNat = (tallies.map Tally.outcome).count .success ∧
      (zero.after tallies).unmapped.toNat = (tallies.map Tally.outcome).count .unmapped ∧
      (zero.after tallies).skipped.toNat = (tallies.map Tally.outcome).count .skipped ∧
      (zero.after tallies).fallbacks.toNat = tallies.countP Tally.isFallback := by
  have fits {count : Nat} (bound : count ≤ tallies.length) :
      (0 + UInt64.ofNat count).toNat = count := by
    rw [UInt64.zero_add]
    exact UInt64.toNat_ofNat_of_lt' (Nat.lt_of_le_of_lt bound few)
  have fitsOutcome (outcome : Outcome) :
      (0 + UInt64.ofNat ((tallies.map Tally.outcome).count outcome)).toNat =
        (tallies.map Tally.outcome).count outcome := by
    apply fits
    rw [← tallies.length_map Tally.outcome]
    exact List.count_le_length
  rw [after_eq]
  exact ⟨fits (Nat.le_refl _), fitsOutcome .success, fitsOutcome .unmapped, fitsOutcome .skipped,
    fits List.countP_le_length⟩

/-- Records in another order, with other latencies, move all counters but the latency alike. -/
theorem after_eq_of_perm_but_latency (counters : Counters) {tallies others : List Tally}
    (permutation : (others.map fun tally => (tally.outcome, tally.isFallback)).Perm
      (tallies.map fun tally => (tally.outcome, tally.isFallback))) :
    { counters.after others with latency := (counters.after tallies).latency } =
      counters.after tallies := by
  have sameLength : others.length = tallies.length := by
    simpa using permutation.length_eq
  have sameOutcomes : (others.map Tally.outcome).Perm (tallies.map Tally.outcome) := by
    simpa [Function.comp_def] using permutation.map Prod.fst
  have sameFallbacks : others.countP Tally.isFallback = tallies.countP Tally.isFallback := by
    simpa [List.countP_map, Function.comp_def] using permutation.countP_eq Prod.snd
  simp only [after_eq, sameLength, sameOutcomes.count_eq, sameFallbacks]

theorem after_eq_of_perm (counters : Counters) {tallies others : List Tally}
    (permutation : others.Perm tallies) : counters.after others = counters.after tallies := by
  have sameLatency : microseconds others = microseconds tallies :=
    permutation.foldr_eq' (fun left _ right _ _ =>
      Nat.add_left_comm right.latency.microseconds.toNat left.latency.microseconds.toNat _) 0
  simp only [after_eq, permutation.length_eq, (permutation.map Tally.outcome).count_eq,
    permutation.countP_eq, sameLatency]

end Counters

end ComplianceEvidence
