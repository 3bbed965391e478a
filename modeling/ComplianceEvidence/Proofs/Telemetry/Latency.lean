import Mathlib.Algebra.Order.BigOperators.Group.List
import Mathlib.Algebra.Order.Ring.Nat
import ComplianceEvidence.Proofs.Telemetry.Handles

/-!
Contract: the counted latency is exact up to full turns of a word, and so is the average.

Owns: the microseconds of a latency as a number, the bounds of the average in any counters, and the
comparison of the average with the mean of what the records made through related handles took.

The sum of the latencies can turn long before the number of records does. Behind a turn the average
keeps the bounds of a quotient of words, but it has fallen below the mean.
-/

set_option autoImplicit false

namespace ComplianceEvidence

/-! ## Microseconds -/

/-- Whole microseconds. A latency that a word cannot hold counts as the greatest that it can. -/
def Latency.wholeMicroseconds (latency : Latency) : Nat :=
  min ((latency.seconds * 10 ^ 9 + latency.nanoseconds) / 1000) (2 ^ 64 - 1)

theorem Latency.toNat_microseconds (latency : Latency) :
    latency.microseconds.toNat = latency.wholeMicroseconds := by
  have fits : latency.wholeMicroseconds < UInt64.size :=
    Nat.lt_of_le_of_lt (Nat.min_le_right _ _) (by decide)
  exact UInt64.toNat_ofNat_of_lt' fits

/-- The microseconds that some records took, one by one. -/
def Tally.durations (tallies : List Tally) : List Nat :=
  tallies.map fun tally => tally.latency.wholeMicroseconds

namespace Counters

theorem microseconds_eq_sum (tallies : List Tally) :
    microseconds tallies = (Tally.durations tallies).sum := by
  induction tallies with
  | nil => rfl
  | cons head tail inductionHypothesis =>
      rw [microseconds_cons, inductionHypothesis, Latency.toNat_microseconds]
      rfl

theorem toNat_latency_after (tallies : List Tally) :
    (zero.after tallies).latency.toNat = (Tally.durations tallies).sum % 2 ^ 64 := by
  rw [after_eq, microseconds_eq_sum]
  show (0 + UInt64.ofNat _).toNat = _
  rw [UInt64.zero_add, UInt64.toNat_ofNat']

theorem toNat_total_after (tallies : List Tally) :
    (zero.after tallies).total.toNat = (Tally.durations tallies).length % 2 ^ 64 := by
  rw [after_eq, Tally.durations, List.length_map]
  show (0 + UInt64.ofNat _).toNat = _
  rw [UInt64.zero_add, UInt64.toNat_ofNat']

/-! ## The average of any counters -/

/-- The division behind the average never fails. The average is zero where nothing was counted, and
the whole part of the quotient otherwise. -/
structure HasAverage (counters : Counters) : Prop where
  divides : counters.averageLatency? = some counters.averageLatency
  unused : counters.total = 0 → counters.averageLatency = 0
  least : 0 < counters.total →
    counters.averageLatency.toNat * counters.total.toNat ≤ counters.latency.toNat
  greatest : 0 < counters.total →
    counters.latency.toNat < (counters.averageLatency.toNat + 1) * counters.total.toNat

theorem averageLatency?_eq (counters : Counters) :
    counters.averageLatency? = some counters.averageLatency :=
  (Option.some_get counters.isSome_averageLatency?).symm

theorem averageLatency_of_unused {counters : Counters} (unused : counters.total = 0) :
    counters.averageLatency = 0 := by
  have found := counters.averageLatency?_eq
  rw [averageLatency?, if_pos unused] at found
  exact (Option.some.inj found).symm

theorem averageLatency_of_used {counters : Counters} (used : counters.total ≠ 0) :
    counters.averageLatency = counters.latency / counters.total := by
  have found := counters.averageLatency?_eq
  rw [averageLatency?, if_neg used, quotient?, if_neg used] at found
  exact (Option.some.inj found).symm

theorem toNat_averageLatency (counters : Counters) :
    counters.averageLatency.toNat = counters.latency.toNat / counters.total.toNat := by
  by_cases unused : counters.total = 0
  · simp [averageLatency_of_unused unused, unused]
  · rw [averageLatency_of_used unused]
    exact UInt64.toNat_div _ _

theorem hasAverage (counters : Counters) : counters.HasAverage := by
  constructor
  case divides => exact counters.averageLatency?_eq
  case unused => exact averageLatency_of_unused
  case least =>
    intro _
    rw [toNat_averageLatency]
    exact Nat.div_mul_le_self _ _
  case greatest =>
    intro used
    rw [toNat_averageLatency, Nat.mul_comm]
    exact Nat.lt_mul_div_succ _ (UInt64.lt_iff_toNat_lt.1 used)

end Counters

/-! ## The mean of some numbers -/

/-- A sum that has turned has lost at least one for each of the numbers in it. -/
theorem mod_div_eq_div_iff {sum count limit : Nat} (positive : 0 < count) (few : count ≤ limit) :
    sum % limit / count = sum / count ↔ sum < limit := by
  constructor
  · intro same
    by_contra turned
    have lost : sum % limit + count ≤ sum := by
      have whole := Nat.mod_add_div sum limit
      have turn : limit * 1 ≤ limit * (sum / limit) := by
        apply Nat.mul_le_mul_left
        exact (Nat.one_le_div_iff (by omega)).2 (by omega)
      omega
    have less : sum % limit / count + 1 ≤ sum / count := by
      rw [← Nat.add_div_right _ positive]
      exact Nat.div_le_div_right lost
    omega
  · intro whole
    rw [Nat.mod_eq_of_lt whole]

/-- The mean lies between the least and the greatest number. -/
theorem mean_between {values : List Nat} {least greatest : Nat} (isLeast : values.min? = some least)
    (isGreatest : values.max? = some greatest) :
    least ≤ values.sum / values.length ∧ values.sum / values.length ≤ greatest := by
  obtain ⟨member, below⟩ := List.min?_eq_some_iff.1 isLeast
  obtain ⟨-, above⟩ := List.max?_eq_some_iff.1 isGreatest
  have positive : 0 < values.length := List.length_pos_of_mem member
  have atLeast : values.length * least ≤ values.sum := List.card_nsmul_le_sum values least below
  have atMost : values.sum ≤ values.length * greatest :=
    List.sum_le_card_nsmul values greatest above
  constructor
  · rw [Nat.le_div_iff_mul_le positive, Nat.mul_comm]
    exact atLeast
  · exact Nat.div_le_of_le_mul atMost

/-! ## Shared counters -/

namespace Telemetry.History

variable {size : Nat} (history : History size)

/-- The counters of a handle hold the microseconds that the records made through related handles
took together, and the number of these records, both up to full turns of a word. Any counters have
an average. Where the number has not turned, the average is the mean if and only if the sum has not
turned either, and then it lies between the least and the greatest of what they took. -/
theorem latency_exact (handle : Fin size) :
    let counters := history.handles.counters handle
    let taken := Tally.durations (history.recordedFor handle)
    counters.latency.toNat = taken.sum % 2 ^ 64 ∧
      counters.total.toNat = taken.length % 2 ^ 64 ∧
      (∀ snapshot : Counters, snapshot.HasAverage) ∧
      (taken.length < 2 ^ 64 →
        (counters.averageLatency.toNat = taken.sum / taken.length ↔ taken.sum < 2 ^ 64) ∧
          (taken.sum < 2 ^ 64 → ∀ least greatest, taken.min? = some least →
            taken.max? = some greatest →
              least ≤ counters.averageLatency.toNat ∧
                counters.averageLatency.toNat ≤ greatest)) := by
  intro counters taken
  have behind : counters = Counters.zero.after (history.recordedFor handle) :=
    history.counters_eq handle.isLt
  have latency : counters.latency.toNat = taken.sum % 2 ^ 64 := by
    rw [behind]
    exact Counters.toNat_latency_after _
  have total : counters.total.toNat = taken.length % 2 ^ 64 := by
    rw [behind]
    exact Counters.toNat_total_after _
  refine ⟨latency, total, Counters.hasAverage, ?_⟩
  intro few
  have isMean :
      counters.averageLatency.toNat = taken.sum / taken.length ↔ taken.sum < 2 ^ 64 := by
    rw [Counters.toNat_averageLatency, latency, total, Nat.mod_eq_of_lt few]
    rcases Nat.eq_zero_or_pos taken.length with isZero | positive
    · simp [List.length_eq_zero_iff.1 isZero]
    · exact mod_div_eq_div_iff positive (Nat.le_of_lt few)
  refine ⟨isMean, ?_⟩
  intro whole least greatest isLeast isGreatest
  rw [isMean.2 whole]
  exact mean_between isLeast isGreatest

/-- Records through two related handles, one of them without any latency, and one through a handle
of its own. -/
def sampleLatencies : History 3 :=
  let handles := (start.clone 0).fresh
  let first := handles.record 0 (.enriched .success false ⟨0, 3000999⟩)
  let second := first.record 1 (.enriched .unmapped true ⟨0, 1000000⟩)
  (second.record 1 .skipped).record 2 (.enriched .success false ⟨2 ^ 64 - 1, 999999999⟩)

theorem latency_sampleLatencies :
    let counters := sampleLatencies.handles.counters 0
    let taken := Tally.durations (sampleLatencies.recordedFor 0)
    taken = [3000, 1000, 0] ∧ counters.latency.toNat = 4000 ∧
      counters.averageLatency.toNat = 1333 ∧ counters.averageLatency.toNat ≤ 3000 ∧
      counters.latency.toNat < (counters.averageLatency.toNat + 1) * counters.total.toNat := by
  intro counters taken
  obtain ⟨latency, -, hasAverage, isMean⟩ := sampleLatencies.latency_exact 0
  have few : taken.length < 2 ^ 64 := by decide
  have whole : taken.sum < 2 ^ 64 := by decide
  obtain ⟨mean, between⟩ := isMean few
  have bounds := between whole 0 3000 (by decide) (by decide)
  have used : 0 < counters.total := by decide
  exact ⟨by decide, latency.trans (by decide), (mean.2 whole).trans (by decide), bounds.2,
    (hasAverage counters).greatest used⟩

/-- A sum that has turned has no mean left: two of the greatest latencies have a smaller average. -/
example :
    let longest : Recording := .enriched .success false ⟨2 ^ 64 - 1, 0⟩
    let counters := ((start.record 0 longest).record 0 longest).handles.counters 0
    counters.averageLatency.toNat = 2 ^ 63 - 1 := by
  decide

end Telemetry.History

end ComplianceEvidence
