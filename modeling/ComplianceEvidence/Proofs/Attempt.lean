/-!
Contract: work that gives a value or a reason why there is none.

Owns: what it means for a composed attempt to succeed or to fail, in terms of its parts, attempts
that fail only for reasons with a property, and the first item at fault in a list.
-/

set_option autoImplicit false

namespace ComplianceEvidence.Attempt

variable {ε φ α β : Type}

@[simp] theorem map_eq_ok_iff {attempt : Except ε α} {change : α → β} {result : β} :
    attempt.map change = .ok result ↔ ∃ value, attempt = .ok value ∧ change value = result := by
  cases attempt <;> simp [Except.map]

theorem map_eq_ok_iff_of {attempt : Except ε α} {change : α → β} {result : β} {means : α → Prop}
    (reads : ∀ value, attempt = .ok value ↔ means value) :
    attempt.map change = .ok result ↔ ∃ value, means value ∧ change value = result := by
  simp only [map_eq_ok_iff, reads]

@[simp] theorem map_eq_error_iff {attempt : Except ε α} {change : α → β} {reason : ε} :
    attempt.map change = .error reason ↔ attempt = .error reason := by
  cases attempt <;> simp [Except.map]

@[simp] theorem mapError_eq_ok_iff {attempt : Except ε α} {change : ε → φ} {result : α} :
    attempt.mapError change = .ok result ↔ attempt = .ok result := by
  cases attempt with
  | ok value =>
      show Except.ok value = .ok result ↔ _
      simp
  | error reason => exact ⟨nofun, nofun⟩

@[simp] theorem mapError_eq_error_iff {attempt : Except ε α} {change : ε → φ} {reason : φ} :
    attempt.mapError change = .error reason ↔
      ∃ cause, attempt = .error cause ∧ change cause = reason := by
  cases attempt with
  | ok value =>
      show Except.ok value = .error reason ↔ _
      simp
  | error cause =>
      show Except.error (change cause) = .error reason ↔ _
      simp

@[simp] theorem bind_eq_ok_iff {attempt : Except ε α} {next : α → Except ε β} {result : β} :
    attempt >>= next = .ok result ↔ ∃ value, attempt = .ok value ∧ next value = .ok result := by
  cases attempt <;> simp [bind, Except.bind]

@[simp] theorem bind_eq_error_iff {attempt : Except ε α} {next : α → Except ε β} {reason : ε} :
    attempt >>= next = .error reason ↔
      attempt = .error reason ∨ ∃ value, attempt = .ok value ∧ next value = .error reason := by
  cases attempt <;> simp [bind, Except.bind]

@[simp] theorem pure_eq_ok_iff {value result : α} :
    (pure value : Except ε α) = .ok result ↔ value = result := by
  simp [pure, Except.pure]

/-! ## Reasons -/

/-- An attempt that fails for no other reasons than those with a property. -/
def FailsOnly (holds : ε → Prop) (attempt : Except ε α) : Prop :=
  ∀ reason, attempt = .error reason → holds reason

namespace FailsOnly

variable {holds : ε → Prop}

@[simp] theorem ok (value : α) : FailsOnly holds (.ok value) := by
  intro reason failed
  cases failed

@[simp] theorem pure (value : α) : FailsOnly holds (Pure.pure value : Except ε α) :=
  ok value

@[simp] theorem error_iff {reason : ε} :
    FailsOnly holds (.error reason : Except ε α) ↔ holds reason := by
  constructor
  · intro failsOnly
    exact failsOnly reason rfl
  · rintro property other ⟨⟩
    exact property

theorem mono {wider : ε → Prop} (implies : ∀ reason, holds reason → wider reason)
    {attempt : Except ε α} (failsOnly : FailsOnly holds attempt) : FailsOnly wider attempt := by
  intro reason failed
  exact implies reason (failsOnly reason failed)

theorem map {change : α → β} {attempt : Except ε α} (failsOnly : FailsOnly holds attempt) :
    FailsOnly holds (attempt.map change) := by
  intro reason failed
  exact failsOnly reason (map_eq_error_iff.1 failed)

/-- Each step may fail, the second one for any value of the first. -/
theorem bind {next : α → Except ε β} {attempt : Except ε α}
    (first : FailsOnly holds attempt) (second : ∀ value, FailsOnly holds (next value)) :
    FailsOnly holds (attempt >>= next) := by
  intro reason failed
  rcases bind_eq_error_iff.1 failed with failedFirst | ⟨value, -, failedSecond⟩
  · exact first reason failedFirst
  · exact second value reason failedSecond

theorem mapError {wider : φ → Prop} {change : ε → φ} {attempt : Except ε α}
    (failsOnly : FailsOnly holds attempt)
    (implies : ∀ reason, holds reason → wider (change reason)) :
    FailsOnly wider (attempt.mapError change) := by
  intro reason failed
  obtain ⟨cause, failedInside, rfl⟩ := mapError_eq_error_iff.1 failed
  exact implies cause (failsOnly cause failedInside)

end FailsOnly

/-! ## Lists -/

/-- The first item at fault stands in front, or what stands in front passes and the first item at
fault is behind it. -/
theorem exists_first_cons_iff {passes fails : α → Prop} {head : α} {tail : List α} :
    (∃ before item after, head :: tail = before ++ item :: after ∧
        (∀ earlier ∈ before, passes earlier) ∧ fails item) ↔
      fails head ∨ passes head ∧ ∃ before item after, tail = before ++ item :: after ∧
        (∀ earlier ∈ before, passes earlier) ∧ fails item := by
  constructor
  · rintro ⟨before, item, after, split, first, failed⟩
    cases before with
    | nil =>
        obtain ⟨rfl, rfl⟩ := List.cons.inj split
        exact .inl failed
    | cons earlier between =>
        obtain ⟨rfl, rfl⟩ := List.cons.inj split
        obtain ⟨passed, first⟩ := List.forall_mem_cons.1 first
        exact .inr ⟨passed, between, item, after, rfl, first, failed⟩
  · rintro (failed | ⟨passed, before, item, after, rfl, first, failed⟩)
    · exact ⟨[], head, tail, rfl, nofun, failed⟩
    · exact ⟨head :: before, item, after, rfl, List.forall_mem_cons.2 ⟨passed, first⟩, failed⟩

end ComplianceEvidence.Attempt
