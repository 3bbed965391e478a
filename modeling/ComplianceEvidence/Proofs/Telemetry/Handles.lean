import ComplianceEvidence.Proofs.Telemetry.Counters
import ComplianceEvidence.Telemetry.Series

/-!
Contract: counters that several handles share, and the series emitted beside them, agree with what
was recorded.

Owns: histories of handles, which handles are related in them, and the comparison of the counters of
a handle and of the series with the records made through related handles.

Which handles are related is told by the history alone. That handles which are related are those of
one family is what the induction over histories carries.
-/

set_option autoImplicit false

namespace ComplianceEvidence.Telemetry

/-! ## Histories -/

/-- What may be recorded through a handle. -/
inductive Recording where
  | enriched (outcome : Outcome) (isFallback : Bool) (latency : Latency)
  | skipped
deriving DecidableEq, Repr

/-- What one record adds to the series. -/
def emissionsOf (tally : Tally) : List Emission :=
  emissions tally.outcome tally.isFallback tally.latency

namespace Recording

def tally : Recording → Tally
  | enriched outcome isFallback latency => ⟨outcome, isFallback, latency⟩
  | skipped => ⟨.skipped, false, .zero⟩

/-- The handles behind a recording. -/
def apply (recording : Recording) (handles : Handles) (handle : Nat) : Handles :=
  match recording with
  | enriched outcome isFallback latency => handles.record handle outcome isFallback latency
  | skipped => handles.recordSkipped handle

end Recording

/-- A run of steps through handles, with the number of handles at its end. It starts with one fresh
handle, and new handles are numbered in the order of their making. -/
inductive History : Nat → Type where
  | start : History 1
  | record {size : Nat} (past : History size) (handle : Fin size) (recording : Recording) :
      History size
  | clone {size : Nat} (past : History size) (handle : Fin size) : History (size + 1)
  | fresh {size : Nat} (past : History size) : History (size + 1)

namespace History

def handles : {size : Nat} → History size → Handles
  | _, .start => .start
  | _, .record past handle recording => recording.apply past.handles handle
  | _, .clone past handle => past.handles.clone handle
  | _, .fresh past => past.handles.fresh

/-- Everything recorded, with the handle that it was recorded through, in order. -/
def recordings : {size : Nat} → History size → List (Nat × Recording)
  | _, .start => []
  | _, .record past handle recording => past.recordings ++ [(handle.val, recording)]
  | _, .clone past _ => past.recordings
  | _, .fresh past => past.recordings

/-- Everything emitted, with the handle that it was emitted through, in order. -/
def emitted : {size : Nat} → History size → List (Nat × Emission)
  | _, .start => []
  | _, .record past handle recording =>
      past.emitted ++ (emissionsOf recording.tally).map fun emission => (handle.val, emission)
  | _, .clone past _ => past.emitted
  | _, .fresh past => past.emitted

/-- The fresh handle that a handle descends from by cloning. -/
def origin : {size : Nat} → History size → Nat → Nat
  | _, .start, handle => handle
  | _, .record past _ _, handle => past.origin handle
  | _, @clone size past source, handle =>
      if handle = size then past.origin source else past.origin handle
  | _, @fresh size past, handle => if handle = size then size else past.origin handle

/-- Two handles that descend from the same fresh handle. -/
def Related {size : Nat} (history : History size) (handle other : Nat) : Prop :=
  history.origin handle = history.origin other

instance {size : Nat} (history : History size) (handle other : Nat) :
    Decidable (history.Related handle other) :=
  inferInstanceAs (Decidable (_ = _))

/-- What was recorded through handles that are related to a handle. -/
def recordedFor {size : Nat} (history : History size) (handle : Nat) : List Tally :=
  (history.recordings.filter fun entry => history.Related entry.1 handle).map
    fun entry => entry.2.tally

/-- What was emitted through handles that are related to a handle. -/
def emittedFor {size : Nat} (history : History size) (handle : Nat) : List Emission :=
  (history.emitted.filter fun entry => history.Related entry.1 handle).map Prod.snd

end History

/-! ## One step -/

namespace Handles

variable {handles : Handles} {handle other : Nat}

/-- Every handle has a family. -/
def Sound (handles : Handles) : Prop :=
  ∀ family ∈ handles.owners, family < handles.families.length

theorem exists_owner (isHandle : handle < handles.owners.length) :
    ∃ family, handles.owners[handle]? = some family :=
  ⟨_, List.getElem?_eq_getElem isHandle⟩

theorem apply_eq (recording : Recording) (handles : Handles) (handle : Nat) :
    recording.apply handles handle =
      handles.record handle recording.tally.outcome recording.tally.isFallback
        recording.tally.latency := by
  cases recording <;> rfl

theorem owners_apply (recording : Recording) :
    (recording.apply handles handle).owners = handles.owners := by
  rw [apply_eq, record]
  split <;> rfl

theorem Sound.apply (sound : handles.Sound) (recording : Recording) :
    (recording.apply handles handle).Sound := by
  rw [apply_eq, Handles.record]
  split
  · exact sound
  · simpa [Sound] using sound

/-- A record counts for the handles of the same family, and for no others. -/
theorem counters_apply (sound : handles.Sound) (isHandle : handle < handles.owners.length)
    (recording : Recording) :
    (recording.apply handles handle).counters other =
      if handles.owners[handle]? = handles.owners[other]? then
        (handles.counters other).add recording.tally
      else handles.counters other := by
  obtain ⟨family, owned⟩ := exists_owner isHandle
  simp only [apply_eq, record, owned, counters]
  cases ownedOther : handles.owners[other]? with
  | none => simp
  | some otherFamily =>
      have inFamilies : otherFamily < handles.families.length :=
        sound otherFamily (List.mem_of_getElem? ownedOther)
      simp only [Option.bind_some, List.getElem?_modify, Option.some.injEq]
      split
      · simp [List.getElem?_eq_getElem inFamilies, Counters.add]
      · simp

theorem owners_clone (isHandle : handle < handles.owners.length) :
    (handles.clone handle).owners = handles.owners ++ [handles.owners[handle]] := by
  simp [clone, List.getElem?_eq_getElem isHandle]

theorem families_clone : (handles.clone handle).families = handles.families := by
  unfold clone
  split <;> rfl

theorem Sound.clone (sound : handles.Sound) (isHandle : handle < handles.owners.length) :
    (handles.clone handle).Sound := by
  intro family member
  rw [owners_clone isHandle] at member
  rw [families_clone]
  rcases List.mem_append.1 member with owned | isNew
  · exact sound family owned
  · rw [List.mem_singleton.1 isNew]
    exact sound _ (List.getElem_mem isHandle)

/-- A clone has the family of the handle it was made of, and leaves the others as they are. -/
theorem owner_clone (isHandle : handle < handles.owners.length)
    (isOther : other < handles.owners.length + 1) :
    (handles.clone handle).owners[other]? =
      if other = handles.owners.length then handles.owners[handle]?
      else handles.owners[other]? := by
  rw [owners_clone isHandle]
  split
  · rename_i isNew
    simp [isNew, List.getElem?_eq_getElem isHandle]
  · exact List.getElem?_append_left (by omega)

theorem Sound.fresh (sound : handles.Sound) : handles.fresh.Sound := by
  intro family member
  show family < (handles.families ++ [Counters.zero]).length
  rw [List.length_append, List.length_singleton]
  rcases List.mem_append.1 member with owned | isNew
  · exact Nat.lt_succ_of_lt (sound family owned)
  · rw [List.mem_singleton.1 isNew]
    exact Nat.lt_succ_self _

/-- A fresh handle has a family of its own, and leaves the others as they are. -/
theorem owner_fresh (isOther : other < handles.owners.length + 1) :
    handles.fresh.owners[other]? =
      if other = handles.owners.length then some handles.families.length
      else handles.owners[other]? := by
  show (handles.owners ++ [handles.families.length])[other]? = _
  split
  · rename_i isNew
    simp [isNew]
  · exact List.getElem?_append_left (by omega)

theorem Sound.owner_ne_new (sound : handles.Sound) :
    handles.owners[handle]? ≠ some handles.families.length := by
  intro owned
  exact Nat.lt_irrefl _ (sound _ (List.mem_of_getElem? owned))

/-- Old counters are found under old families. -/
theorem counters_fresh (sound : handles.Sound) (isOther : other < handles.owners.length + 1) :
    handles.fresh.counters other =
      if other = handles.owners.length then .zero else handles.counters other := by
  simp only [counters, owner_fresh isOther]
  split
  · simp [fresh]
  · have isOld : other < handles.owners.length := by omega
    obtain ⟨family, owned⟩ := exists_owner isOld
    have inFamilies : family < handles.families.length :=
      sound family (List.mem_of_getElem? owned)
    simp [fresh, owned, List.getElem?_append_left inFamilies]

theorem counters_clone (isHandle : handle < handles.owners.length)
    (isOther : other < handles.owners.length + 1) :
    (handles.clone handle).counters other =
      if other = handles.owners.length then handles.counters handle
      else handles.counters other := by
  simp only [counters, owner_clone isHandle isOther, families_clone]
  split <;> rfl

end Handles

/-! ## Runs of steps -/

namespace History

variable {size : Nat} (history : History size)

theorem owners_length : history.handles.owners.length = size := by
  induction history with
  | start => rfl
  | record past handle recording inductionHypothesis =>
      rw [handles, Handles.owners_apply, inductionHypothesis]
  | clone past handle inductionHypothesis =>
      have isHandle : handle.val < past.handles.owners.length := by
        rw [inductionHypothesis]
        exact handle.isLt
      rw [handles, Handles.owners_clone isHandle, List.length_append]
      exact congrArg (· + 1) inductionHypothesis
  | fresh past inductionHypothesis =>
      show (past.handles.owners ++ [_]).length = _
      rw [List.length_append]
      exact congrArg (· + 1) inductionHypothesis

theorem isHandle (handle : Fin size) : handle.val < history.handles.owners.length := by
  rw [owners_length]
  exact handle.isLt

theorem sound : history.handles.Sound := by
  induction history with
  | start => simp [handles, Handles.start, Handles.Sound]
  | record past handle recording inductionHypothesis => exact inductionHypothesis.apply recording
  | clone past handle inductionHypothesis => exact inductionHypothesis.clone (past.isHandle handle)
  | fresh past inductionHypothesis => exact inductionHypothesis.fresh

theorem origin_clone (past : History size) (source : Fin size) (handle : Nat) :
    (past.clone source).origin handle =
      past.origin (if handle = size then source.val else handle) := by
  rw [origin]
  split <;> rfl

theorem origin_lt {handle : Nat} (isHandle : handle < size) : history.origin handle < size := by
  induction history generalizing handle with
  | start => exact isHandle
  | record past source recording inductionHypothesis => exact inductionHypothesis isHandle
  | clone past source inductionHypothesis =>
      rw [origin]
      split
      · exact Nat.lt_succ_of_lt (inductionHypothesis source.isLt)
      · exact Nat.lt_succ_of_lt (inductionHypothesis (by omega))
  | fresh past inductionHypothesis =>
      rw [origin]
      split
      · exact Nat.lt_succ_self _
      · exact Nat.lt_succ_of_lt (inductionHypothesis (by omega))

/-- The handles of one family are those that are related. -/
theorem owner_eq_iff_related {handle other : Nat} (isHandle : handle < size)
    (isOther : other < size) :
    history.handles.owners[handle]? = history.handles.owners[other]? ↔
      history.Related handle other := by
  induction history generalizing handle other with
  | start =>
      obtain rfl : handle = 0 := by omega
      obtain rfl : other = 0 := by omega
      simp [Related]
  | record past source recording inductionHypothesis =>
      rw [handles, Handles.owners_apply]
      exact inductionHypothesis isHandle isOther
  | @clone size past source inductionHypothesis =>
      have owner {new : Nat} (isNew : new < size + 1) :
          (past.handles.clone source).owners[new]? =
            past.handles.owners[if new = size then source.val else new]? := by
        rw [Handles.owner_clone (past.isHandle source) (by rwa [owners_length]), owners_length]
        split <;> rfl
      rw [handles, owner isHandle, owner isOther, Related, origin_clone, origin_clone]
      apply inductionHypothesis
      · split
        · exact source.isLt
        · omega
      · split
        · exact source.isLt
        · omega
  | @fresh size past inductionHypothesis =>
      rw [handles, Handles.owner_fresh (by rwa [owners_length]),
        Handles.owner_fresh (by rwa [owners_length]), owners_length, Related, origin, origin]
      have notNew {old : Nat} : past.handles.owners[old]? ≠ some past.handles.families.length :=
        past.sound.owner_ne_new
      by_cases handleIsNew : handle = size
      · by_cases otherIsNew : other = size
        · simp [handleIsNew, otherIsNew]
        · have below : past.origin other < size := past.origin_lt (by omega)
          simp only [handleIsNew, otherIsNew, if_true, if_false]
          exact iff_of_false (Ne.symm notNew) (by omega)
      · have below : past.origin handle < size := past.origin_lt (by omega)
        by_cases otherIsNew : other = size
        · simp only [handleIsNew, otherIsNew, if_true, if_false]
          exact iff_of_false notNew (by omega)
        · simp only [handleIsNew, otherIsNew, if_false]
          exact inductionHypothesis (by omega) (by omega)

theorem lt_of_mem_recordings {entry : Nat × Recording} (member : entry ∈ history.recordings) :
    entry.1 < size := by
  induction history with
  | start => cases member
  | record past handle recording inductionHypothesis =>
      rcases List.mem_append.1 member with earlier | isNew
      · exact inductionHypothesis earlier
      · rw [List.mem_singleton.1 isNew]
        exact handle.isLt
  | clone past handle inductionHypothesis => exact Nat.lt_succ_of_lt (inductionHypothesis member)
  | fresh past inductionHypothesis => exact Nat.lt_succ_of_lt (inductionHypothesis member)

theorem recordedFor_record (source : Fin size) (recording : Recording) (handle : Nat) :
    (history.record source recording).recordedFor handle =
      history.recordedFor handle ++
        if history.Related source handle then [recording.tally] else [] := by
  have sameRelated (other : Nat) :
      (history.record source recording).Related other handle ↔ history.Related other handle :=
    Iff.rfl
  simp only [recordedFor, recordings, sameRelated, List.filter_append, List.map_append]
  by_cases isRelated : history.Related source handle <;> simp [isRelated]

theorem recordedFor_clone (source : Fin size) (handle : Nat) :
    (history.clone source).recordedFor handle =
      history.recordedFor (if handle = size then source.val else handle) := by
  unfold recordedFor
  congr 1
  apply List.filter_congr
  intro entry member
  have isOld : entry.1 ≠ size := Nat.ne_of_lt (history.lt_of_mem_recordings member)
  rw [decide_eq_decide, Related, origin_clone, origin_clone, if_neg isOld, Related]

theorem recordedFor_fresh (handle : Nat) :
    history.fresh.recordedFor handle =
      if handle = size then [] else history.recordedFor handle := by
  have originOf {entry : Nat × Recording} (member : entry ∈ history.recordings) :
      history.fresh.origin entry.1 = history.origin entry.1 := by
    rw [origin, if_neg (Nat.ne_of_lt (history.lt_of_mem_recordings member))]
  unfold recordedFor
  split
  · rename_i isNew
    rw [List.map_eq_nil_iff, List.filter_eq_nil_iff]
    intro entry member
    have below := history.origin_lt (history.lt_of_mem_recordings member)
    rw [decide_eq_true_eq, Related, originOf member, origin, if_pos isNew]
    omega
  · rename_i isOld
    congr 1
    apply List.filter_congr
    intro entry member
    rw [decide_eq_decide, Related, originOf member, origin, if_neg isOld, Related]

/-- The counters of a handle hold what was recorded through the handles related to it. -/
theorem counters_eq {handle : Nat} (isHandle : handle < size) :
    history.handles.counters handle = Counters.zero.after (history.recordedFor handle) := by
  induction history generalizing handle with
  | start =>
      obtain rfl : handle = 0 := by omega
      rfl
  | @record size past source recording inductionHypothesis =>
      rw [handles, Handles.counters_apply past.sound (past.isHandle source), recordedFor_record,
        inductionHypothesis isHandle]
      simp only [past.owner_eq_iff_related source.isLt isHandle]
      split
      · simp [Counters.after]
      · rw [List.append_nil]
  | @clone size past source inductionHypothesis =>
      rw [handles, Handles.counters_clone (past.isHandle source) (by rwa [owners_length]),
        owners_length, recordedFor_clone]
      split
      · exact inductionHypothesis source.isLt
      · exact inductionHypothesis (by omega)
  | @fresh size past inductionHypothesis =>
      rw [handles, Handles.counters_fresh past.sound (by rwa [owners_length]), owners_length,
        recordedFor_fresh]
      split
      · rfl
      · exact inductionHypothesis (by omega)

theorem emitted_eq :
    history.emitted = history.recordings.flatMap fun entry =>
      (emissionsOf entry.2.tally).map fun emission => (entry.1, emission) := by
  induction history with
  | start => rfl
  | record past handle recording inductionHypothesis =>
      rw [emitted, recordings, List.flatMap_append, inductionHypothesis, List.flatMap_singleton]
  | clone past handle inductionHypothesis => exact inductionHypothesis
  | fresh past inductionHypothesis => exact inductionHypothesis

/-- What was emitted for a family of handles is what its records emit. -/
theorem emittedFor_eq (handle : Nat) :
    history.emittedFor handle = (history.recordedFor handle).flatMap emissionsOf := by
  rw [emittedFor, emitted_eq, recordedFor]
  induction history.recordings with
  | nil => rfl
  | cons head tail inductionHypothesis =>
      rw [List.flatMap_cons, List.filter_append, List.map_append, inductionHypothesis,
        List.filter_map, List.filter_cons]
      by_cases isRelated : history.Related head.1 handle <;>
        simp [isRelated, Function.comp_def]

end History

/-! ## Agreement -/

/-- How often a series was added to under some labels. -/
def increments (series : String) (labels : List (String × String)) (emitted : List Emission) :
    Nat :=
  emitted.countP fun emission => emission.series.name = series ∧ emission.labels = labels

/-- Where some records add one to a series and the others nothing, the series counts the former. -/
theorem increments_flatMap {series : String} {labels : List (String × String)}
    {counts : Tally → Bool}
    (ofOne : ∀ tally, increments series labels (emissionsOf tally) = if counts tally then 1 else 0)
    (tallies : List Tally) :
    increments series labels (tallies.flatMap emissionsOf) = tallies.countP counts := by
  induction tallies with
  | nil => rfl
  | cons head tail inductionHypothesis =>
      have ofAll : increments series labels (emissionsOf head ++ tail.flatMap emissionsOf) =
          increments series labels (emissionsOf head) +
            increments series labels (tail.flatMap emissionsOf) :=
        List.countP_append
      rw [List.flatMap_cons, ofAll, ofOne, inductionHypothesis, List.countP_cons, Nat.add_comm]

/-- Every record adds to the enrichments under the label of its outcome. -/
theorem increments_enrichments (outcome : Outcome) (tallies : List Tally) :
    increments "compass_enrichments_total" [("status", outcome.text)]
        (tallies.flatMap emissionsOf) =
      (tallies.map Tally.outcome).count outcome := by
  rw [List.count, List.countP_map]
  apply increments_flatMap
  rintro ⟨recorded, isFallback, latency⟩
  cases recorded <;> cases outcome <;> cases isFallback <;> rfl

/-- Every record adds one latency. -/
theorem increments_latency (tallies : List Tally) :
    increments "compass_enrich_latency_us" [] (tallies.flatMap emissionsOf) = tallies.length := by
  rw [← List.countP_true]
  apply increments_flatMap
  rintro ⟨outcome, isFallback, latency⟩
  cases isFallback <;> rfl

/-- Every record that a fallback handled adds to the fallbacks. -/
theorem increments_fallbacks (tallies : List Tally) :
    increments "compass_fallback_total" [] (tallies.flatMap emissionsOf) =
      tallies.countP Tally.isFallback := by
  apply increments_flatMap
  rintro ⟨outcome, isFallback, latency⟩
  cases isFallback <;> rfl

/-- Counters hold what was recorded, and the series hold the same, up to full turns of a word. -/
structure Agree (counters : Counters) (recorded : List Tally) (emitted : List Emission) :
    Prop where
  counted : counters =
    { total := .ofNat recorded.length
      mapped := .ofNat ((recorded.map Tally.outcome).count .success)
      unmapped := .ofNat ((recorded.map Tally.outcome).count .unmapped)
      skipped := .ofNat ((recorded.map Tally.outcome).count .skipped)
      fallbacks := .ofNat (recorded.countP Tally.isFallback)
      latency := .ofNat (Counters.microseconds recorded) }
  balanced : counters.total = counters.mapped + counters.unmapped + counters.skipped
  mapped : counters.mapped =
    .ofNat (increments "compass_enrichments_total" [("status", "success")] emitted)
  unmapped : counters.unmapped =
    .ofNat (increments "compass_enrichments_total" [("status", "unmapped")] emitted)
  skipped : counters.skipped =
    .ofNat (increments "compass_enrichments_total" [("status", "skipped")] emitted)
  total : counters.total = .ofNat (increments "compass_enrich_latency_us" [] emitted)
  fallbacks : counters.fallbacks = .ofNat (increments "compass_fallback_total" [] emitted)

theorem agree_after (recorded : List Tally) :
    Agree (Counters.zero.after recorded) recorded (recorded.flatMap emissionsOf) := by
  have counted := Counters.after_eq .zero recorded
  simp only [Counters.zero, UInt64.zero_add] at counted
  have labelled (outcome : Outcome) := increments_enrichments outcome recorded
  have everyOutcome := Outcome.length_eq_counts (recorded.map Tally.outcome)
  rw [List.length_map] at everyOutcome
  refine ⟨counted, ?_, ?_, ?_, ?_, ?_, ?_⟩ <;> rw [Counters.zero, counted] <;> dsimp only
  · rw [everyOutcome, UInt64.ofNat_add, UInt64.ofNat_add]
  · rw [← labelled .success]
    rfl
  · rw [← labelled .unmapped]
    rfl
  · rw [← labelled .skipped]
    rfl
  · rw [increments_latency]
  · rw [increments_fallbacks]

namespace History

variable {size : Nat} (history : History size)

/-- After any steps the counters of a handle agree with the records made through the handles that
are related to it, and with the series that these emitted. One more record moves the counters of
the related handles, and no others. -/
theorem counters_agree (handle : Fin size) :
    Agree (history.handles.counters handle) (history.recordedFor handle)
        (history.emittedFor handle) ∧
      ∀ (source : Fin size) (recording : Recording),
        (history.record source recording).handles.counters handle =
          if history.Related source handle then
            (history.handles.counters handle).add recording.tally
          else history.handles.counters handle := by
  constructor
  · rw [counters_eq history handle.isLt, emittedFor_eq]
    exact agree_after _
  · intro source recording
    rw [handles, Handles.counters_apply history.sound (history.isHandle source)]
    simp only [history.owner_eq_iff_related source.isLt handle.isLt]

/-- A clone counts for the handle it was made of. A fresh handle does not. -/
example :
    let handles := ((start.clone 0).fresh.record 1 (.enriched .success false .zero)).handles
    (handles.counters 0).mapped = 1 ∧ (handles.counters 2).mapped = 0 := by
  decide

end History

end ComplianceEvidence.Telemetry
