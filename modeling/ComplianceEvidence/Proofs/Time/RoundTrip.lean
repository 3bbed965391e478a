import ComplianceEvidence.Proofs.Attempt
import ComplianceEvidence.Proofs.Number.Digits
import ComplianceEvidence.Time.Reading

/-!
Contract: a moment that was read is written so that it is read again as it was.

Owns: the moments that a reader gives, and what the reader makes of each written part.

A moment that was read lies in a year of the calendar and keeps the clock's bounds. A leap second
is the sixtieth second of its minute in universal time too, since offsets have no seconds.
-/

set_option autoImplicit false

namespace ComplianceEvidence.Time

open Number (tenTo)
open Text (isBlank dropBlanks)

/-- A moment that the calendar and the clock have. Only the last second of a minute can be long. -/
structure Instant.Proper (instant : Instant) : Prop where
  date : instant.date.isValid = true
  hour : instant.hour < 24
  minute : instant.minute < 60
  second : instant.second < 60
  nanosecond : instant.nanosecond < 1000000000 ∨
    (instant.second = 59 ∧ instant.nanosecond < 2000000000)

namespace Reading

/-! ## Digits -/

/-- A text that does not go on with a digit. -/
def Ends (rest : List Char) : Prop :=
  ∀ head ∈ rest.head?, head.isDigit = false

theorem isBlank_of_isDigit {character : Char} (isDigit : character.isDigit = true) :
    isBlank character = false := by
  have lower : '0'.toNat ≤ character.toNat := by
    rw [Char.isDigit, Bool.and_eq_true, decide_eq_true_iff] at isDigit
    exact isDigit.1
  have upper : character.toNat ≤ '9'.toNat := by
    rw [Char.isDigit, Bool.and_eq_true, decide_eq_true_iff, decide_eq_true_iff] at isDigit
    exact isDigit.2
  have zero : '0'.toNat = 48 := by decide
  have nine : '9'.toNat = 57 := by decide
  simp [isBlank, Text.inRanges, Text.blankRanges]
  omega

theorem dropBlanks_cons {head : Char} (shown : isBlank head = false) (tail : List Char) :
    dropBlanks (head :: tail) = head :: tail := by
  rw [dropBlanks, List.dropWhile_cons_of_neg (by simp [shown])]

/-- As many digits are read as there is room for, or as there are. -/
theorem digits_append {text rest : List Char} {start : Nat} {room : Option Nat}
    (all : ∀ character ∈ text, character.isDigit = true)
    (enough : ∀ count ∈ room, text.length ≤ count)
    (stops : room = some text.length ∨ Ends rest)
    (fits : Nat.ofDigitChars 10 text start < numberLimit) :
    digits start room (text ++ rest) = .ok (Nat.ofDigitChars 10 text start, rest) := by
  induction text generalizing start room with
  | nil =>
      rw [List.nil_append, Nat.ofDigitChars_nil]
      cases rest with
      | nil => rfl
      | cons head tail =>
          rw [digits, if_pos]
          rcases stops with full | ends
          · simp [full]
          · simp [ends head rfl]
  | cons head tail inductionHypothesis =>
      obtain ⟨headDigit, tailDigits⟩ := List.forall_mem_cons.1 all
      have notFull : room ≠ some 0 := by
        rintro rfl
        exact absurd (enough 0 rfl) (Nat.not_succ_le_zero _)
      have nextEq : start * 10 + (head.toNat - '0'.toNat) =
          10 * start + (head.toNat - '0'.toNat) := by
        rw [Nat.mul_comm]
      rw [Nat.ofDigitChars_cons] at fits ⊢
      have nextFits : ¬ numberLimit ≤ 10 * start + (head.toNat - '0'.toNat) :=
        Nat.not_le.2 (Nat.lt_of_le_of_lt (Number.le_ofDigitChars tail _) fits)
      rw [List.cons_append, digits, if_neg (by simp [notFull, headDigit])]
      dsimp only
      rw [nextEq, if_neg nextFits]
      apply inductionHypothesis tailDigits _ _ fits
      · intro count member
        obtain ⟨whole, present, rfl⟩ := Option.map_eq_some_iff.1 member
        exact Nat.le_sub_one_of_lt (enough whole present)
      · exact stops.imp_left fun full => by simp [full]

/-- What was read were digits, no more of them than there was room for. -/
theorem of_digits_eq_ok {text rest : List Char} {start value : Nat} {room : Option Nat}
    (read : digits start room text = .ok (value, rest)) :
    ∃ front, text = front ++ rest ∧ (∀ character ∈ front, character.isDigit = true) ∧
      value = Nat.ofDigitChars 10 front start ∧ ∀ count ∈ room, front.length ≤ count := by
  induction text generalizing start room with
  | nil =>
      obtain ⟨rfl, rfl⟩ := Prod.mk.inj (Except.ok.inj read)
      exact ⟨[], rfl, by simp, rfl, by simp⟩
  | cons head tail inductionHypothesis =>
      rw [digits] at read
      split at read
      · obtain ⟨rfl, rfl⟩ := Prod.mk.inj (Except.ok.inj read)
        exact ⟨[], rfl, by simp, rfl, by simp⟩
      · rename_i goesOn
        simp only [Bool.or_eq_true, decide_eq_true_eq, Bool.not_eq_true', not_or,
          Bool.not_eq_false] at goesOn
        dsimp only at read
        split at read
        · cases read
        · obtain ⟨front, rfl, all, rfl, short⟩ := inductionHypothesis read
          refine ⟨head :: front, rfl, List.forall_mem_cons.2 ⟨goesOn.2, all⟩, ?_, ?_⟩
          · rw [Nat.ofDigitChars_cons, Nat.mul_comm]
          · rintro count rfl
            have positive : count ≠ 0 := fun zero => goesOn.1 (congrArg some zero)
            have shorter := short (count - 1) rfl
            rw [List.length_cons]
            omega

theorem number_append (room : Option Nat) {text : List Char} (rest : List Char)
    (notEmpty : text ≠ []) (all : ∀ character ∈ text, character.isDigit = true)
    (enough : ∀ count ∈ room, text.length ≤ count)
    (stops : room = some text.length ∨ Ends rest)
    (fits : Nat.ofDigitChars 10 text 0 < numberLimit) :
    number room (text ++ rest) = .ok (Nat.ofDigitChars 10 text 0, rest) := by
  have read := digits_append all enough stops fits
  cases text with
  | nil => exact absurd rfl notEmpty
  | cons head tail =>
      rw [List.cons_append] at read ⊢
      rw [number, if_pos (all head List.mem_cons_self), read]

end Reading

/-! ## Padded numbers -/

namespace Instant

theorem padded_digits (width value : Nat) :
    ∀ character ∈ padded width value, character.isDigit = true := by
  intro character member
  rcases List.mem_append.1 member with inZeros | inDigits
  · rw [List.eq_of_mem_replicate inZeros]
    decide
  · exact Nat.isDigit_of_mem_toDigits (by decide) (by decide) inDigits

theorem padded_ne_nil (width value : Nat) : padded width value ≠ [] := by
  simp [padded]

theorem ofDigitChars_padded (width value : Nat) :
    Nat.ofDigitChars 10 (padded width value) 0 = value := by
  rw [padded, Nat.ofDigitChars_append, Nat.ofDigitChars_replicate_zero, Nat.mul_zero,
    Nat.ofDigitChars_ten_toDigits]

theorem length_padded {width value : Nat} (positive : 0 < width)
    (fits : value < tenTo width) : (padded width value).length = width := by
  have below : value < 10 ^ width := fits
  have short := (Nat.length_toDigits_le_iff (by decide) positive).2 below
  simp only [padded, List.length_append, List.length_replicate]
  omega

end Instant

/-! ## Written parts -/

namespace Reading

open Instant (padded padded_digits padded_ne_nil ofDigitChars_padded length_padded)

theorem dropBlanks_padded (width value : Nat) (rest : List Char) :
    dropBlanks (padded width value ++ rest) = padded width value ++ rest := by
  have digits := padded_digits width value
  cases written : padded width value with
  | nil => exact absurd written (padded_ne_nil width value)
  | cons head tail =>
      rw [written] at digits
      exact dropBlanks_cons (isBlank_of_isDigit (digits head List.mem_cons_self)) _

/-- A padded number fills the room that it was padded for. -/
theorem number_padded {width value : Nat} (positive : 0 < width) (fits : value < tenTo width)
    (small : value < numberLimit) (rest : List Char) :
    number (some width) (padded width value ++ rest) = .ok (value, rest) := by
  have filled := length_padded positive fits
  have read := number_append (some width) rest (padded_ne_nil width value)
    (padded_digits width value) (by simp [filled]) (.inl (by rw [filled]))
  rw [ofDigitChars_padded] at read
  exact read small

theorem part_padded {low high value : Nat} (least : low ≤ value) (most : value ≤ high)
    (short : high < 100) (rest : List Char) :
    part low high (padded 2 value ++ rest) = .ok (value, rest) := by
  have read := number_padded (by decide) (Nat.lt_of_le_of_lt most short : value < tenTo 2)
    (Nat.lt_of_lt_of_le (Nat.lt_of_le_of_lt most short) (by decide)) rest
  rw [part, dropBlanks_padded, read]
  simp [bind, Except.bind, least, most, pure, Except.pure]

theorem separator_cons (mark : Char) (shown : isBlank mark = false) (rest : List Char) :
    separator mark (mark :: rest) = .ok rest := by
  rw [separator, dropBlanks_cons shown]
  exact if_pos rfl

/-- The year is followed by a mark, so a year of any length is read to its end. -/
theorem year_yearChars {value : Int} (least : Date.firstYear ≤ value)
    (most : value ≤ Date.lastYear) (rest : List Char) :
    year (Instant.yearChars value ++ '-' :: rest) = .ok (value, '-' :: rest) := by
  have first : Date.firstYear = -262143 := rfl
  have last : Date.lastYear = 262142 := rfl
  have limit : numberLimit = 9223372036854775808 := by decide
  have inWord : inYearWord value = true := by
    simp only [inYearWord, Bool.and_eq_true, decide_eq_true_eq]
    omega
  have small : value.natAbs < numberLimit := by omega
  have signed : number none (padded 4 value.natAbs ++ '-' :: rest) =
      .ok (value.natAbs, '-' :: rest) := by
    have read := number_append none ('-' :: rest) (padded_ne_nil 4 value.natAbs)
      (padded_digits 4 value.natAbs) (by simp) (.inr (by simp [Ends]))
    rw [ofDigitChars_padded] at read
    exact read small
  unfold Instant.yearChars
  split
  · rename_i fourDigits
    simp only [Bool.and_eq_true, decide_eq_true_eq] at fourDigits
    have fits : value.natAbs < tenTo 4 := by
      show value.natAbs < 10000
      omega
    have read := number_padded (by decide) fits small ('-' :: rest)
    have notSigned : ∀ tail, padded 4 value.natAbs ++ '-' :: rest ≠ '-' :: tail ∧
        padded 4 value.natAbs ++ '-' :: rest ≠ '+' :: tail := by
      have digits := padded_digits 4 value.natAbs
      cases written : padded 4 value.natAbs with
      | nil => exact absurd written (padded_ne_nil 4 value.natAbs)
      | cons head tail =>
          rw [written] at digits
          have headDigit := digits head List.mem_cons_self
          intro others
          constructor
          · intro same
            rw [(List.cons.inj same).1] at headDigit
            cases headDigit
          · intro same
            rw [(List.cons.inj same).1] at headDigit
            cases headDigit
    have back : (value.natAbs : Int) = value := by omega
    rw [year, dropBlanks_padded]
    split
    · rename_i signedText
      exact absurd signedText (notSigned _).1
    · rename_i signedText
      exact absurd signedText (notSigned _).2
    · simp only [read, Except.map, bind, Except.bind, back, inWord, if_true, pure, Except.pure]
  · rename_i notFour
    simp only [Bool.and_eq_true, decide_eq_true_eq] at notFour
    by_cases negative : value < 0
    · have back : -(value.natAbs : Int) = value := by omega
      rw [if_pos negative, List.cons_append, year, dropBlanks_cons (by decide)]
      simp only [signed, Except.map, bind, Except.bind, back, inWord, if_true, pure, Except.pure]
    · have back : (value.natAbs : Int) = value := by omega
      rw [if_neg negative, List.cons_append, year, dropBlanks_cons (by decide)]
      simp only [signed, Except.map, bind, Except.bind, back, inWord, if_true, pure, Except.pure]

/-- The decimals of a second, in front of the letter that ends the text. -/
theorem fraction_fractionChars {nanosecond : Nat} (small : nanosecond < 1000000000) :
    fraction (Instant.fractionChars nanosecond ++ ['Z']) = .ok (nanosecond, ['Z']) := by
  have limit : numberLimit = 9223372036854775808 := by decide
  -- As many decimals as are written, up to nine, give back what they were cut off from.
  have decimals {width value : Nat} (positive : 0 < width) (room : width ≤ 9)
      (fits : value < tenTo width) (whole : value * tenTo (9 - width) = nanosecond) :
      fraction ('.' :: (padded width value ++ ['Z'])) = .ok (nanosecond, ['Z']) := by
    have filled := length_padded positive fits
    have below : value < 10 ^ 9 :=
      Nat.lt_of_lt_of_le fits (Nat.pow_le_pow_right (by decide) room)
    have read := number_append (some 9) ['Z'] (padded_ne_nil width value)
      (padded_digits width value) (by simpa [filled] using room) (.inr (by simp [Ends]))
    rw [ofDigitChars_padded] at read
    have consumed : (padded width value ++ ['Z']).length - ['Z'].length = width := by
      rw [List.length_append, filled, Nat.add_sub_cancel]
    have stopped : ['Z'].dropWhile Char.isDigit = ['Z'] := rfl
    rw [fraction, read (by omega)]
    show Except.ok (value * tenTo (9 - _), _) = _
    rw [consumed, whole, stopped]
  unfold Instant.fractionChars
  split
  · rename_i none
    rw [none]
    rfl
  split
  · rename_i milliseconds
    refine decimals (by decide) (by decide) (by show _ < 1000; omega) ?_
    show nanosecond / 1000000 * 1000000 = nanosecond
    omega
  split
  · rename_i microseconds
    refine decimals (by decide) (by decide) (by show _ < 1000000; omega) ?_
    show nanosecond / 1000 * 1000 = nanosecond
    omega
  · refine decimals (by decide) (by decide) small ?_
    exact Nat.mul_one nanosecond

/-- The clock as it is written: a long second counts as the sixtieth. -/
def shownClock (instant : Instant) : Clock where
  hour := instant.hour
  minute := instant.minute
  second := instant.second + instant.nanosecond / Instant.nanosecondsPerSecond
  nanosecond := instant.nanosecond % Instant.nanosecondsPerSecond

theorem second_shownClock_le {instant : Instant} (proper : instant.Proper) :
    (shownClock instant).second ≤ 60 := by
  have nanosecond := proper.nanosecond
  have second := proper.second
  have billion : Instant.nanosecondsPerSecond = 1000000000 := rfl
  simp only [shownClock, billion]
  omega

/-- What is written for the clock is read as the clock that is shown. -/
theorem clock_chars {instant : Instant} (proper : instant.Proper) :
    clock (padded 2 instant.hour ++ ':' :: (padded 2 instant.minute ++ ':' ::
      (padded 2 (shownClock instant).second ++
        (Instant.fractionChars (shownClock instant).nanosecond ++ ['Z'])))) =
      .ok (shownClock instant, ['Z']) := by
  have hour := part_padded (Nat.zero_le _) (Nat.le_of_lt_succ proper.hour) (by decide)
  have minute := part_padded (Nat.zero_le _) (Nat.le_of_lt_succ proper.minute) (by decide)
  have second := part_padded (Nat.zero_le _) (second_shownClock_le proper) (by decide)
  have colon := separator_cons ':' (by decide)
  have small : (shownClock instant).nanosecond < 1000000000 := Nat.mod_lt _ (by decide)
  have decimals := fraction_fractionChars small
  simp only [clock, hour, minute, second, colon, decimals, bind, Except.bind]
  rfl

theorem date_chars {date : Date} (valid : date.isValid = true) (rest : List Char) :
    Reading.date (Instant.yearChars date.year ++ '-' :: (padded 2 date.month ++ '-' ::
      (padded 2 date.day ++ rest))) = .ok (date, rest) := by
  simp only [Date.isValid, Bool.and_eq_true, decide_eq_true_eq] at valid
  obtain ⟨⟨⟨⟨⟨least, most⟩, leastMonth⟩, mostMonth⟩, leastDay⟩, mostDay⟩ := valid
  have short : Date.daysInMonth date.year date.month ≤ 31 := by
    unfold Date.daysInMonth
    split
    · split <;> decide
    · split <;> decide
  have yearRead := year_yearChars least most
  have month := part_padded leastMonth mostMonth (by decide)
  have day := part_padded leastDay (Nat.le_trans mostDay short) (by decide)
  have dash := separator_cons '-' (by decide)
  simp only [Reading.date, yearRead, month, day, dash, bind, Except.bind]
  rfl

/-- The clock that is shown and no offset lead back to the moment. -/
theorem settle_shownClock {instant : Instant} (proper : instant.Proper) :
    settle instant.date (shownClock instant) 0 = .ok instant := by
  have billion : Instant.nanosecondsPerSecond = 1000000000 := rfl
  have day : Instant.secondsPerDay = 86400 := rfl
  obtain ⟨date, hour, minute, second, nanosecond⟩ := instant
  have valid := proper.date
  have hourBound := proper.hour
  have minuteBound := proper.minute
  have secondBound := proper.second
  have nanosecondBound := proper.nanosecond
  dsimp only at valid hourBound minuteBound secondBound nanosecondBound
  have clockBack : (if second + nanosecond / 1000000000 = 60 then 59
      else second + nanosecond / 1000000000) = second := by
    split <;> omega
  have fractionBack : nanosecond % 1000000000 +
      (if second + nanosecond / 1000000000 = 60 then 1000000000 else 0) = nanosecond := by
    split <;> omega
  have same : (Instant.mk date hour minute second nanosecond).earlier 0 =
      ⟨date, hour, minute, second, nanosecond⟩ := by
    simp only [Instant.earlier, Instant.secondOfDay, day, Int.sub_zero]
    rw [if_neg (by omega), if_neg (by omega)]
    simp only [Instant.mk.injEq, true_and, and_true]
    omega
  simp only [settle, valid, shownClock, billion, clockBack, fractionBack, same]
  rfl

end Reading

/-- The written form of a moment is read as that moment. -/
theorem Instant.ofText_chars {instant : Instant} (proper : instant.Proper) :
    ofText instant.chars = .ok instant := by
  have date := Reading.date_chars proper.date
  have clock := Reading.clock_chars proper
  have settled := Reading.settle_shownClock proper
  have divided (rest : List Char) : Reading.divider ('T' :: rest) = .ok rest := rfl
  have offset : Reading.offset ['Z'] = .ok (0, []) := rfl
  have regrouped : instant.chars =
      yearChars instant.date.year ++ '-' :: (padded 2 instant.date.month ++ '-' ::
        (padded 2 instant.date.day ++ 'T' :: (padded 2 instant.hour ++ ':' ::
          (padded 2 instant.minute ++ ':' :: (padded 2 (Reading.shownClock instant).second ++
            (fractionChars (Reading.shownClock instant).nanosecond ++ ['Z'])))))) := by
    simp only [chars, Reading.shownClock, List.append_assoc]
  rw [regrouped, ofText, date]
  simp only [bind, Except.bind, divided, clock, offset]
  exact settled

/-! ## Moments that were read -/

namespace Reading

theorem le_of_part_eq_ok {low high value : Nat} {text rest : List Char}
    (read : part low high text = .ok (value, rest)) : value ≤ high := by
  obtain ⟨⟨found, behind⟩, -, checked⟩ := Attempt.bind_eq_ok_iff.1 read
  dsimp only at checked
  split at checked
  · rename_i inRange
    obtain ⟨rfl, rfl⟩ := Prod.mk.inj (Attempt.pure_eq_ok_iff.1 checked)
    simp only [Bool.and_eq_true, decide_eq_true_eq] at inRange
    exact inRange.2
  · cases checked

theorem nanosecond_of_fraction_eq_ok {text rest : List Char} {nanosecond : Nat}
    (read : fraction text = .ok (nanosecond, rest)) : nanosecond < 1000000000 := by
  unfold fraction at read
  split at read
  · rename_i decimals
    obtain ⟨⟨value, behind⟩, number, scaled⟩ := Attempt.bind_eq_ok_iff.1 read
    obtain ⟨rfl, rfl⟩ := Prod.mk.inj (Attempt.pure_eq_ok_iff.1 scaled)
    unfold Reading.number at number
    split at number
    · cases number
    split at number
    · obtain ⟨front, split, all, rfl, short⟩ := of_digits_eq_ok number
      have few : front.length ≤ 9 := short 9 rfl
      have count : (front ++ behind).length - behind.length = front.length := by
        rw [List.length_append, Nat.add_sub_cancel]
      have below := Number.ofDigitChars_lt all
      have positive : 0 < 10 ^ (9 - front.length) := Nat.pow_pos (by decide)
      rw [split, count]
      calc
        Nat.ofDigitChars 10 front 0 * 10 ^ (9 - front.length) <
            10 ^ front.length * 10 ^ (9 - front.length) :=
          Nat.mul_lt_mul_of_pos_right below positive
        _ = 10 ^ 9 := by rw [← Nat.pow_add, Nat.add_sub_cancel' few]
        _ = 1000000000 := rfl
    · cases number
  · obtain ⟨rfl, rfl⟩ := Prod.mk.inj (Except.ok.inj read)
    decide

theorem of_clock_eq_ok {text rest : List Char} {clock : Clock}
    (read : Reading.clock text = .ok (clock, rest)) :
    clock.second ≤ 60 ∧ clock.nanosecond < 1000000000 := by
  simp only [Reading.clock, Attempt.bind_eq_ok_iff] at read
  obtain ⟨_, -, _, -, _, -, _, -, ⟨second, _⟩, secondRead, ⟨nanosecond, _⟩, fractionRead,
    result⟩ := read
  obtain ⟨rfl, -⟩ := Prod.mk.inj (Attempt.pure_eq_ok_iff.1 result)
  exact ⟨le_of_part_eq_ok secondRead, nanosecond_of_fraction_eq_ok fractionRead⟩

theorem of_offsetSeconds_eq_ok {text rest : List Char} {seconds : Int}
    (read : offsetSeconds text = .ok (seconds, rest)) : seconds % 60 = 0 := by
  simp only [offsetSeconds, Attempt.bind_eq_ok_iff] at read
  obtain ⟨⟨hours, _⟩, -, ⟨minutes, _⟩, -, result⟩ := read
  split at result
  · obtain ⟨rfl, -⟩ := Prod.mk.inj (Attempt.pure_eq_ok_iff.1 result)
    omega
  · cases result

/-- An offset is a whole number of minutes. -/
theorem of_offset_eq_ok {text rest : List Char} {seconds : Int}
    (read : offset text = .ok (seconds, rest)) : seconds % 60 = 0 := by
  unfold offset at read
  split at read
  · cases read
  · split at read
    · obtain ⟨rfl, -⟩ := Prod.mk.inj (Except.ok.inj read)
      rfl
    split at read
    · obtain ⟨rfl, -⟩ := Prod.mk.inj (Except.ok.inj read)
      rfl
    split at read
    · exact of_offsetSeconds_eq_ok read
    split at read
    · obtain ⟨⟨found, more⟩, inner, negated⟩ := Attempt.map_eq_ok_iff.1 read
      obtain ⟨rfl, -⟩ := Prod.mk.inj negated
      have minutes := of_offsetSeconds_eq_ok inner
      omega
    · cases read

/-- Whole minutes earlier, the clock keeps its bounds and its second. -/
theorem proper_earlier {instant : Instant} {offset : Int} (second : instant.second < 60)
    (nanosecond : instant.nanosecond < 1000000000 ∨
      (instant.second = 59 ∧ instant.nanosecond < 2000000000))
    (minutes : offset % 60 = 0) (valid : (instant.earlier offset).date.isValid = true) :
    (instant.earlier offset).Proper := by
  have day : Instant.secondsPerDay = 86400 := rfl
  have sameSecond : (instant.earlier offset).second = instant.second := by
    simp only [Instant.earlier, Instant.secondOfDay, day]
    omega
  constructor
  · exact valid
  · simp only [Instant.earlier, Instant.secondOfDay, day]
    omega
  · simp only [Instant.earlier, Instant.secondOfDay, day]
    omega
  · rwa [sameSecond]
  · rw [sameSecond]
    exact nanosecond

/-- What a clock and an offset of whole minutes settle on is a proper moment. -/
theorem proper_of_settle_eq_ok {date : Date} {clock : Clock} {offset : Int} {instant : Instant}
    (second : clock.second ≤ 60) (nanosecond : clock.nanosecond < 1000000000)
    (minutes : offset % 60 = 0) (settled : settle date clock offset = .ok instant) :
    instant.Proper := by
  have billion : Instant.nanosecondsPerSecond = 1000000000 := rfl
  unfold settle at settled
  split at settled
  · cases settled
  split at settled
  · cases settled
  by_cases leap : clock.second = 60
  · simp only [leap, if_true] at settled
    split at settled
    · rename_i valid
      obtain rfl := Except.ok.inj settled
      have fifty : 59 < 60 := by decide
      refine proper_earlier fifty (.inr ⟨rfl, ?_⟩) minutes valid
      dsimp only
      omega
    · cases settled
  · simp only [leap, if_false] at settled
    split at settled
    · rename_i valid
      obtain rfl := Except.ok.inj settled
      exact proper_earlier (Nat.lt_of_le_of_ne second leap) (.inl nanosecond) minutes valid
    · cases settled

end Reading

/-- A moment that was read from any text is one that the calendar and the clock have. -/
theorem Instant.proper_of_ofText {text : List Char} {instant : Instant}
    (read : ofText text = .ok instant) : instant.Proper := by
  simp only [ofText, Attempt.bind_eq_ok_iff] at read
  obtain ⟨⟨date, _⟩, -, _, -, ⟨clock, _⟩, clockRead, ⟨offset, rest⟩, offsetRead, settled⟩ := read
  obtain ⟨second, nanosecond⟩ := Reading.of_clock_eq_ok clockRead
  split at settled
  · exact Reading.proper_of_settle_eq_ok second nanosecond (Reading.of_offset_eq_ok offsetRead)
      settled
  · cases settled

end ComplianceEvidence.Time
