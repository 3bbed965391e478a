import ComplianceEvidence.Number.Layout

/-!
Contract: moments of universal time and how they are written.

Owns: dates of the proleptic Gregorian calendar, times of day with nanoseconds, their neighbours,
and the written form `YYYY-MM-DDTHH:MM:SSZ` with no, three, six or nine decimals of a second.

A leap second is held as the second before it with a billion nanoseconds more.
-/

set_option autoImplicit false

namespace ComplianceEvidence.Time

structure Date where
  year : Int
  month : Nat
  day : Nat
deriving DecidableEq, Repr

namespace Date

def isLeapYear (year : Int) : Bool :=
  year % 4 = 0 && (year % 100 ≠ 0 || year % 400 = 0)

def daysInMonth (year : Int) (month : Nat) : Nat :=
  if month = 2 then if isLeapYear year then 29 else 28
  else if month = 4 || month = 6 || month = 9 || month = 11 then 30
  else 31

def firstYear : Int := -262143

def lastYear : Int := 262142

/-- A day that the calendar has, in a year that is in range. -/
def isValid (date : Date) : Bool :=
  firstYear ≤ date.year && date.year ≤ lastYear && 1 ≤ date.month && date.month ≤ 12 &&
    1 ≤ date.day && date.day ≤ daysInMonth date.year date.month

def next (date : Date) : Date :=
  if date.day < daysInMonth date.year date.month then { date with day := date.day + 1 }
  else if date.month < 12 then ⟨date.year, date.month + 1, 1⟩
  else ⟨date.year + 1, 1, 1⟩

def previous (date : Date) : Date :=
  if 1 < date.day then { date with day := date.day - 1 }
  else if 1 < date.month then
    ⟨date.year, date.month - 1, daysInMonth date.year (date.month - 1)⟩
  else ⟨date.year - 1, 12, 31⟩

end Date

/-- A moment of universal time; from a billion on, `nanosecond` counts into a leap second. -/
structure Instant where
  date : Date
  hour : Nat
  minute : Nat
  second : Nat
  nanosecond : Nat
deriving DecidableEq, Repr

namespace Instant

def secondsPerDay : Int := 86400

def nanosecondsPerSecond : Nat := 1000000000

def secondOfDay (instant : Instant) : Int :=
  instant.hour * 3600 + instant.minute * 60 + instant.second

/-- The same reading of the clock as many seconds earlier, by less than a day. -/
def earlier (instant : Instant) (seconds : Int) : Instant :=
  let shifted := instant.secondOfDay - seconds
  let date :=
    if shifted < 0 then instant.date.previous
    else if secondsPerDay ≤ shifted then instant.date.next
    else instant.date
  let clock := (shifted % secondsPerDay).toNat
  { instant with
    date := date
    hour := clock / 3600
    minute := clock % 3600 / 60
    second := clock % 60 }

/-! ## Written form -/

def padded (width value : Nat) : List Char :=
  let digits := Nat.toDigits 10 value
  List.replicate (width - digits.length) '0' ++ digits

/-- Four digits, or a sign and at least four digits for a year that has not four. -/
def yearChars (year : Int) : List Char :=
  if 0 ≤ year && year ≤ 9999 then padded 4 year.natAbs
  else (if year < 0 then '-' else '+') :: padded 4 year.natAbs

/-- As few decimals as hold the fraction, out of none, three, six and nine. -/
def fractionChars (nanosecond : Nat) : List Char :=
  if nanosecond = 0 then []
  else if nanosecond % 1000000 = 0 then '.' :: padded 3 (nanosecond / 1000000)
  else if nanosecond % 1000 = 0 then '.' :: padded 6 (nanosecond / 1000)
  else '.' :: padded 9 nanosecond

def chars (instant : Instant) : List Char :=
  let second := instant.second + instant.nanosecond / nanosecondsPerSecond
  yearChars instant.date.year ++ '-' :: (padded 2 instant.date.month ++ '-' ::
    (padded 2 instant.date.day ++ 'T' :: (padded 2 instant.hour ++ ':' ::
      (padded 2 instant.minute ++ ':' :: (padded 2 second ++
        fractionChars (instant.nanosecond % nanosecondsPerSecond) ++ ['Z'])))))

def render (instant : Instant) : String :=
  String.ofList instant.chars

example : (Instant.mk ⟨2025, 6, 1⟩ 12 0 0 0).render = "2025-06-01T12:00:00Z" := by decide
example : ((Instant.mk ⟨2024, 3, 1⟩ 1 30 0 0).earlier 7200).render =
    "2024-02-29T23:30:00Z" := by decide

end Instant

end ComplianceEvidence.Time
