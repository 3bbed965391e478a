import ComplianceEvidence.Time.Instant
import ComplianceEvidence.Text.Blank

/-!
Contract: moments read from text.

Owns: the accepted spellings of a date and time with an offset. A date, one of `T`, `t` and a
space, a time of day and an offset follow each other. White space may stand before a number, before
a separator and around the offset. A year without a sign has at most four digits; decimals of a
second beyond the ninth are dropped. The offset is `Z`, `UTC` or a sign, hours and minutes.

Which of two faults is reported follows from the order of reading: the parts are read from left to
right, each with its own range, and the calendar is asked last.
-/

set_option autoImplicit false

namespace ComplianceEvidence.Time

inductive Fault where
  | invalid
  | tooShort
  | tooLong
  | outOfRange
  | impossible
deriving DecidableEq, Repr

def Fault.message : Fault → String
  | .invalid => "input contains invalid characters"
  | .tooShort => "premature end of input"
  | .tooLong => "trailing input"
  | .outOfRange => "input is out of range"
  | .impossible => "no possible date and time matching input"

namespace Reading

def numberLimit : Nat := Number.signedLimit

/-- Up to `room` digits behind those read, as a number; without a bound if there is none. -/
def digits (value : Nat) (room : Option Nat) : List Char → Except Fault (Nat × List Char)
  | [] => .ok (value, [])
  | head :: tail =>
      if room = some 0 || !head.isDigit then .ok (value, head :: tail)
      else
        let next := value * 10 + (head.toNat - '0'.toNat)
        if numberLimit ≤ next then .error .outOfRange
        else digits next (room.map (· - 1)) tail

def number (room : Option Nat) : List Char → Except Fault (Nat × List Char)
  | [] => .error .tooShort
  | head :: tail => if head.isDigit then digits 0 room (head :: tail) else .error .invalid

/-- A number in a range, with white space before it. -/
def part (low high : Nat) (text : List Char) : Except Fault (Nat × List Char) := do
  let (value, rest) ← number (some 2) (Text.dropBlanks text)
  if low ≤ value && value ≤ high then return (value, rest) else .error .outOfRange

/-- A separator, with white space before it. -/
def separator (character : Char) (text : List Char) : Except Fault (List Char) :=
  match Text.dropBlanks text with
  | [] => .error .tooShort
  | head :: tail => if head = character then .ok tail else .error .invalid

/-- The years that may be written, in range for the calendar or not. -/
def inYearWord (year : Int) : Bool :=
  -0x80000000 ≤ year && year < 0x80000000

def year (text : List Char) : Except Fault (Int × List Char) := do
  let (value, rest) ←
    match Text.dropBlanks text with
    | '-' :: unsigned => (number none unsigned).map fun (value, rest) => (-(value : Int), rest)
    | '+' :: unsigned => (number none unsigned).map fun (value, rest) => ((value : Int), rest)
    | unsigned => (number (some 4) unsigned).map fun (value, rest) => ((value : Int), rest)
  if inYearWord value then return (value, rest) else .error .outOfRange

def date (text : List Char) : Except Fault (Date × List Char) := do
  let (year, afterYear) ← year text
  let beforeMonth ← separator '-' afterYear
  let (month, afterMonth) ← part 1 12 beforeMonth
  let beforeDay ← separator '-' afterMonth
  let (day, rest) ← part 1 31 beforeDay
  return (⟨year, month, day⟩, rest)

/-- The letter or space between date and time. -/
def divider : List Char → Except Fault (List Char)
  | [] => .error .tooShort
  | head :: tail => if head = 't' || head = 'T' || head = ' ' then .ok tail else .error .invalid

/-- The decimals of a second as nanoseconds; none without a point. -/
def fraction (text : List Char) : Except Fault (Nat × List Char) :=
  match text with
  | '.' :: decimals => do
      let (value, rest) ← number (some 9) decimals
      let count := decimals.length - rest.length
      return (value * Number.tenTo (9 - count), rest.dropWhile Char.isDigit)
  | _ => .ok (0, text)

structure Clock where
  hour : Nat
  minute : Nat
  second : Nat
  nanosecond : Nat

def clock (text : List Char) : Except Fault (Clock × List Char) := do
  let (hour, afterHour) ← part 0 23 text
  let beforeMinute ← separator ':' afterHour
  let (minute, afterMinute) ← part 0 59 beforeMinute
  let beforeSecond ← separator ':' afterMinute
  let (second, afterSecond) ← part 0 60 beforeSecond
  let (nanosecond, rest) ← fraction afterSecond
  return (⟨hour, minute, second, nanosecond⟩, Text.dropBlanks rest)

/-- Two digits, the first of them up to a bound. -/
def twoDigits (text : List Char) : Except Fault (Nat × List Char) :=
  match text with
  | first :: second :: rest =>
      if first.isDigit && second.isDigit then
        .ok ((first.toNat - '0'.toNat) * 10 + (second.toNat - '0'.toNat), rest)
      else .error .invalid
  | [only] => if only.utf8Size < 2 then .error .tooShort else .error .invalid
  | [] => .error .tooShort

/-- What may stand between the hours and the minutes of an offset. -/
def isOffsetFiller (character : Char) : Bool :=
  character = ':' || Text.isBlank character

/-- Hours and minutes of an offset, in seconds. -/
def offsetSeconds (text : List Char) : Except Fault (Int × List Char) := do
  let (hours, afterHours) ← twoDigits text
  let (minutes, rest) ← twoDigits (afterHours.dropWhile isOffsetFiller)
  if minutes < 60 then return (((hours * 3600 + minutes * 60 : Nat) : Int), rest)
  else .error .outOfRange

def offset (text : List Char) : Except Fault (Int × List Char) :=
  match text with
  | [] => .error .tooShort
  | first :: rest =>
      if [first, rest.headD ' ', (rest.drop 1).headD ' '].map Char.toUpper = ['U', 'T', 'C'] then
        .ok (0, rest.drop 2)
      else if first = 'Z' || first = 'z' then .ok (0, rest)
      else if first = '+' then offsetSeconds rest
      else if first = '-' || first = '\u2212' then
        (offsetSeconds rest).map fun (seconds, more) => (-seconds, more)
      else .error .invalid

def settle (date : Date) (clock : Clock) (offset : Int) : Except Fault Instant :=
  if !date.isValid then .error .outOfRange
  else if Instant.secondsPerDay ≤ offset.natAbs then .error .outOfRange
  else
    let leap := clock.second = 60
    let local_ : Instant :=
      { date := date
        hour := clock.hour
        minute := clock.minute
        second := if leap then 59 else clock.second
        nanosecond := clock.nanosecond + if leap then Instant.nanosecondsPerSecond else 0 }
    let instant := local_.earlier offset
    if instant.date.isValid then .ok instant else .error .impossible

end Reading

def Instant.ofText (text : List Char) : Except Fault Instant := do
  let (date, afterDate) ← Reading.date text
  let beforeClock ← Reading.divider afterDate
  let (clock, beforeOffset) ← Reading.clock beforeClock
  let (offset, rest) ← Reading.offset beforeOffset
  if Text.isBlankText rest then Reading.settle date clock offset else .error .tooLong

end ComplianceEvidence.Time
