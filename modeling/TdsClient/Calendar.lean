import TdsClient.Number.Digits

/-!
# Dates and times of day

Dates of the proleptic Gregorian calendar in the years 1 to 9999, times
of day to the microsecond, and both together, all without a time zone.

A clock reading in seconds since 1970 is turned into each of them in
coordinated universal time. Readings fail for three reasons, kept apart
in `ClockError`: the year is not one of the calendar's, the year does not
fit 32 bits, or the reading itself does not fit 64 bits.

## Main definitions

* `Date.of?`, `Time.of?`, `DateTime.of?` — the values with given fields.
* `Date.ofClock`, `Time.ofClock`, `DateTime.ofClock` — the values of a clock reading.
* `Date.midnight` — the first instant of a day.
-/

namespace TdsClient

/-- A day of the calendar. -/
structure Date where
  year : Nat
  month : Nat
  day : Nat
deriving DecidableEq

/-- A time of day. -/
structure Time where
  hour : Nat
  minute : Nat
  second : Nat
  microsecond : Nat
deriving DecidableEq

/-- A day and a time on it. -/
structure DateTime where
  date : Date
  time : Time
deriving DecidableEq

/-- Why a clock reading has no date. -/
inductive ClockError
  | yearOutOfRange
  | yearTooLarge
  | readingTooLarge
deriving DecidableEq

namespace Date

/-- Whether a year has a 29th of February. -/
def isLeap (year : Nat) : Bool :=
  year % 4 = 0 ∧ (year % 100 ≠ 0 ∨ year % 400 = 0)

/-- Number of days of a month. -/
def daysInMonth (year month : Nat) : Nat :=
  if month = 2 then (if isLeap year then 29 else 28)
  else if month ∈ [4, 6, 9, 11] then 30
  else 31

/-- The last year of the calendar. -/
def maxYear : Nat := 9999

/-- The date with the given fields, if there is one. -/
def of? (year month day : Int) : Option Date :=
  if 1 ≤ year ∧ year ≤ maxYear ∧ 1 ≤ month ∧ month ≤ 12 ∧ 1 ≤ day ∧
      day ≤ daysInMonth year.toNat month.toNat then
    some ⟨year.toNat, month.toNat, day.toNat⟩
  else none

/-- Year, month and day of a day counted from the first of January 1970. Years are counted
from the first of March, in cycles of 400 years. -/
def civil (days : Int) : Int × Int × Int :=
  let z := days + 719468
  let cycle := z / 146097
  let dayOfCycle := z - cycle * 146097
  let yearOfCycle :=
    (dayOfCycle - dayOfCycle / 1460 + dayOfCycle / 36524 - dayOfCycle / 146096) / 365
  let dayOfYear := dayOfCycle - (365 * yearOfCycle + yearOfCycle / 4 - yearOfCycle / 100)
  let monthFromMarch := (5 * dayOfYear + 2) / 153
  let day := dayOfYear - (153 * monthFromMarch + 2) / 5 + 1
  let month := if monthFromMarch < 10 then monthFromMarch + 3 else monthFromMarch - 9
  let year := yearOfCycle + cycle * 400 + (if month ≤ 2 then 1 else 0)
  (year, month, day)

/-- The written form `YYYY-MM-DD`. -/
def text (d : Date) : String :=
  Number.Digits.padded 4 d.year ++ "-" ++ Number.Digits.padded 2 d.month ++ "-" ++
    Number.Digits.padded 2 d.day

/-- The fields from the most to the least significant. -/
def fields (d : Date) : List Nat := [d.year, d.month, d.day]

/-- The first instant of a day. -/
def midnight (d : Date) : DateTime := ⟨d, ⟨0, 0, 0, 0⟩⟩

end Date

/-- Seconds of a day. -/
def secondsPerDay : Int := 86400

/-- Refuses clock readings beyond 64 bits and those whose year is beyond 32 bits. -/
def checkClock (seconds : Int) : Except ClockError Unit :=
  if seconds < -9223372036854775808 ∨ 9223372036854775807 < seconds then .error .readingTooLarge
  else if seconds < -67768040609740800 ∨ 67768036191676799 < seconds then .error .yearTooLarge
  else .ok ()

/-- The day of a clock reading. -/
def Date.ofClock (seconds : Int) : Except ClockError Date := do
  checkClock seconds
  let (year, month, day) := Date.civil (seconds / secondsPerDay)
  match Date.of? year month day with
  | some d => .ok d
  | none => .error .yearOutOfRange

namespace Time

/-- The time of day with the given fields, if there is one. -/
def of? (hour minute second microsecond : Int) : Option Time :=
  if 0 ≤ hour ∧ hour < 24 ∧ 0 ≤ minute ∧ minute < 60 ∧ 0 ≤ second ∧ second < 60 ∧
      0 ≤ microsecond ∧ microsecond < 1000000 then
    some ⟨hour.toNat, minute.toNat, second.toNat, microsecond.toNat⟩
  else none

/-- The time of day of a clock reading. -/
def ofClock (seconds : Int) : Except ClockError Time := do
  checkClock seconds
  let ofDay := (seconds % secondsPerDay).toNat
  .ok ⟨ofDay / 3600, ofDay / 60 % 60, ofDay % 60, 0⟩

/-- The written form `HH:MM:SS`, with six places of the second unless they are zero. -/
def text (t : Time) : String :=
  Number.Digits.padded 2 t.hour ++ ":" ++ Number.Digits.padded 2 t.minute ++ ":" ++
    Number.Digits.padded 2 t.second ++
    (if t.microsecond = 0 then "" else "." ++ Number.Digits.padded 6 t.microsecond)

/-- The fields from the most to the least significant. -/
def fields (t : Time) : List Nat := [t.hour, t.minute, t.second, t.microsecond]

end Time

namespace DateTime

/-- The date and time with the given fields, if there is one. -/
def of? (year month day hour minute second microsecond : Int) : Option DateTime := do
  let d ← Date.of? year month day
  let t ← Time.of? hour minute second microsecond
  return ⟨d, t⟩

/-- The date and time of a clock reading. The calendar must have the day before it too. -/
def ofClock (seconds : Int) : Except ClockError DateTime := do
  let d ← Date.ofClock seconds
  let t ← Time.ofClock seconds
  let _ ← Date.ofClock (seconds - secondsPerDay)
  .ok ⟨d, t⟩

/-- The written form of a date, a blank and a time. -/
def text (t : DateTime) : String := t.date.text ++ " " ++ t.time.text

/-- The fields from the most to the least significant. -/
def fields (t : DateTime) : List Nat := t.date.fields ++ t.time.fields

end DateTime

end TdsClient
