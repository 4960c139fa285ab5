/-
The Gregorian calendar, without end in both directions.

Days are counted from 1970-01-01. `daysFromCivil` and `civilFromDays` go between day numbers and dates, on
years that start in March, so that the leap day is the last of its year.
-/
namespace Reshape.Time

/-- A date, taken at its word: the day may be one that its month does not have. -/
structure Date where
  year : Int
  month : Nat
  day : Nat
deriving DecidableEq, Repr

def isLeapYear (y : Int) : Bool :=
  y % 4 == 0 && (y % 100 != 0 || y % 400 == 0)

def daysInYear (y : Int) : Nat :=
  if isLeapYear y then 366 else 365

def daysInMonth (y : Int) : Nat → Nat
  | 2 => if isLeapYear y then 29 else 28
  | 4 | 6 | 9 | 11 => 30
  | _ => 31

/-- The day number of a date. -/
def daysFromCivil (date : Date) : Int :=
  let y := if date.month ≤ 2 then date.year - 1 else date.year
  let era := y / 400
  let yearOfEra := y - era * 400
  let monthFromMarch : Int := (date.month + 9) % 12
  let dayOfYear := (153 * monthFromMarch + 2) / 5 + date.day - 1
  let dayOfEra := yearOfEra * 365 + yearOfEra / 4 - yearOfEra / 100 + dayOfYear
  era * 146097 + dayOfEra - 719468

/-- The date of a day number. -/
def civilFromDays (days : Int) : Date :=
  let z := days + 719468
  let era := z / 146097
  let dayOfEra := z - era * 146097
  let yearOfEra := (dayOfEra - dayOfEra / 1460 + dayOfEra / 36524 - dayOfEra / 146096) / 365
  let dayOfYear := dayOfEra - (365 * yearOfEra + yearOfEra / 4 - yearOfEra / 100)
  let monthFromMarch := (5 * dayOfYear + 2) / 153
  let day := dayOfYear - (153 * monthFromMarch + 2) / 5 + 1
  let month := if monthFromMarch < 10 then monthFromMarch + 3 else monthFromMarch - 9
  { year := yearOfEra + era * 400 + (if month ≤ 2 then 1 else 0)
    month := month.toNat
    day := day.toNat }

/-- The first and last year of the dates that timestamps have. -/
def leastYear : Int := -262143

def greatestYear : Int := 262142

/-- The date of a year, month and day, if the calendar has it and timestamps reach it. -/
def date? (year month day : Int) : Option Date :=
  if leastYear ≤ year ∧ year ≤ greatestYear ∧ 1 ≤ month ∧ month ≤ 12 ∧ 1 ≤ day
      ∧ day ≤ daysInMonth year month.toNat then
    some ⟨year, month.toNat, day.toNat⟩
  else none

namespace Date

def firstOfYear (year : Int) : Date := ⟨year, 1, 1⟩

/-- The date of the `n`-th day of a year, counted from one. -/
def ofOrdinal? (year n : Int) : Option Date :=
  if leastYear ≤ year ∧ year ≤ greatestYear ∧ 1 ≤ n ∧ n ≤ daysInYear year then
    some (civilFromDays (daysFromCivil (firstOfYear year) + n - 1))
  else none

/-- The place of a date in its year, counted from one. -/
def ordinal (d : Date) : Nat :=
  (daysFromCivil d - daysFromCivil (firstOfYear d.year) + 1).toNat

/-- The day of the week, Monday being zero. -/
def weekday (d : Date) : Nat :=
  ((daysFromCivil d + 3) % 7).toNat

/-- The number of the week that holds a date, the first of the year starting on its first `start`; days
before it are in week zero. -/
def weekFrom (start : Nat) (d : Date) : Nat :=
  (d.ordinal + 6 - (d.weekday + 7 - start) % 7) / 7

/-- Year and number of the week of a date, where the week belongs to the year of its Thursday. -/
def isoWeek (d : Date) : Int × Nat :=
  let thursday := civilFromDays (daysFromCivil d - d.weekday + 3)
  (thursday.year, (thursday.ordinal - 1) / 7 + 1)

/-- The date of a day in a week numbered as by `isoWeek`. A year has a 53rd week only if that week starts
in it. -/
def ofIsoWeek? (year week weekday : Int) : Option Date :=
  let start := daysFromCivil ⟨year, 1, 4⟩
  let monday := start - (start + 3) % 7
  let d := civilFromDays (monday + 7 * (week - 1) + weekday)
  if 1 ≤ week ∧ leastYear ≤ d.year ∧ d.year ≤ greatestYear ∧ d.isoWeek = (year, week.toNat) then some d
  else none

def quarter (d : Date) : Nat :=
  (d.month - 1) / 3 + 1

end Date

end Reshape.Time
