/-
Fields of a time, gathered one by one and put together.

Each field may be given more than once, but only with one value. `Clues.date`, `Clues.time` and
`Clues.dateTime` find the time that the fields determine and check every other field against it.
-/
import Reshape.Time.Problem
import Reshape.Time.Timestamp

namespace Reshape.Time

/-- What is known of a time. Hours are split into the half of the day and the hour in it. -/
structure Clues where
  year : Option Int := none
  century : Option Int := none
  yearOfCentury : Option Int := none
  isoYear : Option Int := none
  isoYearOfCentury : Option Int := none
  quarter : Option Int := none
  month : Option Int := none
  weekFromSunday : Option Int := none
  weekFromMonday : Option Int := none
  isoWeek : Option Int := none
  weekday : Option Int := none
  ordinal : Option Int := none
  day : Option Int := none
  halfDay : Option Int := none
  hourOfHalf : Option Int := none
  minute : Option Int := none
  second : Option Int := none
  nano : Option Int := none
  unix : Option Int := none
  offset : Option Int := none
deriving DecidableEq, Repr

/-- A date and a time of day, as a clock shows them: seconds from the start of 1970 on that clock. -/
structure WallClock where
  second : Int
  nano : Nat
deriving DecidableEq, Repr

/-- A field that now has a value, unless it had another. -/
def agree (old : Option Int) (new : Int) : Except Problem (Option Int) :=
  match old with
  | some v => if v = new then .ok old else .error .impossible
  | none => .ok (some new)

/-- A value within bounds. -/
def within (lo hi v : Int) : Except Problem Int :=
  if lo ≤ v ∧ v ≤ hi then .ok v else .error .outOfRange

namespace Clues

/-! ### Adding a field -/

def setYear (c : Clues) (v : Int) : Except Problem Clues := do
  return { c with year := ← agree c.year (← within (-0x80000000) 0x7FFFFFFF v) }

def setCentury (c : Clues) (v : Int) : Except Problem Clues := do
  return { c with century := ← agree c.century (← within 0 0x7FFFFFFF v) }

def setYearOfCentury (c : Clues) (v : Int) : Except Problem Clues := do
  return { c with yearOfCentury := ← agree c.yearOfCentury (← within 0 99 v) }

def setIsoYear (c : Clues) (v : Int) : Except Problem Clues := do
  return { c with isoYear := ← agree c.isoYear (← within (-0x80000000) 0x7FFFFFFF v) }

def setIsoYearOfCentury (c : Clues) (v : Int) : Except Problem Clues := do
  return { c with isoYearOfCentury := ← agree c.isoYearOfCentury (← within 0 99 v) }

def setQuarter (c : Clues) (v : Int) : Except Problem Clues := do
  return { c with quarter := ← agree c.quarter (← within 1 4 v) }

def setMonth (c : Clues) (v : Int) : Except Problem Clues := do
  return { c with month := ← agree c.month (← within 1 12 v) }

def setDay (c : Clues) (v : Int) : Except Problem Clues := do
  return { c with day := ← agree c.day (← within 1 31 v) }

def setWeekFromSunday (c : Clues) (v : Int) : Except Problem Clues := do
  return { c with weekFromSunday := ← agree c.weekFromSunday (← within 0 53 v) }

def setWeekFromMonday (c : Clues) (v : Int) : Except Problem Clues := do
  return { c with weekFromMonday := ← agree c.weekFromMonday (← within 0 53 v) }

def setIsoWeek (c : Clues) (v : Int) : Except Problem Clues := do
  return { c with isoWeek := ← agree c.isoWeek (← within 1 53 v) }

/-- Days of the week count from zero for Monday. -/
def setWeekday (c : Clues) (v : Int) : Except Problem Clues := do
  return { c with weekday := ← agree c.weekday (← within 0 6 v) }

def setOrdinal (c : Clues) (v : Int) : Except Problem Clues := do
  return { c with ordinal := ← agree c.ordinal (← within 1 366 v) }

def setHalfDay (c : Clues) (afternoon : Bool) : Except Problem Clues := do
  return { c with halfDay := ← agree c.halfDay (if afternoon then 1 else 0) }

/-- An hour on a dial of twelve, where twelve is the first. -/
def setDialHour (c : Clues) (v : Int) : Except Problem Clues := do
  return { c with hourOfHalf := ← agree c.hourOfHalf ((← within 1 12 v) % 12) }

def setHour (c : Clues) (v : Int) : Except Problem Clues := do
  let v ← within 0 23 v
  return { c with halfDay := ← agree c.halfDay (v / 12), hourOfHalf := ← agree c.hourOfHalf (v % 12) }

def setMinute (c : Clues) (v : Int) : Except Problem Clues := do
  return { c with minute := ← agree c.minute (← within 0 59 v) }

def setSecond (c : Clues) (v : Int) : Except Problem Clues := do
  return { c with second := ← agree c.second (← within 0 60 v) }

def setNano (c : Clues) (v : Int) : Except Problem Clues := do
  return { c with nano := ← agree c.nano (← within 0 999999999 v) }

def setUnix (c : Clues) (v : Int) : Except Problem Clues := do
  return { c with unix := ← agree c.unix v }

def setOffset (c : Clues) (v : Int) : Except Problem Clues := do
  return { c with offset := ← agree c.offset v }

/-! ### The date -/

/-- The year that a full year, a century and a year of the century determine, if any is given. A year of
the century alone is one from 1970 to 2069. -/
def resolveYear (year century yearOfCentury : Option Int) : Except Problem (Option Int) :=
  match year, century, yearOfCentury with
  | y, none, none => .ok y
  | some y, q, r =>
    if y < 0 then .error .impossible
    else if q.getD (y / 100) = y / 100 ∧ r.getD (y % 100) = y % 100 then .ok (some y)
    else .error .impossible
  | none, some q, some r =>
    if q * 100 + r < 0x80000000 then .ok (some (q * 100 + r)) else .error .outOfRange
  | none, none, some r => .ok (some (r + if r < 70 then 2000 else 1900))
  | none, some _, none => .error .notEnough

/-- Whether a field, if given, has the value. -/
def admits (field : Option Int) (v : Int) : Bool :=
  field.all (· == v)

/-- Whether the parts of a year, if given, are those of `y`. Years before zero have no parts. -/
def admitsYear (year century yearOfCentury : Option Int) (y : Int) : Bool :=
  admits year y &&
    if 0 ≤ y then admits century (y / 100) && admits yearOfCentury (y % 100)
    else century.isNone && yearOfCentury.isNone

def admitsCivil (c : Clues) (d : Date) : Bool :=
  admitsYear c.year c.century c.yearOfCentury d.year && admits c.month d.month && admits c.day d.day

def admitsIsoWeek (c : Clues) (d : Date) : Bool :=
  admitsYear c.isoYear none c.isoYearOfCentury d.isoWeek.1 && admits c.isoWeek d.isoWeek.2
    && admits c.weekday d.weekday

def admitsOrdinal (c : Clues) (d : Date) : Bool :=
  admits c.ordinal d.ordinal && admits c.weekFromSunday (d.weekFrom 6)
    && admits c.weekFromMonday (d.weekFrom 0)

/-- The date of a weekday in a week of a year, where weeks start on `start`. -/
def dateOfWeek (year week weekday start : Int) : Except Problem Date := do
  let first ← ((Date.ofOrdinal? year 1).elim (.error .outOfRange) .ok : Except Problem Date)
  let firstStart := 1 + (start - first.weekday) % 7
  let n := firstStart + (week - 1) * 7 + (weekday - start) % 7
  if n ≤ 0 then .error .impossible
  else (Date.ofOrdinal? year n).elim (.error .impossible) .ok

/-- The date that the fields determine, by the first combination that is complete. -/
def date (c : Clues) : Except Problem Date := do
  let year ← resolveYear c.year c.century c.yearOfCentury
  let isoYear ← resolveYear c.isoYear none c.isoYearOfCentury
  let orOutOfRange (d : Option Date) : Except Problem Date := d.elim (.error .outOfRange) .ok
  let weekDate (y week weekday start : Int) : Except Problem (Bool × Date) := do
    let d ← dateOfWeek y week weekday start
    return (c.admitsCivil d && c.admitsIsoWeek d && c.admitsOrdinal d, d)
  let isoDate : Except Problem (Bool × Date) :=
    match isoYear, c.isoWeek, c.weekday with
    | some y, some week, some weekday => do
      let d ← orOutOfRange (Date.ofIsoWeek? y week weekday)
      return (c.admitsCivil d && c.admitsOrdinal d, d)
    | _, _, _ => .error .notEnough
  let (verified, d) ←
    match year with
    | none => isoDate
    | some y =>
      match c.month, c.day, c.ordinal, c.weekFromSunday, c.weekFromMonday, c.weekday with
      | some m, some day, _, _, _, _ => do
        let d ← orOutOfRange (date? y m day)
        pure (c.admitsIsoWeek d && c.admitsOrdinal d, d)
      | _, _, some n, _, _, _ => do
        let d ← orOutOfRange (Date.ofOrdinal? y n)
        pure (c.admitsCivil d && c.admitsIsoWeek d && c.admitsOrdinal d, d)
      | _, _, _, some week, _, some weekday => weekDate y week weekday 6
      | _, _, _, _, some week, some weekday => weekDate y week weekday 0
      | _, _, _, _, _, _ => isoDate
  if verified && admits c.quarter d.quarter then return d else .error .impossible

/-! ### The time of day -/

def required (field : Option Int) : Except Problem Int :=
  field.elim (.error .notEnough) .ok

/-- Seconds of the day and nanoseconds. A fraction needs a second to belong to. -/
def time (c : Clues) : Except Problem (Int × Nat) := do
  let half ← required c.halfDay
  let hour ← required c.hourOfHalf
  let minute ← required c.minute
  let second := c.second.getD 0
  let nano ←
    match c.nano with
    | some n => if c.second.isSome then pure n else .error .notEnough
    | none => pure 0
  let (second, leap) := if second = 60 then (59, 1000000000) else (second, 0)
  return ((half * 12 + hour) * 3600 + minute * 60 + second, (nano + leap).toNat)

/-! ### Date and time -/

/-- The clock at the start of a date, moved on by seconds. -/
def wallClock (d : Date) (time : Int × Nat) : WallClock :=
  ⟨daysFromCivil d * 86400 + time.1, time.2⟩

/-- The rest of the fields of a time known by its seconds since 1970. A second given as sixty is the leap
second at or before that time. -/
def fillFrom (c : Clues) (t : Timestamp) : Except Problem Clues := do
  let (t, c) ←
    if c.second = some 60 then
      if t.clockSecond = 59 then pure (t, c)
      else if t.clockSecond = 0 then pure ({ t with second := t.second - 1 }, c)
      else .error .impossible
    else do pure (t, ← c.setSecond t.clockSecond)
  let c ← c.setYear t.date.year
  let c ← c.setOrdinal t.date.ordinal
  let c ← c.setHour t.hour
  c.setMinute t.minute

/-- The wall clock that the fields determine at a place of the given offset. -/
def dateTime (c : Clues) (offset : Int) : Except Problem WallClock := do
  match c.date, c.time with
  | .ok d, .ok time =>
    let clock := wallClock d time
    let instant := clock.second - offset
    let fits (given : Int) : Bool :=
      given == instant || (1000000000 ≤ clock.nano && given == instant + 1)
    if c.unix.all fits then return clock else .error .impossible
  | d, time =>
    match c.unix with
    | none =>
      let d ← d
      return wallClock d (← time)
    | some unix =>
      let failsWith {α : Type} (r : Except Problem α) (p : Problem) : Bool :=
        match r with
        | .error q => p == q
        | .ok _ => false
      if failsWith d .outOfRange || failsWith time .outOfRange then .error .outOfRange
      else if failsWith d .impossible || failsWith time .impossible then .error .impossible
      else
        match Timestamp.ofUnix? (unix + offset) 0 with
        | none => .error .outOfRange
        | some t =>
          let c ← c.fillFrom t
          let d ← c.date
          return wallClock d (← c.time)

/-- The instant that the fields determine. It needs an offset, or else its seconds since 1970. -/
def instant (c : Clues) : Except Problem Timestamp := do
  let offset ←
    match c.offset, c.unix with
    | some offset, _ => pure offset
    | none, some _ => pure 0
    | none, none => .error .notEnough
  let clock ← c.dateTime offset
  if offset.natAbs < 86400 then
    let second := clock.second - offset
    if Timestamp.leastSecond ≤ second ∧ second ≤ Timestamp.greatestSecond then
      return ⟨second, clock.nano, offset⟩
    else .error .impossible
  else .error .outOfRange

end Clues

end Reshape.Time
