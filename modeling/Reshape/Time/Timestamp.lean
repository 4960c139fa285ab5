/-
Points in time.

A timestamp is a number of seconds since 1970 and of nanoseconds after them, with the offset of the place
it was read at. A leap second is the last second of a minute with a thousand million nanoseconds more.
Two timestamps denote the same instant whatever their offsets.
-/
import Reshape.Time.Calendar

namespace Reshape

structure Timestamp where
  /-- Seconds since the start of 1970 in UTC. -/
  second : Int
  /-- Nanoseconds of the second; from 10^9 on those of a leap second. -/
  nano : Nat
  /-- Seconds that the clock at the place is ahead of UTC. -/
  offset : Int
deriving DecidableEq, Repr, Inhabited

namespace Timestamp

open Time

/-- Whether two timestamps are the same instant. -/
def sameInstant (a b : Timestamp) : Bool :=
  a.second == b.second && a.nano == b.nano

/-- Whether one instant is before another. -/
def isBefore (a b : Timestamp) : Bool :=
  a.second < b.second || (a.second == b.second && a.nano < b.nano)

def leastSecond : Int := daysFromCivil ⟨leastYear, 1, 1⟩ * 86400

def greatestSecond : Int := daysFromCivil ⟨greatestYear, 12, 31⟩ * 86400 + 86399

/-- The instant a number of seconds and nanoseconds after the start of 1970, in UTC. -/
def ofUnix? (second : Int) (nano : Nat) : Option Timestamp :=
  if leastSecond ≤ second ∧ second ≤ greatestSecond ∧ nano < 2000000000
      ∧ (nano < 1000000000 ∨ second % 60 = 59) then
    some ⟨second, nano, 0⟩
  else none

/-- The same instant at another offset. -/
def withOffset (t : Timestamp) (offset : Int) : Timestamp :=
  { t with offset }

/-! ### The clock at the place -/

/-- Seconds from the start of 1970 as the clock at the place counts them. -/
def localSecond (t : Timestamp) : Int :=
  t.second + t.offset

def date (t : Timestamp) : Date :=
  civilFromDays (t.localSecond / 86400)

def secondOfDay (t : Timestamp) : Nat :=
  (t.localSecond % 86400).toNat

def hour (t : Timestamp) : Nat :=
  t.secondOfDay / 3600

def minute (t : Timestamp) : Nat :=
  t.secondOfDay / 60 % 60

/-- The second of the minute, sixty in a leap second. -/
def clockSecond (t : Timestamp) : Nat :=
  t.secondOfDay % 60 + t.nano / 1000000000

def fraction (t : Timestamp) : Nat :=
  t.nano % 1000000000

/-- Whole milliseconds since the start of 1970. -/
def milliseconds (t : Timestamp) : Int :=
  t.second * 1000 + t.nano / 1000000

def nanoseconds (t : Timestamp) : Int :=
  t.second * 1000000000 + t.nano

end Timestamp

end Reshape
