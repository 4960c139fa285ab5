/-
Timestamps in the form of the Internet: `2021-03-04T05:06:07.5+01:00`.

`Timestamp.internet` writes the wall clock and the offset to the minute, a fraction in groups of three
digits as far as needed, and years beyond four digits with a sign. `Timestamp.ofInternet` reads exactly
four digits of year and any fraction.
-/
import Reshape.Time.Timestamp
import Reshape.Time.Scan

namespace Reshape

namespace Time

/-- A number with at least `width` digits. -/
def padded (width n : Nat) : List Char :=
  let digits := Nat.toDigits 10 n
  List.replicate (width - digits.length) '0' ++ digits

/-- A number with its sign and at least `width` digits. -/
def signedPadded (width : Nat) (i : Int) : List Char :=
  (if i < 0 then '-' else '+') :: padded width i.natAbs

/-- A year: four digits, and a sign if they are not enough. -/
def yearText (y : Int) : List Char :=
  if 0 ≤ y ∧ y ≤ 9999 then padded 4 y.toNat else signedPadded 4 y

/-- A fraction of a second in as many groups of three digits as it needs, with its point. -/
def fractionText (nano : Nat) : List Char :=
  if nano = 0 then []
  else if nano % 1000000 = 0 then '.' :: padded 3 (nano / 1000000)
  else if nano % 1000 = 0 then '.' :: padded 6 (nano / 1000)
  else '.' :: padded 9 nano

/-- An offset rounded to the nearest minute. -/
def minuteOffset (separator : List Char) (offset : Int) : List Char :=
  let minutes := (offset.natAbs + 30) / 60
  (if offset < 0 then '-' else '+') :: padded 2 (minutes / 60) ++ separator ++ padded 2 (minutes % 60)

/-- Date, time of day and fraction. -/
def clockText (t : Timestamp) : List Char :=
  yearText t.date.year ++ '-' :: padded 2 t.date.month ++ '-' :: padded 2 t.date.day
    ++ 'T' :: padded 2 t.hour ++ ':' :: padded 2 t.minute ++ ':' :: padded 2 t.clockSecond
    ++ fractionText t.fraction

end Time

namespace Timestamp

open Time

/-- The text of a timestamp, with `Z` for no offset. -/
def internet (t : Timestamp) : String :=
  String.ofList (clockText t ++ (if t.offset = 0 then ['Z'] else minuteOffset [':'] t.offset))

/-- The text of a timestamp, with digits for every offset. -/
def internetOffset (t : Timestamp) : String :=
  String.ofList (clockText t ++ minuteOffset [':'] t.offset)

/-- A number of exactly `width` digits and the text after it. -/
def digitField (width : Nat) (s : List Char) : Except Problem (Nat × List Char) :=
  let digits := s.take width
  if digits.length = width && digits.all Char.isDigit then .ok (digitsValue digits, s.drop width)
  else .error .invalid

/-- The text after one of the given characters. -/
def separator (marks s : List Char) : Except Problem (List Char) :=
  match s with
  | c :: rest => if c ∈ marks then .ok rest else .error .invalid
  | [] => .error .invalid

/-- The seconds and the further nanoseconds of a clock; the sixtieth second of a minute is a leap second. -/
def clockReading? (hour minute second : Nat) : Option (Int × Nat) :=
  let start : Int := hour * 3600 + minute * 60
  if 24 ≤ hour ∨ 60 ≤ minute ∨ 60 < second then none
  else if second = 60 then some (start + 59, 1000000000)
  else some (start + second, 0)

/-- The timestamp that is all of a text. A text that is too short for a date and a time of day is
refused first. -/
def ofInternet (s : List Char) : Except Problem Timestamp := do
  if Scan.shorterThan 19 s then .error .tooShort
  else
    let (year, s) ← digitField 4 s
    let s ← separator ['-'] s
    let (month, s) ← digitField 2 s
    let s ← separator ['-'] s
    let (day, s) ← digitField 2 s
    let date ← ((date? year month day).elim (.error .outOfRange) .ok : Except Problem Date)
    let s ← separator ['T', 't', ' '] s
    let (hour, s) ← digitField 2 s
    let s ← separator [':'] s
    let (minute, s) ← digitField 2 s
    let s ← separator [':'] s
    let (second, s) ← digitField 2 s
    let (nano, s) ←
      match s with
      | '.' :: rest => Scan.fraction rest
      | _ => pure (0, s)
    let (clock, leap) ←
      ((clockReading? hour minute second).elim (.error .outOfRange) .ok : Except Problem (Int × Nat))
    let (offset, s) ← Scan.offset ⟨true, false, true⟩ s
    if !s.isEmpty then .error .tooLong
    else if 86400 ≤ offset.natAbs then .error .outOfRange
    else return ⟨daysFromCivil date * 86400 + clock - offset, nano.toNat + leap, offset⟩

end Timestamp

end Reshape
