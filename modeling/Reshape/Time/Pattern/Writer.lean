/-
Writing times by a pattern.
-/
import Reshape.Time.Internet
import Reshape.Time.Pattern.Basic

namespace Reshape.Time.Pattern

/-- A number filled up to `width` characters, its sign among them; zeros go behind the sign. -/
def fill (padding : Padding) (width : Nat) (sign digits : List Char) : List Char :=
  let missing := width - (sign.length + digits.length)
  match padding with
  | .none => sign ++ digits
  | .zero => sign ++ List.replicate missing '0' ++ digits
  | .blank => List.replicate missing ' ' ++ sign ++ digits

/-- Two digits. The tens may lie beyond nine: they count on through the characters after `9`. -/
def writeTwo (padding : Padding) (n : Nat) : List Char :=
  let ones := Char.ofNat (48 + n % 10)
  match n / 10, padding with
  | 0, .none => [ones]
  | 0, .blank => [' ', ones]
  | tens, _ => [Char.ofNat (48 + tens), ones]

def writeInt (padding : Padding) (width : Nat) (i : Int) : List Char :=
  fill padding width (if i < 0 then ['-'] else []) (Nat.toDigits 10 i.natAbs)

/-- A year: four digits, or a sign and four digits. -/
def writeYear (padding : Padding) (y : Int) : List Char :=
  if 0 ≤ y ∧ y < 10000 then fill padding 4 [] (Nat.toDigits 10 y.toNat)
  else fill padding 5 [if y < 0 then '-' else '+'] (Nat.toDigits 10 y.natAbs)

/-- The hour on a dial of twelve. -/
def dialHourOf (h : Nat) : Nat :=
  if h % 12 = 0 then 12 else h % 12

/-- The century, of which a byte is kept. -/
def centuryOf (y : Int) : Nat :=
  (y / 100 % 256).toNat

def writeNumber (t : Timestamp) (padding : Padding) : NumericField → List Char
  | .year => writeYear padding t.date.year
  | .century => writeTwo padding (centuryOf t.date.year)
  | .yearOfCentury => writeTwo padding (t.date.year % 100).toNat
  | .isoYear => writeYear padding t.date.isoWeek.1
  | .isoYearOfCentury => writeTwo padding (t.date.isoWeek.1 % 100).toNat
  | .quarter => Nat.toDigits 10 t.date.quarter
  | .month => writeTwo padding t.date.month
  | .day => writeTwo padding t.date.day
  | .ordinal => fill padding 3 [] (Nat.toDigits 10 t.date.ordinal)
  | .weekFromSunday => writeTwo padding (t.date.weekFrom 6)
  | .weekFromMonday => writeTwo padding (t.date.weekFrom 0)
  | .isoWeek => writeTwo padding t.date.isoWeek.2
  | .dayFromSunday => Nat.toDigits 10 ((t.date.weekday + 1) % 7)
  | .dayFromMonday => Nat.toDigits 10 (t.date.weekday + 1)
  | .hour => writeTwo padding t.hour
  | .dialHour => writeTwo padding (dialHourOf t.hour)
  | .minute => writeTwo padding t.minute
  | .second => writeTwo padding t.clockSecond
  | .nano => fill padding 9 [] (Nat.toDigits 10 t.fraction)
  | .unix => writeInt padding 9 t.second

def longMonths : List String :=
  ["January", "February", "March", "April", "May", "June", "July", "August", "September", "October",
    "November", "December"]

def longWeekdays : List String :=
  ["Monday", "Tuesday", "Wednesday", "Thursday", "Friday", "Saturday", "Sunday"]

/-- An offset cut to whole hours or written to the second. -/
def writeOffset (style : OffsetStyle) (offset : Int) : List Char :=
  let sign := if offset < 0 then '-' else '+'
  let n := offset.natAbs
  match style with
  | .plain | .permissive => minuteOffset [] offset
  | .colon => minuteOffset [':'] offset
  | .seconds =>
    sign :: padded 2 (n / 3600) ++ ':' :: padded 2 (n / 60 % 60) ++ ':' :: padded 2 (n % 60)
  | .hours => sign :: padded 2 (n / 3600)

/-- A place without a name goes by its offset, with seconds if it has any. -/
def writeZone (offset : Int) : List Char :=
  let n := offset.natAbs
  let sign := if offset < 0 then '-' else '+'
  sign :: padded 2 (n / 3600) ++ ':' :: padded 2 (n / 60 % 60)
    ++ (if n % 60 = 0 then [] else ':' :: padded 2 (n % 60))

def writeText (t : Timestamp) : TextField → List Char
  | .shortMonth => ((longMonths.getD (t.date.month - 1) "").toList).take 3
  | .longMonth => (longMonths.getD (t.date.month - 1) "").toList
  | .shortWeekday => ((longWeekdays.getD t.date.weekday "").toList).take 3
  | .longWeekday => (longWeekdays.getD t.date.weekday "").toList
  | .lowerHalfDay => if t.hour < 12 then ['a', 'm'] else ['p', 'm']
  | .upperHalfDay => if t.hour < 12 then ['A', 'M'] else ['P', 'M']
  | .fraction => fractionText t.fraction
  | .pointFraction digits => '.' :: padded digits (t.fraction / Nat.pow 10 (9 - digits))
  | .bareFraction digits => padded digits (t.fraction / Nat.pow 10 (9 - digits))
  | .zoneName => writeZone t.offset
  | .offset style => writeOffset style t.offset
  | .internet => t.internetOffset.toList

def writeItem (t : Timestamp) : PatternItem → List Char
  | .literal text | .blank text => text
  | .number field padding => writeNumber t padding field
  | .text field => writeText t field

/-- A time as the items say. -/
def write (items : List PatternItem) (t : Timestamp) : String :=
  String.ofList (items.flatMap (writeItem t))

end Reshape.Time.Pattern
