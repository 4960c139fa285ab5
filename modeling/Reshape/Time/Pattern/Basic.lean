/-
Patterns for times: text with fields such as `%Y` or `%-d` in it.

`Pattern.read?` takes a pattern apart. A field that does not exist, or padding on one that is no single
number, makes the whole pattern invalid.
-/
import Reshape.Unicode.Property

namespace Reshape.Time

/-- Fields that are numbers. -/
inductive NumericField where
  | year | century | yearOfCentury
  | isoYear | isoYearOfCentury
  | quarter | month | day | ordinal
  | weekFromSunday | weekFromMonday | isoWeek
  /-- Days of the week, from zero for Sunday. -/
  | dayFromSunday
  /-- Days of the week, from one for Monday. -/
  | dayFromMonday
  | hour | dialHour | minute | second | nano
  /-- Seconds since the start of 1970. -/
  | unix
deriving DecidableEq, Repr

/-- How a number that is too short is filled up. -/
inductive Padding where
  | none
  | zero
  | blank
deriving DecidableEq, Repr

/-- How an offset from UTC is written. -/
inductive OffsetStyle where
  /-- `+0130` -/
  | plain
  /-- `+01:30` -/
  | colon
  /-- `+01:30:00` -/
  | seconds
  /-- `+01` -/
  | hours
  /-- Read only: any of these, `Z`, or hours alone. -/
  | permissive
deriving DecidableEq, Repr

/-- Fields that are no numbers. -/
inductive TextField where
  | shortMonth | longMonth
  | shortWeekday | longWeekday
  | lowerHalfDay | upperHalfDay
  /-- A fraction with its point, as long as needed. -/
  | fraction
  /-- A fraction with its point and that many digits. -/
  | pointFraction (digits : Nat)
  /-- That many digits of a fraction. -/
  | bareFraction (digits : Nat)
  | zoneName
  | offset (style : OffsetStyle)
  /-- The form that timestamps have on the Internet. -/
  | internet
deriving DecidableEq, Repr

inductive PatternItem where
  | literal (text : List Char)
  | blank (text : List Char)
  | number (field : NumericField) (padding : Padding)
  | text (field : TextField)
deriving DecidableEq, Repr

namespace Pattern

open NumericField TextField

private def zeroed (f : NumericField) : PatternItem := .number f .zero
private def blanked (f : NumericField) : PatternItem := .number f .blank
private def mark (c : Char) : PatternItem := .literal [c]

def clockItems : List PatternItem :=
  [zeroed hour, mark ':', zeroed minute, mark ':', zeroed second]

def slashDateItems : List PatternItem :=
  [zeroed month, mark '/', zeroed day, mark '/', zeroed yearOfCentury]

/-- The items of a field named by one character. -/
def fieldItems? : Char → Option (List PatternItem)
  | 'A' => some [.text longWeekday]
  | 'B' => some [.text longMonth]
  | 'C' => some [zeroed century]
  | 'D' | 'x' => some slashDateItems
  | 'F' => some [zeroed year, mark '-', zeroed month, mark '-', zeroed day]
  | 'G' => some [zeroed isoYear]
  | 'H' => some [zeroed hour]
  | 'I' => some [zeroed dialHour]
  | 'M' => some [zeroed minute]
  | 'P' => some [.text lowerHalfDay]
  | 'R' => some [zeroed hour, mark ':', zeroed minute]
  | 'S' => some [zeroed second]
  | 'T' | 'X' => some clockItems
  | 'U' => some [zeroed weekFromSunday]
  | 'V' => some [zeroed isoWeek]
  | 'W' => some [zeroed weekFromMonday]
  | 'Y' => some [zeroed year]
  | 'Z' => some [.text zoneName]
  | 'a' => some [.text shortWeekday]
  | 'b' | 'h' => some [.text shortMonth]
  | 'c' =>
    some ([.text shortWeekday, .blank [' '], .text shortMonth, .blank [' '], blanked day, .blank [' ']]
      ++ clockItems ++ [.blank [' '], zeroed year])
  | 'd' => some [zeroed day]
  | 'e' => some [blanked day]
  | 'f' => some [zeroed nano]
  | 'g' => some [zeroed isoYearOfCentury]
  | 'j' => some [zeroed ordinal]
  | 'k' => some [blanked hour]
  | 'l' => some [blanked dialHour]
  | 'm' => some [zeroed month]
  | 'n' => some [.blank ['\n']]
  | 'p' => some [.text upperHalfDay]
  | 'q' => some [.number quarter .none]
  | 'r' =>
    some [zeroed dialHour, mark ':', zeroed minute, mark ':', zeroed second, .blank [' '],
      .text upperHalfDay]
  | 's' => some [.number unix .none]
  | 't' => some [.blank ['\t']]
  | 'u' => some [.number dayFromMonday .none]
  | 'v' => some [blanked day, mark '-', .text shortMonth, mark '-', zeroed year]
  | 'w' => some [.number dayFromSunday .none]
  | 'y' => some [zeroed yearOfCentury]
  | 'z' => some [.text (.offset .plain)]
  | '+' => some [.text .internet]
  | '%' => some [mark '%']
  | _ => none

/-- The items of a field and the text after it. The field starts after the per cent sign. -/
def readField? : List Char → Option (List PatternItem × List Char)
  | '-' :: c :: rest => padded? Padding.none c rest
  | '0' :: c :: rest => padded? Padding.zero c rest
  | '_' :: c :: rest => padded? Padding.blank c rest
  | '#' :: 'z' :: rest => some ([.text (.offset .permissive)], rest)
  | ':' :: ':' :: ':' :: 'z' :: rest => some ([.text (.offset .hours)], rest)
  | ':' :: ':' :: 'z' :: rest => some ([.text (.offset .seconds)], rest)
  | ':' :: 'z' :: rest => some ([.text (.offset .colon)], rest)
  | '.' :: 'f' :: rest => some ([.text .fraction], rest)
  | '.' :: '3' :: 'f' :: rest => some ([.text (.pointFraction 3)], rest)
  | '.' :: '6' :: 'f' :: rest => some ([.text (.pointFraction 6)], rest)
  | '.' :: '9' :: 'f' :: rest => some ([.text (.pointFraction 9)], rest)
  | '3' :: 'f' :: rest => some ([.text (.bareFraction 3)], rest)
  | '6' :: 'f' :: rest => some ([.text (.bareFraction 6)], rest)
  | '9' :: 'f' :: rest => some ([.text (.bareFraction 9)], rest)
  | c :: rest => (fieldItems? c).map (·, rest)
  | [] => none
where
  /-- A padded field has to be a single number. -/
  padded? (padding : Padding) (c : Char) (rest : List Char) : Option (List PatternItem × List Char) :=
    match fieldItems? c with
    | some [.number f _] => some ([.number f padding], rest)
    | _ => none

/-- The items of a pattern. As much fuel as it has characters is enough. -/
def readItems : Nat → List Char → Option (List PatternItem)
  | 0, _ => some []
  | _ + 1, [] => some []
  | fuel + 1, '%' :: rest => do
    let (items, rest) ← readField? rest
    return items ++ (← readItems fuel rest)
  | fuel + 1, c :: rest =>
    let s := c :: rest
    if Unicode.isBlank c then do
      return .blank (s.takeWhile Unicode.isBlank) :: (← readItems fuel (s.dropWhile Unicode.isBlank))
    else
      let isPlain (c : Char) : Bool := !Unicode.isBlank c && c != '%'
      do return .literal (s.takeWhile isPlain) :: (← readItems fuel (s.dropWhile isPlain))

/-- The items of a pattern, if it is one. -/
def read? (pattern : List Char) : Option (List PatternItem) :=
  readItems pattern.length pattern

end Pattern

end Reshape.Time
