/-
Reading times by a pattern.

The text is matched item by item and each field is noted; what the fields determine is then an instant, a
wall clock or a date.
-/
import Reshape.Time.Fields
import Reshape.Time.Pattern.Basic
import Reshape.Time.Scan

namespace Reshape.Time.Pattern

/-- Where a reader stands: what it knows and what it has not read. -/
abbrev Step := Except Problem (Clues × List Char)

/-- The most digits of a number. -/
def widthOf : NumericField → Option Nat
  | .year | .isoYear => some 4
  | .quarter | .dayFromSunday | .dayFromMonday => some 1
  | .ordinal => some 3
  | .nano => some 9
  | .unix => none
  | _ => some 2

/-- Only years may have a sign; with one, they may be of any length. -/
def isSigned : NumericField → Bool
  | .year | .isoYear => true
  | _ => false

def note (c : Clues) (v : Int) : NumericField → Except Problem Clues
  | .year => c.setYear v
  | .century => c.setCentury v
  | .yearOfCentury => c.setYearOfCentury v
  | .isoYear => c.setIsoYear v
  | .isoYearOfCentury => c.setIsoYearOfCentury v
  | .quarter => c.setQuarter v
  | .month => c.setMonth v
  | .day => c.setDay v
  | .ordinal => c.setOrdinal v
  | .weekFromSunday => c.setWeekFromSunday v
  | .weekFromMonday => c.setWeekFromMonday v
  | .isoWeek => c.setIsoWeek v
  | .dayFromSunday => if v < 7 then c.setWeekday ((v + 6) % 7) else .error .outOfRange
  | .dayFromMonday => c.setWeekday (v - 1)
  | .hour => c.setHour v
  | .dialHour => c.setDialHour v
  | .minute => c.setMinute v
  | .second => c.setSecond v
  | .nano => c.setNano v
  | .unix => c.setUnix v

def readNumber (field : NumericField) (c : Clues) (s : List Char) : Step := do
  let s := Scan.skipBlank s
  let (v, s) ←
    match isSigned field, s with
    | true, '-' :: rest => do
      let (v, s) ← Scan.number 1 none rest
      pure (-v, s)
    | true, '+' :: rest => Scan.number 1 none rest
    | _, _ => Scan.number 1 (widthOf field) s
  return (← note c v field, s)

/-- A half of the day in any case. -/
def readHalfDay (c : Clues) (s : List Char) : Step :=
  if Scan.shorterThan 2 s then .error .tooShort
  else
    match (s.take 2).map Char.toLower with
    | ['a', 'm'] => do return (← c.setHalfDay false, s.drop 2)
    | ['p', 'm'] => do return (← c.setHalfDay true, s.drop 2)
    | _ => .error .invalid

/-- A fraction, if there is a point. -/
def readFraction (scan : List Char → Except Problem (Int × List Char)) (c : Clues) : List Char → Step
  | '.' :: rest => do
    let (v, s) ← scan rest
    return (← c.setNano v, s)
  | s => .ok (c, s)

/-- A literal after blanks, a number before it. -/
def readNumberAfter (mark : Char) (field : NumericField) (c : Clues) (s : List Char) : Step := do
  let s ← Scan.literal [mark] (Scan.skipBlank s)
  readNumber field c s

/-- The Internet form, with blanks around its parts and `UTC` for no offset. -/
def readInternet (c : Clues) (s : List Char) : Step := do
  let (c, s) ← readNumber .year c s
  let (c, s) ← readNumberAfter '-' .month c s
  let (c, s) ← readNumberAfter '-' .day c s
  let s ←
    match s with
    | [] => .error Problem.tooShort
    | mark :: rest => if mark ∈ ['T', 't', ' '] then .ok rest else .error Problem.invalid
  let (c, s) ← readNumber .hour c s
  let (c, s) ← readNumberAfter ':' .minute c s
  let (c, s) ← readNumberAfter ':' .second c s
  let (c, s) ← readFraction Scan.fraction c s
  let s := Scan.skipBlank s
  let (v, s) ←
    if (s.take 3).map Char.toLower = ['u', 't', 'c'] then pure (0, s.drop 3)
    else Scan.offset ⟨true, false, false⟩ s
  return (← c.setOffset v, s)

def readText (field : TextField) (c : Clues) (s : List Char) : Step :=
  match field with
  | .shortMonth => do
    let (i, s) ← Scan.shortName Scan.monthNames s
    return (← c.setMonth (i + 1), s)
  | .longMonth => do
    let (i, s) ← Scan.shortOrLongName Scan.monthNames Scan.monthSuffixes s
    return (← c.setMonth (i + 1), s)
  | .shortWeekday => do
    let (i, s) ← Scan.shortName Scan.weekdayNames s
    return (← c.setWeekday i, s)
  | .longWeekday => do
    let (i, s) ← Scan.shortOrLongName Scan.weekdayNames Scan.weekdaySuffixes s
    return (← c.setWeekday i, s)
  | .lowerHalfDay | .upperHalfDay => readHalfDay c s
  | .fraction => readFraction Scan.fraction c s
  | .pointFraction digits => readFraction (Scan.fixedFraction digits) c s
  | .bareFraction digits => do
    let (v, s) ← Scan.fixedFraction digits s
    return (← c.setNano v, s)
  | .zoneName => .ok (c, s.dropWhile fun ch => !Unicode.isBlank ch)
  | .offset style => do
    let permissive := style = .permissive
    let (v, s) ← Scan.offset ⟨permissive, permissive, false⟩ (Scan.skipBlank s)
    return (← c.setOffset v, s)
  | .internet => readInternet c s

def readItem (c : Clues) (s : List Char) : PatternItem → Step
  | .literal text => do return (c, ← Scan.literal text s)
  | .blank _ => .ok (c, Scan.skipBlank s)
  | .number field _ => readNumber field c s
  | .text field => readText field c s

/-- What a text says of the time, when all of it fits the items. -/
def readClues (items : List PatternItem) (s : List Char) : Except Problem Clues := do
  let (c, s) ← items.foldlM (fun (c, s) item => readItem c s item) (({} : Clues), s)
  if s.isEmpty then return c else .error .tooLong

end Reshape.Time.Pattern
