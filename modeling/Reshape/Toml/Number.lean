/-
Numbers and dates of a settings document.

What starts with a digit or a sign is a date, a time, a float or an integer, whichever fits first. A sign that
shows what is meant settles it: after a hyphen behind four digits nothing but a date will do.
-/
import Reshape.Number.Fit
import Reshape.Number.Read
import Reshape.Toml.Node
import Reshape.Toml.Text

namespace Reshape.Toml

/-! ### Digits -/

/-- The value of exactly `count` digits, if they come next. -/
def fixedDigits? (count : Nat) : Reader (Option Nat) := do
  let digits := ((← get).rest.take count).takeWhile Char.isDigit
  if digits.length < count then return none
  return some (digitsValue digits)

/-- Exactly `count` digits of a value in a range. -/
def fixedDigits (count least most : Nat) : Reader Nat := do
  match ← fixedDigits? count with
  | none => fail
  | some n =>
    if n < least || most < n then fail none [] (some .outOfRange)
    skip count
    return n

/-- Digits, with single underscores between them. The expectations are what is missing after an underscore. -/
def digitsFrom (isDigit : Char → Bool) (missing : List Expectation) : Reader (List Char) := do
  match ← peek with
  | some c => if isDigit c then go ((← get).rest.length + 1) else fail
  | none => fail
where
  go : Nat → Reader (List Char)
    | 0 => return []
    | fuel + 1 => do
      let run ← takeWhile isDigit
      if (← peek) = some '_' then
        skip
        match ← peek with
        | some c => if isDigit c then return run ++ (← go fuel) else fail none missing
        | none => fail none missing
      else return run

/-! ### Dates -/

def isLeapYear (year : Nat) : Bool :=
  year % 4 == 0 && (year % 100 != 0 || year % 400 == 0)

def daysInMonth (year month : Nat) : Nat :=
  if month = 2 then (if isLeapYear year then 29 else 28)
  else if month ∈ [4, 6, 9, 11] then 30
  else 31

def sign (text : String) : Reader Unit := do
  if !(← skipText text) then fail

/-- An hour with a colon, if that comes next. -/
def hour? : Reader Bool := do
  let s ← get
  match ← fixedDigits? 2 with
  | some n =>
    if n ≤ 23 && (s.rest.drop 2).head? = some ':' then
      skip 3
      return true
    return false
  | none => return false

/-- The time after the hour: minutes, seconds and perhaps a fraction. -/
def restOfTime : Reader Unit := do
  let _ ← fixedDigits 2 0 59
  sign ":"
  let _ ← fixedDigits 2 0 60
  if (← peek) = some '.' && ((← get).rest.tail.head?.any Char.isDigit) then
    skip
    let _ ← takeWhile Char.isDigit

def timeOffset : Reader Unit :=
  within .timeOffset do
    match ← peek with
    | some 'Z' | some 'z' => skip
    | some '+' | some '-' =>
      skip
      let _ ← fixedDigits 2 0 23
      sign ":"
      let _ ← fixedDigits 2 0 59
    | _ => return

/-- The date after the year, and perhaps a time. -/
def restOfDate (year : Nat) : Reader Unit := do
  let month ← fixedDigits 2 1 12
  sign "-"
  let start ← position
  let day ← fixedDigits 2 1 31
  if daysInMonth year month < day then failAt start none [] (some .outOfRange)
  let before ← get
  match ← peek with
  | some 'T' | some 't' | some ' ' =>
    skip
    if ← hour? then
      restOfTime
      timeOffset
    else set before
  | _ => return

/-- A date or a time, if one comes next. -/
def dateTime? : Reader Bool := do
  let s ← get
  match ← fixedDigits? 4 with
  | some year =>
    if (s.rest.drop 4).head? = some '-' then
      within .dateTime do
        skip 5
        restOfDate year
      return true
    return false
  | none =>
    if ← hour? then
      within .time restOfTime
      return true
    return false

/-! ### Numbers -/

/-- The digits of a whole number: a single one, or several that do not start with zero. -/
def wholeDigits : Reader (List Char) :=
  within .integer do
    match ← peek with
    | some '0' =>
      skip
      return ['0']
    | _ => digitsFrom Char.isDigit [.digit]

/-- The fraction after the point. -/
def fraction : Reader (List Char) := do
  skip
  expecting [.digit] (digitsFrom Char.isDigit [.digit])

/-- The exponent, if one comes next. -/
def exponent? : Reader (Option Int) := do
  match ← peek with
  | some 'e' | some 'E' =>
    skip
    let negative ← skipText "-"
    if !negative then
      let _ ← skipText "+"
    let digits ← digitsFrom Char.isDigit [.digit]
    return some (if negative then -digitsValue digits else digitsValue digits)
  | _ => return none

/-- A number in 64 bits. -/
def int64 (start : Nat) (i : Int) : Reader Scalar := do
  if i ≥ int64Bound then failAt start none [] (some .integerTooLarge)
  if i < -(int64Bound : Int) then failAt start none [] (some .integerTooSmall)
  return .integer i

/-- An integer in another base, after its two signs. -/
def inBase (start base : Nat) (c : Construct) (isDigit : Char → Bool) : Reader Scalar := do
  let digits ← within c do
    skip 2
    digitsFrom isDigit [.digit]
  int64 start (digits.foldl (fun n d => base * n + hexDigit d) 0)

/-- What follows the whole digits of a decimal number, if it is a float. -/
def afterPoint? : Reader (Option (List Char × Int)) :=
  within .float do
    if (← peek) = some '.' then
      let digits ← fraction
      return some (digits, (← exponent?).getD 0)
    else
      match ← exponent? with
      | some e => return some ([], e)
      | none => return none

/-- A float or an integer in base ten. -/
def decimal : Reader Scalar := do
  let start ← position
  let negative ← skipText "-"
  if !negative then
    let _ ← skipText "+"
  if ← skipText "inf" then return .float (if negative then -1.0 / 0.0 else 1.0 / 0.0)
  if ← skipText "nan" then return .float (0.0 / 0.0)
  if !((← peek).any Char.isDigit) then failAt start (some .integer)
  let whole ← wholeDigits
  let value (i : Int) := if negative then -i else i
  match ← afterPoint? with
  | none => int64 start (value (digitsValue whole))
  | some (digits, e) =>
    let f := Float.ofDecimal (digitsValue (whole ++ digits)) (e - digits.length)
    if f == 1.0 / 0.0 && !negative then failAt start (some .float)
    return .float (if negative then -f else f)

/-- A number, date or time. -/
def number : Reader Scalar := do
  let start ← position
  if ← dateTime? then return .dateTime
  if ← sees "0x" then inBase start 16 .hexadecimal isHexDigit
  else if ← sees "0o" then inBase start 8 .octal fun c => '0' ≤ c && c ≤ '7'
  else if ← sees "0b" then inBase start 2 .binary fun c => c == '0' || c == '1'
  else decimal

end Reshape.Toml
