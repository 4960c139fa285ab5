/-
Scanning the parts of a written time.

Each scanner takes text and gives the part at its start with the text that is left. Lengths are in bytes.
-/
import Reshape.Number.Fit
import Reshape.Number.Read
import Reshape.Text.Utf8
import Reshape.Time.Problem
import Reshape.Unicode.Property

namespace Reshape.Time.Scan

/-- Text is missing if there are fewer than `n` bytes. -/
def shorterThan (n : Nat) (s : List Char) : Bool :=
  Text.utf8Length s < n

def skipBlank (s : List Char) : List Char :=
  s.dropWhile Unicode.isBlank

/-- At least `least` and at most `most` digits, as many as there are. -/
def number (least : Nat) (most : Option Nat) (s : List Char) : Except Problem (Int × List Char) :=
  if shorterThan least s then .error .tooShort
  else
    let run := s.takeWhile Char.isDigit
    let digits := (most.map fun n => run.take n).getD run
    let value : Nat := digitsValue digits
    if int64Bound ≤ value then .error .outOfRange
    else if digits.length < least then .error .invalid
    else .ok (value, s.drop digits.length)

/-- One given character. -/
def char (c : Char) : List Char → Except Problem (List Char)
  | [] => .error .tooShort
  | c' :: rest => if c' = c then .ok rest else .error .invalid

/-- A given text. -/
def literal (text s : List Char) : Except Problem (List Char) :=
  if shorterThan (Text.utf8Length text) s then .error .tooShort
  else if text.isPrefixOf s then .ok (s.drop text.length)
  else .error .invalid

/-- The digits of a fraction of a second, as nanoseconds; from the tenth on they are dropped. -/
def fraction (s : List Char) : Except Problem (Int × List Char) := do
  let (v, rest) ← number 1 (some 9) s
  let digits := s.length - rest.length
  return (v * Nat.pow 10 (9 - digits), rest.dropWhile Char.isDigit)

/-- A fraction of exactly `digits` digits, as nanoseconds. -/
def fixedFraction (digits : Nat) (s : List Char) : Except Problem (Int × List Char) := do
  let (v, rest) ← number digits (some digits) s
  return (v * Nat.pow 10 (9 - digits), rest)

/-- The index of the first of `names` that `s` starts with, in any case. -/
def nameIndex (names : List String) (s : List Char) : Option Nat :=
  names.findIdx? fun name => name.toList == (s.take name.length).map Char.toLower

/-- A three-letter name in any case. -/
def shortName (names : List String) (s : List Char) : Except Problem (Nat × List Char) :=
  if shorterThan 3 s then .error .tooShort
  else
    match nameIndex names s with
    | some i => .ok (i, s.drop 3)
    | none => .error .invalid

/-- A three-letter name, with the rest of the full name if it follows. -/
def shortOrLongName (names suffixes : List String) (s : List Char) :
    Except Problem (Nat × List Char) := do
  let (i, rest) ← shortName names s
  let suffix := (suffixes.getD i "").toList
  if suffix == (rest.take suffix.length).map Char.toLower then return (i, rest.drop suffix.length)
  else return (i, rest)

def monthNames : List String :=
  ["jan", "feb", "mar", "apr", "may", "jun", "jul", "aug", "sep", "oct", "nov", "dec"]

def monthSuffixes : List String :=
  ["uary", "ruary", "ch", "il", "", "e", "y", "ust", "tember", "ober", "ember", "ember"]

def weekdayNames : List String :=
  ["mon", "tue", "wed", "thu", "fri", "sat", "sun"]

def weekdaySuffixes : List String :=
  ["day", "sday", "nesday", "rsday", "day", "urday", "day"]

/-- What an offset may look like. -/
structure OffsetRule where
  /-- A `Z` stands for no offset. -/
  allowsZulu : Bool
  /-- Minutes may be missing. -/
  allowsNoMinutes : Bool
  /-- Between hours and minutes: one colon, or any colons and blanks. -/
  strictColon : Bool

/-- The next two bytes, if there are two. A character of several bytes is no digit. -/
def twoDigits (s : List Char) : Option (Char × Char) :=
  if shorterThan 2 s then none
  else
    match s with
    | a :: b :: _ => some (a, b)
    | _ => some ('\x00', '\x00')

/-- An offset from UTC in seconds: a sign, two digits of hours and two of minutes. -/
def offset (rule : OffsetRule) (s : List Char) : Except Problem (Int × List Char) := do
  match s with
  | [] => .error .tooShort
  | c :: rest =>
    if rule.allowsZulu && (c == 'Z' || c == 'z') then return (0, rest)
    let negative ←
      if c = '+' then .ok false
      else if c = '-' || c = '−' then .ok true
      else .error Problem.invalid
    let hours ←
      match twoDigits rest with
      | none => .error Problem.tooShort
      | some (a, b) =>
        if a.isDigit && b.isDigit then .ok (digitsValue [a, b]) else .error Problem.invalid
    let rest := rest.drop 2
    let rest ←
      if rule.strictColon then char ':' rest
      else .ok (rest.dropWhile fun c => c == ':' || Unicode.isBlank c)
    let minutes ←
      match twoDigits rest with
      | some (a, b) =>
        if a.isDigit && b.isDigit then
          if a < '6' then .ok (digitsValue [a, b]) else .error Problem.outOfRange
        else .error Problem.invalid
      | none => if rule.allowsNoMinutes then .ok 0 else .error Problem.tooShort
    let rest ←
      if !shorterThan 2 rest then .ok (rest.drop 2)
      else if rest.isEmpty then .ok rest
      else .error Problem.tooShort
    let seconds : Int := hours * 3600 + minutes * 60
    return (if negative then -seconds else seconds, rest)

end Reshape.Time.Scan
