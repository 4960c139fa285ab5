/-
Functions on timestamps.

Patterns are checked before anything is written or read by them. A text without an offset is read on the
clock of the time zone.
-/
import Reshape.Function.Basic
import Reshape.Number.Fit
import Reshape.Text.Quoted
import Reshape.Time.Pattern.Reader
import Reshape.Time.Pattern.Writer
import Reshape.Time.Zone.Named

namespace Reshape.Function

open Time

def now : Function where
  name := "now"
  parameters := []
  fallible := false
  body := .outside fun surroundings _ => .timestamp (surroundings.zone.ofInstant surroundings.now)

/-- The items of a pattern. -/
def patternOf (text : String) : Except Failure (List PatternItem) :=
  match Pattern.read? text.toList with
  | some items => .ok items
  | none => .error (.invalidArgument s!"invalid timestamp format {quoted text}")

def formatTimestamp : Function where
  name := "format_timestamp"
  parameters := [{ keyword := "value" }, { keyword := "format" },
    { keyword := "timezone", required := false }]
  body := .zoned fun zone args => do
    let t ← args.timestamp 0
    let items ← patternOf (← args.string 1)
    let zone ←
      match ← args.optionalString 2 with
      | none => pure zone
      | some name =>
        (Zone.named name).mapError fun e => .invalidArgument s!"invalid argument: {e.message}"
    return .string (Pattern.write items (zone.ofInstant t))

/-- The wall clock that a text shows: a date and a time of day, or else a date alone, at its start. -/
def wallClockOf (items : List PatternItem) (text : List Char) : Except Problem WallClock :=
  let read := Pattern.readClues items text
  match read.bind fun c => c.dateTime 0 with
  | .ok clock => .ok clock
  | .error e =>
    match read.bind Clues.date with
    | .ok d => .ok (Clues.wallClock d (0, 0))
    | .error _ => .error e

/-- The timestamp that a text shows. A text with an offset needs no zone. -/
def timestampOf (zone : Zone) (items : List PatternItem) (text : List Char) : Except String Timestamp :=
  match (Pattern.readClues items text).bind Clues.instant with
  | .ok t => .ok t
  | .error _ => do
    let clock ← (wallClockOf items text).mapError Problem.message
    match zone.ofWallClock? clock with
    | some t => return t
    | none => throw "time does not exist in the configured timezone"

def parseTimestamp : Function where
  name := "parse_timestamp"
  parameters := [{ keyword := "value" }, { keyword := "format" }]
  body := .zoned fun zone args => do
    let text ← args.string 0
    let pattern ← args.string 1
    let items ← patternOf pattern
    match timestampOf zone items text.toList with
    | .ok t => return .timestamp t
    | .error reason =>
      throw (.notConvertible
        s!"unable to parse {quoted text} with format {quoted pattern}: {reason}")

def toUnixTimestamp : Function where
  name := "to_unix_timestamp"
  parameters := [{ keyword := "value" }, { keyword := "unit", required := false }]
  body := .plain fun args => do
    let t ← args.timestamp 0
    let unit := (← args.optionalString 1).getD "seconds"
    let count (i : Int) : Value := .integer (Int64.ofInt i)
    if unit = "seconds" then return count t.second
    else if unit = "milliseconds" then return count t.milliseconds
    else if unit = "nanoseconds" then
      if (fit? t.nanoseconds).isSome then return count t.nanoseconds
      else throw (.invalidArgument "timestamp out of nanosecond range")
    else
      throw (.invalidArgument
        s!"unknown unit {quoted unit}, expected seconds, milliseconds or nanoseconds")

def timeFunctions : List Function := [now, formatTimestamp, parseTimestamp, toUnixTimestamp]

end Reshape.Function
