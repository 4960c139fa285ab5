/-
Functions between kinds of values.

A conversion refuses a kind of value that it never converts, and reports a value of another kind that has
no counterpart. An assertion lets one kind through unchanged.
-/
import Reshape.Function.Text
import Reshape.Number.Binary
import Reshape.Number.Fit
import Reshape.Number.Read
import Reshape.Value.Text

namespace Reshape

/-- The integer that is all of a numeral, with a sign or none, if it has 64 bits. -/
def readInt64? (cs : List Char) : Option Int64 :=
  let (negative, digits) :=
    match cs with
    | '-' :: rest => (true, rest)
    | '+' :: rest => (false, rest)
    | rest => (false, rest)
  let i : Int := if negative then -digitsValue digits else digitsValue digits
  if digits.isEmpty || !digits.all Char.isDigit then none else fit? i

/-- The integer part of a float, if it has 64 bits. -/
def Float.toInt64? (f : Float) : Option Int64 :=
  (Binary.ofFloat f).truncate.bind fit?

/-- The timestamp of a number of seconds since the start of 1970, rounded to nanoseconds. -/
def Timestamp.ofFloat? (f : Float) : Option Timestamp :=
  if f.isFinite then
    let whole := f.floor
    let nano := ((f - whole) * 1000000000.0).round.toUInt32.toNat
    Timestamp.ofUnix? (f.floor.toInt64.toInt) (min nano 999999999)
  else none

namespace Function

/-- A value that has no counterpart of the wanted kind. -/
def notConvertible (v : Value) (target : String) : Failure :=
  .notConvertible s!"unable to convert {v.text} to {target}"

private def conversion (name : String) (run : Value → Except Failure Value) : Function where
  name := name
  parameters := [{ keyword := "value" }]
  body := .plain fun args => do run (← args.required 0)

/-- The result of a conversion, or the failure to convert. -/
private def converted (v : Value) (target : String) (result : Option Value) : Except Failure Value :=
  result.elim (.error (notConvertible v target)) .ok

def toInt : Function := conversion "to_int" fun v =>
  match v with
  | .integer _ => .ok v
  | .float f => converted v "integer" ((Float.toInt64? f).map .integer)
  | .boolean b => .ok (.integer (if b then 1 else 0))
  | .null => .ok (.integer 0)
  | .string s => converted v "integer" ((readInt64? (Text.trim s.toList)).map .integer)
  | .timestamp t => .ok (.integer (Int64.ofInt t.second))
  | other => .error (.ofKind "integer-convertible value" other)

def toFloat : Function := conversion "to_float" fun v =>
  match v with
  | .float _ => .ok v
  | .integer i => .ok (.float i.toFloat)
  | .boolean b => .ok (.float (if b then 1.0 else 0.0))
  | .null => .ok (.float 0.0)
  | .string s => converted v "float" ((Float.read? (Text.trim s.toList)).map .float)
  | .timestamp t =>
    .ok (.float ((Int64.ofInt t.second).toFloat + (UInt64.ofNat t.nano).toFloat / 1000000000.0))
  | other => .error (.ofKind "float-convertible value" other)

/-- The words that stand for a truth value, in any case. -/
def readBoolean? (s : List Char) : Option Bool :=
  let word := String.ofList (s.map Char.toLower)
  if word ∈ ["true", "t", "yes", "y", "1"] then some true
  else if word ∈ ["false", "f", "no", "n", "0"] then some false
  else none

def toBool : Function := conversion "to_bool" fun v =>
  match v with
  | .boolean _ => .ok v
  | .integer i => .ok (.boolean (i != 0))
  | .float f => .ok (.boolean (f != 0.0))
  | .null => .ok (.boolean false)
  | .string s => converted v "boolean" ((readBoolean? (Text.trim s.toList)).map .boolean)
  | other => .error (.ofKind "boolean-convertible value" other)

def toString : Function := conversion "to_string" fun v =>
  match v with
  | .string _ => .ok v
  | .integer i => .ok (textValue (intText i.toInt))
  | .float f => .ok (.string (Layout.plain.write f))
  | .boolean b => .ok (.string (if b then "true" else "false"))
  | .null => .ok (.string "")
  | .timestamp t => .ok (.string t.internet)
  | .bytes data => .ok (textValue (Text.decodeLossy data))
  | other => .error (.ofKind "scalar value" other)

def toTimestamp : Function := conversion "to_timestamp" fun v =>
  let counterpart (t : Option Timestamp) := converted v "timestamp" (t.map .timestamp)
  match v with
  | .timestamp _ => .ok v
  | .integer i => counterpart (Timestamp.ofUnix? i.toInt 0)
  | .float f => counterpart (Timestamp.ofFloat? f)
  | .string s => counterpart (Timestamp.ofInternet (Text.trim s.toList)).toOption
  | other => .error (.ofKind "timestamp-convertible value" other)

/-- Lets one kind of value through. -/
private def assertion (name : String) (kind : Kind) : Function :=
  conversion name fun v => if v.kind = kind then .ok v else .error (.ofKind kind.name v)

def string : Function := assertion "string" .string
def int : Function := assertion "int" .integer
def float : Function := assertion "float" .float
def bool : Function := assertion "bool" .boolean
def array : Function := assertion "array" .array
def object : Function := assertion "object" .object

def typeOf : Function where
  name := "type_of"
  parameters := [{ keyword := "value" }]
  fallible := false
  body := .plain fun args => .ok (.string (args.value 0).kind.name)

def isNull : Function where
  name := "is_null"
  parameters := [{ keyword := "value" }]
  fallible := false
  body := .plain fun args => .ok (.boolean (args.value 0).isNull)

def conversionFunctions : List Function :=
  [toInt, toFloat, toBool, toString, toTimestamp, string, int, float, bool, array, object, typeOf,
    isNull]

end Function

end Reshape
