/-
JSON documents.

A number keeps the form in which it was read: a natural number below 2^64, a negative integer from -2^63, or
a float. Objects hold their members sorted by name.
-/
import Reshape.Fields
import Reshape.Number.Fit

namespace Reshape

inductive JsonNumber where
  | natural (n : UInt64)
  | negative (i : Int64)
  | float (f : Float)
deriving DecidableEq, Inhabited

inductive Json where
  | null
  | boolean (b : Bool)
  | number (n : JsonNumber)
  | string (s : String)
  | array (items : List Json)
  | object (members : List (String × Json))
deriving Inhabited

/-- The integer that a number holds, if it is one of 64 bits with sign. -/
def JsonNumber.toInt64? : JsonNumber → Option Int64
  | natural n => fit? n.toNat
  | negative i => some i
  | float _ => none

def JsonNumber.toFloat : JsonNumber → Float
  | natural n => n.toFloat
  | negative i => i.toFloat
  | float f => f

/-- The number of an integer. -/
def JsonNumber.ofInt64 (i : Int64) : JsonNumber :=
  if 0 ≤ i then natural i.toUInt64 else negative i

end Reshape
