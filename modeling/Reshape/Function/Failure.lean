/-
Why a function fails.
-/
import Reshape.Value.Basic

namespace Reshape

inductive Failure where
  | wrongKind (expected : String) (got : Kind)
  /-- A required argument was read from a place that is not there. -/
  | missingField (place : String)
  | invalidArgument (message : String)
  | notConvertible (message : String)
deriving DecidableEq, Repr

def Failure.message : Failure → String
  | wrongKind expected got => s!"expected {expected}, got {got.name}"
  | missingField place => s!"required field {place} is missing"
  | invalidArgument message => message
  | notConvertible message => message

/-- The failure of a function that needs another kind of value. -/
def Failure.ofKind (expected : String) (v : Value) : Failure :=
  wrongKind expected v.kind

end Reshape
