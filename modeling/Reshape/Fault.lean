/-
Faults that stop a running program.

A fault has a cause and, unless the event itself was refused, the region of the expression that failed.
-/
import Reshape.Diagnostic.Basic
import Reshape.Function.Failure

namespace Reshape

inductive FaultKind where
  | typeMismatch | abortedCall | missingField | invalidArgument | conversionFailure | divisionByZero
  | indexOutOfRange
deriving DecidableEq, Repr

def FaultKind.name : FaultKind → String
  | typeMismatch => "type mismatch"
  | abortedCall => "aborted fallible call"
  | missingField => "missing field"
  | invalidArgument => "invalid argument"
  | conversionFailure => "conversion failure"
  | divisionByZero => "division by zero"
  | indexOutOfRange => "index out of range"

inductive FaultCause where
  | typeMismatch (message : String)
  /-- A call that aborts on failure failed. -/
  | abortedCall (function : String) (failure : Failure)
  | missingField (message : String)
  | invalidArgument (message : String)
  | conversionFailure (message : String)
  | divisionByZero
  | indexOutOfRange (message : String)
deriving DecidableEq, Repr

namespace FaultCause

def kind : FaultCause → FaultKind
  | typeMismatch _ => .typeMismatch
  | abortedCall .. => .abortedCall
  | missingField _ => .missingField
  | invalidArgument _ => .invalidArgument
  | conversionFailure _ => .conversionFailure
  | divisionByZero => .divisionByZero
  | indexOutOfRange _ => .indexOutOfRange

def message : FaultCause → String
  | typeMismatch m => s!"type mismatch: {m}"
  | abortedCall function failure => s!"function call error for \"{function}\": {failure.message}"
  | missingField m => s!"missing field: {m}"
  | invalidArgument m => s!"invalid argument: {m}"
  | conversionFailure m => s!"conversion failure: {m}"
  | divisionByZero => "division by zero"
  | indexOutOfRange m => s!"index out of range: {m}"

end FaultCause

structure Fault where
  cause : FaultCause
  span : Option Span
deriving DecidableEq, Repr

namespace Fault

def kind (f : Fault) : FaultKind := f.cause.kind

def message (f : Fault) : String := f.cause.message

/-- A fault shown like a diagnostic, labelled by its kind. -/
def diagnostic (f : Fault) : Diagnostic where
  code := .fault
  message := f.message
  span := f.span
  label := some f.kind.name

end Fault

/-- The set that shows a fault. -/
def Diagnostics.ofFault (source : String) (f : Fault) : Diagnostics :=
  ⟨source, [f.diagnostic]⟩

end Reshape
