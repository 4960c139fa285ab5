/-
The arguments of a call.

An argument read from a place of the event remembers the place and whether anything was there. An absent
argument has the value null, which only `Arguments.required` tells from a null that was given.
-/
import Reshape.Function.Failure
import Reshape.Path

namespace Reshape

structure Argument where
  value : Value
  /-- False if the argument was read from a place that is not there. -/
  present : Bool
  place : Option Path

namespace Argument

def ofValue (v : Value) : Argument := ⟨v, true, none⟩

/-- What was found at a place. -/
def ofPlace (p : Path) (found : Option Value) : Argument :=
  ⟨found.getD .null, found.isSome, some p⟩

end Argument

abbrev Arguments := List Argument

namespace Arguments

/-- The value of an argument, null if there is none. -/
def value (args : Arguments) (i : Nat) : Value :=
  (args[i]?.map (·.value)).getD .null

/-- The value of an argument, if it was given. -/
def given? (args : Arguments) (i : Nat) : Option Value :=
  args[i]?.map (·.value)

def place? (args : Arguments) (i : Nat) : Option Path :=
  args[i]?.bind (·.place)

/-- The value of an argument that has to be there. -/
def required (args : Arguments) (i : Nat) : Except Failure Value :=
  match args[i]? with
  | some a =>
    if a.present then .ok a.value
    else .error (.missingField ((a.place.map Path.text).getD s!"argument {i + 1}"))
  | none => .error (.invalidArgument s!"missing argument {i + 1}")

def string (args : Arguments) (i : Nat) : Except Failure String := do
  match ← args.required i with
  | .string s => return s
  | other => throw (.ofKind "string" other)

def array (args : Arguments) (i : Nat) : Except Failure (List Value) := do
  match ← args.required i with
  | .array items => return items
  | other => throw (.ofKind "array" other)

def object (args : Arguments) (i : Nat) : Except Failure (Fields Value) := do
  match ← args.required i with
  | .object fields => return fields
  | other => throw (.ofKind "object" other)

def timestamp (args : Arguments) (i : Nat) : Except Failure Timestamp := do
  match ← args.required i with
  | .timestamp t => return t
  | other => throw (.ofKind "timestamp" other)

/-- A string that may be left out or null. -/
def optionalString (args : Arguments) (i : Nat) : Except Failure (Option String) :=
  match args.given? i with
  | none | some .null => .ok none
  | some (.string s) => .ok (some s)
  | some other => .error (.ofKind "string" other)

end Arguments

end Reshape
