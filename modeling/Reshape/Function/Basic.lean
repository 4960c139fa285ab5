/-
The functions that programs call.

A function declares its parameters, whether it can fail, and by its body what it depends on besides its
arguments: nothing, the time zone, the event, or the world outside. One body removes a place of the event.
-/
import Reshape.Function.Arguments
import Reshape.Time.Zone.Basic

namespace Reshape

/-- A parameter takes a value, or a place of the event that is not read. -/
inductive ParameterKind where
  | value | path
deriving DecidableEq, Repr

structure Parameter where
  keyword : String
  kind : ParameterKind := .value
  required : Bool := true
deriving DecidableEq, Repr

/-- What a function touches besides its arguments. -/
inductive Effect where
  | none | readsRoot | changesRoot
deriving DecidableEq, Repr

/-- What a run finds outside of its program and event: a time zone, the time of day, and a seed for
identifiers that no other run has. -/
structure Surroundings where
  zone : Zone
  now : Timestamp
  seed : Nat
deriving Repr

inductive Body where
  | plain (run : Arguments → Except Failure Value)
  | zoned (run : Zone → Arguments → Except Failure Value)
  /-- Looks at the event. -/
  | looking (run : Value → Arguments → Value)
  /-- Looks at the surroundings. The number tells the calls of one program apart. -/
  | outside (run : Surroundings → Nat → Value)
  /-- Removes a place of the event; the value is what was there, or null. -/
  | removing

structure Function where
  name : String
  parameters : List Parameter
  /-- The last parameter may be given any number of times. -/
  variadic : Bool := false
  fallible : Bool := true
  body : Body

namespace Function

def effect (f : Function) : Effect :=
  match f.body with
  | .looking _ => .readsRoot
  | .removing => .changesRoot
  | _ => .none

def leastArity (f : Function) : Nat :=
  (f.parameters.filter (·.required)).length

/-- The greatest number of arguments, if there is one. -/
def greatestArity (f : Function) : Option Nat :=
  if f.variadic then none else some f.parameters.length

def admits (f : Function) (count : Nat) : Bool :=
  f.leastArity ≤ count && f.greatestArity.all (count ≤ ·)

/-- The parameter that the argument at `i` belongs to. -/
def parameter? (f : Function) (i : Nat) : Option Parameter :=
  match f.parameters[i]? with
  | some p => some p
  | none => if f.variadic then f.parameters.getLast? else none

/-- What the argument at `i` has to be. -/
def kindAt (f : Function) (i : Nat) : ParameterKind :=
  ((f.parameter? i).map (·.kind)).getD .value

def arityText (f : Function) : String :=
  match f.greatestArity with
  | none => s!"at least {f.leastArity}"
  | some most => if most = f.leastArity then toString most else s!"{f.leastArity} to {most}"

end Function

end Reshape
