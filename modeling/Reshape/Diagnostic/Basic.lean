/-
Reports of what is wrong with a program.

A diagnostic has a code that never changes, a message and, where known, the region it is about, a label for
that region and a suggestion. A set of diagnostics belongs to one program text and is ordered by region:
by start and then end, those without a region last, equal ones in the order of their arrival. The order is
the same whether a set is built at once (`Diagnostics.ofList`) or one by one (`Diagnostics.insert`).
-/
import Reshape.Span

namespace Reshape

inductive Code where
  | unterminatedString
  | invalidEscape
  | invalidNumber
  | unhandledFallibleCall
  | unnecessaryErrorAssignment
  | unknownFunction
  | arityMismatch
  | syntaxError
  | abortInfallibleCall
  | pathArgumentRequired
  | invalidTimestamp
  | unexpectedCharacter
  /-- A fault of a running program, shown like a diagnostic. -/
  | fault
deriving DecidableEq, Repr

def Code.name : Code → String
  | unterminatedString => "E100"
  | invalidEscape => "E101"
  | invalidNumber => "E102"
  | unhandledFallibleCall => "E103"
  | unnecessaryErrorAssignment => "E104"
  | unknownFunction => "E105"
  | arityMismatch => "E106"
  | syntaxError => "E107"
  | abortInfallibleCall => "E108"
  | pathArgumentRequired => "E109"
  | invalidTimestamp => "E110"
  | unexpectedCharacter => "E111"
  | fault => "E000"

structure Diagnostic where
  code : Code
  message : String
  span : Option Span
  label : Option String := none
  suggestion : Option String := none
deriving DecidableEq, Repr

namespace Diagnostic

/-- The line that names a diagnostic. -/
def headline (d : Diagnostic) : String :=
  s!"error[{d.code.name}]: {d.message}"

/-- What a diagnostic is ordered by. No region has the greatest start. -/
def orderKey (d : Diagnostic) : Nat × Nat :=
  match d.span with
  | some s => (s.start, s.stop)
  | none => (0xFFFFFFFFFFFFFFFF, 0)

/-- Whether a diagnostic may stand before another. -/
def comesBefore (a b : Diagnostic) : Bool :=
  a.orderKey.1 < b.orderKey.1 || (a.orderKey.1 == b.orderKey.1 && a.orderKey.2 ≤ b.orderKey.2)

end Diagnostic

/-- How many items pass a test, if those that pass stand before all others. The item in the middle tells on
which side of it the first that does not pass is. -/
def bisect {α : Type} (passes : α → Bool) (items : List α) : Nat :=
  match _h : items.drop (items.length / 2) with
  | [] => 0
  | middle :: later =>
    if passes middle then items.length / 2 + 1 + bisect passes later
    else bisect passes (items.take (items.length / 2))
termination_by items.length
decreasing_by
  all_goals
    have := congrArg List.length _h
    simp at this
    simp
    omega

/-- The diagnostics of one program text, in order. -/
structure Diagnostics where
  source : String
  items : List Diagnostic
deriving DecidableEq, Repr

namespace Diagnostics

def empty (source : String) : Diagnostics := ⟨source, []⟩

/-- The set of a list, put in order. -/
def ofList (source : String) (items : List Diagnostic) : Diagnostics :=
  ⟨source, items.mergeSort Diagnostic.comesBefore⟩

/-- Adds a diagnostic behind those that may stand before it. -/
def insert (ds : Diagnostics) (d : Diagnostic) : Diagnostics :=
  { ds with items := ds.items.insertIdx (bisect (·.comesBefore d) ds.items) d }

def messages (ds : Diagnostics) : List String :=
  ds.items.map (·.message)

end Diagnostics

end Reshape
