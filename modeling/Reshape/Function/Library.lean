/-
Libraries of functions.

A program is resolved against a library. `Library.suggest?` finds the name that a misspelt one may have
meant: the nearest, and of several the first in alphabetical order, if it is near enough.
-/
import Reshape.Function.Basic
import Reshape.Text.Distance

namespace Reshape

abbrev Library := List Function

namespace Library

def find? (library : Library) (name : String) : Option Function :=
  List.find? (fun f => f.name == name) library

/-- The names in alphabetical order. -/
def names (library : Library) : List String :=
  (library.map (·.name)).mergeSort fun a b => a ≤ b

/-- The first of the nearest candidates, with its distance. -/
def nearest (name : List Char) : List String → Option (Nat × String)
  | [] => none
  | candidate :: rest =>
    let d := Text.distance name candidate.toList
    match nearest name rest with
    | some (d', other) => if d ≤ d' then some (d, candidate) else some (d', other)
    | none => some (d, candidate)

/-- How far a name may be from the one that was written: a third of its characters, and at least one. -/
def tolerance (name : List Char) : Nat :=
  max (name.length / 3) 1

def suggest? (library : Library) (name : String) : Option String :=
  match nearest name.toList library.names with
  | some (d, candidate) => if d ≤ tolerance name.toList then some candidate else none
  | none => none

end Library

end Reshape
