/-
Maps between the cases of characters.

A `CaseMap` sends ranges of code points to ranges, one step at a time or two; a character outside them is
sent to itself.
-/
import Reshape.Unicode.CharSet

namespace Reshape

/-- Code points from `first` to `last` in steps of `step`, sent to those from `target` on. -/
structure CaseRun where
  first : Nat
  last : Nat
  step : Nat
  target : Nat
deriving DecidableEq, Repr

structure CaseMap where
  runs : List CaseRun
deriving Repr

namespace CaseMap

def CaseRun.covers (r : CaseRun) (n : Nat) : Bool :=
  r.first ≤ n && n ≤ r.last && (n - r.first) % r.step == 0

/-- The image of a code point. -/
def applyCode (m : CaseMap) (n : Nat) : Nat :=
  match m.runs.find? (CaseRun.covers · n) with
  | some r => r.target + (n - r.first)
  | none => n

def apply (m : CaseMap) (c : Char) : Char :=
  Char.ofNat (m.applyCode c.toNat)

/-- Every code point that the map moves, with its image. -/
def pairs (m : CaseMap) : List (Nat × Nat) :=
  m.runs.flatMap fun r =>
    (List.range ((r.last - r.first) / r.step + 1)).map fun i =>
      (r.first + r.step * i, r.target + r.step * i)

/-- An entry `LO>TO`, `LO-HI>TO` or `LO-HI/2>TO` of a table. -/
def entryRun (entry : List Char) : CaseRun :=
  let source := entry.takeWhile (· != '>')
  let target := CharSet.hexValue ((entry.dropWhile (· != '>')).drop 1)
  let body := source.takeWhile (· != '/')
  let first := CharSet.hexValue (body.takeWhile (· != '-'))
  let last :=
    match body.dropWhile (· != '-') with
    | [] => first
    | _ :: upper => CharSet.hexValue upper
  { first, last, step := if source.contains '/' then 2 else 1, target }

def ofTable (table : String) : CaseMap :=
  ⟨(CharSet.tableEntries table).map entryRun⟩

end CaseMap

end Reshape
