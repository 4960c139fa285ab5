/-
Field paths.

A path leads from the root of an event to a place in it, by the name of a field or by a position in an
array, where negative positions count from the end. The empty path is the root. The text of a path writes
names plainly where they allow it and quoted otherwise.
-/
import Reshape.Text.Quoted
import Reshape.Value.Text

namespace Reshape

/-- One more than the greatest position that a machine word of 64 bits holds, with a sign. -/
def wordBound : Nat := 0x8000000000000000

/-- The position that an integer stands for, if a machine word has room for it. -/
def position? (i : Int64) : Option Int64 :=
  if -(wordBound : Int) ≤ i.toInt ∧ i.toInt < wordBound then some i else none

/-- A machine word has room for every integer. -/
@[simp] theorem position?_eq (i : Int64) : position? i = some i :=
  if_pos ⟨i.le_toInt, i.toInt_lt⟩

inductive Segment where
  | key (name : String)
  | index (i : Int64)
deriving DecidableEq, Repr

abbrev Path := List Segment

/-- Characters of names that need no quotes. -/
def isKeyChar (c : Char) : Bool :=
  c.isAlphanum || c == '_' || c == '@'

def isPlainKey (name : List Char) : Bool :=
  !name.isEmpty && name.all isKeyChar

def Segment.write : Segment → List Char
  | key name =>
    if isPlainKey name.toList then '.' :: name.toList else '.' :: Text.Quoted.quote name.toList
  | index i => '[' :: intText i.toInt ++ [']']

namespace Path

def write (p : Path) : List Char :=
  if p.isEmpty then ['.'] else p.flatMap Segment.write

def text (p : Path) : String :=
  String.ofList p.write

end Path

end Reshape
