/-
Reading a settings document from the front.

A `Cursor` is what is left of the document and where that starts. A reader that fails says what is wrong at
the place it had come to; what it stands in adds the construct (`within`) and what could have come
(`expecting`).
-/
import Reshape.Toml.Problem

namespace Reshape.Toml

structure Cursor where
  rest : List Char
  pos : Nat := 0

abbrev Reader := StateT Cursor (Except Problem)

/-- Fails at a place. -/
def failAt {α : Type} (pos : Nat) (construct : Option Construct := none)
    (expected : List Expectation := []) (cause : Option Cause := none) : Reader α := do
  let s ← get
  let stop := if pos < s.pos + s.rest.length then pos + 1 else pos
  throw { construct, expected, cause, region := ⟨pos, stop⟩ }

/-- Fails here. -/
def fail {α : Type} (construct : Option Construct := none) (expected : List Expectation := [])
    (cause : Option Cause := none) : Reader α := do
  failAt (← get).pos construct expected cause

/-- Names the construct that a failing reader was in, unless it is known more closely. -/
def within {α : Type} (c : Construct) (r : Reader α) : Reader α :=
  fun s => (r s).mapError fun p => { p with construct := p.construct.or (some c) }

/-- Adds what could have come instead. -/
def expecting {α : Type} (es : List Expectation) (r : Reader α) : Reader α :=
  fun s => (r s).mapError fun p => { p with expected := p.expected ++ es }

def peek : Reader (Option Char) :=
  return (← get).rest.head?

def position : Reader Nat :=
  return (← get).pos

/-- Steps over some characters. -/
def skip (n : Nat := 1) : Reader Unit :=
  modify fun s => ⟨s.rest.drop n, s.pos + min n s.rest.length⟩

/-- Is this text next? -/
def sees (text : String) : Reader Bool :=
  return text.toList.isPrefixOf (← get).rest

/-- Steps over a text if it comes next. -/
def skipText (text : String) : Reader Bool := do
  if ← sees text then
    skip text.length
    return true
  return false

/-- The characters from here on that fit. -/
def takeWhile (fits : Char → Bool) : Reader (List Char) := do
  let taken := (← get).rest.takeWhile fits
  skip taken.length
  return taken

/-! ### Blanks, comments and ends of lines -/

def isBlank (c : Char) : Bool :=
  c == ' ' || c == '\t'

/-- Characters that may stand in a comment. -/
def isPrintable (c : Char) : Bool :=
  c == '\t' || (0x20 ≤ c.toNat && c.toNat != 0x7F)

def blanks : Reader Unit := do
  let _ ← takeWhile isBlank

/-- An end of a line, if it comes next. -/
def lineBreak : Reader Bool := do
  return (← skipText "\n") || (← skipText "\r\n")

/-- The end of a line or of the document. -/
def lineEnd : Reader Unit := do
  if (← peek).isNone then return
  if !(← lineBreak) then fail

def comment : Reader Unit := do
  let _ ← takeWhile isPrintable

/-- What may come after the last part of a line: blanks and a comment. -/
def restOfLine : Reader Unit :=
  expecting [.newline, .sign "#"] do
    blanks
    if (← peek) = some '#' then comment
    lineEnd

/-- Blanks, comments and ends of lines. -/
def gap : Reader Unit := do
  go ((← get).rest.length + 1)
where
  go : Nat → Reader Unit
    | 0 => return
    | fuel + 1 => do
      blanks
      match ← peek with
      | some '#' =>
        comment
        if !(← lineBreak) then fail
        go fuel
      | some '\n' | some '\r' =>
        if !(← lineBreak) then fail
        go fuel
      | _ => return

end Reshape.Toml
