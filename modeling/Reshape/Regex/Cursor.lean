/-
Reading a pattern from the front.

A `Cursor` is what is left of the pattern, where that starts, and whether blanks and comments stand for
nothing. Readers look at the next character (`peek`), step over it (`skip`) and may step back to a cursor
that they kept.
-/
import Reshape.Regex.Tree
import Reshape.Unicode.Property

namespace Reshape.Regex

structure Cursor where
  rest : List Char
  mark : Mark := .origin
  /-- Blanks and comments stand for nothing. -/
  verbose : Bool := false
  /-- The names of groups so far, with their regions. -/
  names : List (List Char × Region) := []

abbrev Parser := StateT Cursor (Except Problem)

def fail {α : Type} (kind : ProblemKind) (region : Region) (earlier : Option Region := none) : Parser α :=
  throw { kind, region, earlier }

namespace Cursor

/-- The text after blanks and comments. -/
def skipBlanks : Bool → Mark → List Char → Mark × List Char
  | _, m, [] => (m, [])
  | true, m, c :: rest => skipBlanks (c != '\n') (m.next c) rest
  | false, m, c :: rest =>
    if Unicode.isBlank c then skipBlanks false (m.next c) rest
    else if c = '#' then skipBlanks true (m.next c) rest
    else (m, c :: rest)

def pastBlanks (s : Cursor) : Cursor :=
  if s.verbose then
    let (mark, rest) := skipBlanks false s.mark s.rest
    { s with mark, rest }
  else s

def past (s : Cursor) : Cursor :=
  match s.rest with
  | [] => s
  | c :: rest => { s with mark := s.mark.next c, rest }

/-- The next character but one that counts: blanks, and the sign that starts a comment, do not. -/
def ahead (s : Cursor) : Option Char :=
  let later := s.rest.tail
  if s.verbose then
    match later.dropWhile Unicode.isBlank with
    | '#' :: comment => (comment.find? fun c => !Unicode.isBlank c).or later.head?
    | c :: _ => some c
    | [] => later.head?
  else later.head?

end Cursor

/-! ### Readers -/

def peek : Parser (Option Char) :=
  return (← get).rest.head?

def mark : Parser Mark :=
  return (← get).mark

/-- Steps over a character. -/
def skip : Parser Unit :=
  modify Cursor.past

def skipBlanks : Parser Unit :=
  modify Cursor.pastBlanks

/-- Steps over a character and the blanks behind it. Is anything left? -/
def skipOn : Parser Bool := do
  skip
  if (← get).rest.isEmpty then return false
  skipBlanks
  return !(← get).rest.isEmpty

/-- The region from a mark to here. -/
def since (start : Mark) : Parser Region :=
  return ⟨start, ← mark⟩

/-- The empty region here. -/
def here : Parser Region := do
  since (← mark)

/-- The region of the next character. -/
def charRegion : Parser Region := do
  let s ← get
  return ⟨s.mark, s.past.mark⟩

/-- Steps over a text if it comes next. -/
def skipText (text : String) : Parser Bool := do
  let s ← get
  if text.toList.isPrefixOf s.rest then
    set { s with mark := s.mark.past text.toList, rest := s.rest.drop text.length }
    return true
  return false

/-- The characters up to one that does not fit, with the blanks behind each skipped. -/
def takeSpaced (fits : Char → Bool) : Parser (List Char) := do
  go (← get).rest.length
where
  go : Nat → Parser (List Char)
    | 0 => return []
    | fuel + 1 => do
      match ← peek with
      | some c =>
        if fits c then
          let _ ← skipOn
          return c :: (← go fuel)
        else return []
      | none => return []

def skipWhileBlank : Parser Unit := do
  let s ← get
  let blanks := s.rest.takeWhile Unicode.isBlank
  set { s with mark := s.mark.past blanks, rest := s.rest.drop blanks.length }

end Reshape.Regex
