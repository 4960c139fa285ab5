/-
What starts with a backslash.

`escaped` reads one such part of a pattern: a character that stands for itself or is given by its code point,
a class, or a place in the text. `standing` reads any part that stands alone.
-/
import Reshape.Regex.Cursor
import Reshape.Text.Search

namespace Reshape.Regex

/-! ### Characters by code point -/

def isHexDigit (c : Char) : Bool :=
  c.isDigit || ('a' ≤ c && c ≤ 'f') || ('A' ≤ c && c ≤ 'F')

def hexDigit (c : Char) : Nat :=
  if c.isDigit then c.toNat - 48 else c.toUpper.toNat - 55

def scalar? (digits : List Char) : Option Char :=
  let n := digits.foldl (fun n c => 16 * n + hexDigit c) 0
  if n.isValidChar then some (Char.ofNat n) else none

/-- A given number of hexadecimal digits. -/
def hexDigits : Nat → Parser (List Char)
  | 0 => return []
  | count + 1 => do
    match ← peek with
    | some c =>
      if !isHexDigit c then fail .escapeHexInvalidDigit (← charRegion)
      let more ← skipOn
      if count ≠ 0 && !more then fail .escapeUnexpectedEnd (← here)
      return c :: (← hexDigits count)
    | none => fail .escapeUnexpectedEnd (← here)

/-- The hexadecimal digits up to a closing brace. -/
def bracedDigits (brace : Mark) : Nat → Parser (List Char)
  | 0 => return []
  | fuel + 1 => do
    match ← peek with
    | none => fail .escapeUnexpectedEnd (← since brace)
    | some '}' => return []
    | some c =>
      if !isHexDigit c then fail .escapeHexInvalidDigit (← charRegion)
      let _ ← skipOn
      return c :: (← bracedDigits brace fuel)

/-- The character of a code point, after the letter that introduces it. -/
def codePoint (start : Mark) (count : Nat) : Parser Literal := do
  if !(← skipOn) then fail .escapeUnexpectedEnd (← here)
  let first ← mark
  if (← peek) = some '{' then
    let inside := (← charRegion).stop
    let _ ← skipOn
    let digits ← bracedDigits first ((← get).rest.length + 1)
    let last ← mark
    let _ ← skipOn
    if digits.isEmpty then fail .escapeHexEmpty (← since first)
    match scalar? digits with
    | some c => return ⟨← since start, c, false⟩
    | none => fail .escapeHexInvalid ⟨inside, last⟩
  else
    let digits ← hexDigits count
    match scalar? digits with
    | some c => return ⟨← since start, c, count = 2⟩
    | none => fail .escapeHexInvalid (← since first)

/-! ### Classes of Unicode -/

/-- The signs between a property and its value. They all mean the same. -/
def valueSigns : List (List Char) := [['!', '='], [':'], ['=']]

/-- What a name in braces asks for. -/
def queryOf (name : List Char) : Query :=
  match valueSigns.findSome? fun s => Text.cut? s name with
  | some (property, value) => .value property value
  | none => .name name

def unicodeClass (start : Mark) (negated : Bool) : Parser Atom := do
  if !(← skipOn) then fail .escapeUnexpectedEnd (← here)
  match ← peek with
  | some '{' =>
    let _ ← skipOn
    let name ← takeSpaced (· != '}')
    if (← peek).isNone then fail .escapeUnexpectedEnd (← here)
    skip
    return .unicode (← since start) negated (queryOf name)
  | some '\\' => fail .unicodeClassInvalid (← charRegion)
  | c =>
    let _ ← skipOn
    return .unicode (← since start) negated (.name c.toList)

/-! ### Places -/

def edgeNamed (name : List Char) : Option Assertion :=
  match String.ofList name with
  | "start" => some .wordStart
  | "end" => some .wordEnd
  | "start-half" => some .wordStartHalf
  | "end-half" => some .wordEndHalf
  | _ => none

def isEdgeChar (c : Char) : Bool :=
  ('a' ≤ c && c ≤ 'z') || ('A' ≤ c && c ≤ 'Z') || c == '-'

/-- What follows a word boundary in braces may name an edge of a word. A brace that does not is left for
a repetition. -/
def wordEdge (start : Mark) : Parser Assertion := do
  let before ← get
  if before.rest.head? ≠ some '{' then return .wordBoundary
  if !(← skipOn) then fail .boundaryUnexpectedEnd (← since start)
  let inside ← mark
  if !((← peek).any isEdgeChar) then
    set before
    return .wordBoundary
  let name ← takeSpaced isEdgeChar
  if (← peek) ≠ some '}' then fail .boundaryUnclosed (← since before.mark)
  let last ← mark
  skip
  match edgeNamed name with
  | some edge => return edge
  | none => fail .boundaryUnrecognized ⟨inside, last⟩

/-! ### All of them -/

/-- Characters that mean something, and so are escaped to stand for themselves. -/
def isMeta (c : Char) : Bool :=
  c ∈ ['\\', '.', '+', '*', '?', '(', ')', '|', '[', ']', '\x7b', '\x7d', '^', '$', '#', '&', '-', '~']

/-- An escape changes nothing about other signs of ASCII, but letters, digits and angle brackets are
kept for escapes of their own. -/
def isPlainSign (c : Char) : Bool :=
  c.toNat < 0x80 && !c.isAlphanum && c != '<' && c != '>'

def controlChar? : Char → Option Char
  | 'a' => some '\x07'
  | 'f' => some '\x0C'
  | 't' => some '\t'
  | 'n' => some '\n'
  | 'r' => some '\r'
  | 'v' => some '\x0B'
  | _ => none

def assertion? : Char → Option Assertion
  | 'A' => some .startText
  | 'z' => some .endText
  | 'B' => some .notWordBoundary
  | '<' => some .wordStart
  | '>' => some .wordEnd
  | _ => none

def letterClass? : Char → Option (Bool × LetterClass)
  | 'd' => some (false, .digit)
  | 'D' => some (true, .digit)
  | 's' => some (false, .space)
  | 'S' => some (true, .space)
  | 'w' => some (false, .word)
  | 'W' => some (true, .word)
  | _ => none

/-- What a single character after the backslash stands for. -/
def shortEscape (start : Mark) (c : Char) : Parser Atom := do
  skip
  let region ← since start
  if isMeta c || isPlainSign c then return .literal ⟨region, c, false⟩
  if let some c := controlChar? c then return .literal ⟨region, c, false⟩
  if let some (negated, letters) := letterClass? c then return .letter region negated letters
  if let some a := assertion? c then return .assertion region a
  if c = 'b' then
    let edge ← wordEdge start
    return .assertion (← since start) edge
  fail .escapeUnrecognized region

/-- The part that starts with the backslash here. -/
def escaped : Parser Atom := do
  let start ← mark
  skip
  match ← peek with
  | none => fail .escapeUnexpectedEnd (← since start)
  | some 'x' => return .literal (← codePoint start 2)
  | some 'u' => return .literal (← codePoint start 4)
  | some 'U' => return .literal (← codePoint start 8)
  | some 'p' => unicodeClass start false
  | some 'P' => unicodeClass start true
  | some c =>
    if c.isDigit then fail .backreference ⟨start, (← charRegion).stop⟩
    shortEscape start c

/-- The character here, whatever it is. -/
def verbatim : Parser Literal := do
  let region ← charRegion
  let c ← peek
  skip
  return ⟨region, c.getD ' ', false⟩

/-- The part that stands alone here. -/
def standing : Parser Atom := do
  let region ← charRegion
  match ← peek with
  | some '\\' => escaped
  | some '.' => skip; return .dot region
  | some '^' => skip; return .assertion region .startLine
  | some '$' => skip; return .assertion region .endLine
  | _ => return .literal (← verbatim)

end Reshape.Regex
