/-
What is wrong with a regular expression.

A problem has the region of the pattern that it is about, and sometimes a second one. `Problem.render` shows
the pattern with both regions marked; a pattern of several lines is shown with its line numbers.
-/
import Reshape.Span

namespace Reshape.Regex

/-- A region of a pattern. -/
structure Region where
  start : Mark
  stop : Mark
deriving DecidableEq, Repr

inductive ProblemKind where
  | classEscapeInvalid
  | classRangeInvalid
  | classRangeLiteral
  | classUnclosed
  | decimalInvalid
  | escapeHexEmpty
  | escapeHexInvalid
  | escapeHexInvalidDigit
  | escapeUnexpectedEnd
  | escapeUnrecognized
  | flagDanglingNegation
  | flagDuplicate
  | flagRepeatedNegation
  | flagUnexpectedEnd
  | flagUnrecognized
  | groupNameDuplicate
  | groupNameEmpty
  | groupNameInvalid
  | groupNameUnexpectedEnd
  | groupUnclosed
  | groupUnopened
  | nestLimit (limit : Nat)
  | repetitionCountInvalid
  | repetitionCountEmpty
  | repetitionCountUnclosed
  | repetitionMissing
  | boundaryUnclosed
  | boundaryUnrecognized
  | boundaryUnexpectedEnd
  | unicodeClassInvalid
  | backreference
  | lookAround
  | unicodeNotAllowed
  | invalidUtf8
  | unknownProperty
  | unknownPropertyValue
deriving DecidableEq, Repr

def ProblemKind.message : ProblemKind → String
  | classEscapeInvalid => "invalid escape sequence found in character class"
  | classRangeInvalid => "invalid character class range, the start must be <= the end"
  | classRangeLiteral => "invalid range boundary, must be a literal"
  | classUnclosed => "unclosed character class"
  | decimalInvalid => "decimal literal invalid"
  | escapeHexEmpty => "hexadecimal literal empty"
  | escapeHexInvalid => "hexadecimal literal is not a Unicode scalar value"
  | escapeHexInvalidDigit => "invalid hexadecimal digit"
  | escapeUnexpectedEnd => "incomplete escape sequence, reached end of pattern prematurely"
  | escapeUnrecognized => "unrecognized escape sequence"
  | flagDanglingNegation => "dangling flag negation operator"
  | flagDuplicate => "duplicate flag"
  | flagRepeatedNegation => "flag negation operator repeated"
  | flagUnexpectedEnd => "expected flag but got end of regex"
  | flagUnrecognized => "unrecognized flag"
  | groupNameDuplicate => "duplicate capture group name"
  | groupNameEmpty => "empty capture group name"
  | groupNameInvalid => "invalid capture group character"
  | groupNameUnexpectedEnd => "unclosed capture group name"
  | groupUnclosed => "unclosed group"
  | groupUnopened => "unopened group"
  | nestLimit limit => s!"exceed the maximum number of nested parentheses/brackets ({limit})"
  | repetitionCountInvalid => "invalid repetition count range, the start must be <= the end"
  | repetitionCountEmpty => "repetition quantifier expects a valid decimal"
  | repetitionCountUnclosed => "unclosed counted repetition"
  | repetitionMissing => "repetition operator missing expression"
  | boundaryUnclosed =>
    "special word boundary assertion is either unclosed or contains an invalid character"
  | boundaryUnrecognized =>
    "unrecognized special word boundary assertion, valid choices are: start, end, start-half or end-half"
  | boundaryUnexpectedEnd =>
    "found either the beginning of a special word boundary or a bounded repetition on a \\b with an "
      ++ "opening brace, but no closing brace"
  | unicodeClassInvalid => "invalid Unicode character class"
  | backreference => "backreferences are not supported"
  | lookAround => "look-around, including look-ahead and look-behind, is not supported"
  | unicodeNotAllowed => "Unicode not allowed here"
  | invalidUtf8 => "pattern can match invalid UTF-8"
  | unknownProperty => "Unicode property not found"
  | unknownPropertyValue => "Unicode property value not found"

structure Problem where
  kind : ProblemKind
  region : Region
  /-- The place of what came first, where something may come only once. -/
  earlier : Option Region := none
deriving DecidableEq, Repr

/-! ### Showing a problem -/

namespace Problem

/-- The lines of a pattern, without a carriage return at their ends. An empty last line does not count. -/
def patternLines (pattern : List Char) : List (List Char) :=
  let lines := pattern.splitOn '\n'
  let lines := if lines.getLast? = some [] then lines.dropLast else lines
  lines.map fun line => if line.getLast? = some '\r' then line.dropLast else line

/-- The regions of a problem that lie on one line, from left to right. -/
def regionsOn (p : Problem) (line : Nat) : List Region :=
  ((p.region :: p.earlier.toList).filter fun r => r.start.line = line ∧ r.stop.line = line).mergeSort
    fun a b => a.start.offset ≤ b.start.offset

/-- Carets under the regions of a line, from column `pos` on, counted from zero. -/
def carets (pos : Nat) : List Region → List Char
  | [] => []
  | r :: rest =>
    let gap := r.start.column - 1 - pos
    let width := max 1 (r.stop.column - r.start.column)
    List.replicate gap ' ' ++ List.replicate width '^' ++ carets (pos + gap + width) rest

/-- A line of the pattern and, if there is something to mark, a line of carets. -/
def notate (p : Problem) (numberWidth : Nat) (line : Nat) (text : List Char) : List (List Char) :=
  let number := Nat.toDigits 10 line
  let lead :=
    if numberWidth = 0 then [' ', ' ', ' ', ' ']
    else List.replicate (numberWidth - number.length) ' ' ++ number ++ [':', ' ']
  let marks :=
    match p.regionsOn line with
    | [] => []
    | rs => [List.replicate lead.length ' ' ++ carets 0 rs]
  (lead ++ text) :: marks

/-- A note for a region of several lines. -/
def spanNote (r : Region) : String :=
  s!"on line {r.start.line} (column {r.start.column}) "
    ++ s!"through line {r.stop.line} (column {r.stop.column - 1})"

/-- The pattern with the problem marked in it. -/
def render (p : Problem) (pattern : List Char) : String :=
  let lines := patternLines pattern
  let manyLines := pattern.contains '\n'
  let count := lines.length + (if pattern.getLast? = some '\n' then 1 else 0)
  let numberWidth := if count ≤ 1 then 0 else (Nat.toDigits 10 count).length
  let notated := (lines.mapIdx fun i text => p.notate numberWidth (i + 1) text).flatten.map String.ofList
  let divider := if manyLines then [String.ofList (List.replicate 79 '~')] else []
  let long := (p.region :: p.earlier.toList).filter fun r => r.start.line ≠ r.stop.line
  let notes := if manyLines then long.map spanNote else []
  "\n".intercalate (["regex parse error:"] ++ divider ++ notated ++ divider ++ notes
    ++ [s!"error: {p.kind.message}"])

end Problem

end Reshape.Regex
