/-
What is wrong with a settings document.

A problem names the construct that is not one, what could have come instead and what else is the matter, and
the region of the document that it is about. `Problem.render` shows the line with the region marked.
-/
import Reshape.Text.Utf8

namespace Reshape.Toml

/-- A region of a document, in characters from its start. -/
structure Region where
  start : Nat
  stop : Nat
deriving DecidableEq, Repr

inductive Construct where
  | key | tableHeader | array | inlineTable
  | string | basicString | multilineBasicString | literalString | multilineLiteralString
  | escape | shortCode | longCode
  | integer | hexadecimal | octal | binary | float
  | dateTime | time | timeOffset
deriving DecidableEq, Repr

def Construct.text : Construct → String
  | key => "key"
  | tableHeader => "table header"
  | array => "array"
  | inlineTable => "inline table"
  | string => "string"
  | basicString => "basic string"
  | multilineBasicString => "multiline basic string"
  | literalString => "literal string"
  | multilineLiteralString => "multiline literal string"
  | escape => "escape sequence"
  | shortCode => "unicode 4-digit hex code"
  | longCode => "unicode 8-digit hex code"
  | integer => "integer"
  | hexadecimal => "hexadecimal integer"
  | octal => "octal integer"
  | binary => "binary integer"
  | float => "floating-point number"
  | dateTime => "date-time"
  | time => "time"
  | timeOffset => "time offset"

/-- What could have come. -/
inductive Expectation where
  | sign (text : String)
  | newline | digit | leadingDigit
deriving DecidableEq, Repr

def Expectation.text : Expectation → String
  | sign s => s!"`{s}`"
  | newline => "newline"
  | digit => "digit"
  | leadingDigit => "leading digit"

/-- What is wrong with something well formed. -/
inductive Cause where
  | outOfRange
  | integerTooLarge
  | integerTooSmall
  | tooDeep
  /-- The key is there already: in the table of a path, if it is known which. -/
  | duplicateKey (key : String) (table : Option (List String))
  /-- A dotted key leads into a value of some kind. -/
  | notTable (path : List String) (kind : String)
  | wrongType (found expected : String)
  /-- An array stands for a structure but lacks its first value. -/
  | tooShort (expected : String)
deriving DecidableEq, Repr

/-- The text of a path of keys. -/
def dotted (path : List String) : String :=
  ".".intercalate path

def Cause.text : Cause → String
  | outOfRange => "value is out of range"
  | integerTooLarge => "number too large to fit in target type"
  | integerTooSmall => "number too small to fit in target type"
  | tooDeep => "recursion limit exceeded"
  | duplicateKey key none => s!"duplicate key `{key}`"
  | duplicateKey key (some []) => s!"duplicate key `{key}` in document root"
  | duplicateKey key (some table) => s!"duplicate key `{key}` in table `{dotted table}`"
  | notTable path kind =>
    s!"dotted key `{dotted path}` attempted to extend non-table type ({kind})"
  | wrongType found expected => s!"invalid type: {found}, expected {expected}"
  | tooShort expected => s!"invalid length 0, expected {expected} with 1 element"

structure Problem where
  construct : Option Construct := none
  expected : List Expectation := []
  cause : Option Cause := none
  /-- The keys on the way to a value of the wrong type. -/
  keys : List String := []
  region : Region
deriving DecidableEq, Repr

namespace Problem

def message (p : Problem) : String :=
  let expected :=
    if p.expected.isEmpty then []
    else ["expected " ++ ", ".intercalate (p.expected.map (·.text))]
  "\n".intercalate
    ((p.construct.map fun c => "invalid " ++ c.text).toList ++ expected ++ (p.cause.map (·.text)).toList)

/-! ### Showing a problem -/

/-- The line and column of a character, from zero. What comes after the last character of the document is
on its line. In front of a character beyond ASCII columns are counted in bytes. -/
def lineColumn (document : List Char) (i : Nat) : Nat × Nat :=
  let last := min i (document.length - 1)
  let before := document.take last
  let line := before.count '\n'
  let own := (before.reverse.takeWhile (· != '\n')).reverse
  let column :=
    match document[last]? with
    | some c => if c.toNat < 0x80 || last < i then own.length else Text.utf8Length own
    | none => 0
  (line, column + (i - last))

def render (p : Problem) (document : List Char) : String :=
  let (line, column) := lineColumn document p.region.start
  let content := (document.splitOn '\n')[line]?.getD []
  let marked := (document.drop p.region.start).take (p.region.stop - p.region.start)
  let width := min (Text.utf8Length marked) (Text.utf8Length content - column)
  let number := toString (line + 1)
  let margin := String.ofList (List.replicate (number.length + 1) ' ') ++ "|"
  let carets := String.ofList (List.replicate (column + 1) ' ' ++ List.replicate (max 1 width) '^')
  "\n".intercalate
    [s!"TOML parse error at line {line + 1}, column {column + 1}", margin,
      s!"{number} | {String.ofList content}", margin ++ carets, p.message, ""]

end Problem

end Reshape.Toml
