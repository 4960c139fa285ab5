/-
Diagnostics as text, with an excerpt of the program.

The excerpt is the line on which a region starts, with carets under the part of the region on that line. A
region that starts inside a character has no excerpt. Colours are the terminal's.
-/
import Reshape.Diagnostic.Basic
import Reshape.Text.Utf8

namespace Reshape

/-- Cuts text after so many bytes, if a character ends there. -/
def splitAtByte : Nat → List Char → Option (List Char × List Char)
  | 0, cs => some ([], cs)
  | _ + 1, [] => none
  | n + 1, c :: rest =>
    if c.utf8Size ≤ n + 1 then
      (splitAtByte (n + 1 - c.utf8Size) rest).map fun (before, after) => (c :: before, after)
    else none
termination_by _ cs => cs.length

/-- The part of a region that lies on the line of its start. -/
structure Excerpt where
  line : Nat
  /-- The text of the line, without carriage returns at its end. -/
  text : List Char
  /-- Characters before the region. -/
  indent : Nat
  /-- Characters of the region, at least one. -/
  width : Nat
deriving DecidableEq, Repr

/-- Text without a certain character at its end. -/
def trimEnd (c : Char) (cs : List Char) : List Char :=
  (cs.reverse.dropWhile (· == c)).reverse

/-- The excerpt for a region, its offsets taken as ends of the text where they lie beyond it. -/
def locate (source : List Char) (span : Span) : Option Excerpt := do
  let (before, after) ← splitAtByte (min span.start (Text.utf8Length source)) source
  let lead := (before.reverse.takeWhile (· != '\n')).reverse
  let tail := after.takeWhile (· != '\n')
  let (marked, _) ← splitAtByte (min (span.stop - span.start) (Text.utf8Length tail)) tail
  return {
    line := span.line
    text := trimEnd '\r' (lead ++ tail)
    indent := lead.length
    width := max 1 marked.length }

/-- A style of the terminal, by its code. -/
structure Style where
  code : String

namespace Style

def boldRed : Style := ⟨"1;31"⟩
def bold : Style := ⟨"1"⟩
def cyan : Style := ⟨"36"⟩
def blue : Style := ⟨"34"⟩
def red : Style := ⟨"31"⟩

/-- Text in a style. A reset inside the text is followed by the style again. -/
def paint (style : Style) (coloured : Bool) (text : String) : String :=
  if coloured then
    let on := s!"\x1b[{style.code}m"
    on ++ text.replace "\x1b[0m" ("\x1b[0m" ++ on) ++ "\x1b[0m"
  else text

end Style

namespace Diagnostic

def blanks (n : Nat) : String :=
  String.ofList (List.replicate n ' ')

/-- The lines of a diagnostic. -/
def lines (source : List Char) (coloured : Bool) (d : Diagnostic) : List String :=
  let paint (style : Style) (text : String) := style.paint coloured text
  let header := paint .boldRed s!"error[{d.code.name}]" ++ ": " ++ paint .bold d.message
  let help (indent : String) : List String :=
    d.suggestion.toList.map fun text => indent ++ " = " ++ paint .cyan "help" ++ ": " ++ text
  match d.span.bind (locate source) with
  | none => header :: help " "
  | some e =>
    let number := toString e.line
    let gutter := blanks number.length
    let bar := paint .blue "│"
    let corner := paint .blue " ┌─"
    let indent := blanks e.indent
    let carets := paint .boldRed (String.ofList (List.replicate e.width '^'))
    let label := (d.label.map fun text => " " ++ paint .red text).getD ""
    [ header,
      s!"{gutter}{corner} :{number}:{e.indent + 1}",
      s!"{gutter} {bar}",
      paint .blue number ++ " " ++ bar ++ " " ++ String.ofList e.text,
      s!"{gutter} {bar} {indent}{carets}{label}",
      s!"{gutter} {bar}" ] ++ help gutter

def render (source : List Char) (coloured : Bool) (d : Diagnostic) : String :=
  String.join ((d.lines source coloured).map (· ++ "\n"))

end Diagnostic

/-- The text of all diagnostics, with empty lines between them. -/
def Diagnostics.render (ds : Diagnostics) (coloured : Bool) : String :=
  "\n".intercalate (ds.items.map (·.render ds.source.toList coloured))

end Reshape
