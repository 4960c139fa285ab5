/-
Character properties.

Each property is a test on characters, exact for all of Unicode; ASCII is answered without a table.
-/
import Reshape.Unicode.CategoryTable
import Reshape.Unicode.PropertyTable

namespace Reshape.Unicode

open CategoryTable PropertyTable

/-- White space, as trimming and `\s` see it. -/
def isBlank (c : Char) : Bool :=
  if c.toNat < 0x80 then c == ' ' || (9 ≤ c.toNat && c.toNat ≤ 13) else whiteSpace.contains c

/-- Characters that change the look of the one before them instead of standing alone. -/
def extendsGrapheme (c : Char) : Bool :=
  0x300 ≤ c.toNat &&
    (nonspacingMark.contains c || enclosingMark.contains c || otherGraphemeExtend.contains c)

/-- Characters with a form of their own: no controls, no format characters, no unassigned or private code
points, and of the separators only the plain space. -/
def isPrintable (c : Char) : Bool :=
  if c.toNat < 0x7F then 0x20 ≤ c.toNat
  else [control, format, privateUse, unassigned, lineSeparator, paragraphSeparator, spaceSeparator].all
    fun s => !s.contains c

/-- Characters that have a case. -/
def isCased (c : Char) : Bool :=
  if c.toNat < 0x80 then c.isAlpha
  else [uppercaseLetter, lowercaseLetter, titlecaseLetter, otherLowercase, otherUppercase].any
    (·.contains c)

/-- Characters that do not interrupt a cased word. -/
def isCaseIgnorable (c : Char) : Bool :=
  [nonspacingMark, enclosingMark, format, modifierLetter, modifierSymbol, otherCaseIgnorable].any
    (·.contains c)

end Reshape.Unicode
