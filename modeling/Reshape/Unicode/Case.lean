/-
Upper and lower case of text.

A character may have several characters as its other case: `ß` becomes `SS`. A capital sigma at the end of
a word becomes `ς` and any other `σ`; the end of a word is found by looking past the characters that do
not interrupt it on either side.
-/
import Reshape.Unicode.CaseTable
import Reshape.Unicode.Property

namespace Reshape.Unicode

/-- The expansion of a character in a list of them. -/
private def expansion? (table : List (Nat × List Nat)) (c : Char) : Option (List Char) :=
  (table.lookup c.toNat).map fun codes => codes.map Char.ofNat

def upperChar (c : Char) : List Char :=
  if c.toNat < 0x80 then [c.toUpper]
  else (expansion? CaseTable.upperExpansions c).getD [CaseTable.upper.apply c]

def lowerChar (c : Char) : List Char :=
  if c.toNat < 0x80 then [c.toLower]
  else (expansion? CaseTable.lowerExpansions c).getD [CaseTable.lower.apply c]

def upper (cs : List Char) : List Char :=
  cs.flatMap upperChar

/-- The next character that is not ignorable has a case. -/
private def meetsCased (cs : List Char) : Bool :=
  match cs.dropWhile isCaseIgnorable with
  | c :: _ => isCased c
  | [] => false

/-- Lower case of `cs`, after the characters of `before`, the nearest of them first. -/
def lowerAfter (before : List Char) : List Char → List Char
  | [] => []
  | c :: rest =>
    let mapped :=
      if c = 'Σ' then (if meetsCased before && !meetsCased rest then ['ς'] else ['σ'])
      else lowerChar c
    mapped ++ lowerAfter (c :: before) rest

def lower (cs : List Char) : List Char :=
  lowerAfter [] cs

end Reshape.Unicode
