/-
Words and case variants, as patterns see them.
-/
import Reshape.Unicode.CaseTable
import Reshape.Unicode.Property

namespace Reshape.Unicode

open CategoryTable PropertyTable

/-- The union of some sets. -/
def unionAll (sets : List CharSet) : CharSet :=
  .ofRanges (sets.flatMap (·.ranges))

def letters : CharSet :=
  unionAll [uppercaseLetter, lowercaseLetter, titlecaseLetter, modifierLetter, otherLetter]

def marks : CharSet :=
  unionAll [nonspacingMark, spacingMark, enclosingMark]

def numbers : CharSet :=
  unionAll [decimalNumber, letterNumber, otherNumber]

def alphabetic : CharSet :=
  unionAll [letters, letterNumber, otherAlphabetic]

/-- The two characters that join or part others. -/
def joiners : CharSet := .ofRanges [(0x200C, 0x200D)]

/-- Characters of words: letters and what counts as such, marks, digits, connectors and joiners. -/
def wordChars : CharSet :=
  unionAll [alphabetic, marks, decimalNumber, connectorPunctuation, joiners]

def isWordChar (c : Char) : Bool :=
  if c.toNat < 0x80 then c.isAlphanum || c == '_' else wordChars.contains c

def isAlphabetic (c : Char) : Bool :=
  if c.toNat < 0x80 then c.isAlpha else alphabetic.contains c

def isAlphanumeric (c : Char) : Bool :=
  isAlphabetic c || (if c.toNat < 0x80 then c.isDigit else numbers.contains c)

/-- Every character with a case variant, and the variant that stands for all of its kind. -/
def foldPairs : List (Nat × Nat) := CaseTable.fold.pairs

/-- The set and all case variants of its characters. -/
def closeUnderCase (s : CharSet) : CharSet :=
  let met : CharSet := .ofRanges <| foldPairs.filterMap fun (c, r) =>
    if s.containsCode c || s.containsCode r then some (r, r) else none
  let variants := (foldPairs.filter fun (_, r) => met.containsCode r).map fun (c, _) => (c, c)
  .ofRanges (s.ranges ++ met.ranges ++ variants)

/-- The set and the case variants of its ASCII letters, as far as they are ASCII. -/
def closeUnderAsciiCase (s : CharSet) : CharSet :=
  let variants := (List.range 26).filterMap fun i =>
    if s.containsCode (65 + i) then some (97 + i, 97 + i)
    else if s.containsCode (97 + i) then some (65 + i, 65 + i)
    else none
  .ofRanges (s.ranges ++ variants)

end Reshape.Unicode
