/-
Functions on strings, except those that need regular expressions.
-/
import Reshape.Function.Basic
import Reshape.Text.Search
import Reshape.Text.Trim
import Reshape.Unicode.Case

namespace Reshape.Function

/-- The characters as a string value. -/
def textValue (cs : List Char) : Value :=
  .string (String.ofList cs)

private def onText (run : List Char → Value) : Body :=
  .plain fun args => do return run (← args.string 0).toList

private def onTexts (run : List Char → List Char → Value) : Body :=
  .plain fun args => do
    let s ← args.string 0
    let pattern ← args.string 1
    return run s.toList pattern.toList

private def valueAndSubstring : List Parameter :=
  [{ keyword := "value" }, { keyword := "substring" }]

def upcase : Function where
  name := "upcase"
  parameters := [{ keyword := "value" }]
  body := onText fun s => textValue (Unicode.upper s)

def downcase : Function where
  name := "downcase"
  parameters := [{ keyword := "value" }]
  body := onText fun s => textValue (Unicode.lower s)

def contains : Function where
  name := "contains"
  parameters := valueAndSubstring
  body := onTexts fun s pattern => .boolean (Text.contains pattern s)

def startsWith : Function where
  name := "starts_with"
  parameters := valueAndSubstring
  body := onTexts fun s pattern => .boolean (pattern.isPrefixOf s)

def endsWith : Function where
  name := "ends_with"
  parameters := valueAndSubstring
  body := onTexts fun s pattern => .boolean (pattern.isSuffixOf s)

def replace : Function where
  name := "replace"
  parameters := [{ keyword := "value" }, { keyword := "pattern" }, { keyword := "with" }]
  body := .plain fun args => do
    let s ← args.string 0
    let pattern ← args.string 1
    let new ← args.string 2
    if pattern.isEmpty then throw (.invalidArgument "replace pattern must not be empty")
    return textValue (Text.replace pattern.toList new.toList s.toList)

/-- The empty pattern splits a text into its characters. -/
def split : Function where
  name := "split"
  parameters := [{ keyword := "value" }, { keyword := "pattern" }]
  body := onTexts fun s pattern =>
    .array (if pattern.isEmpty then s.map fun c => textValue [c]
      else (Text.splitOn pattern s).map textValue)

def stripWhitespace : Function where
  name := "strip_whitespace"
  parameters := [{ keyword := "value" }]
  body := onText fun s => textValue (Text.trim s)

def textFunctions : List Function :=
  [upcase, downcase, contains, startsWith, endsWith, replace, split, stripWhitespace]

end Reshape.Function
