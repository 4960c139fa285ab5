/-
The function that looks for a pattern in a text.
-/
import Reshape.Function.Basic
import Reshape.Regex.Meaning

namespace Reshape.Function

def matchPattern : Function where
  name := "match"
  parameters := [{ keyword := "value" }, { keyword := "pattern" }]
  body := .plain fun args => do
    let text ← args.string 0
    let pattern ← args.string 1
    match Regex.compile pattern.toList with
    | .ok r => return .boolean (r.isMatch text.toList)
    | .error e => throw (.invalidArgument s!"invalid regular expression: {e.message}")

def patternFunctions : List Function := [matchPattern]

end Reshape.Function
