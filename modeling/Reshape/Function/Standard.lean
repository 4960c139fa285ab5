/-
The library that programs are resolved against.
-/
import Reshape.Function.Collection
import Reshape.Function.Conversion
import Reshape.Function.Encoding
import Reshape.Function.Json
import Reshape.Function.Library
import Reshape.Function.Pattern
import Reshape.Function.Place
import Reshape.Function.Text
import Reshape.Function.Time

namespace Reshape.Library

open Reshape.Function

def standard : Library :=
  jsonFunctions ++ conversionFunctions ++ placeFunctions ++ collectionFunctions ++ textFunctions
    ++ timeFunctions ++ encodingFunctions ++ patternFunctions

/-- The functions of a library with the given names. -/
def only (library : Library) (names : List String) : Library :=
  library.filter fun f => f.name ∈ names

/-- The library with the functions of the given names declared infallible. -/
def infallible (library : Library) (names : List String) : Library :=
  library.map fun f => if f.name ∈ names then { f with fallible := false } else f

end Reshape.Library
