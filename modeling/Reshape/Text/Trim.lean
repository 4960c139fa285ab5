/-
Text without white space at its ends.
-/
import Reshape.Unicode.Property

namespace Reshape.Text

/-- Text without white space at either end. -/
def trim (cs : List Char) : List Char :=
  ((cs.dropWhile Unicode.isBlank).reverse.dropWhile Unicode.isBlank).reverse

end Reshape.Text
