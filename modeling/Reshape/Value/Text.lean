/-
Values as text.

The text of a value is how a program would write it, as far as programs can: floats keep a fraction,
strings are quoted, and timestamps are literals. Bytes are shown as text with what is no text replaced.
-/
import Reshape.Number.Layout
import Reshape.Text.Quoted
import Reshape.Text.Utf8
import Reshape.Time.Internet
import Reshape.Value.Basic

namespace Reshape

/-- The decimal numeral of an integer. -/
def intText (i : Int) : List Char :=
  if i < 0 then '-' :: Nat.toDigits 10 i.natAbs else Nat.toDigits 10 i.natAbs

namespace Value

mutual

/-- The text of a value. -/
def write : Value → List Char
  | null => ['n', 'u', 'l', 'l']
  | boolean true => ['t', 'r', 'u', 'e']
  | boolean false => ['f', 'a', 'l', 's', 'e']
  | integer i => intText i.toInt
  | float f => (Layout.literal.write f).toList
  | string s => Text.Quoted.quote s.toList
  | timestamp t => 't' :: '\'' :: t.internet.toList ++ ['\'']
  | bytes data => Text.Quoted.quote (Text.decodeLossy data)
  | array items => '[' :: writeItems items ++ [']']
  | object fields => '\x7b' :: ' ' :: writeFields fields ++ [' ', '\x7d']

def writeItems : List Value → List Char
  | [] => []
  | [v] => write v
  | v :: rest => write v ++ ',' :: ' ' :: writeItems rest

def writeFields : List (String × Value) → List Char
  | [] => []
  | [(k, v)] => Text.Quoted.quote k.toList ++ ':' :: ' ' :: write v
  | (k, v) :: rest =>
    Text.Quoted.quote k.toList ++ ':' :: ' ' :: write v ++ ',' :: ' ' :: writeFields rest

end

def text (v : Value) : String :=
  String.ofList v.write

end Value

end Reshape
