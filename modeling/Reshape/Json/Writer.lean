/-
The text of JSON documents, without blanks.

Quotes, backslashes and control characters of strings are escaped; all other characters stand for
themselves.
-/
import Reshape.Json.Basic
import Reshape.Number.Layout

namespace Reshape.Json

/-- Two lower-case hexadecimal digits. -/
def hexPair (n : Nat) : List Char :=
  [Nat.digitChar (n / 16 % 16), Nat.digitChar (n % 16)]

def escape (c : Char) : List Char :=
  match c with
  | '"' => ['\\', '"']
  | '\\' => ['\\', '\\']
  | '\x08' => ['\\', 'b']
  | '\x0C' => ['\\', 'f']
  | '\n' => ['\\', 'n']
  | '\r' => ['\\', 'r']
  | '\t' => ['\\', 't']
  | c => if c.toNat < 0x20 then ['\\', 'u', '0', '0'] ++ hexPair c.toNat else [c]

def writeString (s : String) : List Char :=
  '"' :: s.toList.flatMap escape ++ ['"']

def writeNumber : JsonNumber → List Char
  | .natural n => Nat.toDigits 10 n.toNat
  | .negative i => '-' :: Nat.toDigits 10 i.toInt.natAbs
  | .float f => (Layout.json.write f).toList

mutual

def write : Json → List Char
  | .null => "null".toList
  | .boolean true => "true".toList
  | .boolean false => "false".toList
  | .number n => writeNumber n
  | .string s => writeString s
  | .array items => '[' :: writeItems items ++ [']']
  | .object members => '\x7b' :: writeMembers members ++ ['\x7d']

def writeItems : List Json → List Char
  | [] => []
  | [j] => write j
  | j :: rest => write j ++ ',' :: writeItems rest

def writeMembers : List (String × Json) → List Char
  | [] => []
  | [(k, j)] => writeString k ++ ':' :: write j
  | (k, j) :: rest => writeString k ++ ':' :: write j ++ ',' :: writeMembers rest

end

/-- The text of a document. -/
def render (j : Json) : String :=
  String.ofList (write j)

end Reshape.Json
