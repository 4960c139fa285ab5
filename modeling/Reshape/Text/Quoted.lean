/-
Text between double quotes, as program text, diagnostics and values show it.

Quotes and backslashes are escaped, line breaks, tabs and the null character have short escapes, and a
character without a form of its own is written by its code point. All others stand for themselves.
-/
import Reshape.Unicode.Property

namespace Reshape.Text.Quoted

/-- A character that would not be seen, or not as itself. -/
def isHidden (c : Char) : Bool :=
  Unicode.extendsGrapheme c || !Unicode.isPrintable c

/-- A code point in lower-case hexadecimal, without leading zeros. -/
def codeDigits (c : Char) : List Char :=
  Nat.toDigits 16 c.toNat

def escape (c : Char) : List Char :=
  match c with
  | '\x00' => ['\\', '0']
  | '\t' => ['\\', 't']
  | '\r' => ['\\', 'r']
  | '\n' => ['\\', 'n']
  | '\\' => ['\\', '\\']
  | '"' => ['\\', '"']
  | c => if isHidden c then '\\' :: 'u' :: '\x7b' :: codeDigits c ++ ['\x7d'] else [c]

def quote (cs : List Char) : List Char :=
  '"' :: cs.flatMap escape ++ ['"']

end Reshape.Text.Quoted

namespace Reshape

/-- The string between double quotes, with escapes. -/
def quoted (s : String) : String :=
  String.ofList (Text.Quoted.quote s.toList)

end Reshape
