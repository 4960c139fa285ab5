/-
Tokens of program text.
-/
import Reshape.Path
import Reshape.Span
import Reshape.Time.Internet

namespace Reshape

inductive TokenKind where
  | path (p : Path)
  /-- The name of a function. -/
  | ident (name : String)
  /-- A `!` between the name of a function and its arguments. -/
  | abortMarker
  | string (s : String)
  | integer (i : Int64)
  | float (f : Float)
  | timestamp (t : Timestamp)
  | kwTrue | kwFalse | kwNull
  | kwIf | kwElse
  | assign
  | eq | notEq | lt | ltEq | gt | gtEq
  | plus | minus | star | slash | percent
  | bang | andAnd | orOr
  | lParen | rParen | lBrace | rBrace | lBracket | rBracket
  | comma | colon | semicolon | newline
  /-- Text that is no token; a diagnostic says why. -/
  | invalid
  | eof
deriving DecidableEq

structure Token where
  kind : TokenKind
  /-- The text of the token. -/
  lexeme : String
  span : Span
deriving DecidableEq

namespace TokenKind

/-- A token as it would be written; line breaks and the end have stand-ins. -/
def text : TokenKind → String
  | path p => p.text
  | ident name => name
  | string s => quoted s
  | integer i => String.ofList (intText i.toInt)
  | float f => Layout.literal.write f
  | timestamp t => s!"t'{t.internetOffset}'"
  | abortMarker | bang => "!"
  | kwTrue => "true"
  | kwFalse => "false"
  | kwNull => "null"
  | kwIf => "if"
  | kwElse => "else"
  | assign => "="
  | eq => "=="
  | notEq => "!="
  | lt => "<"
  | ltEq => "<="
  | gt => ">"
  | gtEq => ">="
  | plus => "+"
  | minus => "-"
  | star => "*"
  | slash => "/"
  | percent => "%"
  | andAnd => "&&"
  | orOr => "||"
  | lParen => "("
  | rParen => ")"
  | lBrace => "\x7b"
  | rBrace => "\x7d"
  | lBracket => "["
  | rBracket => "]"
  | comma => ","
  | colon => ":"
  | semicolon => ";"
  | newline => "\\n"
  | invalid => "<invalid>"
  | eof => "<eof>"

/-- A token in the words of a diagnostic. -/
def describe : TokenKind → String
  | path p => s!"field path `{p.text}`"
  | ident name => s!"identifier `{name}`"
  | abortMarker => "`!`"
  | string _ => "string literal"
  | integer _ => "integer literal"
  | float _ => "float literal"
  | timestamp _ => "timestamp literal"
  | kwTrue | kwFalse => "boolean literal"
  | kwNull => "`null`"
  | newline => "end of line"
  | invalid => "invalid token"
  | eof => "end of program"
  | other => s!"`{other.text}`"

/-- Tokens that end a statement. -/
def isTerminator : TokenKind → Bool
  | newline | semicolon | eof => true
  | _ => false

/-- Tokens that can be the last of an operand, after which a minus is an operator. -/
def endsOperand : TokenKind → Bool
  | path _ | ident _ | string _ | integer _ | float _ | timestamp _ | kwTrue | kwFalse | kwNull
  | rParen | rBracket | rBrace | invalid => true
  | _ => false

end TokenKind

end Reshape
