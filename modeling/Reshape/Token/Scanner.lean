/-
Scanning one token.

A scanner is given the text from the start of a token on. It gives the token, or what is wrong with it, and
the text behind it. Scanners do not know where in the program they are: an issue names its region by the
number of characters left at its start and at its end.
-/
import Reshape.Diagnostic.Basic
import Reshape.Number.Fit
import Reshape.Number.Read
import Reshape.Token.Basic

namespace Reshape

/-- What is wrong with the text of a token. -/
structure Issue where
  code : Code
  message : String
  label : String
  /-- Characters left at the start of the region. -/
  leftAtStart : Nat
  /-- Characters left at its end. -/
  leftAtStop : Nat
deriving DecidableEq, Repr

namespace Scan

/-- A scanned token and the text behind it. -/
abbrev Outcome (α : Type) := Except Issue α × List Char

def isIdentStart (c : Char) : Bool :=
  c.isAlpha || c == '_'

def isIdentChar (c : Char) : Bool :=
  c.isAlphanum || c == '_'

def issue (code : Code) (message label : String) (start stop : List Char) : Issue :=
  ⟨code, message, label, start.length, stop.length⟩

def startsWithDigit : List Char → Bool
  | c :: _ => c.isDigit
  | [] => false

/-! ### Blanks and comments -/

def isSpace (c : Char) : Bool :=
  c == ' ' || c == '\t' || c == '\r'

theorem length_dropWhile_le (p : Char → Bool) (s : List Char) : (s.dropWhile p).length ≤ s.length :=
  (List.dropWhile_sublist p).length_le

/-- The text behind blanks and comments. Line breaks are no blanks. -/
def skipTrivia : List Char → List Char
  | [] => []
  | c :: rest =>
    if isSpace c then skipTrivia rest
    else if c = '#' then skipTrivia (rest.dropWhile (· != '\n'))
    else c :: rest
termination_by s => s.length
decreasing_by
  · simp
  · have := length_dropWhile_le (· != '\n') rest
    simp; omega

/-! ### Strings -/

def isHexDigit (c : Char) : Bool :=
  c.isDigit || ('a' ≤ c && c ≤ 'f') || ('A' ≤ c && c ≤ 'F')

/-- The value of a hexadecimal numeral. -/
def hexValue (digits : List Char) : Nat :=
  digits.foldl (fun n c => 16 * n + (c.toLower.toNat - if c.isDigit then 48 else 87)) 0

/-- The character of a code point, if it is one. -/
def charOf? (n : Nat) : Option Char :=
  if n < 0xD800 || (0xE000 ≤ n && n ≤ 0x10FFFF) then some (Char.ofNat n) else none

/-- The character between braces: up to seven hexadecimal digits. -/
def braced (hex : List Char) : List Char → Option Char × List Char
  | '\x7d' :: rest => (if hex.isEmpty then none else charOf? (hexValue hex), rest)
  | rest => (none, rest)

/-- The character after `\u`. -/
def codePoint : List Char → Option Char × List Char
  | '\x7b' :: s =>
    braced ((s.take 7).takeWhile isHexDigit) (s.drop ((s.take 7).takeWhile isHexDigit).length)
  | s => (none, s)

/-- The character of an escape, after the backslash. A line break is not part of an escape. -/
def escape : List Char → Option Char × List Char
  | [] => (none, [])
  | c :: rest =>
    match c with
    | 'n' => (some '\n', rest)
    | 't' => (some '\t', rest)
    | 'r' => (some '\r', rest)
    | '0' => (some '\x00', rest)
    | '\\' => (some '\\', rest)
    | '"' => (some '"', rest)
    | '\'' => (some '\'', rest)
    | 'u' => codePoint rest
    | '\n' => (none, c :: rest)
    | _ => (none, rest)

theorem length_braced_le (hex s : List Char) : (braced hex s).2.length ≤ s.length := by
  unfold braced
  split <;> simp

theorem length_codePoint_le (s : List Char) : (codePoint s).2.length ≤ s.length := by
  unfold codePoint
  split
  · rename_i s
    have := length_braced_le ((s.take 7).takeWhile isHexDigit)
      (s.drop ((s.take 7).takeWhile isHexDigit).length)
    simp only [List.length_drop] at this
    simp only [List.length_cons]; omega
  · simp

theorem length_escape_le (s : List Char) : (escape s).2.length ≤ s.length := by
  unfold escape
  split
  · simp
  · split <;> simp
    exact Nat.le_succ_of_le (length_codePoint_le _)

/-- The inside of a string: its characters, the region of the first invalid escape, and the text behind the
closing quote, if the string is closed. -/
structure StringBody where
  text : List Char
  badEscape : Option (Nat × Nat)
  rest : Option (List Char)
deriving DecidableEq

/-- Reads up to the closing quote, whether the escapes on the way are valid or not. -/
def stringBody : List Char → StringBody
  | [] => ⟨[], none, none⟩
  | c :: s =>
    if c = '"' then ⟨[], none, some s⟩
    else if c = '\\' then
      let body := stringBody (escape s).2
      match (escape s).1 with
      | some decoded => { body with text := decoded :: body.text }
      | none => { body with badEscape := some (s.length + 1, (escape s).2.length) }
    else
      let body := stringBody s
      { body with text := c :: body.text }
termination_by s => s.length
decreasing_by
  · have := length_escape_le s
    simp; omega
  · simp

/-- A string between double quotes. -/
def string (s : List Char) : Outcome String :=
  let body := stringBody (s.drop 1)
  match body.rest, body.badEscape with
  | none, _ =>
    (.error (issue .unterminatedString "unterminated string literal" "string is never closed" s []), [])
  | some rest, some (start, stop) =>
    (.error ⟨.invalidEscape, "invalid escape sequence in string literal", "unknown escape", start, stop⟩,
      rest)
  | some rest, none => (.ok (String.ofList body.text), rest)

/-- The inside of a raw string, in which only the closing quote can be escaped, and the text behind it. -/
def rawBody : List Char → Option (List Char × List Char)
  | [] => none
  | '\'' :: rest => some ([], rest)
  | '\\' :: '\'' :: rest => (rawBody rest).map fun (text, left) => ('\'' :: text, left)
  | c :: rest => (rawBody rest).map fun (text, left) => (c :: text, left)

/-- A string `s'…'`. -/
def rawString (s : List Char) : Outcome TokenKind :=
  match rawBody (s.drop 2) with
  | some (text, rest) => (.ok (.string (String.ofList text)), rest)
  | none =>
    (.error (issue .unterminatedString "unterminated raw string literal" "string is never closed" s []),
      [])

/-- A timestamp `t'…'`. -/
def timestamp (s : List Char) : Outcome TokenKind :=
  let text := (s.drop 2).takeWhile (· != '\'')
  match (s.drop 2).dropWhile (· != '\'') with
  | [] =>
    (.error (issue .unterminatedString "unterminated timestamp literal" "literal is never closed" s []),
      [])
  | _ :: rest =>
    match Timestamp.ofInternet text with
    | .ok t => (.ok (.timestamp t), rest)
    | .error problem =>
      (.error (issue .invalidTimestamp s!"invalid timestamp literal: {problem.message}"
        "expected an RFC 3339 timestamp" s rest), rest)

/-! ### Paths -/

def key (s : List Char) : String × List Char :=
  (String.ofList (s.takeWhile isKeyChar), s.dropWhile isKeyChar)

/-- The integer of a numeral with a minus sign or none, if it has 64 bits. -/
def int64? : List Char → Option Int64
  | '-' :: digits => fit? (-digitsValue digits)
  | digits => fit? (digitsValue digits)

/-- An index in brackets. -/
def index (s : List Char) : Outcome Int64 :=
  let sign := (s.drop 1).takeWhile (· == '-') |>.take 1
  let digits := (s.drop (1 + sign.length)).takeWhile Char.isDigit
  match s.drop (1 + sign.length + digits.length) with
  | ']' :: rest =>
    match int64? (sign ++ digits) with
    | some i => (.ok i, rest)
    | none =>
      let text := String.ofList (sign ++ digits)
      (.error (issue .invalidNumber s!"path index `{text}` is out of range"
        "index does not fit in a machine integer" s rest), rest)
  | rest =>
    (.error (issue .syntaxError "unterminated path index" "expected `]` after the index" s rest), rest)

/-- Whether an index follows: a bracket and a digit, or a minus and a digit. -/
def startsIndex : List Char → Bool
  | '[' :: '-' :: c :: _ => c.isDigit
  | '[' :: c :: _ => c.isDigit
  | _ => false

/-- Whether a key follows: a point and a character of keys or a quote. -/
def startsKey : List Char → Bool
  | '.' :: c :: _ => isKeyChar c || c == '"'
  | _ => false

/-- A key after its point, plain or quoted. -/
def keyOrString (s : List Char) : Outcome String :=
  match s with
  | '"' :: _ => string s
  | _ => let (k, rest) := key s; (.ok k, rest)

/-- One segment, if one follows. -/
def segment? (s : List Char) : Option (Outcome Segment) :=
  if startsKey s then
    let (k, rest) := keyOrString (s.drop 1)
    some (k.map .key, rest)
  else if startsIndex s then
    let (i, rest) := index s
    some (i.map .index, rest)
  else none

/-- All segments that follow. As much fuel as there are characters is enough. -/
def segments : Nat → List Char → Outcome Path
  | 0, s => (.ok [], s)
  | fuel + 1, s =>
    match segment? s with
    | none => (.ok [], s)
    | some (.error e, rest) => (.error e, rest)
    | some (.ok segment, rest) =>
      let (path, rest) := segments fuel rest
      (path.map (segment :: ·), rest)

/-- A path. The point of the first key is also the root, so an index can only follow a key. -/
def path (s : List Char) : Outcome TokenKind :=
  if startsKey s then
    let (p, rest) := segments s.length s
    (p.map .path, rest)
  else (.ok (.path []), s.drop 1)

/-! ### Numbers -/

def isNumberChar (c : Char) : Bool :=
  c.isDigit || c == '_'

/-- The fraction that follows, with its point. -/
def fractionPart : List Char → List Char
  | '.' :: s => if startsWithDigit s then '.' :: s.takeWhile isNumberChar else []
  | _ => []

/-- The exponent that follows, with its mark. -/
def exponentPart : List Char → List Char
  | [] => []
  | mark :: s =>
    let sign :=
      match s with
      | c :: _ => if c = '+' || c = '-' then [c] else []
      | [] => []
    let digits := s.drop sign.length
    if (mark = 'e' || mark = 'E') && startsWithDigit digits then
      mark :: sign ++ digits.takeWhile isNumberChar
    else []

/-- The integer part with its minus sign, if it has one. -/
def wholePart : List Char → List Char
  | [] => []
  | c :: s => if c = '-' then c :: s.takeWhile isNumberChar else (c :: s).takeWhile isNumberChar

/-- A number. Underscores separate digits. -/
def number (s : List Char) : Outcome TokenKind :=
  let whole := wholePart s
  let fraction := fractionPart (s.drop whole.length)
  let exponent := exponentPart (s.drop (whole.length + fraction.length))
  let written := whole ++ fraction ++ exponent
  let rest := s.drop written.length
  let junk := rest.takeWhile isKeyChar
  if !junk.isEmpty then
    let text := String.ofList (written ++ junk)
    let rest := rest.drop junk.length
    (.error (issue .invalidNumber s!"invalid numeric literal `{text}`" "not a valid number" s rest), rest)
  else
    let digits := written.filter (· != '_')
    let text := String.ofList digits
    if fraction.isEmpty && exponent.isEmpty then
      match int64? digits with
      | some i => (.ok (.integer i), rest)
      | none =>
        (.error (issue .invalidNumber s!"integer literal `{text}` is out of range"
          "does not fit in a 64-bit signed integer" s rest), rest)
    else
      match Float.read? digits with
      | some f => (.ok (.float f), rest)
      | none =>
        (.error (issue .invalidNumber s!"invalid float literal `{text}`" "not a valid float" s rest),
          rest)

/-! ### Words and symbols -/

def wordKind (name : String) : TokenKind :=
  match name with
  | "if" => .kwIf
  | "else" => .kwElse
  | "true" => .kwTrue
  | "false" => .kwFalse
  | "null" => .kwNull
  | _ => .ident name

def word (s : List Char) : Outcome TokenKind :=
  (.ok (wordKind (String.ofList (s.takeWhile isIdentChar))), s.dropWhile isIdentChar)

/-- The symbol that the text starts with and its number of characters. -/
def symbol? : List Char → Option (TokenKind × Nat)
  | '=' :: '=' :: _ => some (.eq, 2)
  | '=' :: _ => some (.assign, 1)
  | '!' :: '=' :: _ => some (.notEq, 2)
  | '!' :: _ => some (.bang, 1)
  | '<' :: '=' :: _ => some (.ltEq, 2)
  | '<' :: _ => some (.lt, 1)
  | '>' :: '=' :: _ => some (.gtEq, 2)
  | '>' :: _ => some (.gt, 1)
  | '&' :: '&' :: _ => some (.andAnd, 2)
  | '|' :: '|' :: _ => some (.orOr, 2)
  | '+' :: _ => some (.plus, 1)
  | '-' :: _ => some (.minus, 1)
  | '*' :: _ => some (.star, 1)
  | '/' :: _ => some (.slash, 1)
  | '%' :: _ => some (.percent, 1)
  | '(' :: _ => some (.lParen, 1)
  | ')' :: _ => some (.rParen, 1)
  | '\x7b' :: _ => some (.lBrace, 1)
  | '\x7d' :: _ => some (.rBrace, 1)
  | '[' :: _ => some (.lBracket, 1)
  | ']' :: _ => some (.rBracket, 1)
  | ',' :: _ => some (.comma, 1)
  | ':' :: _ => some (.colon, 1)
  | ';' :: _ => some (.semicolon, 1)
  | '\n' :: _ => some (.newline, 1)
  | _ => none

def symbol (s : List Char) : Outcome TokenKind :=
  match symbol? s with
  | some (kind, width) => (.ok kind, s.drop width)
  | none =>
    let text := String.ofList (s.take 1)
    (.error (issue .unexpectedCharacter s!"unexpected character `{text}`" "not valid here" s (s.drop 1)),
      s.drop 1)

/-! ### Tokens -/

/-- What a token has to know of the one before it. -/
structure Before where
  /-- It can end an operand. -/
  isOperand : Bool
  /-- It is a name and ends where this token starts. -/
  isNameHere : Bool
deriving DecidableEq

/-- The token that a text starts with. -/
def token (before : Before) (s : List Char) : Outcome TokenKind :=
  match s with
  | '.' :: _ => path s
  | '"' :: _ => let (text, rest) := string s; (text.map .string, rest)
  | 's' :: '\'' :: _ => rawString s
  | 't' :: '\'' :: _ => timestamp s
  | '-' :: c :: _ => if c.isDigit && !before.isOperand then number s else symbol s
  | '!' :: '(' :: _ => if before.isNameHere then (.ok .abortMarker, s.drop 1) else symbol s
  | c :: _ =>
    if c.isDigit then number s
    else if isIdentStart c then word s
    else symbol s
  | [] => (.ok .eof, [])

/-! ### After an error -/

/-- The text behind a quoted run. A backslash keeps the next character from closing it. -/
def skipQuoted (quote : Char) : List Char → List Char
  | [] => []
  | '\\' :: [] => []
  | '\\' :: _ :: rest => skipQuoted quote rest
  | c :: rest => if c = quote then rest else skipQuoted quote rest

theorem length_skipQuoted_le (quote : Char) (s : List Char) :
    (skipQuoted quote s).length ≤ s.length := by
  fun_induction skipQuoted quote s with
  | case1 => simp
  | case2 => simp
  | case3 _ rest ih => simp; omega
  | case4 rest => simp
  | case5 c rest _ _ _ ih => simp; omega

/-- The text from the end of the statement on: a line break, a semicolon or a brace that closes a block
opened before. Braces in between are matched, but not those in quotes or comments. -/
def recover (depth : Nat) : List Char → List Char
  | [] => []
  | c :: rest =>
    if depth = 0 && (c = '\n' || c = ';' || c = '\x7d') then c :: rest
    else if c = '"' || c = '\'' then recover depth (skipQuoted c rest)
    else if c = '#' then recover depth (rest.dropWhile (· != '\n'))
    else if c = '\x7b' then recover (depth + 1) rest
    else if c = '\x7d' then recover (depth - 1) rest
    else recover depth rest
termination_by s => s.length
decreasing_by
  · have := length_skipQuoted_le c rest
    simp; omega
  · have := length_dropWhile_le (· != '\n') rest
    simp; omega
  all_goals simp

end Scan

end Reshape
