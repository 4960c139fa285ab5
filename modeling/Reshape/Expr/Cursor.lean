/-
Reading expressions from tokens.

A `Cursor` stands before the tokens that are left; it knows the region of the token just read and what has
been noted so far. A `Parse` either gives a result or abandons the statement; either way the cursor it leaves
behind counts. The token of the end is never read past, and stands for itself where the tokens have run out.

Arithmetic that overflows ends the program that reads. A reader notes it (`Note.overflow`) and gives nothing,
and no reader goes on from there.
-/
import Reshape.Diagnostic.Basic
import Reshape.Token.Lexer

namespace Reshape

/-- Arithmetic of the machine has overflowed. -/
structure Overflow
deriving DecidableEq, Repr

def Overflow.message (_ : Overflow) : String :=
  "attempt to negate with overflow"

/-- What readers note: something to report, or that their arithmetic has overflowed. -/
inductive Note where
  | diagnostic (d : Diagnostic)
  | overflow
deriving DecidableEq, Repr

namespace Note

def diagnostic? : Note → Option Diagnostic
  | diagnostic d => some d
  | overflow => none

end Note

structure Cursor where
  tokens : List Token
  /-- The region of the token just read. -/
  last : Span
  /-- What has been noted, the earliest first. -/
  notes : List Note

namespace Cursor

/-- What there is to report. -/
def diagnostics (c : Cursor) : List Diagnostic :=
  c.notes.filterMap Note.diagnostic?

/-- No reader goes on from here. -/
def overflowed (c : Cursor) : Bool :=
  c.notes.contains .overflow

/-- The end of a program whose tokens stop at a region. -/
def endToken (span : Span) : Token :=
  ⟨.eof, "", ⟨span.stop, span.stop, span.line, span.column⟩⟩

/-- The cursor before all of a list of tokens, closed by an end if it has none. -/
def start (tokens : List Token) : Cursor :=
  let closed :=
    match tokens.getLast? with
    | none => [endToken ⟨0, 0, 0, 0⟩]
    | some t => if t.kind = .eof then tokens else tokens ++ [endToken t.span]
  ⟨closed, ⟨0, 0, 0, 0⟩, []⟩

def current (c : Cursor) : Token :=
  c.tokens.headD (endToken c.last)

/-- The kind of the token `n` places ahead. -/
def kindAt (c : Cursor) (n : Nat) : TokenKind :=
  (c.tokens[n]?.map (·.kind)).getD .eof

def kind (c : Cursor) : TokenKind :=
  c.kindAt 0

/-- Past the current token, if it is not the end. -/
def advance (c : Cursor) : Cursor :=
  match c.tokens with
  | [] => c
  | t :: rest => if t.kind = .eof then c else { c with tokens := rest, last := t.span }

def note (c : Cursor) (n : Note) : Cursor :=
  { c with notes := c.notes ++ [n] }

def record (c : Cursor) (d : Diagnostic) : Cursor :=
  c.note (.diagnostic d)

/-- Past tokens of certain kinds. -/
def skipWhile (p : TokenKind → Bool) (c : Cursor) : Cursor :=
  let skipped := c.tokens.takeWhile fun t => p t.kind && t.kind != .eof
  { c with
    tokens := c.tokens.drop skipped.length
    last := (skipped.getLast?.map (·.span)).getD c.last }

def skipNewlines : Cursor → Cursor :=
  skipWhile (· == .newline)

def skipSeparators : Cursor → Cursor :=
  skipWhile fun k => k == .newline || k == .semicolon

/-- The tokens from the next boundary of a statement on: behind a line break or semicolon, or at a brace
that closes a block opened before, which is passed outside of blocks. Braces in between are matched. -/
def boundary (inBlock : Bool) (depth : Nat) (last : Span) : List Token → List Token × Span
  | [] => ([], last)
  | t :: rest =>
    match t.kind with
    | .eof => (t :: rest, last)
    | .newline | .semicolon =>
      if depth = 0 then (rest, t.span) else boundary inBlock depth t.span rest
    | .lBrace => boundary inBlock (depth + 1) t.span rest
    | .rBrace =>
      if depth = 0 then (if inBlock then (t :: rest, last) else (rest, t.span))
      else boundary inBlock (depth - 1) t.span rest
    | _ => boundary inBlock depth t.span rest

/-- On to the next boundary of a statement. -/
def synchronize (inBlock : Bool) (c : Cursor) : Cursor :=
  let (tokens, last) := boundary inBlock 0 c.last c.tokens
  { c with tokens, last }

end Cursor

/-- A reader of tokens: a result, or none when the statement is abandoned, and the cursor after it. -/
def Parse (α : Type) : Type := Cursor → Option α × Cursor

namespace Parse

variable {α β : Type}

instance : Monad Parse where
  pure a c := (some a, c)
  bind p f c :=
    match p c with
    | (some a, c) => f a c
    | (none, c) => (none, c)

/-- The cursor itself. -/
def cursor : Parse Cursor := fun c => (some c, c)

/-- Goes on from a given cursor. -/
def resume (c : Cursor) : Parse Unit := fun _ => (some (), c)

/-- Changes the cursor. -/
def move (f : Cursor → Cursor) : Parse Unit := fun c => (some (), f c)

/-- Abandons the statement. -/
def abandon : Parse α := fun c => (none, c)

/-- Records a diagnostic and abandons the statement. -/
def report (code : Code) (message : String) (span : Span) (label : String) : Parse α := fun c =>
  (none, c.record { code, message, span := some span, label := some label })

/-- Notes that arithmetic has overflowed, with which reading ends. -/
def overflow : Parse α := fun c => (none, c.note .overflow)

/-- Records that the current token is not the expected one. An invalid token has been reported before. -/
def complain (expected : String) (c : Cursor) : Cursor :=
  let t := c.current
  if t.kind = .invalid then c
  else
    c.record
      { code := .syntaxError
        message := s!"unexpected {t.kind.describe}, expected {expected}"
        span := some t.span
        label := some s!"expected {expected}" }

/-- Abandons the statement because the current token is not the expected one. -/
def unexpected (expected : String) : Parse α := fun c => (none, complain expected c)

/-- The current token, and past it. -/
def token : Parse Token := fun c => (some c.current, c.advance)

def skipNewlines : Parse Unit := move Cursor.skipNewlines

/-- A token of a kind that has to come next. -/
def expect (kind : TokenKind) (expected : String) : Parse Token := fun c =>
  if c.kind = kind then token c else unexpected expected c

/-- Whether a token of a kind comes next, which is then read. -/
def accept (kind : TokenKind) : Parse Bool := fun c =>
  if c.kind = kind then (some true, c.advance) else (some false, c)

end Parse

end Reshape
