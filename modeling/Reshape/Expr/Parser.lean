/-
From tokens to expressions.

Statements are read from the top down and binary operators by their levels, the tightest last. A syntax
error is recorded and the reader goes on behind the statement, so that one pass finds every problem. The
sign of an index is applied by the machine's arithmetic, which has no opposite of the least integer: such an
index ends the reading of the whole program, with nothing found and nothing reported.

The readers call each other; each call spends fuel, and `Expr.fuelFor` gives more than a list of tokens can
need, since at most ten calls are open for each token that is left.
-/
import Reshape.Expr.Basic
import Reshape.Expr.Cursor
import Reshape.Number.Fit

namespace Reshape

/-- The operator of a token. -/
def BinaryOp.ofToken? : TokenKind → Option BinaryOp
  | .orOr => some .or
  | .andAnd => some .and
  | .eq => some .equal
  | .notEq => some .notEqual
  | .lt => some .less
  | .ltEq => some .lessOrEqual
  | .gt => some .greater
  | .gtEq => some .greaterOrEqual
  | .plus => some .add
  | .minus => some .subtract
  | .star => some .multiply
  | .slash => some .divide
  | .percent => some .remainder
  | _ => none

/-- How tightly an operator binds. -/
def BinaryOp.level : BinaryOp → Nat
  | or => 1
  | and => 2
  | equal | notEqual | less | lessOrEqual | greater | greaterOrEqual => 3
  | add | subtract => 4
  | multiply | divide | remainder => 5

/-- The level that no binary operator reaches, at which the operand of a prefix operator is read. -/
def UnaryOp.level : Nat := 6

def UnaryOp.ofToken? : TokenKind → Option UnaryOp
  | .minus => some .negate
  | .bang => some .not
  | _ => none

/-- The literal of a token. -/
def Scalar.ofToken? : TokenKind → Option Scalar
  | .kwNull => some .null
  | .kwTrue => some (.boolean true)
  | .kwFalse => some (.boolean false)
  | .integer i => some (.integer i)
  | .float f => some (.float f)
  | .string s => some (.string s)
  | .timestamp t => some (.timestamp t)
  | _ => none

namespace Expr

open Parse

/-- A prefix operator applied to an operand. A minus before a number is part of the number, unless the
number is the least integer. -/
def applyPrefix (op : UnaryOp) (span : Span) (operand : Expr) : Expr :=
  match op, operand with
  | .negate, literal _ (.integer i) =>
    if i = Int64.minValue then unary span op operand else literal span (.integer (-i))
  | .negate, literal _ (.float f) => literal span (.float (-f))
  | _, _ => unary span op operand

/-- Whether a brace starts an object: it is closed at once or a key follows. -/
def startsObject (c : Cursor) : Bool :=
  match (c.tokens.drop 1).dropWhile (·.kind == .newline) with
  | [] => false
  | t :: rest =>
    match t.kind with
    | .rBrace => true
    | .string _ => (rest.head?.map (·.kind)) == some .colon
    | _ => false

/-- An integer with its sign changed, if the minus in front of it was read. -/
def signed (negative : Bool) (i : Int64) : Parse Int64 :=
  if negative then
    match fit? (-i.toInt) with
    | some opposite => pure opposite
    | none => overflow
  else pure i

/-- The position that an integer stands for, in a machine word. -/
def position (i : Int64) (span : Span) : Parse Int64 :=
  match position? i with
  | some p => pure p
  | none =>
    report .invalidNumber s!"index `{i}` is out of range" span "index does not fit in a machine integer"

/-- The index in brackets behind a value. The sign may stand apart from the number. -/
def indexSuffix : Parse Int64 := do
  let _ ← expect .lBracket "`[`"
  let negative ← accept .minus
  let c ← cursor
  match c.kind with
  | .integer i =>
    let _ ← token
    let _ ← expect .rBracket "`]`"
    position (← signed negative i) c.current.span
  | _ => unexpected "integer index"

/-- The path in a suffix that touches the expression before it. -/
def suffix? (e : Expr) (c : Cursor) : Option (Parse Path) :=
  if c.current.span.start = e.span.stop then
    match c.kind with
    | .path [] => none
    | .path p => some do let _ ← token; return p
    | .lBracket => some do return [.index (← indexSuffix)]
    | _ => none
  else none

/-- The keys and indices behind a value. -/
def suffixes : Nat → Expr → Parse Expr
  | 0, e => pure e
  | fuel + 1, e => do
    match suffix? e (← cursor) with
    | none => return e
    | some read =>
      let p ← read
      suffixes fuel (access (e.span.join (← cursor).last) e p)

def target : Parse Target := do
  match (← cursor).kind with
  | .path p => return ⟨p, (← token).span⟩
  | _ => unexpected "field path"

mutual

/-- An expression of operators that bind tighter than `level`. -/
def expression : Nat → Nat → Parse Expr
  | 0, _ => abandon
  | fuel + 1, level => do operators fuel level (← prefixed fuel)

/-- The operators behind a left operand. -/
def operators : Nat → Nat → Expr → Parse Expr
  | 0, _, left => pure left
  | fuel + 1, level, left => do
    match BinaryOp.ofToken? (← cursor).kind with
    | none => return left
    | some op =>
      if op.level ≤ level then return left
      else
        let _ ← token
        skipNewlines
        let right ← expression fuel op.level
        operators fuel level (binary (left.span.join right.span) op left right)

/-- An operand with its prefix operators and suffixes. -/
def prefixed : Nat → Parse Expr
  | 0 => abandon
  | fuel + 1 => do
    let c ← cursor
    match UnaryOp.ofToken? c.kind with
    | some op =>
      let start ← token
      let operand ← expression fuel UnaryOp.level
      return applyPrefix op (start.span.join operand.span) operand
    | none =>
      let e ← primary fuel
      -- a path has its segments already
      match c.kind with
      | .path _ => return e
      | _ => suffixes fuel e

/-- An operand alone. -/
def primary : Nat → Parse Expr
  | 0 => abandon
  | fuel + 1 => do
    let c ← cursor
    match Scalar.ofToken? c.kind with
    | some value => return literal (← token).span value
    | none =>
      match c.kind with
      | .path p => return path (← token).span p
      | .lBracket =>
        let start ← token
        let items ← list fuel .rBracket "`,` or `]`"
        return array (start.span.join (← token).span) items
      | .lBrace =>
        if startsObject c then
          let start ← token
          let fields ← entries fuel
          return object (start.span.join (← token).span) fields
        else
          let (body, span) ← braces fuel
          return block span body
      | .lParen =>
        let start ← token
        skipNewlines
        let e ← expression fuel 0
        skipNewlines
        let stop ← expect .rParen "`)`"
        return e.withSpan (start.span.join stop.span)
      | .kwIf => branching fuel
      | .ident name => called fuel name
      | _ => unexpected "expression"

/-- Expressions with commas between, up to a closing token, which is left. -/
def list : Nat → TokenKind → String → Parse (List Expr)
  | 0, _, _ => abandon
  | fuel + 1, close, expected => do
    skipNewlines
    if (← cursor).kind = close then return []
    else
      let e ← expression fuel 0
      skipNewlines
      if ← accept .comma then return e :: (← list fuel close expected)
      else if (← cursor).kind = close then return [e]
      else unexpected expected

/-- The entries of an object up to its closing brace, which is left. -/
def entries : Nat → Parse (List (String × Expr))
  | 0 => abandon
  | fuel + 1 => do
    skipNewlines
    match (← cursor).kind with
    | .rBrace => return []
    | .string key =>
      let _ ← token
      let _ ← expect .colon "`:`"
      skipNewlines
      let e ← expression fuel 0
      skipNewlines
      if ← accept .comma then return (key, e) :: (← entries fuel)
      else if (← cursor).kind = .rBrace then return [(key, e)]
      else unexpected "`,` or `\x7d`"
    | _ => unexpected "string key"

/-- Statements in braces and the region of both braces. -/
def braces : Nat → Parse (List Expr × Span)
  | 0 => abandon
  | fuel + 1 => do
    let start ← expect .lBrace "`\x7b`"
    let body ← statements fuel true
    if (← cursor).kind = .rBrace then
      return (body, start.span.join (← token).span)
    else
      report .syntaxError "unclosed block" start.span "this `\x7b` is never closed"

/-- A branch. Its alternative may stand on a later line. -/
def branching : Nat → Parse Expr
  | 0 => abandon
  | fuel + 1 => do
    let start ← token
    let condition ← expression fuel 0
    let (body, bodySpan) ← braces fuel
    let span := start.span.join bodySpan
    let here ← cursor
    skipNewlines
    if ← accept .kwElse then
      let alternative ←
        if (← cursor).kind = .kwIf then branching fuel
        else do
          let (body, span) ← braces fuel
          pure (block span body)
      return branch (span.join alternative.span) condition body (some alternative)
    else
      resume here
      return branch span condition body none

/-- A call by name. The call of `del` takes one path of the event. -/
def called : Nat → String → Parse Expr
  | 0, _ => abandon
  | fuel + 1, name => do
    let start ← token
    let aborts ← accept .abortMarker
    if (← cursor).kind = .lParen then
      let _ ← token
      let arguments ← list fuel .rParen "`,` or `)`"
      let span := start.span.join (← token).span
      if name = "del" then
        match arguments with
        | [path pathSpan p] => return delete span ⟨p, pathSpan⟩ aborts
        | [other] =>
          report .pathArgumentRequired "function `del` requires a field path argument" other.span
            "expected a field path such as `.field`"
        | _ =>
          report .arityMismatch
            s!"function `del` takes 1 argument but {arguments.length} were supplied" span
            "expected a single field path"
      else return call span ⟨name, start.span, aborts⟩ arguments
    else
      report .syntaxError s!"unexpected identifier `{name}`" start.span
        "bare identifiers are not supported; expected a function call"

/-- A statement: an assignment to one or two places, or an expression. -/
def statement : Nat → Parse Expr
  | 0 => abandon
  | fuel + 1 => do
    let c ← cursor
    match c.kind, c.kindAt 1, c.kindAt 2, c.kindAt 3 with
    | .path _, .assign, _, _ =>
      let place ← target
      let _ ← expect .assign "`=`"
      skipNewlines
      let value ← expression fuel 0
      return assign (place.span.join value.span) place value
    | .path _, .comma, .path _, .assign =>
      let ok ← target
      let _ ← expect .comma "`,`"
      let err ← target
      let _ ← expect .assign "`=`"
      skipNewlines
      let value ← expression fuel 0
      return assignPair (ok.span.join value.span) ok err value
    | _, _, _, _ => expression fuel 0

/-- Statements up to the end, or up to the closing brace of a block. Abandoned statements are left out. -/
def statements : Nat → Bool → Parse (List Expr)
  | 0, _ => pure []
  | fuel + 1, inBlock => fun c =>
    let c := c.skipSeparators
    if c.kind = .eof || (inBlock && c.kind = .rBrace) then (some [], c)
    else if c.kind = .rBrace then
      let unmatched : Diagnostic :=
        { code := .syntaxError
          message := "unexpected `\x7d` with no open block"
          span := some c.current.span
          label := some "unmatched closing brace" }
      statements fuel inBlock (c.record unmatched).advance
    else
      match statement fuel c with
      | (none, c) =>
        if c.overflowed then (none, c) else statements fuel inBlock (c.synchronize inBlock)
      | (some e, c) =>
        let c :=
          if c.kind.isTerminator || (inBlock && c.kind = .rBrace) then c
          else (complain "end of statement" c).synchronize inBlock
        match statements fuel inBlock c with
        | (some rest, c) => (some (e :: rest), c)
        | (none, c) => (none, c)

end

/-- More fuel than the readers of so many tokens can spend. -/
def fuelFor (tokens : Nat) : Nat :=
  10 * tokens + 10

/-- The statements of a list of tokens, and the syntax errors in the order found, unless reading ends in an
overflow. -/
def parse (tokens : List Token) : Except Overflow (List Expr × List Diagnostic) :=
  let c := Cursor.start tokens
  let (found, c) := statements (fuelFor c.tokens.length) false c
  if c.overflowed then .error ⟨⟩ else .ok (found.getD [], c.diagnostics)

end Expr

end Reshape
