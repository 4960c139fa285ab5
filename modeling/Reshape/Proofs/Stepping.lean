/-
Reading by index, with every access checked.

A `Walk` stands at an index of a list of tokens that stays as it is.  It moves the index by one, puts it back where
it was, looks ahead, no further than to the last token, and looks at the token behind.  An index outside of the list
is an error, and so are calls and turns of loops that fuel does not pay for, and arithmetic that overflows.  Where
there is an error nothing goes on.  The readers are those of `Expr`, step for step.

* `Walk.tokenAt` — every access to a token;
* `Walk.round`, `Walk.statements` — one turn of the loop over statements, and the loop.
-/
import Reshape.Proofs.Reading

namespace Reshape

/-- Why a reader cannot go on. -/
inductive Stuck where
  | outOfBounds
  | outOfFuel
  | overflow
deriving DecidableEq

structure Position where
  index : Nat
  diagnostics : List Diagnostic

/-- A reader of a list of tokens from a position: a result, or none when the statement is abandoned. -/
def Walk (α : Type) : Type := List Token → Position → Except Stuck (Option α × Position)

namespace Walk

variable {α : Type}

instance : Monad Walk where
  pure a _ p := .ok (some a, p)
  bind x f ts p :=
    match x ts p with
    | .ok (some a, p) => f a ts p
    | .ok (none, p) => .ok (none, p)
    | .error e => .error e

section Bind

variable {β : Type} {x : Walk α} {f : α → Walk β} {ts : List Token} {p p' : Position}

theorem bind_of_ok {a : α} (h : x ts p = .ok (some a, p')) : (x >>= f) ts p = f a ts p' := by
  simp only [bind, h]

theorem bind_of_none (h : x ts p = .ok (none, p')) : (x >>= f) ts p = .ok (none, p') := by
  simp only [bind, h]

theorem bind_of_error {e : Stuck} (h : x ts p = .error e) : (x >>= f) ts p = .error e := by
  simp only [bind, h]

end Bind

/-! ### Single steps -/

def stuck (e : Stuck) : Walk α := fun _ _ => .error e

def abandon : Walk α := fun _ p => .ok (none, p)

def tokenAt (i : Nat) : Walk Token := fun ts p =>
  match ts[i]? with
  | some t => .ok (some t, p)
  | none => .error .outOfBounds

/-- The token `n` places ahead, or the last one. -/
def ahead (n : Nat) : Walk Token := fun ts p => tokenAt (min (p.index + n) (ts.length - 1)) ts p

def current : Walk Token := ahead 0

/-- The token behind. -/
def previous : Walk Token := fun ts p =>
  match p.index with
  | 0 => .error .outOfBounds
  | i + 1 => tokenAt i ts p

def index : Walk Nat := fun _ p => .ok (some p.index, p)

def goTo (i : Nat) : Walk Unit := fun _ p => .ok (some (), { p with index := i })

def record (d : Diagnostic) : Walk Unit := fun _ p =>
  .ok (some (), { p with diagnostics := p.diagnostics ++ [d] })

/-- The current token, and past it, if it is not the end. -/
def token : Walk Token := do
  let t ← current
  if t.kind = .eof then return t
  else
    goTo ((← index) + 1)
    return t

/-- The outcome of a reader that may abandon the statement. -/
def attempt (x : Walk α) : Walk (Option α) := fun ts p => do
  let (r, p) ← x ts p
  return (some r, p)

theorem attempt_of_ok {x : Walk α} {ts : List Token} {p p' : Position} {r : Option α} (h : x ts p = .ok (r, p')) :
    attempt x ts p = .ok (some r, p') := by
  rw [attempt, h]
  rfl

theorem attempt_of_error {x : Walk α} {ts : List Token} {p : Position} {e : Stuck} (h : x ts p = .error e) :
    attempt x ts p = .error e := by
  rw [attempt, h]
  rfl

def report (code : Code) (message : String) (span : Span) (label : String) : Walk α := do
  record { code, message, span := some span, label := some label }
  abandon

def complain (expected : String) : Walk Unit := do
  let t ← current
  if t.kind = .invalid then return ()
  else
    record
      { code := .syntaxError
        message := s!"unexpected {t.kind.describe}, expected {expected}"
        span := some t.span
        label := some s!"expected {expected}" }

def unexpected (expected : String) : Walk α := do
  complain expected
  abandon

def expect (kind : TokenKind) (expected : String) : Walk Token := do
  if (← current).kind = kind then token else unexpected expected

def accept (kind : TokenKind) : Walk Bool := do
  if (← current).kind = kind then
    let _ ← token
    return true
  else return false

/-! ### Loops over tokens -/

def skipWhile (p : TokenKind → Bool) : Nat → Walk Unit
  | 0 => stuck .outOfFuel
  | fuel + 1 => do
    if p (← current).kind then
      let _ ← token
      skipWhile p fuel
    else return ()

def skipNewlines : Nat → Walk Unit :=
  skipWhile (· == .newline)

def skipSeparators : Nat → Walk Unit :=
  skipWhile fun k => k == .newline || k == .semicolon

/-- On to the next boundary of a statement, out of so many braces. -/
def synchronize (inBlock : Bool) : Nat → Nat → Walk Unit
  | 0, _ => stuck .outOfFuel
  | fuel + 1, depth => do
    match (← current).kind with
    | .eof => return ()
    | .newline | .semicolon =>
      let _ ← token
      if depth = 0 then return () else synchronize inBlock fuel depth
    | .lBrace =>
      let _ ← token
      synchronize inBlock fuel (depth + 1)
    | .rBrace =>
      if depth = 0 then
        if inBlock then return ()
        else
          let _ ← token
          return ()
      else
        let _ ← token
        synchronize inBlock fuel (depth - 1)
    | _ =>
      let _ ← token
      synchronize inBlock fuel depth

/-- Whether a brace starts an object, seen from `n` places ahead of it. -/
def startsObject : Nat → Nat → Walk Bool
  | 0, _ => stuck .outOfFuel
  | fuel + 1, n => do
    match (← ahead n).kind with
    | .newline => startsObject fuel (n + 1)
    | .rBrace => return true
    | .string _ => return (← ahead (n + 1)).kind == .colon
    | _ => return false

/-- One turn of the loop over statements: what it has found, or none where the loop is left. -/
def round (fuel : Nat) (inBlock : Bool) (statement : Walk Expr) : Walk (Option (List Expr)) := do
  skipSeparators fuel
  let t ← current
  if t.kind = .eof || (inBlock && t.kind = .rBrace) then return none
  else if t.kind = .rBrace then
    record
      { code := .syntaxError
        message := "unexpected `\x7d` with no open block"
        span := some t.span
        label := some "unmatched closing brace" }
    let _ ← token
    return some []
  else
    match ← attempt statement with
    | none =>
      synchronize inBlock fuel 0
      return some []
    | some e =>
      let t ← current
      if t.kind.isTerminator || (inBlock && t.kind = .rBrace) then return some [e]
      else
        complain "end of statement"
        synchronize inBlock fuel 0
        return some [e]

/-! ### Readers of expressions -/

def signed (negative : Bool) (i : Int64) : Walk Int64 :=
  if negative then
    match fit? (-i.toInt) with
    | some opposite => pure opposite
    | none => stuck .overflow
  else pure i

def position (i : Int64) (span : Span) : Walk Int64 :=
  match position? i with
  | some p => pure p
  | none =>
    report .invalidNumber s!"index `{i}` is out of range" span "index does not fit in a machine integer"

def indexSuffix : Walk Int64 := do
  let _ ← expect .lBracket "`[`"
  let negative ← accept .minus
  let t ← current
  match t.kind with
  | .integer i =>
    let _ ← token
    let _ ← expect .rBracket "`]`"
    position (← signed negative i) t.span
  | _ => unexpected "integer index"

/-- The path in a suffix that touches the expression before it, if such a token comes next. -/
def suffix? (e : Expr) (t : Token) : Option (Walk Path) :=
  if t.span.start = e.span.stop then
    match t.kind with
    | .path [] => none
    | .path p => some do let _ ← token; return p
    | .lBracket => some do return [.index (← indexSuffix)]
    | _ => none
  else none

def suffixes : Nat → Expr → Walk Expr
  | 0, _ => stuck .outOfFuel
  | fuel + 1, e => do
    match suffix? e (← current) with
    | none => return e
    | some read =>
      let p ← read
      suffixes fuel (.access (e.span.join (← previous).span) e p)

def target : Walk Target := do
  match (← current).kind with
  | .path p => return ⟨p, (← token).span⟩
  | _ => unexpected "field path"

def callOf (name : String) (start : Token) (aborts : Bool) (arguments : List Expr) (stop : Token) : Walk Expr :=
  let span := start.span.join stop.span
  if name = "del" then
    match arguments with
    | [.path pathSpan p] => return .delete span ⟨p, pathSpan⟩ aborts
    | [other] =>
      report .pathArgumentRequired "function `del` requires a field path argument" other.span
        "expected a field path such as `.field`"
    | _ =>
      report .arityMismatch s!"function `del` takes 1 argument but {arguments.length} were supplied" span
        "expected a single field path"
  else return .call span ⟨name, start.span, aborts⟩ arguments

/-- What stands behind an item: a comma and more items, or the closing token, which is left. -/
def follow (fuel : Nat) (close : TokenKind) (expected : String) (item : α) (more : Walk (List α)) :
    Walk (List α) := do
  skipNewlines fuel
  if ← accept .comma then return item :: (← more)
  else if (← current).kind = close then return [item]
  else unexpected expected

/-- Goes on in one of two ways: past line breaks and an `else`, or, if there is none, back at the index saved. -/
def onElse (fuel : Nat) (taken missing : Walk α) : Walk α := do
  let saved ← index
  skipNewlines fuel
  if (← current).kind = .kwElse then
    let _ ← token
    taken
  else
    goTo saved
    missing

/-- The alternative of a branch, after `else`: another branch, or statements in braces. -/
def alternative (branching : Walk Expr) (braces : Walk (List Expr × Span)) : Walk Expr := do
  if (← current).kind = .kwIf then branching
  else
    let (body, span) ← braces
    return .block span body

mutual

def expression : Nat → Nat → Walk Expr
  | 0, _ => stuck .outOfFuel
  | fuel + 1, level => do operators fuel level (← prefixed fuel)

def operators : Nat → Nat → Expr → Walk Expr
  | 0, _, _ => stuck .outOfFuel
  | fuel + 1, level, left => do
    match BinaryOp.ofToken? (← current).kind with
    | none => return left
    | some op =>
      if op.level ≤ level then return left
      else
        let _ ← token
        skipNewlines fuel
        let right ← expression fuel op.level
        operators fuel level (.binary (left.span.join right.span) op left right)

def prefixed : Nat → Walk Expr
  | 0 => stuck .outOfFuel
  | fuel + 1 => do
    let t ← current
    match UnaryOp.ofToken? t.kind with
    | some op =>
      let start ← token
      let operand ← expression fuel UnaryOp.level
      return Expr.applyPrefix op (start.span.join operand.span) operand
    | none =>
      let e ← primary fuel
      match t.kind with
      | .path _ => return e
      | _ => suffixes fuel e

def primary : Nat → Walk Expr
  | 0 => stuck .outOfFuel
  | fuel + 1 => do
    let t ← current
    match Scalar.ofToken? t.kind with
    | some value => return .literal (← token).span value
    | none =>
      match t.kind with
      | .path p => return .path (← token).span p
      | .lBracket =>
        let start ← token
        let items ← list fuel .rBracket "`,` or `]`"
        return .array (start.span.join (← token).span) items
      | .lBrace =>
        if ← startsObject fuel 1 then
          let start ← token
          let fields ← entries fuel
          return .object (start.span.join (← token).span) fields
        else
          let (body, span) ← braces fuel
          return .block span body
      | .lParen =>
        let start ← token
        skipNewlines fuel
        let e ← expression fuel 0
        skipNewlines fuel
        let stop ← expect .rParen "`)`"
        return e.withSpan (start.span.join stop.span)
      | .kwIf => branching fuel
      | .ident name => called fuel name
      | _ => unexpected "expression"

def list : Nat → TokenKind → String → Walk (List Expr)
  | 0, _, _ => stuck .outOfFuel
  | fuel + 1, close, expected => do
    skipNewlines fuel
    if (← current).kind = close then return []
    else
      let e ← expression fuel 0
      follow fuel close expected e (list fuel close expected)

def entries : Nat → Walk (List (String × Expr))
  | 0 => stuck .outOfFuel
  | fuel + 1 => do
    skipNewlines fuel
    match (← current).kind with
    | .rBrace => return []
    | .string key =>
      let _ ← token
      let _ ← expect .colon "`:`"
      skipNewlines fuel
      let e ← expression fuel 0
      follow fuel .rBrace "`,` or `\x7d`" (key, e) (entries fuel)
    | _ => unexpected "string key"

def braces : Nat → Walk (List Expr × Span)
  | 0 => stuck .outOfFuel
  | fuel + 1 => do
    let start ← expect .lBrace "`\x7b`"
    let body ← statements fuel true
    if (← current).kind = .rBrace then
      return (body, start.span.join (← token).span)
    else
      report .syntaxError "unclosed block" start.span "this `\x7b` is never closed"

def branching : Nat → Walk Expr
  | 0 => stuck .outOfFuel
  | fuel + 1 => do
    let start ← token
    let condition ← expression fuel 0
    let (body, bodySpan) ← braces fuel
    let span := start.span.join bodySpan
    onElse fuel
      (do
        let other ← alternative (branching fuel) (braces fuel)
        return .branch (span.join other.span) condition body (some other))
      (return .branch span condition body none)

def called : Nat → String → Walk Expr
  | 0, _ => stuck .outOfFuel
  | fuel + 1, name => do
    let start ← token
    let aborts ← accept .abortMarker
    if (← current).kind = .lParen then
      let _ ← token
      let arguments ← list fuel .rParen "`,` or `)`"
      let stop ← token
      callOf name start aborts arguments stop
    else
      report .syntaxError s!"unexpected identifier `{name}`" start.span
        "bare identifiers are not supported; expected a function call"

def statement : Nat → Walk Expr
  | 0 => stuck .outOfFuel
  | fuel + 1 => do
    match (← current).kind, (← ahead 1).kind, (← ahead 2).kind, (← ahead 3).kind with
    | .path _, .assign, _, _ =>
      let place ← target
      let _ ← expect .assign "`=`"
      skipNewlines fuel
      let value ← expression fuel 0
      return .assign (place.span.join value.span) place value
    | .path _, .comma, .path _, .assign =>
      let ok ← target
      let _ ← expect .comma "`,`"
      let err ← target
      let _ ← expect .assign "`=`"
      skipNewlines fuel
      let value ← expression fuel 0
      return .assignPair (ok.span.join value.span) ok err value
    | _, _, _, _ => expression fuel 0

/-- The loop over statements, which a turn leaves or goes on with. -/
def statements : Nat → Bool → Walk (List Expr)
  | 0, _ => stuck .outOfFuel
  | fuel + 1, inBlock => do
    match ← round fuel inBlock (statement fuel) with
    | none => return []
    | some found => return found ++ (← statements fuel inBlock)

end

end Walk

end Reshape
