/-
Reading and resolving with the folds left open.

The readers make one number of a minus and the number behind it, and resolving makes one constant of an array or
object of constants.  `Making` is what stands for these three steps; all else is done as the readers and resolving do
it.  `Making.folding` are the steps of the program, and with them nothing changes; `Making.plain` leaves every
operator, array and object as it is written.

* `Expr.parseWith_folding`, `compileWith_folding` — the folds are all that is left open.
-/
import Reshape.Proofs.Relocation
import Reshape.Proofs.Statements
import Reshape.Program.Resolve

namespace Reshape

/-- What is made of a prefix operator and its operand, of an array of nodes, and of an object of nodes. -/
structure Making where
  unary : UnaryOp → Span → Expr → Expr
  array : Span → List Node → Node
  object : Span → List (String × Node) → Node

namespace Making

def folding : Making :=
  ⟨Expr.applyPrefix, Node.foldArray, Node.foldObject⟩

def plain : Making :=
  ⟨fun op span operand => .unary span op operand, .array, .object⟩

end Making

namespace Expr

open Parse

/-! ### Reading -/

/-- All readers of expressions, with the same fuel. -/
structure Readers where
  expression : Nat → Parse Expr
  operators : Nat → Expr → Parse Expr
  prefixed : Parse Expr
  suffixes : Expr → Parse Expr
  primary : Parse Expr
  list : TokenKind → String → Parse (List Expr)
  entries : Parse (List (String × Expr))
  braces : Parse (List Expr × Span)
  branching : Parse Expr
  called : String → Parse Expr
  statement : Parse Expr
  statements : Bool → Parse (List Expr)

namespace Readers

/-- The readers without fuel. -/
def spent : Readers where
  expression _ := abandon
  operators _ left := pure left
  prefixed := abandon
  suffixes e := pure e
  primary := abandon
  list _ _ := abandon
  entries := abandon
  braces := abandon
  branching := abandon
  called _ := abandon
  statement := abandon
  statements _ := pure []

variable (m : Making) (r : Readers)

def nextOperators (level : Nat) (left : Expr) : Parse Expr := do
  match BinaryOp.ofToken? (← cursor).kind with
  | none => return left
  | some op =>
    if op.level ≤ level then return left
    else
      let _ ← token
      Parse.skipNewlines
      let right ← r.expression op.level
      r.operators level (binary (left.span.join right.span) op left right)

def nextPrefixed : Parse Expr := do
  let c ← cursor
  match UnaryOp.ofToken? c.kind with
  | some op =>
    let start ← token
    let operand ← r.expression UnaryOp.level
    return m.unary op (start.span.join operand.span) operand
  | none =>
    let e ← r.primary
    match c.kind with
    | .path _ => return e
    | _ => r.suffixes e

def nextSuffixes (e : Expr) : Parse Expr := do
  match suffix? e (← cursor) with
  | none => return e
  | some read =>
    let p ← read
    r.suffixes (access (e.span.join (← cursor).last) e p)

def nextPrimary : Parse Expr := do
  let c ← cursor
  match Scalar.ofToken? c.kind with
  | some value => return literal (← token).span value
  | none =>
    match c.kind with
    | .path p => return path (← token).span p
    | .lBracket =>
      let start ← token
      let items ← r.list .rBracket "`,` or `]`"
      return array (start.span.join (← token).span) items
    | .lBrace =>
      if startsObject c then
        let start ← token
        let fields ← r.entries
        return object (start.span.join (← token).span) fields
      else
        let (body, span) ← r.braces
        return block span body
    | .lParen =>
      let start ← token
      Parse.skipNewlines
      let e ← r.expression 0
      Parse.skipNewlines
      let stop ← expect .rParen "`)`"
      return e.withSpan (start.span.join stop.span)
    | .kwIf => r.branching
    | .ident name => r.called name
    | _ => unexpected "expression"

def nextList (close : TokenKind) (expected : String) : Parse (List Expr) := do
  Parse.skipNewlines
  if (← cursor).kind = close then return []
  else
    let e ← r.expression 0
    follow close expected e (r.list close expected)

def nextEntries : Parse (List (String × Expr)) := do
  Parse.skipNewlines
  match (← cursor).kind with
  | .rBrace => return []
  | .string key =>
    let _ ← token
    let _ ← expect .colon "`:`"
    Parse.skipNewlines
    let e ← r.expression 0
    follow .rBrace "`,` or `\x7d`" (key, e) r.entries
  | _ => unexpected "string key"

def nextBraces : Parse (List Expr × Span) := do
  let start ← expect .lBrace "`\x7b`"
  let body ← r.statements true
  if (← cursor).kind = .rBrace then
    return (body, start.span.join (← token).span)
  else
    report .syntaxError "unclosed block" start.span "this `\x7b` is never closed"

def nextAlternative : Parse Expr := do
  if (← cursor).kind = .kwIf then r.branching
  else do
    let (body, span) ← r.braces
    pure (block span body)

def nextBranching : Parse Expr := do
  let start ← token
  let condition ← r.expression 0
  let (body, bodySpan) ← r.braces
  let span := start.span.join bodySpan
  onElse
    (do
      let alternative ← r.nextAlternative
      return branch (span.join alternative.span) condition body (some alternative))
    (return branch span condition body none)

def nextCalled (name : String) : Parse Expr := do
  let start ← token
  let aborts ← accept .abortMarker
  if (← cursor).kind = .lParen then
    let _ ← token
    let arguments ← r.list .rParen "`,` or `)`"
    let stop ← token
    callOf name start aborts arguments stop
  else
    report .syntaxError s!"unexpected identifier `{name}`" start.span
      "bare identifiers are not supported; expected a function call"

def nextStatement : Parse Expr := do
  let c ← cursor
  match c.kind, c.kindAt 1, c.kindAt 2, c.kindAt 3 with
  | .path _, .assign, _, _ =>
    let place ← target
    let _ ← expect .assign "`=`"
    Parse.skipNewlines
    let value ← r.expression 0
    return assign (place.span.join value.span) place value
  | .path _, .comma, .path _, .assign =>
    let ok ← target
    let _ ← expect .comma "`,`"
    let err ← target
    let _ ← expect .assign "`=`"
    Parse.skipNewlines
    let value ← r.expression 0
    return assignPair (ok.span.join value.span) ok err value
  | _, _, _, _ => r.expression 0

def nextStatements (inBlock : Bool) : Parse (List Expr) := fun c =>
  let c := c.skipSeparators
  if c.kind = .eof || (inBlock && c.kind = .rBrace) then (some [], c)
  else if c.kind = .rBrace then
    let unmatched : Diagnostic :=
      { code := .syntaxError
        message := "unexpected `\x7d` with no open block"
        span := some c.current.span
        label := some "unmatched closing brace" }
    r.statements inBlock (c.record unmatched).advance
  else
    match r.statement c with
    | (none, c) => if c.overflowed then (none, c) else r.statements inBlock (c.synchronize inBlock)
    | (some e, c) =>
      let c :=
        if c.kind.isTerminator || (inBlock && c.kind = .rBrace) then c
        else (complain "end of statement" c).synchronize inBlock
      match r.statements inBlock c with
      | (some rest, c) => (some (e :: rest), c)
      | (none, c) => (none, c)

/-- The readers with one more unit of fuel. -/
def next : Readers where
  expression level := do r.operators level (← r.prefixed)
  operators := r.nextOperators
  prefixed := r.nextPrefixed m
  suffixes := r.nextSuffixes
  primary := r.nextPrimary
  list := r.nextList
  entries := r.nextEntries
  braces := r.nextBraces
  branching := r.nextBranching
  called := r.nextCalled
  statement := r.nextStatement
  statements := r.nextStatements

/-- The readers as they run. -/
def running (fuel : Nat) : Readers where
  expression := Expr.expression fuel
  operators := Expr.operators fuel
  prefixed := Expr.prefixed fuel
  suffixes := Expr.suffixes fuel
  primary := Expr.primary fuel
  list := Expr.list fuel
  entries := Expr.entries fuel
  braces := Expr.braces fuel
  branching := Expr.branching fuel
  called := Expr.called fuel
  statement := Expr.statement fuel
  statements := Expr.statements fuel

end Readers

def readers (m : Making) : Nat → Readers
  | 0 => .spent
  | fuel + 1 => (readers m fuel).next m

theorem next_folding (fuel : Nat) : (Readers.running fuel).next .folding = .running (fuel + 1) := by
  have hexpression : (fun level => do operators fuel level (← prefixed fuel)) = expression (fuel + 1) := by
    funext level
    rw [expression]
  have hoperators : (Readers.running fuel).nextOperators = operators (fuel + 1) := by
    funext level left
    rw [operators]
    rfl
  have hprefixed : (Readers.running fuel).nextPrefixed .folding = prefixed (fuel + 1) := by
    rw [prefixed]
    rfl
  have hprimary : (Readers.running fuel).nextPrimary = primary (fuel + 1) := by
    rw [primary]
    rfl
  have hlist : (Readers.running fuel).nextList = list (fuel + 1) := by
    funext close expected
    rw [list_succ]
    rfl
  have hentries : (Readers.running fuel).nextEntries = entries (fuel + 1) := by
    rw [entries_succ]
    rfl
  have hbraces : (Readers.running fuel).nextBraces = braces (fuel + 1) := by
    rw [braces]
    rfl
  have hbranching : (Readers.running fuel).nextBranching = branching (fuel + 1) := by
    rw [branching_succ]
    rfl
  have hcalled : (Readers.running fuel).nextCalled = called (fuel + 1) := by
    funext name
    rw [called_succ]
    rfl
  have hstatement : (Readers.running fuel).nextStatement = statement (fuel + 1) := by
    rw [statement]
    rfl
  have hstatements : (Readers.running fuel).nextStatements = statements (fuel + 1) := by
    funext inBlock
    rw [statements]
    rfl
  rw [Readers.next, hoperators, hprefixed, hprimary, hlist, hentries, hbraces, hbranching, hcalled, hstatement,
    hstatements]
  exact congrArg (fun e => { Readers.running (fuel + 1) with expression := e }) hexpression

theorem readers_folding : ∀ fuel, readers .folding fuel = .running fuel
  | 0 => rfl
  | fuel + 1 => by rw [readers, readers_folding fuel, next_folding]

def parseWith (m : Making) (tokens : List Token) : Except Overflow (List Expr × List Diagnostic) :=
  let c := Cursor.start tokens
  let (found, c) := (readers m (fuelFor c.tokens.length)).statements false c
  if c.overflowed then .error ⟨⟩ else .ok (found.getD [], c.diagnostics)

theorem parseWith_folding (tokens : List Token) : parseWith .folding tokens = parse tokens := by
  rw [parseWith, readers_folding]
  rfl

/-! ### Resolving -/

/-- One argument of a call, when it has been resolved. -/
def inputOf (r : Resolution Node) (f : Function) (i : Nat) (e : Expr) : Resolution (Input Node) :=
  match f.kindAt i, e with
  | .value, _ => r.map .value
  | .path, path _ p => .pure (.path p)
  | .path, e => .failed [Issue.pathRequired f e.span] r

theorem resolveInput_eq (library : Library) (f : Function) (i : Nat) (e : Expr) :
    resolveInput library f i e = inputOf (resolve library e) f i e := by
  unfold resolveInput inputOf
  cases f.kindAt i with
  | value => rfl
  | path => cases e <;> rfl

section

variable (m : Making) (library : Library)

mutual

def resolveWith : Expr → Resolution Node
  | literal s v => .pure (.constant s v.value)
  | array s items => (resolveAllWith items).map (m.array s)
  | object s entries => (resolveEntriesWith entries).map (m.object s)
  | path s p => .pure (.path s p)
  | access s base p => (resolveWith base).map (.access s · p)
  | assign s target value => (resolveWith value).map (.assign s target.path)
  | assignPair s ok err (call cs callee args) =>
    let needless := [Issue.needlessPair (describe (call cs callee args)) cs]
    match library.find? callee.name with
    | none =>
      .failed ((if callee.aborts then needless else [])
        ++ [Issue.unknownFunction library callee.name callee.span]) (resolveAllWith args)
    | some f =>
      .after ((if callee.aborts || !f.fallible then needless else [])
        ++ f.checkCall callee args.length cs true)
        ((resolveInputsWith f 0 args).map (.assignPair s ok.path err.path f))
  | assignPair _ _ _ value =>
    .failed [Issue.needlessPair value.describe value.span] (resolveWith value)
  | call s callee args =>
    match library.find? callee.name with
    | none => .failed [Issue.unknownFunction library callee.name callee.span] (resolveAllWith args)
    | some f =>
      .after (f.checkCall callee args.length s false) ((resolveInputsWith f 0 args).map (.call s f callee.aborts))
  | binary s op left right => .zipWith (.binary s op) (resolveWith left) (resolveWith right)
  | unary s op operand => (resolveWith operand).map (.unary s op)
  | branch s condition body none =>
    .zipWith (fun c b => .branch s c b none) (resolveWith condition) (resolveAllWith body)
  | branch s condition body (some alternative) =>
    .zipWith (fun (c, b) a => .branch s c b (some a))
      (.zipWith Prod.mk (resolveWith condition) (resolveAllWith body)) (resolveWith alternative)
  | block s body => (resolveAllWith body).map (.block s)
  | delete s target aborts => resolveDelete library s target aborts

def resolveAllWith : List Expr → Resolution (List Node)
  | [] => .pure []
  | e :: rest => .zipWith List.cons (resolveWith e) (resolveAllWith rest)

def resolveEntriesWith : List (String × Expr) → Resolution (List (String × Node))
  | [] => .pure []
  | (k, e) :: rest => .zipWith (fun n ns => (k, n) :: ns) (resolveWith e) (resolveEntriesWith rest)

def resolveInputsWith (f : Function) (i : Nat) : List Expr → Resolution (List (Input Node))
  | [] => .pure []
  | e :: rest =>
    .zipWith List.cons (inputOf (resolveWith e) f i e) (resolveInputsWith f (i + 1) rest)

end

end

mutual

theorem resolveWith_folding (library : Library) : ∀ e, resolveWith .folding library e = resolve library e
  | literal _ _ | path _ _ | delete _ _ _ => rfl
  | array _ items => by rw [resolveWith, resolveAllWith_folding library items]; rfl
  | object _ entries => by rw [resolveWith, resolveEntriesWith_folding library entries]; rfl
  | access _ e _ | assign _ _ e | unary _ _ e => by rw [resolveWith, resolveWith_folding library e]; rfl
  | assignPair s ok err e => by
    have he := resolveWith_folding library e
    cases e with
    | call cs callee args =>
      unfold resolveWith resolve
      cases library.find? callee.name with
      | none => exact congrArg (Resolution.failed _) (resolveAllWith_folding library args)
      | some f => dsimp only; rw [resolveInputsWith_folding library f 0 args]
    | _ => exact congrArg (Resolution.failed [_]) he
  | call _ callee args => by
    unfold resolveWith resolve
    cases library.find? callee.name with
    | none => exact congrArg (Resolution.failed _) (resolveAllWith_folding library args)
    | some f => dsimp only; rw [resolveInputsWith_folding library f 0 args]
  | binary _ _ left right => by
    rw [resolveWith, resolveWith_folding library left, resolveWith_folding library right]; rfl
  | branch _ condition body none => by
    rw [resolveWith, resolveWith_folding library condition, resolveAllWith_folding library body]; rfl
  | branch _ condition body (some alternative) => by
    rw [resolveWith, resolveWith_folding library condition, resolveAllWith_folding library body,
      resolveWith_folding library alternative]
    rfl
  | block _ body => by rw [resolveWith, resolveAllWith_folding library body]; rfl

theorem resolveAllWith_folding (library : Library) : ∀ es, resolveAllWith .folding library es = resolveAll library es
  | [] => rfl
  | e :: rest => by rw [resolveAllWith, resolveWith_folding library e, resolveAllWith_folding library rest]; rfl

theorem resolveEntriesWith_folding (library : Library) :
    ∀ es, resolveEntriesWith .folding library es = resolveEntries library es
  | [] => rfl
  | (k, e) :: rest => by
    rw [resolveEntriesWith, resolveWith_folding library e, resolveEntriesWith_folding library rest]; rfl

theorem resolveInputsWith_folding (library : Library) (f : Function) (i : Nat) :
    ∀ es, resolveInputsWith .folding library f i es = resolveInputs library f i es
  | [] => rfl
  | e :: rest => by
    rw [resolveInputsWith, resolveWith_folding library e, resolveInputsWith_folding library f (i + 1) rest,
      resolveInputs_cons, resolveInput_eq]

end

end Expr

/-- The program of a text with the folds left open, or why there is none. -/
def compileWith (m : Making) (library : Library) (source : String) : Except Rejection Program :=
  let (tokens, lexical) := tokenize source
  match Expr.parseWith m tokens with
  | .error o => .error (.overflow o)
  | .ok (statements, syntactic) =>
    if !(lexical ++ syntactic).isEmpty then .error (.diagnostics (.ofList source (lexical ++ syntactic)))
    else
      let r := Expr.resolveAllWith m library statements
      match r.result?, r.issues with
      | some nodes, [] => .ok ⟨source, nodes⟩
      | _, issues => .error (.diagnostics (.ofList source issues))

theorem compileWith_folding (library : Library) (source : String) :
    compileWith .folding library source = compile library source := by
  simp only [compileWith, Expr.parseWith_folding, Expr.resolveAllWith_folding]
  rfl

end Reshape
