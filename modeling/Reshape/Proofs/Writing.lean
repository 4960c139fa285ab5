/-
Expressions as program text.

An expression is written in one way.  Each statement has a line of its own; what an operator, a call, a branch or an
access takes is in parentheses; a negative number is one with its sign; and an empty block is `{;}`.  What is
written is a list of tokens with blanks between them, so that it is known which tokens touch.

* `Expr.pieces` — an expression as tokens and blanks;
* `Expr.programText` — the text of statements;
* `Expr.bare` — an expression apart from the regions it was read from.
-/
import Reshape.Expr.Parser

namespace Reshape

/-! ### Tokens and blanks -/

/-- The text of a token in a program. -/
def TokenKind.write : TokenKind → List Char
  | newline => ['\n']
  | k => k.text.toList

inductive Piece where
  | blank
  | token (k : TokenKind)

namespace Piece

def write : Piece → List Char
  | blank => [' ']
  | token k => k.write

def writeAll (ps : List Piece) : List Char :=
  ps.flatMap write

def enclosed (ps : List Piece) : List Piece :=
  .token .lParen :: ps ++ [.token .rParen]

def commas (pss : List (List Piece)) : List Piece :=
  [token .comma, blank].intercalate pss

def lines (pss : List (List Piece)) : List Piece :=
  [token .newline].intercalate pss

/-- Statements in braces. -/
def braced (pss : List (List Piece)) : List Piece :=
  if pss.isEmpty then [token .lBrace, token .semicolon, token .rBrace]
  else token .lBrace :: token .newline :: lines pss ++ [token .newline, token .rBrace]

/-- The first of some runs, and what separates it from the others if there are any. -/
theorem intercalate_cons_append (sep ps : List Piece) (pss : List (List Piece)) (rest : List Piece) :
    sep.intercalate (ps :: pss) ++ rest = ps ++ if pss = [] then rest else sep ++ (sep.intercalate pss ++ rest) := by
  cases pss with
  | nil => rw [List.intercalate_singleton, if_pos rfl]
  | cons ps' pss => rw [List.intercalate_cons_cons, if_neg (by simp), List.append_assoc, List.append_assoc]

theorem commas_cons (ps : List Piece) (pss : List (List Piece)) (rest : List Piece) :
    commas (ps :: pss) ++ rest =
      ps ++ if pss = [] then rest else .token .comma :: .blank :: (commas pss ++ rest) :=
  intercalate_cons_append _ ps pss rest

theorem lines_cons (ps : List Piece) (pss : List (List Piece)) (rest : List Piece) :
    lines (ps :: pss) ++ rest = ps ++ if pss = [] then rest else .token .newline :: (lines pss ++ rest) :=
  intercalate_cons_append _ ps pss rest

end Piece

open Piece

/-- The token of an operator. -/
def BinaryOp.kind : BinaryOp → TokenKind
  | add => .plus
  | subtract => .minus
  | multiply => .star
  | divide => .slash
  | remainder => .percent
  | equal => .eq
  | notEqual => .notEq
  | less => .lt
  | lessOrEqual => .ltEq
  | greater => .gt
  | greaterOrEqual => .gtEq
  | and => .andAnd
  | or => .orOr

def UnaryOp.kind : UnaryOp → TokenKind
  | negate => .minus
  | not => .bang

/-- The token of a literal. -/
def Scalar.kind : Scalar → TokenKind
  | null => .kwNull
  | boolean b => if b then .kwTrue else .kwFalse
  | integer i => .integer i
  | float f => .float f
  | string s => .string s
  | timestamp t => .timestamp t

namespace Expr

/-- The name in a call and the mark behind it. -/
def calleePieces (name : String) (aborts : Bool) : List Piece :=
  token (.ident name) :: if aborts then [token .abortMarker] else []

/-- A path behind the value that it leads into. -/
def suffixPieces : Path → List Piece
  | [.index i] => [token .lBracket, token (.integer i), token .rBracket]
  | p => [token (.path p)]

mutual

/-- An expression as it is written. -/
def pieces : Expr → List Piece
  | literal _ v => [token v.kind]
  | array _ items => token .lBracket :: commas (piecesAll items) ++ [token .rBracket]
  | object _ entries => token .lBrace :: blank :: commas (piecesEntries entries) ++ [blank, token .rBrace]
  | path _ p => [token (.path p)]
  | access _ base p => enclosed (pieces base) ++ suffixPieces p
  | assign _ target value => token (.path target.path) :: blank :: token .assign :: blank :: pieces value
  | assignPair _ ok err value =>
    token (.path ok.path) :: token .comma :: blank :: token (.path err.path) :: blank :: token .assign :: blank ::
      pieces value
  | call _ callee arguments =>
    calleePieces callee.name callee.aborts ++ enclosed (commas ((piecesAll arguments).map enclosed))
  | binary _ op left right =>
    enclosed (pieces left) ++ blank :: token op.kind :: blank :: enclosed (pieces right)
  | unary _ op operand => token op.kind :: enclosed (pieces operand)
  | branch _ condition body none =>
    token .kwIf :: blank :: enclosed (pieces condition) ++ blank :: braced (piecesAll body)
  | branch _ condition body (some alternative) =>
    token .kwIf :: blank :: enclosed (pieces condition) ++ blank :: braced (piecesAll body) ++
      blank :: token .kwElse :: blank :: pieces alternative
  | block _ body => braced (piecesAll body)
  | delete _ target aborts => calleePieces "del" aborts ++ enclosed [token (.path target.path)]

def piecesAll : List Expr → List (List Piece)
  | [] => []
  | e :: rest => pieces e :: piecesAll rest

def piecesEntries : List (String × Expr) → List (List Piece)
  | [] => []
  | (k, e) :: rest => (token (.string k) :: token .colon :: blank :: pieces e) :: piecesEntries rest

end

theorem piecesAll_eq_map (es : List Expr) : piecesAll es = es.map pieces := by
  induction es with
  | nil => rfl
  | cons e rest ih => exact congrArg (pieces e :: ·) ih

theorem forall_mem_piecesAll {P : List Piece → Prop} {es : List Expr} :
    (∀ ps ∈ piecesAll es, P ps) ↔ ∀ e ∈ es, P e.pieces := by
  rw [piecesAll_eq_map]
  exact List.forall_mem_map

/-- Statements as the text of a program. -/
def programText (es : List Expr) : String :=
  String.ofList (writeAll (lines (piecesAll es)))

mutual

/-- An expression read from nowhere. -/
def bare : Expr → Expr
  | literal _ v => literal default v
  | array _ items => array default (bareAll items)
  | object _ entries => object default (bareEntries entries)
  | path _ p => path default p
  | access _ base p => access default (bare base) p
  | assign _ target value => assign default ⟨target.path, default⟩ (bare value)
  | assignPair _ ok err value => assignPair default ⟨ok.path, default⟩ ⟨err.path, default⟩ (bare value)
  | call _ callee arguments => call default ⟨callee.name, default, callee.aborts⟩ (bareAll arguments)
  | binary _ op left right => binary default op (bare left) (bare right)
  | unary _ op operand => unary default op (bare operand)
  | branch _ condition body none => branch default (bare condition) (bareAll body) none
  | branch _ condition body (some alternative) =>
    branch default (bare condition) (bareAll body) (some (bare alternative))
  | block _ body => block default (bareAll body)
  | delete _ target aborts => delete default ⟨target.path, default⟩ aborts

def bareAll : List Expr → List Expr
  | [] => []
  | e :: rest => bare e :: bareAll rest

def bareEntries : List (String × Expr) → List (String × Expr)
  | [] => []
  | (k, e) :: rest => (k, bare e) :: bareEntries rest

end

theorem bareAll_eq_map (es : List Expr) : bareAll es = es.map bare := by
  induction es with
  | nil => rfl
  | cons e rest ih => exact congrArg (bare e :: ·) ih

theorem bare_withSpan (e : Expr) (s : Span) : (e.withSpan s).bare = e.bare := by
  cases e with
  | branch _ condition body alternative => cases alternative <;> rfl
  | _ => rfl

end Expr

end Reshape
