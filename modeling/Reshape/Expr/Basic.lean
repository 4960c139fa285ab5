/-
Expressions of programs, as they are written.

Every construct is an expression; a statement is an expression evaluated for its effect. Each node carries
the region of the program it was read from. Functions are still names here.
-/
import Reshape.Path
import Reshape.Span

namespace Reshape

inductive BinaryOp where
  | add | subtract | multiply | divide | remainder
  | equal | notEqual | less | lessOrEqual | greater | greaterOrEqual
  | and | or
deriving DecidableEq, Repr

def BinaryOp.symbol : BinaryOp → String
  | add => "+"
  | subtract => "-"
  | multiply => "*"
  | divide => "/"
  | remainder => "%"
  | equal => "=="
  | notEqual => "!="
  | less => "<"
  | lessOrEqual => "<="
  | greater => ">"
  | greaterOrEqual => ">="
  | and => "&&"
  | or => "||"

inductive UnaryOp where
  | negate | not
deriving DecidableEq, Repr

def UnaryOp.symbol : UnaryOp → String
  | negate => "-"
  | not => "!"

/-- Literals that are one token. -/
inductive Scalar where
  | null
  | boolean (b : Bool)
  | integer (i : Int64)
  | float (f : Float)
  | string (s : String)
  | timestamp (t : Timestamp)
deriving DecidableEq

def Scalar.value : Scalar → Value
  | null => .null
  | boolean b => .boolean b
  | integer i => .integer i
  | float f => .float f
  | string s => .string s
  | timestamp t => .timestamp t

/-- A place to write to: a path from the root of the event. -/
structure Target where
  path : Path
  span : Span
deriving DecidableEq, Repr

/-- The head of a call: the name, its region, and whether a failure aborts the program. -/
structure Callee where
  name : String
  span : Span
  aborts : Bool
deriving DecidableEq, Repr

inductive Expr where
  | literal (span : Span) (value : Scalar)
  | array (span : Span) (items : List Expr)
  | object (span : Span) (entries : List (String × Expr))
  /-- A place of the event. -/
  | path (span : Span) (path : Path)
  /-- A place in the value of an expression. -/
  | access (span : Span) (base : Expr) (path : Path)
  | assign (span : Span) (target : Target) (value : Expr)
  /-- `.ok, .err = call`: the result or the error message. -/
  | assignPair (span : Span) (ok err : Target) (value : Expr)
  | call (span : Span) (callee : Callee) (arguments : List Expr)
  | binary (span : Span) (op : BinaryOp) (left right : Expr)
  | unary (span : Span) (op : UnaryOp) (operand : Expr)
  /-- The alternative is another branch or a block. -/
  | branch (span : Span) (condition : Expr) (body : List Expr) (alternative : Option Expr)
  | block (span : Span) (body : List Expr)
  /-- `del(path)` -/
  | delete (span : Span) (target : Target) (aborts : Bool)
deriving Inhabited

namespace Expr

def span : Expr → Span
  | literal s _ | array s _ | object s _ | path s _ | access s _ _ | assign s _ _ | assignPair s _ _ _
  | call s _ _ | binary s _ _ _ | unary s _ _ | branch s _ _ _ | block s _ | delete s _ _ => s

/-- The same expression, said to be read from another region. -/
def withSpan (s : Span) : Expr → Expr
  | literal _ v => literal s v
  | array _ items => array s items
  | object _ entries => object s entries
  | path _ p => path s p
  | access _ base p => access s base p
  | assign _ target value => assign s target value
  | assignPair _ ok err value => assignPair s ok err value
  | call _ callee arguments => call s callee arguments
  | binary _ op left right => binary s op left right
  | unary _ op operand => unary s op operand
  | branch _ condition body alternative => branch s condition body alternative
  | block _ body => block s body
  | delete _ target aborts => delete s target aborts

@[simp] theorem span_withSpan (s : Span) (e : Expr) : (e.withSpan s).span = s := by
  cases e <;> rfl

end Expr

end Reshape
