/-
Programs that can run.

A program is what is left of an expression once every function is found and every literal of constants is
a constant. A call that may fail without stopping the program exists only as an assignment to two places.
-/
import Reshape.Expr.Basic
import Reshape.Function.Basic

namespace Reshape

/-- What a call hands to a parameter: a value to compute, or a place. -/
inductive Input (α : Type) where
  | value (a : α)
  | path (p : Path)

inductive Node where
  | constant (span : Span) (value : Value)
  | array (span : Span) (items : List Node)
  | object (span : Span) (entries : List (String × Node))
  | path (span : Span) (path : Path)
  | access (span : Span) (base : Node) (path : Path)
  | assign (span : Span) (target : Path) (value : Node)
  /-- `.ok, .err = call` -/
  | assignPair (span : Span) (ok err : Path) (function : Function) (inputs : List (Input Node))
  /-- A failure of the call stops the program; `aborts` says that it was announced. -/
  | call (span : Span) (function : Function) (aborts : Bool) (inputs : List (Input Node))
  | binary (span : Span) (op : BinaryOp) (left right : Node)
  | unary (span : Span) (op : UnaryOp) (operand : Node)
  | branch (span : Span) (condition : Node) (body : List Node) (alternative : Option Node)
  | block (span : Span) (body : List Node)

instance : Inhabited Node := ⟨.block default []⟩

namespace Node

def span : Node → Span
  | constant s _ | array s _ | object s _ | path s _ | access s _ _ | assign s _ _
  | assignPair s _ _ _ _ | call s _ _ _ | binary s _ _ _ | unary s _ _ | branch s _ _ _
  | block s _ => s

def constant? : Node → Option Value
  | constant _ v => some v
  | _ => none

end Node

structure Program where
  source : String
  statements : List Node

end Reshape
