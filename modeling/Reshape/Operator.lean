/-
What operators do.

Operands are never converted: integers and floats do not mix, and only strings, numbers and timestamps have
an order. Integer arithmetic is exact or fails. The operators `&&` and `||` are not here, because they do
not always evaluate both operands.
-/
import Reshape.Expr.Basic
import Reshape.Fault
import Reshape.Number.Binary
import Reshape.Number.Fit
import Reshape.Value.Text

namespace Reshape

inductive OperatorError where
  | operands (op : BinaryOp) (left right : Kind)
  | cannotNegate (kind : Kind)
  | notBoolean (kind : Kind)
  | divisionByZero
  | overflow (op : BinaryOp) (left right : Int64)
  | negationOverflow (i : Int64)
  /-- An operator that decides itself which operands to evaluate. -/
  | lazy (op : BinaryOp)
deriving DecidableEq, Repr

namespace OperatorError

def cause : OperatorError → FaultCause
  | operands op l r =>
    .typeMismatch s!"cannot apply `{op.symbol}` to {l.name} and {r.name}"
  | cannotNegate k => .typeMismatch s!"cannot negate {k.name}"
  | notBoolean k => .typeMismatch s!"operand of `!` must be a boolean, got {k.name}"
  | divisionByZero => .divisionByZero
  | overflow op l r => .invalidArgument s!"integer overflow in {l} {op.symbol} {r}"
  | negationOverflow i => .invalidArgument s!"integer overflow in -({i})"
  | lazy op => .invalidArgument s!"`{op.symbol}` must be evaluated lazily"

end OperatorError

namespace BinaryOp

/-- The exact result of an arithmetic operator. Division truncates toward zero, and the remainder has the
sign of the dividend. -/
def result? (op : BinaryOp) (l r : Int) : Option Int :=
  match op with
  | add => some (l + r)
  | subtract => some (l - r)
  | multiply => some (l * r)
  | divide => some (l.tdiv r)
  | remainder => some (l.tmod r)
  | _ => none

def divides : BinaryOp → Bool
  | divide | remainder => true
  | _ => false

def onIntegers (op : BinaryOp) (l r : Int64) : Except OperatorError Value :=
  if op.divides && r == 0 then .error .divisionByZero
  else if op = remainder ∧ l = Int64.minValue ∧ r.toInt = -1 then .error (.overflow op l r)
  else
    match (op.result? l.toInt r.toInt).bind fit? with
    | some i => .ok (.integer i)
    | none => .error (.overflow op l r)

def onFloats (op : BinaryOp) (l r : Float) : Except OperatorError Value :=
  match op with
  | add => .ok (.float (l + r))
  | subtract => .ok (.float (l - r))
  | multiply => .ok (.float (l * r))
  | divide => if r == 0.0 then .error .divisionByZero else .ok (.float (l / r))
  | remainder => if r == 0.0 then .error .divisionByZero else .ok (.float (Float.remainder l r))
  | _ => .error (.operands op .float .float)

/-- Whether an order operator holds, given whether the left operand is less and whether it is equal. -/
def holds (op : BinaryOp) (less equal : Bool) : Bool :=
  match op with
  | BinaryOp.less => less
  | lessOrEqual => less || equal
  | greater => !less && !equal
  | _ => !less

/-- Order operators. A float that is no number is in no order with any. -/
def compare (op : BinaryOp) (l r : Value) : Except OperatorError Value :=
  match l, r with
  | .integer a, .integer b => .ok (.boolean (op.holds (a < b) (a == b)))
  | .float a, .float b => .ok (.boolean (!(a.isNaN || b.isNaN) && op.holds (a < b) (a == b)))
  | .string a, .string b => .ok (.boolean (op.holds (a < b) (a == b)))
  | .timestamp a, .timestamp b => .ok (.boolean (op.holds (a.isBefore b) (a.sameInstant b)))
  | _, _ => .error (.operands op l.kind r.kind)

def arithmetic (op : BinaryOp) (l r : Value) : Except OperatorError Value :=
  match l, r with
  | .integer a, .integer b => op.onIntegers a b
  | .float a, .float b => op.onFloats a b
  | _, _ => .error (.operands op l.kind r.kind)

/-- The value of a binary operator on two values. -/
def apply (op : BinaryOp) (l r : Value) : Except OperatorError Value :=
  match op with
  | add =>
    match l, r with
    | .string a, .string b => .ok (.string (a ++ b))
    | _, _ => arithmetic add l r
  | subtract | multiply | divide | remainder => op.arithmetic l r
  | equal => .ok (.boolean (l.equal r))
  | notEqual => .ok (.boolean (!l.equal r))
  | less | lessOrEqual | greater | greaterOrEqual => op.compare l r
  | and | or => .error (.lazy op)

end BinaryOp

/-- The value of a prefix operator. -/
def UnaryOp.apply (op : UnaryOp) (v : Value) : Except OperatorError Value :=
  match op, v with
  | negate, .integer i =>
    match fit? (-i.toInt) with
    | some n => .ok (.integer n)
    | none => .error (.negationOverflow i)
  | negate, .float f => .ok (.float (-f))
  | negate, other => .error (.cannotNegate other.kind)
  | not, .boolean b => .ok (.boolean !b)
  | not, other => .error (.notBoolean other.kind)

end Reshape
