/-
Running a program on an event.

A run changes the event step by step and ends with the value of the last statement, or with a fault; what
was written before a fault stays written. Operands are evaluated from left to right, `&&` and `||` stop as
soon as they are decided, and an argument that is a place of the event remembers whether it was there.

* `Node.eval` evaluates a node;
* `Program.run` runs a program on an event, which has to be an object.
-/
import Reshape.Function.Call
import Reshape.Operator
import Reshape.Program.Basic

namespace Reshape

/-- A step of a run: it reads and changes the event and may fault. -/
abbrev Run (α : Type) := ExceptT Fault (StateM Value) α

namespace Run

def fault {α : Type} (cause : FaultCause) (span : Span) : Run α :=
  throw ⟨cause, some span⟩

/-- The cause of a fault for a write that is refused. -/
def refusal (e : WriteError) : FaultCause :=
  match e with
  | .missingArray _ => .missingField e.message
  | .outOfRange .. => .indexOutOfRange e.message
  | .notAnObject .. | .notAnArray .. => .typeMismatch e.message

/-- The cause of a fault for a failure that was not announced. -/
def unannounced (function : String) (e : Failure) : FaultCause :=
  let message := s!"{function}: {e.message}"
  match e with
  | .wrongKind .. => .typeMismatch message
  | .missingField _ => .missingField message
  | .invalidArgument _ => .invalidArgument message
  | .notConvertible _ => .conversionFailure message

/-- Writes to a place of the event. Only an object may take the place of the event itself. -/
def write (p : Path) (v : Value) (span : Span) : Run Unit := do
  if p.isEmpty && v.kind ≠ .object then
    fault (.typeMismatch s!"event root must be an object, got {v.kind.name}") span
  else
    match (← get).insert p v with
    | .ok (_, event) => set event
    | .error e => fault (refusal e) span

/-- Calls a function on the event. -/
def invoke (s : Surroundings) (f : Function) (span : Span) (args : Arguments) :
    Run (Except Failure Value) := do
  let (result, event) := f.call s span.start (← get) args
  set event
  return result

/-- The operand of a logical operator. -/
def truth (op : BinaryOp) (span : Span) : Value → Run Bool
  | .boolean b => pure b
  | other =>
    fault (.typeMismatch s!"operand of `{op.symbol}` must be a boolean, got {other.kind.name}") span

/-- The condition of a branch. -/
def condition (span : Span) : Value → Run Bool
  | .boolean b => pure b
  | other => fault (.typeMismatch s!"if condition must be a boolean, got {other.kind.name}") span

def ofOperator (span : Span) : Except OperatorError Value → Run Value
  | .ok v => pure v
  | .error e => fault e.cause span

end Run

namespace Node

open Run

mutual

/-- The value of a node. -/
def eval (s : Surroundings) : Node → Run Value
  | constant _ v => pure v
  | array _ items => do return .array (← evalItems s items)
  | object _ entries => do return .object (Fields.ofList (← evalEntries s entries))
  | path _ p => do return ((← get).get? p).getD .null
  | access _ base p => do return ((← eval s base).get? p).getD .null
  | assign span target value => do
    let v ← eval s value
    write target v span
    return v
  | assignPair span ok err f inputs => do
    let args ← evalInputs s inputs
    match ← invoke s f span args with
    | .ok v =>
      write ok v span
      write err .null span
      return v
    | .error e =>
      write ok .null span
      write err (.string e.message) span
      return .null
  | call span f aborts inputs => do
    let args ← evalInputs s inputs
    match ← invoke s f span args with
    | .ok v => return v
    | .error e => fault (if aborts then .abortedCall f.name e else unannounced f.name e) span
  | binary span op left right =>
    match op with
    | .and => do
      if ← truth op left.span (← eval s left) then
        return .boolean (← truth op right.span (← eval s right))
      else return .boolean false
    | .or => do
      if ← truth op left.span (← eval s left) then return .boolean true
      else return .boolean (← truth op right.span (← eval s right))
    | op => do
      let l ← eval s left
      let r ← eval s right
      ofOperator span (op.apply l r)
  | unary span op operand => do ofOperator span (op.apply (← eval s operand))
  | branch _ c body alternative => do
    if ← condition c.span (← eval s c) then evalBody s .null body
    else
      match alternative with
      | some n => eval s n
      | none => return .null
  | block _ body => evalBody s .null body

/-- The values of nodes, from left to right. -/
def evalItems (s : Surroundings) : List Node → Run (List Value)
  | [] => return []
  | n :: rest => do
    let v ← eval s n
    return v :: (← evalItems s rest)

def evalEntries (s : Surroundings) : List (String × Node) → Run (List (String × Value))
  | [] => return []
  | (k, n) :: rest => do
    let v ← eval s n
    return (k, v) :: (← evalEntries s rest)

/-- The arguments of a call, from left to right. -/
def evalInputs (s : Surroundings) : List (Input Node) → Run Arguments
  | [] => return []
  | .path p :: rest => do
    let a := Argument.ofPlace p ((← get).get? p)
    return a :: (← evalInputs s rest)
  | .value (path _ p) :: rest => do
    let a := Argument.ofPlace p ((← get).get? p)
    return a :: (← evalInputs s rest)
  | .value n :: rest => do
    let a := Argument.ofValue (← eval s n)
    return a :: (← evalInputs s rest)

/-- The value of the last statement, or the given one if there is none. -/
def evalBody (s : Surroundings) (last : Value) : List Node → Run Value
  | [] => return last
  | n :: rest => do
    let v ← eval s n
    evalBody s v rest

end

end Node

/-- What a run ends with, and the event after it. -/
structure Outcome where
  result : Except Fault Value
  event : Value

namespace Program

/-- Runs a program on an event. An event that is no object is refused as it is. -/
def run (p : Program) (s : Surroundings) (event : Value) : Outcome :=
  if event.kind = .object then
    let (result, event) := (Node.evalBody s .null p.statements).run.run event
    ⟨result, event⟩
  else
    let message := s!"event root must be an object, got {event.kind.name}"
    ⟨.error ⟨.invalidArgument message, none⟩, event⟩

end Program

end Reshape
