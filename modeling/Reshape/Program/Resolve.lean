/-
Programs from expressions.

Resolving finds every function in a library and checks every call: that the function is there, takes so many
arguments, is handed places where it wants them, and that a failure is either announced by `!` or caught by
an assignment to two places, and neither without need. All violations are reported, also those inside of
what is already wrong.

* `Expr.resolve` resolves an expression: a node, unless anything was reported;
* `compile` is the program of a text, or why there is none.
-/
import Reshape.Expr.Parser
import Reshape.Function.Library
import Reshape.Program.Basic
import Reshape.Token.Lexer

namespace Reshape

/-! ### Results with reports -/

/-- A result that may be missing, and what was reported on the way. -/
structure Resolution (α : Type) where
  result? : Option α
  issues : List Diagnostic

namespace Resolution

variable {α β γ : Type}

def pure (a : α) : Resolution α := ⟨some a, []⟩

def map (f : α → β) (r : Resolution α) : Resolution β :=
  ⟨r.result?.map f, r.issues⟩

/-- The combination of two results. What is reported on either is reported. -/
def zipWith (f : α → β → γ) (a : Resolution α) (b : Resolution β) : Resolution γ :=
  ⟨do return f (← a.result?) (← b.result?), a.issues ++ b.issues⟩

/-- A result that does not count because of issues reported before it. -/
def failed (issues : List Diagnostic) (r : Resolution α) : Resolution β :=
  ⟨none, issues ++ r.issues⟩

/-- A result that does not count if any issue was reported before it. -/
def after (issues : List Diagnostic) (r : Resolution α) : Resolution α :=
  ⟨if issues.isEmpty then r.result? else none, issues ++ r.issues⟩

end Resolution

/-! ### Reports -/

namespace Issue

def unknownFunction (library : Library) (name : String) (span : Span) : Diagnostic where
  code := .unknownFunction
  message := s!"call to undefined function `{name}`"
  span := span
  label := "undefined function"
  suggestion := (library.suggest? name).map fun other => s!"did you mean `{other}`?"

def arity (f : Function) (count : Nat) (span : Span) : Diagnostic :=
  let plural := if f.arityText = "1" then "" else "s"
  let verb := if count = 1 then "was" else "were"
  { code := .arityMismatch
    message := s!"function `{f.name}` takes {f.arityText} argument{plural} but {count} {verb} supplied"
    span := span
    label := "wrong number of arguments" }

def unhandled (f : Function) (span : Span) : Diagnostic where
  code := .unhandledFallibleCall
  message := s!"unhandled error from fallible function `{f.name}`"
  span := span
  label := "this function call can fail"
  suggestion := s!"handle the error with `.value, .err = {f.name}(...)` or abort on error with `{f.name}!(...)`"

def needlessAbort (f : Function) (span : Span) : Diagnostic where
  code := .abortInfallibleCall
  message := s!"function `{f.name}` can't fail"
  span := span
  label := "unnecessary `!`"
  suggestion := s!"remove the `!` and call `{f.name}(...)`"

def needlessPair (what : String) (span : Span) : Diagnostic where
  code := .unnecessaryErrorAssignment
  message := "unnecessary error assignment"
  span := span
  label := s!"this {what} can't fail"
  suggestion := "assign to a single target instead"

def pathRequired (f : Function) (span : Span) : Diagnostic where
  code := .pathArgumentRequired
  message := s!"function `{f.name}` requires a field path argument"
  span := span
  label := "expected a field path such as `.field`"

end Issue

/-- What is wrong with a call to a known function, its arguments aside. A call that is `handled` is the
value of an assignment to two places. -/
def Function.checkCall (f : Function) (callee : Callee) (count : Nat) (span : Span) (handled : Bool) :
    List Diagnostic :=
  (if f.admits count then [] else [Issue.arity f count span])
    ++ (if f.fallible && !callee.aborts && !handled then [Issue.unhandled f span] else [])
    ++ (if callee.aborts && !f.fallible then [Issue.needlessAbort f span] else [])

/-! ### Constants -/

namespace Node

/-- The constants that all of the nodes are. -/
def constants? : List Node → Option (List Value)
  | [] => some []
  | n :: rest => do return (← n.constant?) :: (← constants? rest)

def constantEntries? : List (String × Node) → Option (List (String × Value))
  | [] => some []
  | (k, n) :: rest => do return (k, ← n.constant?) :: (← constantEntries? rest)

/-- An array, constant if its items are. -/
def foldArray (span : Span) (items : List Node) : Node :=
  match constants? items with
  | some values => constant span (.array values)
  | none => array span items

/-- An object, constant if its values are. -/
def foldObject (span : Span) (entries : List (String × Node)) : Node :=
  match constantEntries? entries with
  | some values => constant span (.object (Fields.ofList values))
  | none => object span entries

end Node

/-! ### Resolving -/

/-- What the right-hand side of an assignment to two places is called in a report. A function whose name is
the word for all else is not told apart. -/
def Expr.describe : Expr → String
  | call _ callee _ => if callee.name = "expression" then "expression" else s!"call to `{callee.name}`"
  | _ => "expression"

namespace Expr

/-- The removal of a place. -/
def resolveDelete (library : Library) (s : Span) (target : Target) (aborts : Bool) : Resolution Node :=
  match library.find? "del" with
  | none => ⟨none, [Issue.unknownFunction library "del" s]⟩
  | some f =>
    if aborts && !f.fallible then ⟨none, [Issue.needlessAbort f s]⟩
    else .pure (.call s f aborts [.path target.path])

mutual

/-- The node of an expression. -/
def resolve (library : Library) : Expr → Resolution Node
  | literal s v => .pure (.constant s v.value)
  | array s items => (resolveAll library items).map (.foldArray s)
  | object s entries => (resolveEntries library entries).map (.foldObject s)
  | path s p => .pure (.path s p)
  | access s base p => (resolve library base).map (.access s · p)
  | assign s target value => (resolve library value).map (.assign s target.path)
  | assignPair s ok err (call cs callee args) =>
    let needless := [Issue.needlessPair (describe (call cs callee args)) cs]
    match library.find? callee.name with
    | none =>
      .failed ((if callee.aborts then needless else [])
        ++ [Issue.unknownFunction library callee.name callee.span]) (resolveAll library args)
    | some f =>
      .after ((if callee.aborts || !f.fallible then needless else [])
        ++ f.checkCall callee args.length cs true)
        ((resolveInputs library f 0 args).map (.assignPair s ok.path err.path f))
  | assignPair _ _ _ value =>
    .failed [Issue.needlessPair value.describe value.span] (resolve library value)
  | call s callee args =>
    match library.find? callee.name with
    | none => .failed [Issue.unknownFunction library callee.name callee.span] (resolveAll library args)
    | some f =>
      .after (f.checkCall callee args.length s false)
        ((resolveInputs library f 0 args).map (.call s f callee.aborts))
  | binary s op left right => .zipWith (.binary s op) (resolve library left) (resolve library right)
  | unary s op operand => (resolve library operand).map (.unary s op)
  | branch s condition body none =>
    .zipWith (fun c b => .branch s c b none) (resolve library condition) (resolveAll library body)
  | branch s condition body (some alternative) =>
    .zipWith (fun (c, b) a => .branch s c b (some a))
      (.zipWith Prod.mk (resolve library condition) (resolveAll library body))
      (resolve library alternative)
  | block s body => (resolveAll library body).map (.block s)
  | delete s target aborts => resolveDelete library s target aborts

def resolveAll (library : Library) : List Expr → Resolution (List Node)
  | [] => .pure []
  | e :: rest => .zipWith List.cons (resolve library e) (resolveAll library rest)

def resolveEntries (library : Library) : List (String × Expr) → Resolution (List (String × Node))
  | [] => .pure []
  | (k, e) :: rest =>
    .zipWith (fun n ns => (k, n) :: ns) (resolve library e) (resolveEntries library rest)

/-- The arguments of a call from the one at `i` on. -/
def resolveInputs (library : Library) (f : Function) (i : Nat) :
    List Expr → Resolution (List (Input Node))
  | [] => .pure []
  | e :: rest =>
    let input : Resolution (Input Node) :=
      match f.kindAt i, e with
      | .value, e => (resolve library e).map .value
      | .path, path _ p => .pure (.path p)
      | .path, e => .failed [Issue.pathRequired f e.span] (resolve library e)
    .zipWith List.cons input (resolveInputs library f (i + 1) rest)

end

end Expr

/-- Why there is no program of a text: all that is wrong with it, or arithmetic of the machine that has
overflowed on the way. -/
inductive Rejection where
  | diagnostics (ds : Diagnostics)
  | overflow (o : Overflow)
deriving DecidableEq

/-- The program of a text. A text that cannot be read is not resolved. -/
def compile (library : Library) (source : String) : Except Rejection Program :=
  let (tokens, lexical) := tokenize source
  match Expr.parse tokens with
  | .error o => .error (.overflow o)
  | .ok (statements, syntactic) =>
    if !(lexical ++ syntactic).isEmpty then .error (.diagnostics (.ofList source (lexical ++ syntactic)))
    else
      let r := Expr.resolveAll library statements
      match r.result?, r.issues with
      | some nodes, [] => .ok ⟨source, nodes⟩
      | _, issues => .error (.diagnostics (.ofList source issues))

end Reshape
