/-
Programs resolved further down.

Nothing that resolving checks depends on where an expression stands.  What it gives, and what it reports, for a
shifted expression is what it gives and reports for the expression, shifted.

* `Expr.resolve_shift` — resolving shifts with the expression.
-/
import Reshape.Proofs.Resolution
import Reshape.Proofs.Shift

namespace Reshape

variable {α β γ : Type} (δ : Shift)

namespace Resolution

/-- The result changed and everything that was reported shifted. -/
def move (φ : α → β) (r : Resolution α) : Resolution β :=
  ⟨r.result?.map φ, r.issues.map (·.shift δ)⟩

variable {α' β' γ' : Type}

theorem map_move {ψ : α → α'} {φ : β → β'} {f : α → β} {g : α' → β'} {r : Resolution α}
    (h : ∀ a, g (ψ a) = φ (f a)) : (r.move δ ψ).map g = (r.map f).move δ φ := by
  obtain ⟨_ | a, issues⟩ := r
  · rfl
  · simp [move, map, h]

theorem zipWith_move {ψ : α → α'} {χ : β → β'} {φ : γ → γ'} {f : α → β → γ} {g : α' → β' → γ'}
    {r : Resolution α} {q : Resolution β} (h : ∀ a b, g (ψ a) (χ b) = φ (f a b)) :
    zipWith g (r.move δ ψ) (q.move δ χ) = (zipWith f r q).move δ φ := by
  obtain ⟨_ | a, issues⟩ := r
  · simp [move, zipWith]
  · obtain ⟨_ | b, issues'⟩ := q
    · simp [move, zipWith]
    · simp [move, zipWith, h]

theorem failed_move (φ : β → β') (ψ : α → α') (issues : List Diagnostic) (r : Resolution α) :
    failed (issues.map (·.shift δ)) (r.move δ ψ) = (failed issues r : Resolution β).move δ φ := by
  simp [move, failed]

theorem after_move (φ : α → β) (issues : List Diagnostic) (r : Resolution α) :
    after (issues.map (·.shift δ)) (r.move δ φ) = (after issues r).move δ φ := by
  cases issues with
  | nil => rfl
  | cons d ds => simp [move, after]

theorem Gives.move {r : Resolution α} {a : α} (h : r.Gives a) (φ : α → β) : (r.move δ φ).Gives (φ a) := by
  simp [Gives, Resolution.move, h.1, h.2]

end Resolution

def Input.shift : Input Node → Input Node
  | .value n => .value (n.shift δ)
  | .path p => .path p

namespace Node

theorem constant?_shift (n : Node) : (n.shift δ).constant? = n.constant? := by
  cases n with
  | branch s condition body alternative =>
    cases alternative with
    | none => rfl
    | some alternative => rfl
  | _ => rfl

theorem constants?_shift : ∀ ns : List Node, constants? (shiftAll δ ns) = constants? ns
  | [] => rfl
  | n :: rest => by rw [shiftAll, constants?, constants?, constant?_shift, constants?_shift rest]

theorem constantEntries?_shift :
    ∀ ns : List (String × Node), constantEntries? (shiftEntries δ ns) = constantEntries? ns
  | [] => rfl
  | (k, n) :: rest => by
    rw [shiftEntries, constantEntries?, constantEntries?, constant?_shift, constantEntries?_shift rest]

theorem foldArray_shift (s : Span) (items : List Node) :
    (foldArray s items).shift δ = foldArray (s.shift δ) (shiftAll δ items) := by
  rw [foldArray, foldArray, constants?_shift]
  cases constants? items with
  | none => rfl
  | some values => rfl

theorem foldObject_shift (s : Span) (entries : List (String × Node)) :
    (foldObject s entries).shift δ = foldObject (s.shift δ) (shiftEntries δ entries) := by
  rw [foldObject, foldObject, constantEntries?_shift]
  cases constantEntries? entries with
  | none => rfl
  | some values => rfl

end Node

theorem issueIf_shift (b : Bool) (d : Diagnostic) :
    (if b then [d.shift δ] else []) = (if b then [d] else []).map (·.shift δ) := by
  cases b <;> rfl

theorem Function.checkCall_shift (f : Function) (callee : Callee) (count : Nat) (span : Span) (handled : Bool) :
    f.checkCall (callee.shift δ) count (span.shift δ) handled =
      (f.checkCall callee count span handled).map (·.shift δ) := by
  rw [checkCall, checkCall, List.map_append, List.map_append, ← issueIf_shift, ← issueIf_shift]
  cases f.admits count <;> rfl

namespace Expr

open Resolution

theorem describe_shift (e : Expr) : (e.shift δ).describe = e.describe := by
  cases e with
  | branch s condition body alternative =>
    cases alternative with
    | none => rfl
    | some alternative => rfl
  | _ => rfl

theorem length_shiftAll (es : List Expr) : (shiftAll δ es).length = es.length := by
  rw [shiftAll_eq_map, List.length_map]

theorem resolveDelete_shift (library : Library) (s : Span) (target : Target) (aborts : Bool) :
    resolveDelete library (s.shift δ) (target.shift δ) aborts =
      (resolveDelete library s target aborts).move δ (·.shift δ) := by
  unfold resolveDelete
  split
  · rfl
  · split
    · rfl
    · rfl

theorem resolve_assignPair (library : Library) (s : Span) (ok err : Target) {value : Expr}
    (h : ∀ cs callee args, value ≠ call cs callee args) :
    resolve library (assignPair s ok err value) =
      failed [Issue.needlessPair value.describe value.span] (resolve library value) := by
  cases value with
  | call cs callee args => exact absurd rfl (h cs callee args)
  | _ => rfl

/-- What is assigned to two places, if it is no call, is resolved only for its reports. -/
theorem resolve_assignPair_shift {library : Library} {s : Span} {ok err : Target} {value : Expr}
    (h : ∀ cs callee args, value ≠ call cs callee args)
    (hvalue : resolve library (value.shift δ) = (resolve library value).move δ (·.shift δ)) :
    resolve library ((assignPair s ok err value).shift δ) =
      (resolve library (assignPair s ok err value)).move δ (·.shift δ) := by
  have hshift : ∀ cs callee args, value.shift δ ≠ call cs callee args := by
    intro cs callee args hcall
    cases value with
    | call cs' callee' args' => exact h cs' callee' args' rfl
    | branch s condition body alternative =>
      cases alternative with
      | none => cases hcall
      | some alternative => cases hcall
    | _ => cases hcall
  rw [shift, resolve_assignPair library _ _ _ hshift, resolve_assignPair library _ _ _ h, hvalue, describe_shift,
    span_shift]
  exact failed_move δ (Node.shift δ) _ [Issue.needlessPair value.describe value.span] _

/-- One argument of a call. -/
def resolveInput (library : Library) (f : Function) (i : Nat) (e : Expr) : Resolution (Input Node) :=
  match f.kindAt i, e with
  | .value, e => (resolve library e).map .value
  | .path, path _ p => .pure (.path p)
  | .path, e => .failed [Issue.pathRequired f e.span] (resolve library e)

theorem resolveInputs_cons (library : Library) (f : Function) (i : Nat) (e : Expr) (rest : List Expr) :
    resolveInputs library f i (e :: rest) =
      zipWith List.cons (resolveInput library f i e) (resolveInputs library f (i + 1) rest) := by
  conv =>
    lhs
    unfold resolveInputs
  rfl

theorem resolveInput_shift {library : Library} {f : Function} {i : Nat} {e : Expr}
    (he : resolve library (e.shift δ) = (resolve library e).move δ (·.shift δ)) :
    resolveInput library f i (e.shift δ) = (resolveInput library f i e).move δ (Input.shift δ) := by
  unfold resolveInput
  cases f.kindAt i with
  | value =>
    dsimp only
    rw [he]
    exact map_move δ fun _ => rfl
  | path =>
    have hfailed : (failed [Issue.pathRequired f (e.shift δ).span] (resolve library (e.shift δ)) :
        Resolution (Input Node)) =
          (failed [Issue.pathRequired f e.span] (resolve library e)).move δ (Input.shift δ) := by
      rw [he, span_shift]
      exact failed_move δ (Input.shift δ) _ [Issue.pathRequired f e.span] _
    cases e with
    | path s p => rfl
    | branch s condition body alternative =>
      cases alternative with
      | none => exact hfailed
      | some alternative => exact hfailed
    | _ => exact hfailed

section Resolve

variable (library : Library)

mutual

/-- Resolving shifts with the expression. -/
theorem resolve_shift : ∀ e : Expr, resolve library (e.shift δ) = (resolve library e).move δ (·.shift δ)
  | literal s v => rfl
  | path s p => rfl
  | array s items => by
    rw [shift, resolve, resolve, resolveAll_shift items]
    exact map_move δ fun items => (Node.foldArray_shift δ s items).symm
  | object s entries => by
    rw [shift, resolve, resolve, resolveEntries_shift entries]
    exact map_move δ fun entries => (Node.foldObject_shift δ s entries).symm
  | access s base p => by
    rw [shift, resolve, resolve, resolve_shift base]
    exact map_move δ fun _ => rfl
  | assign s target value => by
    rw [shift, resolve, resolve, resolve_shift value]
    exact map_move δ fun _ => rfl
  | assignPair s ok err (call cs callee args) => by
    rw [shift, shift, resolve, resolve]
    have hfind : library.find? (callee.shift δ).name = library.find? callee.name := rfl
    have hneedless : [Issue.needlessPair (describe (call (cs.shift δ) (callee.shift δ) (shiftAll δ args)))
        (cs.shift δ)] = [(Issue.needlessPair (describe (call cs callee args)) cs).shift δ] := rfl
    -- the same function is found, and a needless capture is the same issue further down
    rw [hfind, hneedless]
    rw [show (callee.shift δ).aborts = callee.aborts from rfl, issueIf_shift]
    split
    · rw [resolveAll_shift args, ← failed_move δ _ (Node.shiftAll δ), List.map_append]
      rfl
    · rename_i f hf
      rw [resolveInputs_shift f args 0, length_shiftAll, Function.checkCall_shift, issueIf_shift, ← after_move,
        List.map_append]
      exact congrArg _ (map_move δ fun _ => rfl)
  | assignPair s ok err (literal ..) | assignPair s ok err (array ..) | assignPair s ok err (object ..)
  | assignPair s ok err (path ..) | assignPair s ok err (access ..) | assignPair s ok err (assign ..)
  | assignPair s ok err (assignPair ..) | assignPair s ok err (binary ..) | assignPair s ok err (unary ..)
  | assignPair s ok err (branch ..) | assignPair s ok err (block ..) | assignPair s ok err (delete ..) =>
    resolve_assignPair_shift δ (fun _ _ _ h => Expr.noConfusion h) (resolve_shift _)
  | call s callee args => by
    rw [shift, resolve, resolve]
    have hfind : library.find? (callee.shift δ).name = library.find? callee.name := rfl
    rw [hfind]
    split
    · rw [resolveAll_shift args]
      exact failed_move δ (Node.shift δ) _ [Issue.unknownFunction library callee.name callee.span] _
    · rename_i f hf
      rw [resolveInputs_shift f args 0, length_shiftAll, Function.checkCall_shift, ← after_move]
      exact congrArg _ (map_move δ fun _ => rfl)
  | binary s op left right => by
    rw [shift, resolve, resolve, resolve_shift left, resolve_shift right]
    exact zipWith_move δ fun _ _ => rfl
  | unary s op operand => by
    rw [shift, resolve, resolve, resolve_shift operand]
    exact map_move δ fun _ => rfl
  | branch s condition body none => by
    rw [shift, resolve, resolve, resolve_shift condition, resolveAll_shift body]
    exact zipWith_move δ fun _ _ => rfl
  | branch s condition body (some alternative) => by
    rw [shift, resolve, resolve, resolve_shift condition, resolveAll_shift body, resolve_shift alternative]
    -- condition and body are paired first
    have hpair : zipWith Prod.mk ((resolve library condition).move δ (Node.shift δ))
        ((resolveAll library body).move δ (Node.shiftAll δ)) =
          (zipWith Prod.mk (resolve library condition) (resolveAll library body)).move δ
            (Prod.map (Node.shift δ) (Node.shiftAll δ)) := zipWith_move δ fun _ _ => rfl
    rw [hpair]
    exact zipWith_move δ fun _ _ => rfl
  | block s body => by
    rw [shift, resolve, resolve, resolveAll_shift body]
    exact map_move δ fun _ => rfl
  | delete s target aborts => resolveDelete_shift δ library s target aborts

theorem resolveAll_shift :
    ∀ es : List Expr, resolveAll library (shiftAll δ es) = (resolveAll library es).move δ (Node.shiftAll δ)
  | [] => rfl
  | e :: rest => by
    rw [shiftAll, resolveAll, resolveAll, resolve_shift e, resolveAll_shift rest]
    exact zipWith_move δ fun _ _ => rfl

theorem resolveEntries_shift :
    ∀ es : List (String × Expr),
      resolveEntries library (shiftEntries δ es) = (resolveEntries library es).move δ (Node.shiftEntries δ)
  | [] => rfl
  | (k, e) :: rest => by
    rw [shiftEntries, resolveEntries, resolveEntries, resolve_shift e, resolveEntries_shift rest]
    exact zipWith_move δ fun _ _ => rfl

theorem resolveInputs_shift (f : Function) :
    ∀ (es : List Expr) (i : Nat),
      resolveInputs library f i (shiftAll δ es) = (resolveInputs library f i es).move δ (Node.shiftInputs δ)
  | [], i => rfl
  | e :: rest, i => by
    rw [shiftAll, resolveInputs_cons, resolveInputs_cons, resolveInput_shift δ (resolve_shift e),
      resolveInputs_shift f rest (i + 1)]
    refine zipWith_move δ fun input others => ?_
    cases input <;> rfl

end

end Resolve

end Expr

end Reshape
