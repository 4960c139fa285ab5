/-
Programs further down.

Text that is put in front of a program, with a line break at its end, moves every region of the program by a
number of bytes and lines and leaves the columns alone.  `Shift` is such a move; marks, regions, tokens,
expressions and nodes are shifted by shifting every region in them.

* `Span.join_shift` — a region of two parts is shifted by shifting the parts;
* `Mark.past_shift` — text is as long wherever it starts;
* `Shift.past` — the move by a text and the line break behind it.
-/
import Reshape.Fault
import Reshape.Program.Basic
import Reshape.Token.Lexer

namespace Reshape

/-- A move of program text by bytes and lines. -/
structure Shift where
  offset : Nat
  lines : Nat
deriving DecidableEq, Repr

/-- The move by a text and a line break. -/
def Shift.past (source : String) : Shift :=
  ⟨source.utf8ByteSize + 1, source.toList.count '\n' + 1⟩

variable (δ : Shift)

namespace Span

def shift (s : Span) : Span :=
  ⟨s.start + δ.offset, s.stop + δ.offset, s.line + δ.lines, s.column⟩

@[simp] theorem shift_zero (s : Span) : s.shift ⟨0, 0⟩ = s := rfl

@[simp] theorem start_shift (s : Span) : (s.shift δ).start = s.start + δ.offset := rfl

@[simp] theorem stop_shift (s : Span) : (s.shift δ).stop = s.stop + δ.offset := rfl

@[simp] theorem join_shift (a b : Span) : (a.join b).shift δ = (a.shift δ).join (b.shift δ) := by
  unfold join
  simp only [start_shift, stop_shift, Nat.add_le_add_iff_right]
  split
  · simp [shift, Nat.add_max_add_right]
  · simp [shift, Nat.add_max_add_right]

end Span

namespace Mark

def shift (m : Mark) : Mark :=
  ⟨m.offset + δ.offset, m.line + δ.lines, m.column⟩

@[simp] theorem offset_shift (m : Mark) : (m.shift δ).offset = m.offset + δ.offset := rfl

@[simp] theorem next_shift (m : Mark) (c : Char) : (m.shift δ).next c = (m.next c).shift δ := by
  unfold next
  split
  · simp [shift, Nat.add_right_comm]
  · simp [shift, Nat.add_right_comm]

@[simp] theorem past_shift (m : Mark) (cs : List Char) : (m.shift δ).past cs = (m.past cs).shift δ := by
  induction cs generalizing m with
  | nil => rfl
  | cons c cs ih => rw [past_cons, past_cons, next_shift, ih]

@[simp] theorem spanTo_shift (m stop : Mark) : (m.shift δ).spanTo (stop.shift δ) = (m.spanTo stop).shift δ := rfl

theorem line_past (m : Mark) (cs : List Char) : (m.past cs).line = m.line + cs.count '\n' := by
  induction cs generalizing m with
  | nil => rfl
  | cons c cs ih =>
    rw [past_cons, ih, List.count_cons]
    by_cases hc : c = '\n'
    · simp [next, hc]
      omega
    · simp [next, hc]

theorem offset_past (m : Mark) (cs : List Char) :
    (m.past cs).offset = m.offset + (String.ofList cs).utf8ByteSize := by
  induction cs generalizing m with
  | nil => rfl
  | cons c cs ih =>
    have hnext : (m.next c).offset = m.offset + c.utf8Size := by
      unfold next
      split <;> rfl
    have hsize : (String.ofList (c :: cs)).utf8ByteSize = c.utf8Size + (String.ofList cs).utf8ByteSize := by
      rw [show c :: cs = [c] ++ cs from rfl, String.ofList_append, String.utf8ByteSize_append]
      simp
    rw [past_cons, ih, hnext, hsize, Nat.add_assoc]

/-- The place behind a text and a line break is the start of a program, shifted. -/
theorem past_newline (source : String) :
    (origin.past source.toList).next '\n' = origin.shift (.past source) := by
  have hline := line_past origin source.toList
  have hoffset := offset_past origin source.toList
  rw [String.ofList_toList] at hoffset
  rw [next, if_pos rfl, hline, hoffset]
  simp only [origin, shift, Shift.past, Mark.mk.injEq, and_true]
  refine ⟨?_, by omega⟩
  rw [show '\n'.utf8Size = 1 from rfl]
  omega

end Mark

/-! ### Tokens -/

def Token.shift (t : Token) : Token :=
  { t with span := t.span.shift δ }

@[simp] theorem Token.kind_shift (t : Token) : (t.shift δ).kind = t.kind := rfl

@[simp] theorem Token.span_shift (t : Token) : (t.shift δ).span = t.span.shift δ := rfl

@[simp] theorem Token.shift_zero : Token.shift ⟨0, 0⟩ = id := rfl

def Diagnostic.shift (d : Diagnostic) : Diagnostic :=
  { d with span := d.span.map (·.shift δ) }

def Lexeme.shift (l : Lexeme) : Lexeme :=
  ⟨l.token.shift δ, l.issue.map (·.shift δ)⟩

/-! ### Expressions -/

def Target.shift (t : Target) : Target :=
  { t with span := t.span.shift δ }

def Callee.shift (c : Callee) : Callee :=
  { c with span := c.span.shift δ }

namespace Expr

mutual

def shift : Expr → Expr
  | literal s v => literal (s.shift δ) v
  | array s items => array (s.shift δ) (shiftAll items)
  | object s entries => object (s.shift δ) (shiftEntries entries)
  | path s p => path (s.shift δ) p
  | access s base p => access (s.shift δ) (shift base) p
  | assign s target value => assign (s.shift δ) (target.shift δ) (shift value)
  | assignPair s ok err value => assignPair (s.shift δ) (ok.shift δ) (err.shift δ) (shift value)
  | call s callee arguments => call (s.shift δ) (callee.shift δ) (shiftAll arguments)
  | binary s op left right => binary (s.shift δ) op (shift left) (shift right)
  | unary s op operand => unary (s.shift δ) op (shift operand)
  | branch s condition body none => branch (s.shift δ) (shift condition) (shiftAll body) none
  | branch s condition body (some alternative) =>
    branch (s.shift δ) (shift condition) (shiftAll body) (some (shift alternative))
  | block s body => block (s.shift δ) (shiftAll body)
  | delete s target aborts => delete (s.shift δ) (target.shift δ) aborts

def shiftAll : List Expr → List Expr
  | [] => []
  | e :: rest => shift e :: shiftAll rest

def shiftEntries : List (String × Expr) → List (String × Expr)
  | [] => []
  | (k, e) :: rest => (k, shift e) :: shiftEntries rest

end

theorem shiftAll_eq_map : ∀ es : List Expr, shiftAll δ es = es.map (shift δ)
  | [] => rfl
  | e :: rest => by rw [shiftAll, shiftAll_eq_map rest, List.map_cons]

@[simp] theorem span_shift (e : Expr) : (e.shift δ).span = e.span.shift δ := by
  cases e with
  | branch s condition body alternative =>
    cases alternative with
    | none => rfl
    | some alternative => rfl
  | _ => rfl

theorem withSpan_shift (e : Expr) (s : Span) : (e.withSpan s).shift δ = (e.shift δ).withSpan (s.shift δ) := by
  cases e with
  | branch s condition body alternative =>
    cases alternative with
    | none => rfl
    | some alternative => rfl
  | _ => rfl

mutual

@[simp] theorem shift_zero : ∀ e : Expr, e.shift ⟨0, 0⟩ = e
  | literal _ _ | path _ _ | delete _ _ _ => rfl
  | array _ items | block _ items => by rw [shift, shiftAll_zero items]; rfl
  | object _ entries => by rw [shift, shiftEntries_zero entries]; rfl
  | access _ e _ | assign _ _ e | assignPair _ _ _ e | unary _ _ e => by rw [shift, shift_zero e]; rfl
  | call _ _ arguments => by rw [shift, shiftAll_zero arguments]; rfl
  | binary _ _ left right => by rw [shift, shift_zero left, shift_zero right]; rfl
  | branch _ condition body none => by rw [shift, shift_zero condition, shiftAll_zero body]; rfl
  | branch _ condition body (some alternative) => by
    rw [shift, shift_zero condition, shiftAll_zero body, shift_zero alternative]; rfl

theorem shiftAll_zero : ∀ es : List Expr, shiftAll ⟨0, 0⟩ es = es
  | [] => rfl
  | e :: rest => by rw [shiftAll, shift_zero e, shiftAll_zero rest]

theorem shiftEntries_zero : ∀ es : List (String × Expr), shiftEntries ⟨0, 0⟩ es = es
  | [] => rfl
  | (k, e) :: rest => by rw [shiftEntries, shift_zero e, shiftEntries_zero rest]

end

end Expr

/-! ### Programs -/

namespace Node

mutual

def shift : Node → Node
  | constant s v => constant (s.shift δ) v
  | array s items => array (s.shift δ) (shiftAll items)
  | object s entries => object (s.shift δ) (shiftEntries entries)
  | path s p => path (s.shift δ) p
  | access s base p => access (s.shift δ) (shift base) p
  | assign s target value => assign (s.shift δ) target (shift value)
  | assignPair s ok err f inputs => assignPair (s.shift δ) ok err f (shiftInputs inputs)
  | call s f aborts inputs => call (s.shift δ) f aborts (shiftInputs inputs)
  | binary s op left right => binary (s.shift δ) op (shift left) (shift right)
  | unary s op operand => unary (s.shift δ) op (shift operand)
  | branch s condition body none => branch (s.shift δ) (shift condition) (shiftAll body) none
  | branch s condition body (some alternative) =>
    branch (s.shift δ) (shift condition) (shiftAll body) (some (shift alternative))
  | block s body => block (s.shift δ) (shiftAll body)

def shiftAll : List Node → List Node
  | [] => []
  | n :: rest => shift n :: shiftAll rest

def shiftEntries : List (String × Node) → List (String × Node)
  | [] => []
  | (k, n) :: rest => (k, shift n) :: shiftEntries rest

def shiftInputs : List (Input Node) → List (Input Node)
  | [] => []
  | .path p :: rest => .path p :: shiftInputs rest
  | .value n :: rest => .value (shift n) :: shiftInputs rest

end

theorem shiftAll_eq_map : ∀ ns : List Node, shiftAll δ ns = ns.map (shift δ)
  | [] => rfl
  | n :: rest => by rw [shiftAll, shiftAll_eq_map rest, List.map_cons]

@[simp] theorem span_shift (n : Node) : (n.shift δ).span = n.span.shift δ := by
  cases n with
  | branch s condition body alternative =>
    cases alternative with
    | none => rfl
    | some alternative => rfl
  | _ => rfl

end Node

def Fault.shift (f : Fault) : Fault :=
  { f with span := f.span.map (·.shift δ) }

end Reshape
