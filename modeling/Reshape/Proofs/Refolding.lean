/-
Folding after reading.

Nothing that a reader does depends on whether a minus has become part of the number behind it: the expressions it
asks about are asked for their region, or whether they are a place.  So an expression may be read as it is written
and folded afterwards.

* `Expr.fold` — every minus before a number made part of it, from the inside out;
* `Expr.parse_eq_fold` — what is read is what is read without folding, folded, with the same errors.
-/
import Reshape.Proofs.Making

namespace Reshape

namespace Expr

open Parse

/-! ### Folding -/

mutual

/-- The expression with every minus before a number made part of it. -/
def fold : Expr → Expr
  | literal s v => literal s v
  | array s items => array s (foldAll items)
  | object s entries => object s (foldEntries entries)
  | path s p => path s p
  | access s base p => access s (fold base) p
  | assign s target value => assign s target (fold value)
  | assignPair s ok err value => assignPair s ok err (fold value)
  | call s callee arguments => call s callee (foldAll arguments)
  | binary s op left right => binary s op (fold left) (fold right)
  | unary s op operand => applyPrefix op s (fold operand)
  | branch s condition body none => branch s (fold condition) (foldAll body) none
  | branch s condition body (some alternative) =>
    branch s (fold condition) (foldAll body) (some (fold alternative))
  | block s body => block s (foldAll body)
  | delete s target aborts => delete s target aborts

def foldAll : List Expr → List Expr
  | [] => []
  | e :: rest => fold e :: foldAll rest

def foldEntries : List (String × Expr) → List (String × Expr)
  | [] => []
  | (k, e) :: rest => (k, fold e) :: foldEntries rest

end

theorem fold_branch (s : Span) (condition : Expr) (body : List Expr) (alternative : Option Expr) :
    fold (branch s condition body alternative) =
      branch s (fold condition) (foldAll body) (alternative.map fold) := by
  cases alternative <;> rfl

/-- A prefix operator applied is a number, if there was one behind it, or the operator stays. -/
theorem applyPrefix_induction {P : Expr → Prop} {op : UnaryOp} {s : Span} {e : Expr}
    (hliteral : ∀ v, P (literal s v)) (hunary : P (unary s op e)) : P (applyPrefix op s e) := by
  unfold applyPrefix
  split
  · split
    · exact hunary
    · exact hliteral _
  · exact hliteral _
  · exact hunary

theorem span_applyPrefix (op : UnaryOp) (s : Span) (e : Expr) : (applyPrefix op s e).span = s :=
  @applyPrefix_induction (fun e' => e'.span = s) op s e (fun _ => rfl) rfl

theorem withSpan_applyPrefix (op : UnaryOp) (s s' : Span) (e : Expr) :
    (applyPrefix op s e).withSpan s' = applyPrefix op s' e := by
  unfold applyPrefix
  split
  · split
    · rfl
    · rfl
  · rfl
  · rfl

@[simp] theorem span_fold (e : Expr) : e.fold.span = e.span := by
  cases e with
  | unary s op operand => exact span_applyPrefix op s operand.fold
  | branch s condition body alternative =>
    rw [fold_branch]
    rfl
  | _ => rfl

theorem withSpan_fold (e : Expr) (s : Span) : (e.withSpan s).fold = e.fold.withSpan s := by
  cases e with
  | unary s' op operand => exact (withSpan_applyPrefix op s' s operand.fold).symm
  | branch s' condition body alternative =>
    rw [withSpan, fold_branch, fold_branch]
    rfl
  | _ => rfl

/-- Nothing becomes a place by folding. -/
theorem fold_eq_path {e : Expr} {s : Span} {p : Path} : e.fold = path s p ↔ e = path s p := by
  constructor
  · intro h
    cases e with
    | path s' p' => exact h
    | unary s' op operand =>
      exact absurd h (@applyPrefix_induction (fun e => e ≠ path s p) op s' operand.fold (fun _ => by simp) (by simp))
    | branch s' condition body alternative =>
      rw [fold_branch] at h
      cases h
    | _ => cases h
  · rintro rfl
    rfl

theorem foldAll_eq_map (es : List Expr) : foldAll es = es.map fold := by
  induction es with
  | nil => rfl
  | cons e rest ih => rw [foldAll, ih, List.map_cons]

end Expr

namespace Parse

variable {α β γ δ : Type}

/-- The second reader reads what the first reads, changed by a function, and stops where it stops. -/
def Maps (f : α → β) (p : Parse α) (q : Parse β) : Prop :=
  ∀ c, q.run c = ((p.run c).1.map f, (p.run c).2)

theorem maps_self (p : Parse α) : Maps id p p := fun c => by
  rw [Option.map_id]
  rfl

theorem maps_pure {f : α → β} {a : α} {b : β} (h : b = f a) : Maps f (pure a) (pure b) := fun c => by
  rw [h]
  rfl

theorem maps_bind {f : α → β} {g : γ → δ} {p : Parse α} {q : Parse β} {k : α → Parse γ} {l : β → Parse δ}
    (h : Maps f p q) (hk : ∀ a, Maps g (k a) (l (f a))) : Maps g (p >>= k) (q >>= l) := fun c => by
  have hq := h c
  rcases hp : p.run c with ⟨_ | a, c'⟩
  · rw [hp] at hq
    rw [run_bind_none hp, run_bind_none hq]
    rfl
  · rw [hp] at hq
    rw [run_bind_some hp, run_bind_some hq, hk a c']

/-- The same step in front of both readers. -/
theorem maps_step {f : α → β} {p : Parse γ} {k : γ → Parse α} {l : γ → Parse β}
    (h : ∀ a, Maps f (k a) (l a)) : Maps f (p >>= k) (p >>= l) :=
  maps_bind (maps_self p) h

theorem maps_unexpected {f : α → β} (expected : String) : Maps f (unexpected expected) (unexpected expected) :=
  fun _ => rfl

theorem maps_report {f : α → β} (code : Code) (message : String) (span : Span) (label : String) :
    Maps f (report code message span label) (report code message span label) :=
  fun _ => rfl

theorem maps_ite {f : α → β} {P : Prop} [Decidable P] {p p' : Parse α} {q q' : Parse β} (h : Maps f p q)
    (h' : Maps f p' q') : Maps f (if P then p else p') (if P then q else q') := by
  split
  · exact h
  · exact h'

end Parse

namespace Expr

open Parse

theorem foldEntries_eq_map (es : List (String × Expr)) : foldEntries es = es.map fun e => (e.1, e.2.fold) := by
  induction es with
  | nil => rfl
  | cons entry rest ih => rw [foldEntries, ih, List.map_cons]

theorem maps_follow {α β : Type} {f : α → β} (close : TokenKind) (expected : String) (a : α) {more : Parse (List α)}
    {more' : Parse (List β)} (h : Maps (List.map f) more more') :
    Maps (List.map f) (follow close expected a more) (follow close expected (f a) more') := by
  refine maps_step fun _ => maps_step fun comma => maps_ite ?_ (maps_step fun c => maps_ite ?_ ?_)
  · exact maps_bind h fun _ => maps_pure rfl
  · exact maps_pure rfl
  · exact maps_unexpected expected

theorem maps_onElse {α β : Type} {f : α → β} {taken missing : Parse α} {taken' missing' : Parse β}
    (h : Maps f taken taken') (h' : Maps f missing missing') :
    Maps f (onElse taken missing) (onElse taken' missing') := fun c => by
  rw [run_onElse, run_onElse]
  split
  · exact h _
  · exact h' c

theorem suffix?_fold (e : Expr) (c : Cursor) : suffix? e.fold c = suffix? e c := by
  rw [suffix?_eq, suffix?_eq, span_fold]

theorem maps_callOf (name : String) (start : Token) (aborts : Bool) (arguments : List Expr) (stop : Token) :
    Maps fold (callOf name start aborts arguments stop) (callOf name start aborts (arguments.map fold) stop) := by
  by_cases hname : name = "del"
  · subst hname
    rcases arguments with _ | ⟨e, _ | ⟨e', rest⟩⟩
    · exact maps_report _ _ _ _
    · by_cases hpath : ∃ s p, e = path s p
      · obtain ⟨s, p, rfl⟩ := hpath
        exact maps_pure rfl
      · have hne : ∀ s p, e ≠ path s p := fun s p he => hpath ⟨s, p, he⟩
        rw [List.map_cons, List.map_nil, callOf_del_of_ne hne,
          callOf_del_of_ne fun s p he => hne s p (fold_eq_path.1 he), span_fold]
        exact maps_report _ _ _ _
    · rw [List.map_cons, List.map_cons, callOf_del_of_two, callOf_del_of_two, List.length_map]
      exact maps_report _ _ _ _
  · rw [callOf_of_ne hname, callOf_of_ne hname]
    exact maps_pure (by rw [fold, foldAll_eq_map])

/-- The second readers read what the first read, folded. -/
structure Readers.Folds (r r' : Readers) : Prop where
  expression : ∀ level, Maps fold (r.expression level) (r'.expression level)
  operators : ∀ level left, Maps fold (r.operators level left) (r'.operators level left.fold)
  prefixed : Maps fold r.prefixed r'.prefixed
  suffixes : ∀ e, Maps fold (r.suffixes e) (r'.suffixes e.fold)
  primary : Maps fold r.primary r'.primary
  list : ∀ close expected, Maps (List.map fold) (r.list close expected) (r'.list close expected)
  entries : Maps (List.map fun e => (e.1, e.2.fold)) r.entries r'.entries
  braces : Maps (fun b => (b.1.map fold, b.2)) r.braces r'.braces
  branching : Maps fold r.branching r'.branching
  called : ∀ name, Maps fold (r.called name) (r'.called name)
  statement : Maps fold r.statement r'.statement
  statements : ∀ inBlock, Maps (List.map fold) (r.statements inBlock) (r'.statements inBlock)

theorem folds_spent : Readers.spent.Folds .spent where
  expression _ _ := rfl
  operators _ _ _ := rfl
  prefixed _ := rfl
  suffixes _ _ := rfl
  primary _ := rfl
  list _ _ _ := rfl
  entries _ := rfl
  braces _ := rfl
  branching _ := rfl
  called _ _ := rfl
  statement _ := rfl
  statements _ _ := rfl

namespace Readers.Folds

variable {r r' : Readers} (h : r.Folds r')

include h

theorem nextOperators (level : Nat) (left : Expr) :
    Maps fold (r.nextOperators level left) (r'.nextOperators level left.fold) := by
  refine maps_step fun c => ?_
  split
  · exact maps_pure rfl
  · rename_i op _
    refine maps_ite (maps_pure rfl) (maps_step fun _ => maps_step fun _ => ?_)
    refine maps_bind (h.expression op.level) fun right => ?_
    rw [span_fold, span_fold]
    exact h.operators level (binary (left.span.join right.span) op left right)

theorem nextPrefixed : Maps fold (r.nextPrefixed .plain) (r'.nextPrefixed .folding) := by
  refine maps_step fun c => ?_
  split
  · rename_i op _
    refine maps_step fun start => maps_bind (h.expression UnaryOp.level) fun operand => maps_pure ?_
    rw [span_fold]
    rfl
  · refine maps_bind h.primary fun e => ?_
    split
    · exact maps_pure rfl
    · exact h.suffixes e

theorem nextSuffixes (e : Expr) : Maps fold (r.nextSuffixes e) (r'.nextSuffixes e.fold) := by
  refine maps_step fun c => ?_
  rw [suffix?_fold]
  split
  · exact maps_pure rfl
  · rename_i read _
    refine maps_step fun p => maps_step fun c => ?_
    rw [span_fold]
    exact h.suffixes (access (e.span.join c.last) e p)

theorem nextPrimary : Maps fold r.nextPrimary r'.nextPrimary := by
  refine maps_step fun c => ?_
  split
  · exact maps_step fun t => maps_pure rfl
  · split
    · exact maps_step fun t => maps_pure rfl
    · refine maps_step fun start => maps_bind (h.list _ _) fun items => maps_step fun stop => maps_pure ?_
      rw [fold, foldAll_eq_map]
    · refine maps_ite (maps_step fun start => ?_) (maps_bind h.braces fun b => maps_pure ?_)
      · refine maps_bind h.entries fun entries => maps_step fun stop => maps_pure ?_
        rw [fold, foldEntries_eq_map]
      · rw [fold, foldAll_eq_map]
    · refine maps_step fun start => maps_step fun _ => maps_bind (h.expression 0) fun e => ?_
      exact maps_step fun _ => maps_step fun stop => maps_pure (withSpan_fold e _).symm
    · exact h.branching
    · exact h.called _
    · exact maps_unexpected _

theorem nextList (close : TokenKind) (expected : String) :
    Maps (List.map fold) (r.nextList close expected) (r'.nextList close expected) := by
  refine maps_step fun _ => maps_step fun c => maps_ite (maps_pure rfl) ?_
  exact maps_bind (h.expression 0) fun e => maps_follow close expected e (h.list close expected)

theorem nextEntries : Maps (List.map fun e => (e.1, e.2.fold)) r.nextEntries r'.nextEntries := by
  refine maps_step fun _ => maps_step fun c => ?_
  split
  · exact maps_pure rfl
  · rename_i key _
    refine maps_step fun _ => maps_step fun _ => maps_step fun _ => maps_bind (h.expression 0) fun e => ?_
    exact maps_follow .rBrace "`,` or `\x7d`" (key, e) h.entries
  · exact maps_unexpected _

theorem nextBraces : Maps (fun b => (b.1.map fold, b.2)) r.nextBraces r'.nextBraces := by
  refine maps_step fun start => maps_bind (h.statements true) fun body => maps_step fun c => ?_
  exact maps_ite (maps_step fun stop => maps_pure rfl) (maps_report _ _ _ _)

theorem nextAlternative : Maps fold r.nextAlternative r'.nextAlternative := by
  refine maps_step fun c => maps_ite h.branching (maps_bind h.braces fun b => maps_pure ?_)
  rw [fold, foldAll_eq_map]

theorem nextBranching : Maps fold r.nextBranching r'.nextBranching := by
  refine maps_step fun start => maps_bind (h.expression 0) fun condition => maps_bind h.braces fun b => ?_
  refine maps_onElse (maps_bind h.nextAlternative fun alternative => maps_pure ?_) (maps_pure ?_)
  · rw [fold, foldAll_eq_map, span_fold]
  · rw [fold, foldAll_eq_map]

theorem nextCalled (name : String) : Maps fold (r.nextCalled name) (r'.nextCalled name) := by
  refine maps_step fun start => maps_step fun aborts => maps_step fun c => maps_ite ?_ (maps_report _ _ _ _)
  refine maps_step fun _ => maps_bind (h.list _ _) fun arguments => maps_step fun stop => ?_
  exact maps_callOf name start aborts arguments stop

theorem nextStatement : Maps fold r.nextStatement r'.nextStatement := by
  refine maps_step fun c => ?_
  split
  · refine maps_step fun place => maps_step fun _ => maps_step fun _ => maps_bind (h.expression 0) fun value => ?_
    exact maps_pure (by rw [fold, span_fold])
  · refine maps_step fun ok => maps_step fun _ => maps_step fun err => maps_step fun _ => maps_step fun _ => ?_
    exact maps_bind (h.expression 0) fun value => maps_pure (by rw [fold, span_fold])
  · exact h.expression 0

theorem nextStatements (inBlock : Bool) :
    Maps (List.map fold) (r.nextStatements inBlock) (r'.nextStatements inBlock) := by
  intro c
  have hrest : ∀ c, r'.statements inBlock c =
      ((r.statements inBlock c).1.map (List.map fold), (r.statements inBlock c).2) := h.statements inBlock
  have hone : ∀ c, r'.statement c = ((r.statement c).1.map fold, (r.statement c).2) := h.statement
  rw [Parse.run, Parse.run, Readers.nextStatements, Readers.nextStatements]
  -- the loop goes on where a statement has failed, which no bind does, so it is split by hand
  dsimp only
  split
  · rfl
  · split
    · exact hrest _
    · rw [hone]
      rcases r.statement c.skipSeparators with ⟨_ | e, c₁⟩
      · dsimp only [Option.map_none]
        split
        · rfl
        · exact hrest _
      · dsimp only [Option.map_some]
        rw [hrest]
        generalize r.statements inBlock _ = rest
        rcases rest with ⟨_ | es, c₂⟩
        · rfl
        · rfl

theorem next : (r.next .plain).Folds (r'.next .folding) where
  expression level := maps_bind h.prefixed fun left => h.operators level left
  operators := h.nextOperators
  prefixed := h.nextPrefixed
  suffixes := h.nextSuffixes
  primary := h.nextPrimary
  list := h.nextList
  entries := h.nextEntries
  braces := h.nextBraces
  branching := h.nextBranching
  called := h.nextCalled
  statement := h.nextStatement
  statements := h.nextStatements

end Readers.Folds

theorem readers_fold : ∀ fuel, (readers .plain fuel).Folds (readers .folding fuel)
  | 0 => folds_spent
  | fuel + 1 => (readers_fold fuel).next

/-- What is read is what is read without folding, folded, and the errors are the same. -/
theorem parse_eq_fold (tokens : List Token) :
    parse tokens = (parseWith .plain tokens).map fun (es, ds) => (es.map fold, ds) := by
  have h := (readers_fold (fuelFor (Cursor.start tokens).tokens.length)).statements false (Cursor.start tokens)
  unfold Parse.run at h
  rw [← parseWith_folding, parseWith, parseWith, h]
  rcases (readers .plain (fuelFor (Cursor.start tokens).tokens.length)).statements false (Cursor.start tokens)
    with ⟨_ | es, c⟩
  · dsimp only
    split <;> rfl
  · dsimp only
    split <;> rfl

end Expr

end Reshape
