/-
Folding does not change what a program does.

A node that was folded and the node it stands for agree: they stand at the same place of the program, evaluate to the
same and would hand the same place to a call.  What is made of nodes that agree agrees, so resolving an expression as
it is written and resolving it folded gives nodes that agree, with the same reports.

* `Node.Agrees` — two nodes that can stand for each other;
* `Expr.related_resolve` — resolving with and without the folds;
* `compileWith_plain_run` — a program runs as it would without the folds.
-/
import Mathlib.Data.List.Forall2
import Reshape.Function.Standard
import Reshape.Proofs.Fault
import Reshape.Proofs.Refolding

namespace Reshape

/-! ### Results that are related -/

namespace Resolution

variable {α β γ α' β' γ' : Type} {R : α → α' → Prop} {S : β → β' → Prop} {T : γ → γ' → Prop}

/-- The same was reported, and the results, if there are any, are related. -/
structure Related (R : α → α' → Prop) (r : Resolution α) (r' : Resolution α') : Prop where
  issues : r'.issues = r.issues
  results : Option.Rel R r.result? r'.result?

theorem related_pure {a : α} {a' : α'} (h : R a a') : Related R (pure a) (pure a') :=
  ⟨rfl, .some h⟩

theorem Related.refl {R : α → α → Prop} (h : ∀ a, R a a) (r : Resolution α) : Related R r r := by
  obtain ⟨_ | a, issues⟩ := r
  · exact ⟨rfl, .none⟩
  · exact ⟨rfl, .some (h a)⟩

theorem Related.map {r : Resolution α} {r' : Resolution α'} {f : α → β} {f' : α' → β'} (h : Related R r r')
    (hf : ∀ a a', R a a' → S (f a) (f' a')) : Related S (r.map f) (r'.map f') := by
  obtain ⟨a?, issues⟩ := r
  obtain ⟨a'?, issues'⟩ := r'
  obtain ⟨rfl, hresults⟩ := h
  cases hresults with
  | none => exact ⟨rfl, .none⟩
  | some h => exact ⟨rfl, .some (hf _ _ h)⟩

theorem Related.zipWith {r : Resolution α} {r' : Resolution α'} {q : Resolution β} {q' : Resolution β'}
    {f : α → β → γ} {f' : α' → β' → γ'} (h : Related R r r') (hq : Related S q q')
    (hf : ∀ a a' b b', R a a' → S b b' → T (f a b) (f' a' b')) : Related T (zipWith f r q) (zipWith f' r' q') := by
  obtain ⟨a?, issues⟩ := r
  obtain ⟨a'?, issues'⟩ := r'
  obtain ⟨b?, issues₁⟩ := q
  obtain ⟨b'?, issues₁'⟩ := q'
  obtain ⟨rfl, hresults⟩ := h
  obtain ⟨rfl, hresults'⟩ := hq
  cases hresults with
  | none => exact ⟨rfl, .none⟩
  | some h =>
    cases hresults' with
    | none => exact ⟨rfl, .none⟩
    | some h' => exact ⟨rfl, .some (hf _ _ _ _ h h')⟩

theorem Related.failed {r : Resolution α} {r' : Resolution α'} (h : Related R r r') (issues : List Diagnostic) :
    Related S (failed issues r) (failed issues r') :=
  ⟨congrArg (issues ++ ·) h.issues, .none⟩

theorem Related.after {r : Resolution α} {r' : Resolution α'} (h : Related R r r') (issues : List Diagnostic) :
    Related R (after issues r) (after issues r') := by
  cases issues with
  | nil => exact h
  | cons d ds => exact ⟨congrArg (d :: ds ++ ·) h.issues, .none⟩

end Resolution

/-! ### Nodes that agree -/

namespace Run

/-- Lists of steps that are the same one by one. -/
theorem mapM_eq_of_forall₂ {α β γ : Type} {f : α → Run γ} {g : β → Run γ} {as : List α} {bs : List β}
    (h : List.Forall₂ (fun a b => g b = f a) as bs) : bs.mapM g = as.mapM f := by
  induction h with
  | nil => rfl
  | cons h _ ih => rw [List.mapM_cons, List.mapM_cons, h, ih]

end Run

namespace Node

open Run

variable {s : Surroundings} {span : Span}

/-- The nodes stand at the same place of the program, evaluate to the same, and are the same place of the event for
a call, or none. -/
structure Agrees (n n' : Node) : Prop where
  span : n'.span = n.span
  eval : ∀ s, n'.eval s = n.eval s
  place : (Input.value n').place? = (Input.value n).place?

theorem Agrees.refl (n : Node) : Agrees n n :=
  ⟨rfl, fun _ => rfl, rfl⟩

theorem evalInput_value (s : Surroundings) (n : Node) :
    evalInput s (.value n) =
      match (Input.value n).place? with
      | some p => do return Argument.ofPlace p ((← get).get? p)
      | none => do return Argument.ofValue (← eval s n) := by
  cases n <;> rfl

theorem Agrees.evalInput {n n' : Node} (h : Agrees n n') (s : Surroundings) :
    evalInput s (.value n') = evalInput s (.value n) := by
  rw [evalInput_value, evalInput_value, h.place, h.eval]

variable {items items' : List Node} {entries entries' : List (String × Node)} {inputs inputs' : List (Input Node)}

theorem evalItems_eq (h : List.Forall₂ Agrees items items') : evalItems s items' = evalItems s items := by
  rw [evalItems_eq_mapM, evalItems_eq_mapM]
  exact mapM_eq_of_forall₂ (h.imp fun _ _ h => h.eval s)

theorem evalEntries_eq (h : List.Forall₂ (fun e e' => e.1 = e'.1 ∧ Agrees e.2 e'.2) entries entries') :
    evalEntries s entries' = evalEntries s entries := by
  rw [evalEntries_eq_mapM, evalEntries_eq_mapM]
  exact mapM_eq_of_forall₂ (h.imp fun _ _ h => by rw [evalEntry, evalEntry, h.1, h.2.eval])

theorem evalInputs_eq (h : List.Forall₂ (fun i i' => ∀ s, evalInput s i' = evalInput s i) inputs inputs') :
    evalInputs s inputs' = evalInputs s inputs := by
  rw [evalInputs_eq_mapM, evalInputs_eq_mapM]
  exact mapM_eq_of_forall₂ (h.imp fun _ _ h => h s)

theorem evalBody_eq (h : List.Forall₂ Agrees items items') (last : Value) :
    evalBody s last items' = evalBody s last items := by
  induction h generalizing last with
  | nil => rfl
  | cons h _ ih =>
    rw [evalBody, evalBody, h.eval]
    exact congrArg (eval s _ >>= ·) (funext fun v => ih v)

theorem agrees_array (h : List.Forall₂ Agrees items items') : Agrees (array span items) (array span items') :=
  ⟨rfl, fun s => by rw [eval, eval, evalItems_eq h], rfl⟩

theorem agrees_object (h : List.Forall₂ (fun e e' => e.1 = e'.1 ∧ Agrees e.2 e'.2) entries entries') :
    Agrees (object span entries) (object span entries') :=
  ⟨rfl, fun s => by rw [eval, eval, evalEntries_eq h], rfl⟩

theorem Agrees.trans {n n' n'' : Node} (h : Agrees n n') (h' : Agrees n' n'') : Agrees n n'' :=
  ⟨h'.span.trans h.span, fun s => (h'.eval s).trans (h.eval s), h'.place.trans h.place⟩

theorem Agrees.access {base base' : Node} (h : Agrees base base') (p : Path) :
    Agrees (access span base p) (access span base' p) :=
  ⟨rfl, fun s => by rw [Node.eval, Node.eval, h.eval], rfl⟩

theorem Agrees.assign {n n' : Node} (h : Agrees n n') (target : Path) :
    Agrees (assign span target n) (assign span target n') :=
  ⟨rfl, fun s => by rw [Node.eval, Node.eval, h.eval], rfl⟩

theorem agrees_assignPair (h : List.Forall₂ (fun i i' => ∀ s, evalInput s i' = evalInput s i) inputs inputs')
    (ok err : Path) (f : Function) : Agrees (assignPair span ok err f inputs) (assignPair span ok err f inputs') :=
  ⟨rfl, fun s => by rw [eval_assignPair, eval_assignPair, evalInputs_eq h], rfl⟩

theorem agrees_call (h : List.Forall₂ (fun i i' => ∀ s, evalInput s i' = evalInput s i) inputs inputs')
    (f : Function) (aborts : Bool) : Agrees (call span f aborts inputs) (call span f aborts inputs') :=
  ⟨rfl, fun s => by rw [eval, eval, evalInputs_eq h], rfl⟩

/-- An operand that faults is blamed with its region. -/
theorem agrees_binary {left left' right right' : Node} (hl : Agrees left left') (hr : Agrees right right')
    (op : BinaryOp) : Agrees (binary span op left right) (binary span op left' right') := by
  refine ⟨rfl, fun s => ?_, rfl⟩
  cases hop : op.isLazy with
  | false => rw [eval_binary s span hop, eval_binary s span hop, hl.eval, hr.eval]
  | true => rw [eval_lazy s span hop, eval_lazy s span hop, hl.eval, hr.eval, hl.span, hr.span]

theorem Agrees.unary {n n' : Node} (h : Agrees n n') (op : UnaryOp) : Agrees (unary span op n) (unary span op n') :=
  ⟨rfl, fun s => by rw [Node.eval, Node.eval, h.eval], rfl⟩

theorem agrees_branch {c c' : Node} {alternative alternative' : Option Node} (hc : Agrees c c')
    (hbody : List.Forall₂ Agrees items items') (ha : Option.Rel Agrees alternative alternative') :
    Agrees (branch span c items alternative) (branch span c' items' alternative') := by
  refine ⟨rfl, fun s => ?_, rfl⟩
  rw [eval_branch, eval_branch, hc.eval, hc.span, evalBody_eq hbody]
  cases ha with
  | none => rfl
  | some h => rw [Option.elim_some, Option.elim_some, h.eval]

theorem agrees_block (h : List.Forall₂ Agrees items items') : Agrees (block span items) (block span items') :=
  ⟨rfl, fun s => by rw [eval, eval, evalBody_eq h], rfl⟩

/-! ### The folds -/

theorem eval_of_constant? (s : Surroundings) {n : Node} {v : Value} (h : n.constant? = some v) :
    n.eval s = pure v := by
  cases n with
  | constant span w =>
    cases h
    rw [eval]
  | _ => cases h

theorem evalItems_of_constants? (s : Surroundings) :
    ∀ {items : List Node} {values : List Value}, constants? items = some values → evalItems s items = pure values
  | [], _, h => by
    cases h
    rfl
  | n :: rest, values, h => by
    simp only [constants?, Option.pure_def, Option.bind_eq_bind, Option.bind_eq_some_iff, Option.some_inj] at h
    obtain ⟨v, hv, vs, hvs, rfl⟩ := h
    rw [evalItems, eval_of_constant? s hv, evalItems_of_constants? s hvs, pure_bind, pure_bind]

theorem evalEntries_of_constantEntries? (s : Surroundings) :
    ∀ {entries : List (String × Node)} {values : List (String × Value)}, constantEntries? entries = some values →
      evalEntries s entries = pure values
  | [], _, h => by
    cases h
    rfl
  | (k, n) :: rest, values, h => by
    simp only [constantEntries?, Option.pure_def, Option.bind_eq_bind, Option.bind_eq_some_iff, Option.some_inj] at h
    obtain ⟨v, hv, vs, hvs, rfl⟩ := h
    rw [evalEntries, eval_of_constant? s hv, evalEntries_of_constantEntries? s hvs, pure_bind, pure_bind]

theorem agrees_foldArray (span : Span) (items : List Node) : Agrees (foldArray span items) (array span items) := by
  unfold foldArray
  split
  · rename_i values hvalues
    exact ⟨rfl, fun s => by rw [eval, eval, evalItems_of_constants? s hvalues, pure_bind], rfl⟩
  · exact .refl _

/-- Folded or not, an object is made of its entries in the order they are written in, so that of entries with the
same key the same one counts. -/
theorem agrees_foldObject (span : Span) (entries : List (String × Node)) :
    Agrees (foldObject span entries) (object span entries) := by
  unfold foldObject
  split
  · rename_i values hvalues
    exact ⟨rfl, fun s => by rw [eval, eval, evalEntries_of_constantEntries? s hvalues, pure_bind], rfl⟩
  · exact .refl _

/-- A constant in the place of an operator on a number. -/
theorem agrees_negated {n : Node} {v w : Value} {s : Span} (h : Agrees (constant s v) n)
    (hv : UnaryOp.negate.apply v = .ok w) (span : Span) : Agrees (constant span w) (unary span .negate n) :=
  ⟨rfl, fun s => by rw [eval, eval, h.eval, eval, pure_bind, hv]; rfl, rfl⟩

end Node

/-- Every integer but the least can be negated. -/
theorem negate_integer {i : Int64} (h : i ≠ Int64.minValue) :
    UnaryOp.negate.apply (.integer i) = .ok (.integer (-i)) := by
  rw [UnaryOp.apply, fit?_neg h]

namespace Expr

open Node Resolution

variable {library : Library}

/-- A minus that is part of a number gives what it would give if it were applied to the number. -/
theorem related_applyPrefix {e : Expr} {r : Resolution Node} (h : Related Agrees (resolve library e) r)
    (op : UnaryOp) (s : Span) :
    Related Agrees (resolve library (applyPrefix op s e)) (r.map (.unary s op)) := by
  have hstays : Related Agrees (resolve library (unary s op e)) (r.map (.unary s op)) :=
    h.map fun n n' hn => hn.unary op
  obtain ⟨n?, issues⟩ := r
  unfold applyPrefix
  split
  · rename_i s' i
    split
    · -- the least integer cannot be negated: the minus stays, and faults when it is applied
      exact hstays
    · rename_i hleast
      obtain ⟨rfl, hresults⟩ := h
      cases hresults with
      | some hn => exact ⟨rfl, .some (agrees_negated hn (negate_integer hleast) s)⟩
  · rename_i s' f
    obtain ⟨rfl, hresults⟩ := h
    cases hresults with
    | some hn => exact ⟨rfl, .some (agrees_negated hn rfl s)⟩
  · exact hstays

theorem length_foldAll (es : List Expr) : (foldAll es).length = es.length := by
  rw [foldAll_eq_map, List.length_map]

theorem describe_fold (e : Expr) : e.fold.describe = e.describe := by
  cases e with
  | unary s op operand =>
    exact @applyPrefix_induction (fun e => e.describe = (unary s op operand).describe) op s operand.fold
      (fun _ => rfl) rfl
  | branch s condition body alternative =>
    rw [fold_branch]
    rfl
  | _ => rfl

/-- Nothing becomes a call by folding. -/
theorem fold_ne_call {e : Expr} (h : ∀ s callee args, e ≠ call s callee args) (s : Span) (callee : Callee)
    (args : List Expr) : e.fold ≠ call s callee args := by
  intro heq
  cases e with
  | call s' callee' args' => exact h _ _ _ rfl
  | unary s' op operand =>
    exact absurd heq
      (@applyPrefix_induction (fun e => e ≠ call s callee args) op s' operand.fold (fun _ => by simp) (by simp))
  | branch s' condition body alternative =>
    rw [fold_branch] at heq
    cases heq
  | _ => cases heq

theorem resolveWith_assignPair (m : Making) (library : Library) (s : Span) (ok err : Target) {value : Expr}
    (h : ∀ cs callee args, value ≠ call cs callee args) :
    resolveWith m library (assignPair s ok err value) =
      failed [Issue.needlessPair value.describe value.span] (resolveWith m library value) := by
  cases value with
  | call cs callee args => exact absurd rfl (h cs callee args)
  | _ => rfl

theorem inputOf_of_path {r : Resolution Node} {f : Function} {i : Nat} (hf : f.kindAt i = .path) {e : Expr}
    (h : ∀ s p, e ≠ path s p) : inputOf r f i e = failed [Issue.pathRequired f e.span] r := by
  unfold inputOf
  rw [hf]
  cases e with
  | path s p => exact absurd rfl (h s p)
  | _ => rfl

theorem related_inputOf {e : Expr} {r r' : Resolution Node} (h : Related Agrees r r') (f : Function) (i : Nat) :
    Related (fun a a' => ∀ s, evalInput s a' = evalInput s a) (inputOf r f i e.fold) (inputOf r' f i e) := by
  cases hf : f.kindAt i with
  | value =>
    simp only [inputOf, hf]
    exact h.map fun n n' hn => hn.evalInput
  | path =>
    by_cases hpath : ∃ s p, e = path s p
    · obtain ⟨s, p, rfl⟩ := hpath
      simp only [fold, inputOf, hf]
      exact related_pure fun _ => rfl
    · have hne : ∀ s p, e ≠ path s p := fun s p he => hpath ⟨s, p, he⟩
      rw [inputOf_of_path hf hne, inputOf_of_path hf fun s p he => hne s p (fold_eq_path.1 he), span_fold]
      exact h.failed _

mutual

/-- Resolving an expression as it is written, and resolving it folded. -/
theorem related_resolve (library : Library) :
    ∀ e, Related Agrees (resolve library e.fold) (resolveWith .plain library e)
  | literal s v => related_pure (.refl _)
  | array s items =>
    (related_resolveAll library items).map fun ns ns' h => (agrees_foldArray s ns).trans (agrees_array h)
  | object s entries =>
    (related_resolveEntries library entries).map fun ns ns' h => (agrees_foldObject s ns).trans (agrees_object h)
  | path s p => related_pure (.refl _)
  | access s base p => (related_resolve library base).map fun n n' h => h.access p
  | assign s target value => (related_resolve library value).map fun n n' h => h.assign target.path
  | assignPair s ok err value => by
    have hvalue := related_resolve library value
    by_cases hcall : ∃ cs callee args, value = call cs callee args
    · obtain ⟨cs, callee, args, rfl⟩ := hcall
      rw [fold, fold]
      unfold resolve resolveWith
      rw [length_foldAll]
      cases library.find? callee.name with
      | none => exact (related_resolveAll library args).failed _
      | some f =>
        exact ((related_resolveInputs library f 0 args).map fun _ _ h => agrees_assignPair h ok.path err.path f).after _
    · have hne : ∀ cs callee args, value ≠ call cs callee args := fun cs callee args h => hcall ⟨cs, callee, args, h⟩
      rw [fold, resolve_assignPair library s ok err (fold_ne_call hne),
        resolveWith_assignPair .plain library s ok err hne, describe_fold, span_fold]
      exact hvalue.failed _
  | call s callee args => by
    rw [fold]
    unfold resolve resolveWith
    rw [length_foldAll]
    cases library.find? callee.name with
    | none => exact (related_resolveAll library args).failed _
    | some f => exact ((related_resolveInputs library f 0 args).map fun _ _ h => agrees_call h f callee.aborts).after _
  | binary s op left right =>
    (related_resolve library left).zipWith (related_resolve library right) fun _ _ _ _ hl hr => agrees_binary hl hr op
  | unary s op operand => related_applyPrefix (related_resolve library operand) op s
  | branch s condition body none =>
    (related_resolve library condition).zipWith (related_resolveAll library body)
      fun _ _ _ _ hc hbody => agrees_branch hc hbody .none
  | branch s condition body (some alternative) => by
    have hpair : Related (fun a a' => Agrees a.1 a'.1 ∧ List.Forall₂ Agrees a.2 a'.2)
        (zipWith Prod.mk (resolve library condition.fold) (resolveAll library (foldAll body)))
        (zipWith Prod.mk (resolveWith .plain library condition) (resolveAllWith .plain library body)) :=
      (related_resolve library condition).zipWith (related_resolveAll library body) fun _ _ _ _ hc hbody => ⟨hc, hbody⟩
    exact hpair.zipWith (related_resolve library alternative) fun _ _ _ _ h ha => agrees_branch h.1 h.2 (.some ha)
  | block s body => (related_resolveAll library body).map fun ns ns' h => agrees_block h
  | delete s target aborts => .refl Agrees.refl (resolveDelete library s target aborts)

theorem related_resolveAll (library : Library) :
    ∀ es, Related (List.Forall₂ Agrees) (resolveAll library (foldAll es)) (resolveAllWith .plain library es)
  | [] => related_pure .nil
  | e :: rest => (related_resolve library e).zipWith (related_resolveAll library rest) fun _ _ _ _ h hs => .cons h hs

theorem related_resolveEntries (library : Library) :
    ∀ es, Related (List.Forall₂ fun e e' => e.1 = e'.1 ∧ Agrees e.2 e'.2) (resolveEntries library (foldEntries es))
      (resolveEntriesWith .plain library es)
  | [] => related_pure .nil
  | (k, e) :: rest =>
    (related_resolve library e).zipWith (related_resolveEntries library rest) fun _ _ _ _ h hs => .cons ⟨rfl, h⟩ hs

theorem related_resolveInputs (library : Library) (f : Function) (i : Nat) :
    ∀ es, Related (List.Forall₂ fun a a' => ∀ s, evalInput s a' = evalInput s a)
      (resolveInputs library f i (foldAll es)) (resolveInputsWith .plain library f i es)
  | [] => related_pure .nil
  | e :: rest => by
    rw [foldAll, resolveInputs_cons, resolveInputsWith, resolveInput_eq]
    exact (related_inputOf (related_resolve library e) f i).zipWith (related_resolveInputs library f (i + 1) rest)
      fun _ _ _ _ h hs => .cons h hs

end

end Expr

/-! ### Programs -/

/-- A text is refused with and without the folds, for the same reason, or the statements of its programs agree. -/
theorem compileWith_plain (library : Library) (source : String) :
    (∃ why, compile library source = .error why ∧ compileWith .plain library source = .error why) ∨
      ∃ nodes nodes', compile library source = .ok ⟨source, nodes⟩ ∧
        compileWith .plain library source = .ok ⟨source, nodes'⟩ ∧ List.Forall₂ Node.Agrees nodes nodes' := by
  rcases htokens : tokenize source with ⟨tokens, lexical⟩
  rcases hparse : Expr.parseWith .plain tokens with o | ⟨es, syntactic⟩
  · have hfold : Expr.parse tokens = .error o := by
      rw [Expr.parse_eq_fold, hparse]
      rfl
    exact .inl ⟨.overflow o, by simp only [compile, htokens, hfold], by simp only [compileWith, htokens, hparse]⟩
  have hfold : Expr.parse tokens = .ok (Expr.foldAll es, syntactic) := by
    rw [Expr.parse_eq_fold, hparse, Expr.foldAll_eq_map]
    rfl
  simp only [compile, compileWith, htokens, hparse, hfold]
  split
  · exact .inl ⟨_, rfl, rfl⟩
  · have hresolve := Expr.related_resolveAll library es
    rcases hfolded : Expr.resolveAll library (Expr.foldAll es) with ⟨nodes?, issues⟩
    rcases hplain : Expr.resolveAllWith .plain library es with ⟨nodes'?, issues'⟩
    rw [hfolded, hplain] at hresolve
    obtain ⟨rfl, hresults⟩ := hresolve
    cases hresults with
    | none => exact .inl ⟨_, rfl, rfl⟩
    | some h =>
      cases issues' with
      | nil => exact .inr ⟨_, _, rfl, rfl, h⟩
      | cons d ds => exact .inl ⟨_, rfl, rfl⟩

/-- A program that compiles also compiles without the folds: every minus is applied when the program runs, and every
array and object is made then.  On every event it ends with the same value or the same fault, and leaves the same
event. -/
theorem compileWith_plain_run {library : Library} {source : String} {p : Program}
    (hp : compile library source = .ok p) :
    ∃ p', compileWith .plain library source = .ok p' ∧ ∀ s event, p'.run s event = p.run s event := by
  rcases compileWith_plain library source with ⟨why, hwhy, -⟩ | ⟨nodes, nodes', hnodes, hplain, hagree⟩
  · rw [hp] at hwhy
    cases hwhy
  · rw [hp, Except.ok.injEq] at hnodes
    subst hnodes
    refine ⟨_, hplain, fun s event => ?_⟩
    rw [Program.run, Program.run, Node.evalBody_eq hagree]

/-- Folds inside of folds, a key that is given twice, and a minus before the least integer, which stays. -/
theorem compileWith_plain_run_nested :
    let source := ".a = \x7b\"k\": 1, \"l\": [-(-3), \x7b\x7d], \"k\": - 2\x7d\n.b = - -9223372036854775808"
    ∃ p p', compile Library.standard source = .ok p ∧ compileWith .plain Library.standard source = .ok p' ∧
      p.parts.length = 5 ∧ p'.parts.length = 12 ∧ ∀ s event, p'.run s event = p.run s event := by
  intro source
  have hfolded : (compile Library.standard source).toOption.map (·.parts.length) = some 5 := by decide +kernel
  have hplain : (compileWith .plain Library.standard source).toOption.map (·.parts.length) = some 12 := by
    decide +kernel
  obtain ⟨p, hp, hparts⟩ := exists_of_compile hfolded
  obtain ⟨p', hp', hrun⟩ := compileWith_plain_run hp
  rw [hp'] at hplain
  exact ⟨p, p', hp, hp', hparts, Option.some_inj.1 hplain, hrun⟩

end Reshape
