/-
What resolving reports.

A program is checked in one pass that goes on behind every mistake.  `Occurrence.reports` says what is wrong with
one expression where it stands, its parts aside: with a call, with the removal of a place, and with an assignment to
two places whose value needs none.  What the pass reports is that of every expression in the program, each once and
at whatever depth, and it gives nodes, one for each statement, exactly if there is nothing to report.

* `Resolution.Reports` — a resolution that reports the given issues in some order, and has a result if there are
  none; one lemma for each combinator of `Resolution`;
* `Expr.reports_resolve` — the reports of an expression are its own and those of the expressions inside it;
* `Expr.resolveAll_reports` — the reports of a program, and when it has nodes.
-/
import Mathlib.Data.List.Basic
import Reshape.Proofs.CallSite
import Reshape.Proofs.Reading
import Reshape.Proofs.Relocation

namespace Reshape

/-! ### Reports, one expression at a time -/

/-- An expression where it stands.  It is `captured` if it is the value of an assignment to two places. -/
structure Occurrence where
  expr : Expr
  captured : Bool

namespace Expr

mutual

/-- The expressions in an expression, at any depth, without itself. -/
def inside : Expr → List Occurrence
  | literal .. | path .. | delete .. => []
  | array _ items => insideAll items
  | object _ entries => insideEntries entries
  | access _ base _ => ⟨base, false⟩ :: inside base
  | assign _ _ value => ⟨value, false⟩ :: inside value
  | assignPair _ _ _ value => ⟨value, true⟩ :: inside value
  | call _ _ args => insideAll args
  | binary _ _ left right => (⟨left, false⟩ :: inside left) ++ (⟨right, false⟩ :: inside right)
  | unary _ _ operand => ⟨operand, false⟩ :: inside operand
  | branch _ condition body none => (⟨condition, false⟩ :: inside condition) ++ insideAll body
  | branch _ condition body (some alternative) =>
    (⟨condition, false⟩ :: inside condition) ++ insideAll body ++ (⟨alternative, false⟩ :: inside alternative)
  | block _ body => insideAll body

/-- The expressions of a list and those in them. -/
def insideAll : List Expr → List Occurrence
  | [] => []
  | e :: rest => (⟨e, false⟩ :: inside e) ++ insideAll rest

def insideEntries : List (String × Expr) → List Occurrence
  | [] => []
  | (_, e) :: rest => (⟨e, false⟩ :: inside e) ++ insideEntries rest

end

/-- A place of the event. -/
def isPath : Expr → Bool
  | path .. => true
  | _ => false

/-- A call without `!`, to a function that may fail or is not in the library. -/
def isCapturable (library : Library) : Expr → Bool
  | call _ callee _ => !callee.aborts && (library.find? callee.name).all (·.fallible)
  | _ => false

end Expr

/-- What is wrong with the argument at `i`: that it is no place where the function wants one. -/
def Function.placeReports (f : Function) (i : Nat) (arg : Expr) : List Diagnostic :=
  if f.kindAt i = .path && !arg.isPath then [Issue.pathRequired f arg.span] else []

/-- What is wrong with a call. -/
def Library.callReports (library : Library) (s : Span) (callee : Callee) (args : List Expr) (captured : Bool) :
    List Diagnostic :=
  match library.find? callee.name with
  | none => [Issue.unknownFunction library callee.name callee.span]
  | some f =>
    (if f.admits args.length then [] else [Issue.arity f args.length s]) ++
    (if f.fallible && !callee.aborts && !captured then [Issue.unhandled f s] else []) ++
    (if callee.aborts && !f.fallible then [Issue.needlessAbort f s] else []) ++
    args.zipIdx.flatMap fun (arg, i) => f.placeReports i arg

/-- What is wrong with an expression where it stands, the expressions inside it aside.  The removal of a place is a
call of `del` with that place. -/
def Occurrence.reports (library : Library) (o : Occurrence) : List Diagnostic :=
  match o.expr with
  | .call s callee args => library.callReports s callee args o.captured
  | .delete s target aborts => library.callReports s ⟨"del", s, aborts⟩ [.path target.span target.path] o.captured
  | .assignPair _ _ _ value =>
    if value.isCapturable library then [] else [Issue.needlessPair value.describe value.span]
  | _ => []

/-! ### Combinators -/

namespace Resolution

variable {α β γ : Type} {issues expected expected' : List Diagnostic} {r : Resolution α} {q : Resolution β}

/-- The resolution reports what is expected, in some order, and has a result exactly if that is nothing. -/
structure Reports (r : Resolution α) (expected : List Diagnostic) : Prop where
  perm : r.issues.Perm expected
  settled : r.result?.isSome = r.issues.isEmpty

theorem Reports.trans (h : r.Reports expected) (hperm : expected.Perm expected') : r.Reports expected' :=
  ⟨h.perm.trans hperm, h.settled⟩

theorem reports_pure (a : α) : (pure a).Reports [] :=
  ⟨.nil, rfl⟩

theorem Reports.map (h : r.Reports expected) (f : α → β) : (r.map f).Reports expected :=
  ⟨h.perm, by simpa [Resolution.map] using h.settled⟩

theorem Reports.zipWith (h : r.Reports expected) (h' : q.Reports expected') (f : α → β → γ) :
    (zipWith f r q).Reports (expected ++ expected') := by
  refine ⟨h.perm.append h'.perm, ?_⟩
  have hr := h.settled
  have hq := h'.settled
  obtain ⟨_ | a, ds⟩ := r <;> obtain ⟨_ | b, es⟩ := q <;> simp_all [Resolution.zipWith]

/-- What fails has reported something. -/
theorem Reports.failed (h : r.Reports expected) (hne : issues ≠ []) :
    (failed issues r : Resolution β).Reports (issues ++ expected) := by
  refine ⟨h.perm.append_left issues, ?_⟩
  simp [Resolution.failed, hne]

theorem Reports.after (h : r.Reports expected) (issues : List Diagnostic) :
    (after issues r).Reports (issues ++ expected) := by
  refine ⟨h.perm.append_left issues, ?_⟩
  cases issues with
  | nil => exact h.settled
  | cons d ds => rfl

end Resolution

/-! ### Expressions -/

namespace Expr

open Resolution

variable {library : Library}

/-- What is wrong with some expressions, all in all. -/
def reportsOf (library : Library) (os : List Occurrence) : List Diagnostic :=
  os.flatMap (·.reports library)

@[simp] theorem reportsOf_nil : reportsOf library [] = [] := rfl

@[simp] theorem reportsOf_cons (o : Occurrence) (os : List Occurrence) :
    reportsOf library (o :: os) = o.reports library ++ reportsOf library os := List.flatMap_cons

@[simp] theorem reportsOf_append (os ps : List Occurrence) :
    reportsOf library (os ++ ps) = reportsOf library os ++ reportsOf library ps := List.flatMap_append

theorem resolveInput_reports {f : Function} {i : Nat} {e : Expr}
    (he : (resolve library e).Reports (reportsOf library (⟨e, false⟩ :: inside e))) :
    (resolveInput library f i e).Reports (f.placeReports i e ++ reportsOf library (⟨e, false⟩ :: inside e)) := by
  cases hkind : f.kindAt i with
  | value => simpa [resolveInput, Function.placeReports, hkind] using he.map Input.value
  | path =>
    have hfailed : (failed [Issue.pathRequired f e.span] (resolve library e) : Resolution (Input Node)).Reports _ :=
      he.failed (List.cons_ne_nil _ _)
    cases e with
    | path s p =>
      simpa [resolveInput, Function.placeReports, hkind, isPath, inside, Occurrence.reports] using
        reports_pure (Input.path p : Input Node)
    | _ => simpa [resolveInput, Function.placeReports, hkind, isPath] using hfailed

theorem callReports_of_none {s : Span} {callee : Callee} {args : List Expr} {captured : Bool}
    (h : library.find? callee.name = none) :
    library.callReports s callee args captured = [Issue.unknownFunction library callee.name callee.span] := by
  rw [Library.callReports, h]

theorem callReports_of_some {s : Span} {callee : Callee} {args : List Expr} {captured : Bool} {f : Function}
    (h : library.find? callee.name = some f) :
    library.callReports s callee args captured =
      f.checkCall callee args.length s captured ++ args.zipIdx.flatMap fun (arg, i) => f.placeReports i arg := by
  rw [Library.callReports, h]
  rfl

/-- The removal of a place, whose function takes one place and does not fail. -/
theorem resolveDelete_reports (hlib : library ⊆ Library.standard) (s : Span) (target : Target) (aborts : Bool) :
    (resolveDelete library s target aborts).Reports
      (library.callReports s ⟨"del", s, aborts⟩ [path target.span target.path] false) := by
  unfold resolveDelete
  split
  · rename_i hfind
    rw [callReports_of_none hfind]
    exact ⟨.refl _, rfl⟩
  · rename_i f hfind
    rw [callReports_of_some hfind]
    -- the only function of that name in the standard library takes one place and cannot fail
    obtain rfl := Library.find?_del hlib hfind
    cases aborts with
    | true => exact ⟨.refl _, rfl⟩
    | false => exact ⟨.refl _, rfl⟩

/-- Only of a call it matters whether it is captured. -/
theorem reports_captured (hlib : library ⊆ Library.standard) {value : Expr}
    (hvalue : ∀ cs callee args, value ≠ call cs callee args) :
    (⟨value, true⟩ : Occurrence).reports library = (⟨value, false⟩ : Occurrence).reports library := by
  cases value with
  | call cs callee args => exact absurd rfl (hvalue cs callee args)
  | delete s target aborts =>
    show library.callReports s ⟨"del", s, aborts⟩ _ true = library.callReports s ⟨"del", s, aborts⟩ _ false
    cases hfind : library.find? "del" with
    | none => rw [callReports_of_none hfind, callReports_of_none hfind]
    | some f =>
      rw [callReports_of_some hfind, callReports_of_some hfind]
      obtain rfl := Library.find?_del hlib hfind
      rfl
  | _ => rfl

/-- An assignment to two places of anything but a call. -/
theorem resolve_assignPair_reports (hlib : library ⊆ Library.standard) {s : Span} {ok err : Target} {value : Expr}
    (hvalue : ∀ cs callee args, value ≠ call cs callee args)
    (h : (resolve library value).Reports (reportsOf library (⟨value, false⟩ :: inside value))) :
    (resolve library (assignPair s ok err value)).Reports
      (reportsOf library (⟨assignPair s ok err value, false⟩ :: inside (assignPair s ok err value))) := by
  rw [resolve_assignPair library s ok err hvalue]
  have hown : (⟨assignPair s ok err value, false⟩ : Occurrence).reports library =
      [Issue.needlessPair value.describe value.span] := by
    cases value with
    | call cs callee args => exact absurd rfl (hvalue cs callee args)
    | _ => rfl
  rw [inside, reportsOf_cons, hown, reportsOf_cons, reports_captured hlib hvalue, ← reportsOf_cons]
  exact h.failed (List.cons_ne_nil _ _)

/-- An assignment to two places of a call. -/
theorem resolve_capture_reports {s cs : Span} {ok err : Target} {callee : Callee} {args : List Expr}
    (hall : (resolveAll library args).Reports (reportsOf library (insideAll args)))
    (hinputs : ∀ f, (resolveInputs library f 0 args).Reports
      (args.zipIdx.flatMap (fun (arg, j) => f.placeReports j arg) ++ reportsOf library (insideAll args))) :
    (resolve library (assignPair s ok err (call cs callee args))).Reports
      (reportsOf library (⟨assignPair s ok err (call cs callee args), false⟩ ::
        inside (assignPair s ok err (call cs callee args)))) := by
  have hparts : reportsOf library (⟨assignPair s ok err (call cs callee args), false⟩ ::
      inside (assignPair s ok err (call cs callee args))) =
        (if (call cs callee args).isCapturable library then []
          else [Issue.needlessPair (call cs callee args).describe cs]) ++
        (library.callReports cs callee args true ++ reportsOf library (insideAll args)) := by
    rw [inside, inside, reportsOf_cons, reportsOf_cons]
    rfl
  rw [hparts, resolve, isCapturable]
  split
  · rename_i hfind
    rw [callReports_of_none hfind, hfind, ← List.append_assoc]
    cases callee.aborts with
    | true => exact hall.failed (by simp)
    | false => exact hall.failed (by simp)
  · rename_i f hfind
    rw [callReports_of_some hfind, hfind]
    have hcall := ((hinputs f).map (Node.assignPair s ok.path err.path f)).after
      ((if callee.aborts || !f.fallible then [Issue.needlessPair (call cs callee args).describe cs] else []) ++
        f.checkCall callee args.length cs true)
    refine hcall.trans ?_
    rw [List.append_assoc, List.append_assoc]
    cases callee.aborts <;> cases hfallible : f.fallible <;> simp [hfallible]

mutual

/-- The reports of an expression are its own and those of the expressions inside it. -/
theorem reports_resolve (hlib : library ⊆ Library.standard) :
    ∀ e : Expr, (resolve library e).Reports (reportsOf library (⟨e, false⟩ :: inside e))
  | literal s v => by
    rw [resolve]
    exact reports_pure _
  | path s p => by
    rw [resolve]
    exact reports_pure _
  | array s items => by
    rw [resolve, inside]
    exact (reports_resolveAll hlib items).map _
  | object s entries => by
    rw [resolve, inside]
    exact (reports_resolveEntries hlib entries).map _
  | access s base p => by
    rw [resolve, inside]
    exact (reports_resolve hlib base).map _
  | assign s target value => by
    rw [resolve, inside]
    exact (reports_resolve hlib value).map _
  -- a call is captured here, so it is not resolved like a call elsewhere
  | assignPair s ok err (call cs callee args) =>
    resolve_capture_reports (reports_resolveAll hlib args) fun f => reports_resolveInputs hlib f args 0
  | assignPair s ok err (literal ..) | assignPair s ok err (array ..) | assignPair s ok err (object ..)
  | assignPair s ok err (path ..) | assignPair s ok err (access ..) | assignPair s ok err (assign ..)
  | assignPair s ok err (assignPair ..) | assignPair s ok err (binary ..) | assignPair s ok err (unary ..)
  | assignPair s ok err (branch ..) | assignPair s ok err (block ..) | assignPair s ok err (delete ..) =>
    resolve_assignPair_reports hlib (fun _ _ _ h => Expr.noConfusion h) (reports_resolve hlib _)
  | call s callee args => by
    rw [resolve, inside, reportsOf_cons]
    show Resolution.Reports _ (library.callReports s callee args false ++ _)
    split
    · rename_i hfind
      rw [callReports_of_none hfind]
      exact (reports_resolveAll hlib args).failed (List.cons_ne_nil _ _)
    · rename_i f hfind
      rw [callReports_of_some hfind, List.append_assoc]
      exact ((reports_resolveInputs hlib f args 0).map _).after _
  | binary s op left right => by
    rw [resolve, inside, reportsOf_cons, reportsOf_append]
    exact (reports_resolve hlib left).zipWith (reports_resolve hlib right) _
  | unary s op operand => by
    rw [resolve, inside]
    exact (reports_resolve hlib operand).map _
  | branch s condition body none => by
    rw [resolve, inside, reportsOf_cons, reportsOf_append]
    exact (reports_resolve hlib condition).zipWith (reports_resolveAll hlib body) _
  | branch s condition body (some alternative) => by
    rw [resolve, inside, reportsOf_cons, reportsOf_append, reportsOf_append]
    exact ((reports_resolve hlib condition).zipWith (reports_resolveAll hlib body) _).zipWith
      (reports_resolve hlib alternative) _
  | block s body => by
    rw [resolve, inside]
    exact (reports_resolveAll hlib body).map _
  | delete s target aborts => by
    rw [resolve, inside, reportsOf_cons, reportsOf_nil, List.append_nil]
    exact resolveDelete_reports hlib s target aborts

theorem reports_resolveAll (hlib : library ⊆ Library.standard) :
    ∀ es : List Expr, (resolveAll library es).Reports (reportsOf library (insideAll es))
  | [] => by
    rw [resolveAll]
    exact reports_pure _
  | e :: rest => by
    rw [resolveAll, insideAll, reportsOf_append]
    exact (reports_resolve hlib e).zipWith (reports_resolveAll hlib rest) _

theorem reports_resolveEntries (hlib : library ⊆ Library.standard) :
    ∀ es : List (String × Expr), (resolveEntries library es).Reports (reportsOf library (insideEntries es))
  | [] => by
    rw [resolveEntries]
    exact reports_pure _
  | (k, e) :: rest => by
    rw [resolveEntries, insideEntries, reportsOf_append]
    exact (reports_resolve hlib e).zipWith (reports_resolveEntries hlib rest) _

theorem reports_resolveInputs (hlib : library ⊆ Library.standard) (f : Function) :
    ∀ (es : List Expr) (i : Nat), (resolveInputs library f i es).Reports
      ((es.zipIdx i).flatMap (fun (e, j) => f.placeReports j e) ++ reportsOf library (insideAll es))
  | [], i => by
    rw [resolveInputs]
    exact reports_pure _
  | e :: rest, i => by
    have hinput := resolveInput_reports (f := f) (i := i) (reports_resolve hlib e)
    have hrest := reports_resolveInputs hlib f rest (i + 1)
    rw [resolveInputs_cons, List.zipIdx_cons, List.flatMap_cons, insideAll, reportsOf_append]
    refine (hinput.zipWith hrest List.cons).trans ?_
    -- what is wrong inside of one argument comes before the report on the place of the next
    rw [List.append_assoc, List.append_assoc]
    exact List.Perm.append_left _ (List.perm_append_comm_assoc _ _ _)

end

theorem length_of_resolveAll : ∀ {es : List Expr} {nodes : List Node},
    (resolveAll library es).result? = some nodes → nodes.length = es.length
  | [], nodes, h => by
    obtain rfl := Option.some.inj h
    rfl
  | e :: rest, nodes, h => by
    rw [resolveAll, Resolution.zipWith] at h
    obtain ⟨n, -, h⟩ := Option.bind_eq_some_iff.1 h
    obtain ⟨others, hothers, h⟩ := Option.bind_eq_some_iff.1 h
    obtain rfl := Option.some.inj h
    rw [List.length_cons, List.length_cons, length_of_resolveAll hothers]

/-- Resolving the statements of a program reports what is wrong with each expression in it, once and in some order.
It gives one node for each statement if nothing is reported, and otherwise none at all. -/
theorem resolveAll_reports (hlib : library ⊆ Library.standard) (es : List Expr) :
    (resolveAll library es).issues.Perm ((insideAll es).flatMap (·.reports library)) ∧
      ((∃ nodes, (resolveAll library es).result? = some nodes ∧ nodes.length = es.length) ↔
        (resolveAll library es).issues = []) ∧
      ((resolveAll library es).result? = none ↔ (resolveAll library es).issues ≠ []) := by
  obtain ⟨hperm, hsettled⟩ := reports_resolveAll hlib es
  have hsome : (resolveAll library es).result?.isSome = true ↔ (resolveAll library es).issues = [] := by
    rw [hsettled, List.isEmpty_iff]
  refine ⟨hperm, ?_, ?_⟩
  · rw [← hsome, Option.isSome_iff_exists]
    constructor
    · rintro ⟨nodes, hnodes, -⟩
      exact ⟨nodes, hnodes⟩
    · rintro ⟨nodes, hnodes⟩
      exact ⟨nodes, hnodes, length_of_resolveAll hnodes⟩
  · rw [Ne, ← hsome, Bool.not_eq_true, Option.isSome_eq_false_iff, Option.isNone_iff_eq_none]

/-- Mistakes inside of mistakes: in the arguments of an unknown function, in a place that is none, in a branch. -/
theorem resolveAll_reports_nested :
    let library := Library.standard.only ["to_int", "exists", "length", "now"]
    let source := ".a, .e = nope!(to_int(.x), exists(length(.y)))\nif now!(1) \x7b del(.z) \x7d"
    library ⊆ Library.standard ∧ ∃ es, parse (tokenize source).1 = .ok (es, []) ∧
      (resolveAll library es).issues.Perm ((insideAll es).flatMap (·.reports library)) ∧
      (resolveAll library es).issues.map (·.code.name) =
        ["E104", "E105", "E103", "E109", "E103", "E106", "E108", "E105"] ∧
      (resolveAll library es).result? = none := by
  intro library source
  have hlib : library ⊆ Library.standard := List.filter_subset_self _
  obtain ⟨es, hparse, hcodes⟩ : ∃ es, parse (tokenize source).1 = .ok (es, []) ∧
      (resolveAll library es).issues.map (·.code.name) =
        ["E104", "E105", "E103", "E109", "E103", "E106", "E108", "E105"] :=
    Expr.exists_of_map_parse (by decide +kernel)
  have hne : (resolveAll library es).issues ≠ [] := by
    intro hnil
    rw [hnil] at hcodes
    cases hcodes
  have hreports := resolveAll_reports hlib es
  exact ⟨hlib, es, hparse, hreports.1, hcodes, hreports.2.2.2 hne⟩

end Expr

end Reshape
