/-
The calls of a program.

`Node.callSites` lists the calls in a node at any depth, a call before those in its arguments, and
`Expr.writtenCalls` lists the calls of an expression in the same order.  A call of a program is `Disciplined`
when its function is one of the library, its arguments fit the parameters, and a failure of the function is
either announced by `!` or captured by an assignment to two places, neither of them without need.

* `Expr.forall₂_callSites` — resolving keeps every call, in order, and leaves only disciplined ones;
* `compile_callSites` — hence all calls of a compiled program are disciplined, and they are the calls written
  in its text.
-/
import Mathlib.Data.List.Forall2
import Reshape.Function.Standard
import Reshape.Proofs.Resolution

namespace Reshape

/-- A place is handed over, not a value. -/
def Input.isPath {α : Type} : Input α → Bool
  | value _ => false
  | path _ => true

/-- A call as it stands in a program.  It is `captured` if it is the value of an assignment to two places. -/
structure CallSite where
  function : Function
  aborts : Bool
  captured : Bool
  inputs : List (Input Node)

/-- A call as it is written. -/
structure WrittenCall where
  name : String
  aborts : Bool
  captured : Bool
  arguments : List Expr

namespace Node

mutual

/-- The calls in a node, at any depth. -/
def callSites : Node → List CallSite
  | constant .. | path .. => []
  | array _ items => callSitesAll items
  | object _ entries => callSitesEntries entries
  | access _ base _ => callSites base
  | assign _ _ value => callSites value
  | assignPair _ _ _ f inputs => ⟨f, false, true, inputs⟩ :: callSitesInputs inputs
  | call _ f aborts inputs => ⟨f, aborts, false, inputs⟩ :: callSitesInputs inputs
  | binary _ _ left right => callSites left ++ callSites right
  | unary _ _ operand => callSites operand
  | branch _ condition body none => callSites condition ++ callSitesAll body
  | branch _ condition body (some alternative) =>
    callSites condition ++ callSitesAll body ++ callSites alternative
  | block _ body => callSitesAll body

def callSitesAll : List Node → List CallSite
  | [] => []
  | n :: rest => callSites n ++ callSitesAll rest

def callSitesEntries : List (String × Node) → List CallSite
  | [] => []
  | (_, n) :: rest => callSites n ++ callSitesEntries rest

def callSitesInputs : List (Input Node) → List CallSite
  | [] => []
  | .value n :: rest => callSites n ++ callSitesInputs rest
  | .path _ :: rest => callSitesInputs rest

end

theorem callSites_subset_all {n : Node} : ∀ {items : List Node}, n ∈ items →
    n.callSites ⊆ callSitesAll items
  | m :: rest, h => by
    rw [callSitesAll]
    rcases List.mem_cons.1 h with rfl | h
    · exact List.subset_append_left _ _
    · exact List.Subset.trans (callSites_subset_all h) (List.subset_append_right _ _)

theorem callSites_subset_entries {k : String} {n : Node} :
    ∀ {entries : List (String × Node)}, (k, n) ∈ entries → n.callSites ⊆ callSitesEntries entries
  | (k', m) :: rest, h => by
    rw [callSitesEntries]
    rcases List.mem_cons.1 h with heq | h
    · obtain ⟨rfl, rfl⟩ := Prod.mk.inj heq
      exact List.subset_append_left _ _
    · exact List.Subset.trans (callSites_subset_entries h) (List.subset_append_right _ _)

theorem callSites_subset_inputs {n : Node} :
    ∀ {inputs : List (Input Node)}, .value n ∈ inputs → n.callSites ⊆ callSitesInputs inputs
  | .value m :: rest, h => by
    rw [callSitesInputs]
    rcases List.mem_cons.1 h with heq | h
    · obtain rfl := Input.value.inj heq
      exact List.subset_append_left _ _
    · exact List.Subset.trans (callSites_subset_inputs h) (List.subset_append_right _ _)
  | .path q :: rest, h => by
    rw [callSitesInputs]
    exact callSites_subset_inputs ((List.mem_cons.1 h).resolve_left (by simp))

end Node

namespace Expr

mutual

/-- The calls in an expression, at any depth. -/
def writtenCalls : Expr → List WrittenCall
  | literal .. | path .. => []
  | array _ items => writtenCallsAll items
  | object _ entries => writtenCallsEntries entries
  | access _ base _ => writtenCalls base
  | assign _ _ value => writtenCalls value
  | assignPair _ _ _ (call _ callee args) =>
    ⟨callee.name, callee.aborts, true, args⟩ :: writtenCallsAll args
  | assignPair _ _ _ value => writtenCalls value
  | call _ callee args => ⟨callee.name, callee.aborts, false, args⟩ :: writtenCallsAll args
  | binary _ _ left right => writtenCalls left ++ writtenCalls right
  | unary _ _ operand => writtenCalls operand
  | branch _ condition body none => writtenCalls condition ++ writtenCallsAll body
  | branch _ condition body (some alternative) =>
    writtenCalls condition ++ writtenCallsAll body ++ writtenCalls alternative
  | block _ body => writtenCallsAll body
  | delete _ target aborts => [⟨"del", aborts, false, [path target.span target.path]⟩]

def writtenCallsAll : List Expr → List WrittenCall
  | [] => []
  | e :: rest => writtenCalls e ++ writtenCallsAll rest

def writtenCallsEntries : List (String × Expr) → List WrittenCall
  | [] => []
  | (_, e) :: rest => writtenCalls e ++ writtenCallsEntries rest

end

end Expr

/-- The calls of a program. -/
def Program.callSites (p : Program) : List CallSite :=
  Node.callSitesAll p.statements

namespace CallSite

/-- What a call of a program has to be for its failures to be handled. -/
structure Disciplined (library : Library) (c : CallSite) : Prop where
  known : c.function ∈ library
  enough : c.function.leastArity ≤ c.inputs.length
  notTooMany : ∀ most, c.function.greatestArity = some most → c.inputs.length ≤ most
  /-- Places go to the parameters that want one, values to all others. -/
  fits : ∀ i input, c.inputs[i]? = some input →
    (input.isPath = true ↔ ∃ p, c.function.parameter? i = some p ∧ p.kind = .path)
  handled : c.function.fallible = true → c.aborts = true ∨ c.captured = true
  needed : c.aborts = true → c.function.fallible = true
  captures : c.captured = true → c.aborts = false ∧ c.function.fallible = true

/-- The call is what became of a written one. -/
structure Resolves (library : Library) (w : WrittenCall) (c : CallSite) : Prop where
  found : library.find? w.name = some c.function
  aborts : c.aborts = w.aborts
  captured : c.captured = w.captured
  count : c.inputs.length = w.arguments.length

/-- Both of these. -/
def Checked (library : Library) (w : WrittenCall) (c : CallSite) : Prop :=
  c.Resolves library w ∧ c.Disciplined library

end CallSite

/-! ### The checks of a call -/

namespace Library

theorem mem_of_find? {library : Library} {name : String} {f : Function}
    (h : library.find? name = some f) : f ∈ library :=
  List.mem_of_find?_eq_some h

/-- Of the standard functions only one removes a place by name. -/
theorem find?_del {library : Library} (hlib : library ⊆ standard) {f : Function}
    (h : library.find? "del" = some f) : f = Function.delete := by
  have hname := List.find?_some h
  have hmem : f ∈ standard.filter (fun f => f.name == "del") :=
    List.mem_filter.2 ⟨hlib (mem_of_find? h), hname⟩
  rw [show standard.filter (fun f => f.name == "del") = [Function.delete] from rfl] at hmem
  exact List.mem_singleton.1 hmem

end Library

namespace Function

/-- A path is wanted exactly where the parameter says so. -/
theorem kindAt_eq_path {f : Function} {i : Nat} :
    f.kindAt i = .path ↔ ∃ p, f.parameter? i = some p ∧ p.kind = .path := by
  simp only [kindAt]
  cases f.parameter? i <;> simp

theorem admits_iff {f : Function} {count : Nat} :
    f.admits count = true ↔
      f.leastArity ≤ count ∧ ∀ most, f.greatestArity = some most → count ≤ most := by
  simp only [admits, Bool.and_eq_true, decide_eq_true_eq]
  cases f.greatestArity <;> simp

theorem checkCall_eq_nil {f : Function} {callee : Callee} {count : Nat} {span : Span} {handled : Bool} :
    f.checkCall callee count span handled = [] ↔
      f.admits count = true ∧ (f.fallible = true → callee.aborts = true ∨ handled = true) ∧
        (callee.aborts = true → f.fallible = true) := by
  simp only [checkCall]
  cases f.admits count <;> cases f.fallible <;> cases callee.aborts <;> cases handled <;> simp

end Function

namespace Node

/-- Folding drops no call, as constants have none. -/
theorem callSitesAll_of_constants? :
    ∀ {items : List Node} {values : List Value}, constants? items = some values → callSitesAll items = []
  | [], _, _ => rfl
  | n :: rest, values, h => by
    simp only [constants?, Option.pure_def, Option.bind_eq_bind, Option.bind_eq_some_iff] at h
    obtain ⟨v, hv, vs, hvs, -⟩ := h
    cases n with
    | constant s w => rw [callSitesAll, callSites, callSitesAll_of_constants? hvs, List.nil_append]
    | _ => simp [constant?] at hv

theorem callSitesEntries_of_constantEntries? :
    ∀ {entries : List (String × Node)} {values : List (String × Value)},
      constantEntries? entries = some values → callSitesEntries entries = []
  | [], _, _ => rfl
  | (k, n) :: rest, values, h => by
    simp only [constantEntries?, Option.pure_def, Option.bind_eq_bind, Option.bind_eq_some_iff] at h
    obtain ⟨v, hv, vs, hvs, -⟩ := h
    cases n with
    | constant s w =>
      rw [callSitesEntries, callSites, callSitesEntries_of_constantEntries? hvs, List.nil_append]
    | _ => simp [constant?] at hv

@[simp] theorem callSites_foldArray (span : Span) (items : List Node) :
    (foldArray span items).callSites = callSitesAll items := by
  unfold foldArray
  split
  · rename_i values h
    rw [callSites, callSitesAll_of_constants? h]
  · rw [callSites]

@[simp] theorem callSites_foldObject (span : Span) (entries : List (String × Node)) :
    (foldObject span entries).callSites = callSitesEntries entries := by
  unfold foldObject
  split
  · rename_i values h
    rw [callSites, callSitesEntries_of_constantEntries? h]
  · rw [callSites]

end Node

/-! ### What resolving leaves -/

namespace Expr

open Resolution CallSite

/-- The arguments of a call from `i` on, resolved: as many as written, places where the function wants them. -/
theorem inputs_of_resolveInputs {library : Library} {f : Function} :
    ∀ {args : List Expr} {i : Nat} {inputs : List (Input Node)},
      (resolveInputs library f i args).Gives inputs →
        inputs.length = args.length ∧
          ∀ j input, inputs[j]? = some input → (input.isPath = true ↔ f.kindAt (i + j) = .path)
  | [], i, inputs, h => by
    rw [resolveInputs, gives_pure] at h
    subst h
    simp
  | e :: rest, i, inputs, h => by
    unfold resolveInputs at h
    rw [gives_zipWith] at h
    obtain ⟨input, others, hinput, hothers, rfl⟩ := h
    obtain ⟨hlen, hkinds⟩ := inputs_of_resolveInputs hothers
    have hhead : input.isPath = true ↔ f.kindAt i = .path := by
      split at hinput
      · rename_i hkind
        obtain ⟨n, -, rfl⟩ := gives_map.1 hinput
        simp [Input.isPath, hkind]
      · rename_i hkind
        rw [gives_pure] at hinput
        subst hinput
        simp [Input.isPath, hkind]
      · exact absurd hinput not_gives_failed
    refine ⟨by simp [hlen], fun j other hj => ?_⟩
    rcases j with _ | j
    · obtain rfl : input = other := by simpa using hj
      exact hhead
    · rw [show i + (j + 1) = i + 1 + j by omega]
      exact hkinds j other (by simpa using hj)

/-- A call that passes its checks is disciplined. -/
theorem checked_of_resolveInputs {library : Library} {f : Function} {callee : Callee} {args : List Expr}
    {inputs : List (Input Node)} {span : Span} {captured : Bool} (hfind : library.find? callee.name = some f)
    (hcheck : f.checkCall callee args.length span captured = [])
    (hcapture : captured = true → callee.aborts = false ∧ f.fallible = true)
    (hinputs : (resolveInputs library f 0 args).Gives inputs) :
    Checked library ⟨callee.name, callee.aborts, captured, args⟩ ⟨f, callee.aborts, captured, inputs⟩ := by
  obtain ⟨hadmits, hhandled, hneeded⟩ := Function.checkCall_eq_nil.1 hcheck
  obtain ⟨henough, hmost⟩ := Function.admits_iff.1 hadmits
  obtain ⟨hlen, hkinds⟩ := inputs_of_resolveInputs hinputs
  refine ⟨⟨hfind, rfl, rfl, hlen⟩, ⟨Library.mem_of_find? hfind, ?_, ?_, ?_, hhandled, hneeded, hcapture⟩⟩
  · exact hlen ▸ henough
  · exact fun most h => hlen ▸ hmost most h
  · intro i input hi
    rw [← Function.kindAt_eq_path, hkinds i input hi, Nat.zero_add]

/-- The removal of a place is a disciplined call of the standard function. -/
theorem checked_of_resolveDelete {library : Library} (hlib : library ⊆ Library.standard) {s : Span}
    {target : Target} {aborts : Bool} {n : Node} (h : (resolveDelete library s target aborts).Gives n) :
    List.Forall₂ (Checked library) (delete s target aborts).writtenCalls n.callSites := by
  unfold resolveDelete at h
  split at h
  · simp [Gives] at h
  · rename_i f hfind
    split at h
    · simp [Gives] at h
    · rename_i hneeded
      rw [gives_pure] at h
      subst h
      obtain rfl := Library.find?_del hlib hfind
      obtain rfl : aborts = false := by simpa [Function.delete] using hneeded
      refine .cons ⟨⟨hfind, rfl, rfl, rfl⟩, ⟨Library.mem_of_find? hfind, ?_, ?_, ?_, ?_, ?_, ?_⟩⟩ .nil
      · simp [Function.leastArity, Function.delete]
      · intro most hmost
        obtain rfl : most = 1 := by simpa [Function.greatestArity, Function.delete, eq_comm] using hmost
        simp
      · intro i input hi
        rcases i with _ | i
        · obtain rfl : input = .path target.path := by simpa [eq_comm] using hi
          simp [Input.isPath, Function.parameter?, Function.delete]
        · simp at hi
      · simp [Function.delete]
      · simp
      · simp

section Resolve

variable {library : Library}

mutual

/-- Resolving keeps every call, in order, and leaves only disciplined ones. -/
theorem forall₂_callSites (hlib : library ⊆ Library.standard) :
    ∀ {e : Expr} {n : Node}, (resolve library e).Gives n →
      List.Forall₂ (Checked library) e.writtenCalls n.callSites
  | literal s v, n, h => by
    rw [resolve, gives_pure] at h
    subst h
    simp [writtenCalls, Node.callSites]
  | path s p, n, h => by
    rw [resolve, gives_pure] at h
    subst h
    simp [writtenCalls, Node.callSites]
  | array s items, n, h => by
    rw [resolve, gives_map] at h
    obtain ⟨nodes, hnodes, rfl⟩ := h
    rw [writtenCalls, Node.callSites_foldArray]
    exact forall₂_callSitesAll hlib hnodes
  | object s entries, n, h => by
    rw [resolve, gives_map] at h
    obtain ⟨nodes, hnodes, rfl⟩ := h
    rw [writtenCalls, Node.callSites_foldObject]
    exact forall₂_callSitesEntries hlib hnodes
  | access s base p, n, h => by
    rw [resolve, gives_map] at h
    obtain ⟨b, hb, rfl⟩ := h
    rw [writtenCalls, Node.callSites]
    exact forall₂_callSites hlib hb
  | assign s target value, n, h => by
    rw [resolve, gives_map] at h
    obtain ⟨v, hv, rfl⟩ := h
    rw [writtenCalls, Node.callSites]
    exact forall₂_callSites hlib hv
  | assignPair s ok err (call cs callee args), n, h => by
    rw [resolve] at h
    split at h
    · exact absurd h not_gives_failed
    · rename_i f hfind
      rw [gives_after, gives_map] at h
      obtain ⟨hissues, inputs, hinputs, rfl⟩ := h
      obtain ⟨hneedless, hcheck⟩ := List.append_eq_nil_iff.1 hissues
      -- both complaints about a capture are absent
      have hcapture : callee.aborts = false ∧ f.fallible = true := by
        revert hneedless
        cases callee.aborts <;> cases f.fallible <;> simp
      have hsite := checked_of_resolveInputs hfind hcheck (fun _ => hcapture) hinputs
      rw [hcapture.1] at hsite
      rw [writtenCalls, Node.callSites, hcapture.1]
      exact .cons hsite (forall₂_callSitesInputs hlib hinputs)
  | assignPair s ok err (literal ..), n, h | assignPair s ok err (array ..), n, h
  | assignPair s ok err (object ..), n, h | assignPair s ok err (path ..), n, h
  | assignPair s ok err (access ..), n, h | assignPair s ok err (assign ..), n, h
  | assignPair s ok err (assignPair ..), n, h | assignPair s ok err (binary ..), n, h
  | assignPair s ok err (unary ..), n, h | assignPair s ok err (branch ..), n, h
  | assignPair s ok err (block ..), n, h | assignPair s ok err (delete ..), n, h => by
    -- only a call can be captured
    unfold resolve at h
    exact absurd h not_gives_failed
  | call s callee args, n, h => by
    rw [resolve] at h
    split at h
    · exact absurd h not_gives_failed
    · rename_i f hfind
      rw [gives_after, gives_map] at h
      obtain ⟨hcheck, inputs, hinputs, rfl⟩ := h
      rw [writtenCalls, Node.callSites]
      exact .cons (checked_of_resolveInputs hfind hcheck (by simp) hinputs)
        (forall₂_callSitesInputs hlib hinputs)
  | binary s op left right, n, h => by
    rw [resolve, gives_zipWith] at h
    obtain ⟨l, r, hl, hr, rfl⟩ := h
    rw [writtenCalls, Node.callSites]
    exact List.rel_append (forall₂_callSites hlib hl) (forall₂_callSites hlib hr)
  | unary s op operand, n, h => by
    rw [resolve, gives_map] at h
    obtain ⟨o, ho, rfl⟩ := h
    rw [writtenCalls, Node.callSites]
    exact forall₂_callSites hlib ho
  | branch s condition body none, n, h => by
    rw [resolve, gives_zipWith] at h
    obtain ⟨c, b, hc, hb, rfl⟩ := h
    rw [writtenCalls, Node.callSites]
    exact List.rel_append (forall₂_callSites hlib hc) (forall₂_callSitesAll hlib hb)
  | branch s condition body (some alternative), n, h => by
    rw [resolve, gives_zipWith] at h
    obtain ⟨⟨c, b⟩, a, hcb, ha, rfl⟩ := h
    obtain ⟨c', b', hc, hb, heq⟩ := gives_zipWith.1 hcb
    obtain ⟨rfl, rfl⟩ := Prod.mk.inj heq
    rw [writtenCalls, Node.callSites]
    exact List.rel_append (List.rel_append (forall₂_callSites hlib hc) (forall₂_callSitesAll hlib hb))
      (forall₂_callSites hlib ha)
  | block s body, n, h => by
    rw [resolve, gives_map] at h
    obtain ⟨nodes, hnodes, rfl⟩ := h
    rw [writtenCalls, Node.callSites]
    exact forall₂_callSitesAll hlib hnodes
  | delete s target aborts, n, h => by
    rw [resolve] at h
    exact checked_of_resolveDelete hlib h

theorem forall₂_callSitesAll (hlib : library ⊆ Library.standard) :
    ∀ {es : List Expr} {ns : List Node}, (resolveAll library es).Gives ns →
      List.Forall₂ (Checked library) (writtenCallsAll es) (Node.callSitesAll ns)
  | [], ns, h => by
    rw [resolveAll, gives_pure] at h
    subst h
    exact .nil
  | e :: rest, ns, h => by
    rw [resolveAll, gives_zipWith] at h
    obtain ⟨n, others, hn, hothers, rfl⟩ := h
    rw [writtenCallsAll, Node.callSitesAll]
    exact List.rel_append (forall₂_callSites hlib hn) (forall₂_callSitesAll hlib hothers)

theorem forall₂_callSitesEntries (hlib : library ⊆ Library.standard) :
    ∀ {es : List (String × Expr)} {ns : List (String × Node)}, (resolveEntries library es).Gives ns →
      List.Forall₂ (Checked library) (writtenCallsEntries es) (Node.callSitesEntries ns)
  | [], ns, h => by
    rw [resolveEntries, gives_pure] at h
    subst h
    exact .nil
  | (k, e) :: rest, ns, h => by
    rw [resolveEntries, gives_zipWith] at h
    obtain ⟨n, others, hn, hothers, rfl⟩ := h
    rw [writtenCallsEntries, Node.callSitesEntries]
    exact List.rel_append (forall₂_callSites hlib hn) (forall₂_callSitesEntries hlib hothers)

theorem forall₂_callSitesInputs (hlib : library ⊆ Library.standard) {f : Function} :
    ∀ {es : List Expr} {i : Nat} {inputs : List (Input Node)}, (resolveInputs library f i es).Gives inputs →
      List.Forall₂ (Checked library) (writtenCallsAll es) (Node.callSitesInputs inputs)
  | [], i, inputs, h => by
    rw [resolveInputs, gives_pure] at h
    subst h
    exact .nil
  | e :: rest, i, inputs, h => by
    unfold resolveInputs at h
    rw [gives_zipWith] at h
    obtain ⟨input, others, hinput, hothers, rfl⟩ := h
    have hrest := forall₂_callSitesInputs hlib hothers
    split at hinput
    · obtain ⟨n, hn, rfl⟩ := gives_map.1 hinput
      rw [writtenCallsAll, Node.callSitesInputs]
      exact List.rel_append (forall₂_callSites hlib hn) hrest
    · rw [gives_pure] at hinput
      subst hinput
      simpa [writtenCallsAll, writtenCalls, Node.callSitesInputs] using hrest
    · exact absurd hinput not_gives_failed

end

end Resolve

end Expr

/-! ### Compiled programs -/

/-- The calls of a compiled program are the calls written in its text, each checked. -/
theorem forall₂_checked_of_compile {library : Library} (hlib : library ⊆ Library.standard)
    {source : String} {p : Program} (h : compile library source = .ok p) :
    ∃ es, Expr.parse (tokenize source).1 = .ok (es, []) ∧
      List.Forall₂ (CallSite.Checked library) (Expr.writtenCallsAll es) p.callSites := by
  obtain ⟨-, es, hparse, -, hgives⟩ := compile_eq_ok.1 h
  exact ⟨es, hparse, Expr.forall₂_callSitesAll hlib hgives⟩

theorem disciplined_of_compile {library : Library} (hlib : library ⊆ Library.standard)
    {source : String} {p : Program} (h : compile library source = .ok p) :
    ∀ c ∈ p.callSites, c.Disciplined library := by
  obtain ⟨es, -, hchecked⟩ := forall₂_checked_of_compile hlib h
  have hall : List.Forall₂ (fun _ c => CallSite.Disciplined library c) _ p.callSites :=
    hchecked.imp fun w c hc => hc.2
  intro c hc
  obtain ⟨i, hi, rfl⟩ := List.getElem_of_mem hc
  exact hall.get (by rw [hall.length_eq]; exact hi) hi

/-- All calls of a program compiled with some of the standard functions are disciplined, and they are the
calls written in its text, one by one. -/
theorem compile_callSites {library : Library} (hlib : library ⊆ Library.standard) {source : String}
    {p : Program} (h : compile library source = .ok p) :
    (∀ c ∈ p.callSites, c.Disciplined library) ∧
      ∃ es, Expr.parse (tokenize source).1 = .ok (es, []) ∧
        List.Forall₂ (CallSite.Resolves library) (Expr.writtenCallsAll es) p.callSites := by
  obtain ⟨es, hparse, hchecked⟩ := forall₂_checked_of_compile hlib h
  exact ⟨disciplined_of_compile hlib h, es, hparse, hchecked.imp fun w c hc => hc.1⟩

/-- Calls in an argument, in a branch, under an operator, in a literal, and captured. -/
theorem compile_callSites_nested :
    ∃ p : Program,
      compile (Library.standard.only ["parse_json", "length", "del", "is_null"])
          ".a, .e = parse_json([del(.m)])\nif is_null(.a) \x7b .n = 1 + length!(.a) \x7d" = .ok p ∧
        p.callSites.map (·.function.name) = ["parse_json", "del", "is_null", "length"] ∧
        ∀ c ∈ p.callSites,
          c.Disciplined (Library.standard.only ["parse_json", "length", "del", "is_null"]) := by
  have hlib : Library.standard.only ["parse_json", "length", "del", "is_null"] ⊆ Library.standard :=
    List.filter_subset_self _
  have hnames :
      (compile (Library.standard.only ["parse_json", "length", "del", "is_null"])
          ".a, .e = parse_json([del(.m)])\nif is_null(.a) \x7b .n = 1 + length!(.a) \x7d").toOption.map
        (fun p => p.callSites.map (·.function.name)) = some ["parse_json", "del", "is_null", "length"] := by
    decide +kernel
  obtain ⟨p, hok, hsites⟩ := exists_of_compile hnames
  exact ⟨p, hok, hsites, (compile_callSites hlib hok).1⟩

end Reshape
