/-
Regions in regions.

An expression is read from a run of tokens, and its region is theirs: it starts where the first of them starts and
stops where the last one does.  What the expression is made of is read from shorter runs in it, one behind the other.
So regions are nested as expressions are.

* `Spans.join` — the region that covers two is that of all the tokens from the one to the other;
* `Row` — regions of tokens one behind the other;
* `Expr.Placed.node` — an expression made of expressions that are where their tokens are;
* `Expr.Placed.nested` — what that says of regions alone.
-/
import Reshape.Expr.Basic
import Reshape.Token.Basic

namespace Reshape

variable {ts us gap own : List Token} {s s' : Span} {ss : List Span}

/-! ### Runs of tokens -/

/-- Tokens one behind the other, none of them empty. -/
structure Ordered (ts : List Token) : Prop where
  apart : ts.Pairwise fun t u => t.span.stop ≤ u.span.start
  proper : ∀ t ∈ ts, t.span.start < t.span.stop

theorem Ordered.of_infix (h : Ordered us) (hts : ts <:+: us) : Ordered ts :=
  ⟨h.apart.sublist hts.sublist, fun t ht => h.proper t (hts.subset ht)⟩

/-- Tokens one behind the other, none of them empty but the end. -/
structure InOrder (ts : List Token) : Prop where
  apart : ts.Pairwise fun t u => t.span.stop ≤ u.span.start
  proper : ∀ t ∈ ts, t.kind ≠ .eof → t.span.start < t.span.stop

theorem InOrder.of_infix (h : InOrder us) (hts : ts <:+: us) : InOrder ts :=
  ⟨h.apart.sublist hts.sublist, fun t ht => h.proper t (hts.subset ht)⟩

theorem InOrder.ordered (h : InOrder ts) (hts : ∀ t ∈ ts, t.kind ≠ .eof) : Ordered ts :=
  ⟨h.apart, fun t ht => h.proper t ht (hts t ht)⟩

theorem Ordered.stop_le_start (h : Ordered (ts ++ us)) {t u : Token} (ht : t ∈ ts) (hu : u ∈ us) :
    t.span.stop ≤ u.span.start :=
  (List.pairwise_append.1 h.apart).2.2 t ht u hu

theorem Ordered.start_le (h : Ordered ts) {first t : Token} (hfirst : ts.head? = some first) (ht : t ∈ ts) :
    first.span.start ≤ t.span.start := by
  obtain ⟨rest, rfl⟩ := List.head?_eq_some_iff.1 hfirst
  rcases List.mem_cons.1 ht with rfl | hrest
  · exact Nat.le_refl _
  · have hproper := h.proper first List.mem_cons_self
    have hapart := (List.pairwise_cons.1 h.apart).1 t hrest
    omega

theorem Ordered.le_stop (h : Ordered ts) {last t : Token} (hlast : ts.getLast? = some last) (ht : t ∈ ts) :
    t.span.stop ≤ last.span.stop := by
  obtain ⟨init, rfl⟩ := List.getLast?_eq_some_iff.1 hlast
  rcases List.mem_append.1 ht with hinit | ht
  · have hproper := h.proper last (by simp)
    have hapart := h.stop_le_start hinit (List.mem_singleton_self last)
    omega
  · obtain rfl := List.mem_singleton.1 ht
    exact Nat.le_refl _

/-- The region of a run of tokens. -/
def Spans (ts : List Token) (s : Span) : Prop :=
  ∃ first last, ts.head? = some first ∧ ts.getLast? = some last ∧
    s = ⟨first.span.start, last.span.stop, first.span.line, first.span.column⟩

theorem Spans.token (t : Token) : Spans [t] t.span :=
  ⟨t, t, rfl, rfl, rfl⟩

/-- The region that covers two runs covers what stands between them. -/
theorem Spans.join (hs : Spans ts s) (hs' : Spans own s') (hown : own <:+ us) (h : Ordered (ts ++ us)) :
    Spans (ts ++ us) (s.join s') := by
  obtain ⟨gap, rfl⟩ := hown
  obtain ⟨first, last, hfirst, hlast, rfl⟩ := hs
  obtain ⟨first', last', hfirst', hlast', rfl⟩ := hs'
  have hmem : last' ∈ gap ++ own := List.mem_append_right gap (List.mem_of_getLast? hlast')
  have hproper := h.proper last' (List.mem_append_right ts hmem)
  have hfirstProper := h.proper first (List.mem_append_left _ (List.mem_of_head? hfirst))
  have hstart := h.stop_le_start (List.mem_of_head? hfirst) hmem
  have hstop := h.stop_le_start (List.mem_of_getLast? hlast) hmem
  refine ⟨first, last', by simp [List.head?_append, hfirst], by simp [List.getLast?_append, hlast'], ?_⟩
  -- the second region neither lies before the first nor stops before it
  have hbehind : first.span.start < last'.span.stop := by omega
  have hlonger : last.span.stop ≤ last'.span.stop := by omega
  rw [Span.join_of_lt]
  · congr 1
    exact Nat.max_eq_right hlonger
  · exact hbehind

theorem Spans.inside (hs : Spans ts s) (hs' : Spans us s') (hus : us <:+: ts) (h : Ordered ts) :
    s.start ≤ s'.start ∧ s'.stop ≤ s.stop := by
  obtain ⟨first, last, hfirst, hlast, rfl⟩ := hs
  obtain ⟨first', last', hfirst', hlast', rfl⟩ := hs'
  exact ⟨h.start_le hfirst (hus.subset (List.mem_of_head? hfirst')),
    h.le_stop hlast (hus.subset (List.mem_of_getLast? hlast'))⟩

theorem Spans.stop_le_start (hs : Spans ts s) (hs' : Spans us s')
    (h : (ts ++ us).Pairwise fun t u => t.span.stop ≤ u.span.start) : s.stop ≤ s'.start := by
  obtain ⟨first, last, hfirst, hlast, rfl⟩ := hs
  obtain ⟨first', last', hfirst', hlast', rfl⟩ := hs'
  exact (List.pairwise_append.1 h).2.2 last (List.mem_of_getLast? hlast) first' (List.mem_of_head? hfirst')

/-! ### Regions in a row -/

/-- Regions of runs of the tokens, one behind the other. -/
inductive Row : List Token → List Span → Prop
  | nil (ts : List Token) : Row ts []
  | cons {gap own rest s ss} : Spans own s → Row rest ss → Row (gap ++ (own ++ rest)) (s :: ss)

namespace Row

theorem lead (gap : List Token) (h : Row ts ss) : Row (gap ++ ts) ss := by
  cases h with
  | nil => exact .nil _
  | @cons gap' own rest s ss hs hrest =>
    rw [← List.append_assoc]
    exact .cons hs hrest

theorem append {ss' : List Span} (h : Row ts ss) (h' : Row us ss') : Row (ts ++ us) (ss ++ ss') := by
  induction h with
  | nil ts => exact h'.lead ts
  | cons hs hrest ih =>
    rw [List.append_assoc, List.append_assoc]
    exact .cons hs ih

theorem trail (gap : List Token) (h : Row ts ss) : Row (ts ++ gap) ss := by
  simpa using h.append (.nil gap)

theorem single (h : Spans own s) : Row own [s] := by
  have hrow : Row ([] ++ (own ++ [])) [s] := .cons h (.nil [])
  simpa using hrow

theorem of_infix (h : Row ts ss) (hts : ts <:+: us) : Row us ss := by
  obtain ⟨front, back, rfl⟩ := hts
  exact (h.lead front).trail back

theorem exists_spans (h : Row ts ss) : ∀ s ∈ ss, ∃ own, own <:+: ts ∧ Spans own s := by
  induction h with
  | nil => simp
  | @cons gap own rest s ss hs hrest ih =>
    refine List.forall_mem_cons.2 ⟨⟨own, ⟨gap, rest, by rw [List.append_assoc]⟩, hs⟩, fun s' hs' => ?_⟩
    obtain ⟨own', hown', hspans⟩ := ih s' hs'
    have hrest : rest <:+: gap ++ (own ++ rest) := ((List.suffix_append own rest).trans (List.suffix_append gap _)).isInfix
    exact ⟨own', hown'.trans hrest, hspans⟩

theorem apart (h : Row ts ss) (hts : ts.Pairwise fun t u => t.span.stop ≤ u.span.start) :
    ss.Pairwise fun s s' => s.stop ≤ s'.start := by
  induction h with
  | nil => exact .nil
  | @cons gap own rest s ss hs hrest ih =>
    have htail := hts.sublist (List.sublist_append_right gap (own ++ rest))
    refine List.pairwise_cons.2 ⟨fun s' hs' => ?_, ih (htail.sublist (List.sublist_append_right own rest))⟩
    obtain ⟨own', hown', hspans⟩ := hrest.exists_spans s' hs'
    exact hs.stop_le_start hspans (htail.sublist ((List.Sublist.refl own).append hown'.sublist))

end Row

/-! ### Expressions -/

namespace Expr

/-- The regions of what an expression is made of besides expressions: its targets, or the name that it calls. -/
def heads : Expr → List Span
  | assign _ target _ => [target.span]
  | assignPair _ ok err _ => [ok.span, err.span]
  | call _ callee _ => [callee.span]
  | delete _ target _ => [target.span]
  | _ => []

/-- The expressions of which an expression is made. -/
def children : Expr → List Expr
  | array _ items => items
  | object _ entries => entries.map (·.2)
  | access _ base _ => [base]
  | assign _ _ value | assignPair _ _ _ value => [value]
  | call _ _ arguments => arguments
  | binary _ _ left right => [left, right]
  | unary _ _ operand => [operand]
  | branch _ condition body alternative => condition :: (body ++ alternative.toList)
  | block _ body => body
  | literal .. | path .. | delete .. => []

/-- The regions of all that an expression is made of, in the order of the program. -/
def inner (e : Expr) : List Span :=
  e.heads ++ e.children.map span

/-- The second expression is the first or in it, at any depth. -/
inductive HasPart : Expr → Expr → Prop
  | self (e : Expr) : HasPart e e
  | child {e c m} : c ∈ e.children → HasPart c m → HasPart e m

theorem children_withSpan (e : Expr) (s : Span) : (e.withSpan s).children = e.children := by
  cases e <;> rfl

theorem heads_withSpan (e : Expr) (s : Span) : (e.withSpan s).heads = e.heads := by
  cases e <;> rfl

/-- The expression is read from the tokens: its region is theirs, what it is made of is read from shorter runs of
them, one behind the other, and so on at any depth. -/
structure Placed (own : List Token) (e : Expr) : Prop where
  region : Spans own e.span
  parts : ∀ m, e.HasPart m → ∃ ts, ts <:+: own ∧ Spans ts m.span ∧ Row ts m.inner

/-- Expressions are read from the tokens, one behind the other. -/
structure PlacedAll (ts : List Token) (es : List Expr) : Prop where
  row : Row ts (es.map span)
  each : ∀ e ∈ es, ∃ own, own <:+: ts ∧ Placed own e

variable {e : Expr} {es es' : List Expr}

namespace PlacedAll

theorem nil (ts : List Token) : PlacedAll ts [] :=
  ⟨.nil ts, by simp⟩

theorem append (h : PlacedAll ts es) (h' : PlacedAll us es') : PlacedAll (ts ++ us) (es ++ es') where
  row := by
    rw [List.map_append]
    exact h.row.append h'.row
  each := by
    refine List.forall_mem_append.2 ⟨fun e he => ?_, fun e he => ?_⟩
    · obtain ⟨own, hown, hplaced⟩ := h.each e he
      exact ⟨own, hown.trans (List.prefix_append ts us).isInfix, hplaced⟩
    · obtain ⟨own, hown, hplaced⟩ := h'.each e he
      exact ⟨own, hown.trans (List.suffix_append ts us).isInfix, hplaced⟩

theorem lead (gap : List Token) (h : PlacedAll ts es) : PlacedAll (gap ++ ts) es :=
  (nil gap).append h

theorem trail (gap : List Token) (h : PlacedAll ts es) : PlacedAll (ts ++ gap) es := by
  simpa using h.append (nil gap)

end PlacedAll

theorem Placed.all (h : Placed own e) : PlacedAll own [e] :=
  ⟨.single h.region, by simpa using ⟨own, List.infix_refl own, h⟩⟩

/-- An expression is placed if what it is made of is: first what is no expression, then the expressions. -/
theorem Placed.node (hspan : Spans (ts ++ us) e.span) (hheads : Row ts e.heads) (hall : PlacedAll us e.children) :
    Placed (ts ++ us) e where
  region := hspan
  parts := by
    intro m hm
    cases hm with
    | self => exact ⟨ts ++ us, List.infix_refl _, hspan, hheads.append hall.row⟩
    | @child _ c _ hc hm =>
      obtain ⟨own, hown, hplaced⟩ := hall.each c hc
      obtain ⟨own', hown', hregion, hrow⟩ := hplaced.parts m hm
      exact ⟨own', hown'.trans (hown.trans (List.suffix_append ts us).isInfix), hregion, hrow⟩

/-- An expression made of expressions only. -/
theorem Placed.of_children (hspan : Spans own e.span) (hheads : e.heads = []) (hall : PlacedAll own e.children) :
    Placed own e := by
  have hrow : Row [] e.heads := hheads ▸ .nil []
  have hnode : Placed ([] ++ own) e := .node hspan hrow hall
  exact hnode

/-- An expression that is said to be read from more tokens. -/
theorem Placed.withSpan (h : Placed own e) (hown : own <:+: ts) (hs : Spans ts s) : Placed ts (e.withSpan s) where
  region := by rwa [span_withSpan]
  parts := by
    intro m hm
    cases hm with
    | self =>
      obtain ⟨own', hown', -, hrow⟩ := h.parts e (.self e)
      refine ⟨ts, List.infix_refl ts, by rwa [span_withSpan], ?_⟩
      rw [inner, children_withSpan, heads_withSpan]
      exact hrow.of_infix (hown'.trans hown)
    | @child _ c _ hc hm =>
      rw [children_withSpan] at hc
      obtain ⟨own', hown', hparts⟩ := h.parts m (.child hc hm)
      exact ⟨own', hown'.trans hown, hparts⟩

end Expr

/-! ### What is nested -/

/-- A region from one token to another, with the place of the first. -/
structure Span.Bounded (tokens : List Token) (s : Span) : Prop where
  start : ∃ t ∈ tokens, s.start = t.span.start ∧ s.line = t.span.line ∧ s.column = t.span.column
  stop : ∃ t ∈ tokens, s.stop = t.span.stop
  proper : s.start < s.stop

theorem Spans.bounded (h : Spans own s) (hown : own <:+: ts) (hts : Ordered own) : s.Bounded ts := by
  obtain ⟨first, last, hfirst, hlast, rfl⟩ := h
  have hmem := List.mem_of_head? hfirst
  have hmem' := List.mem_of_getLast? hlast
  refine ⟨⟨first, hown.subset hmem, rfl, rfl, rfl⟩, ⟨last, hown.subset hmem', rfl⟩, ?_⟩
  exact Nat.lt_of_lt_of_le (hts.proper first hmem) (hts.le_stop hlast hmem)

/-- What an expression is made of lies in its region, one behind the other, each from one token to another. -/
structure Expr.Nested (tokens : List Token) (e : Expr) : Prop where
  bounded : e.span.Bounded tokens
  inside : ∀ s ∈ e.inner, e.span.start ≤ s.start ∧ s.stop ≤ e.span.stop
  apart : e.inner.Pairwise fun s s' => s.stop ≤ s'.start
  innerBounded : ∀ s ∈ e.inner, s.Bounded tokens

theorem Expr.Placed.nested {e m : Expr} (h : Placed own e) (hown : own <:+: ts) (hts : Ordered own)
    (hm : e.HasPart m) : m.Nested ts := by
  obtain ⟨own', hown', hregion, hrow⟩ := h.parts m hm
  have hordered := hts.of_infix hown'
  refine ⟨hregion.bounded (hown'.trans hown) hordered, fun s hs => ?_, hrow.apart hordered.apart, fun s hs => ?_⟩
  · obtain ⟨us, hus, hspans⟩ := hrow.exists_spans s hs
    exact hregion.inside hspans hus hordered
  · obtain ⟨us, hus, hspans⟩ := hrow.exists_spans s hs
    exact hspans.bounded (hus.trans (hown'.trans hown)) (hordered.of_infix hus)

/-- A part lies in the region of the whole. -/
theorem Expr.Placed.inside {e m : Expr} (h : Placed own e) (hts : Ordered own) (hm : e.HasPart m) :
    e.span.start ≤ m.span.start ∧ m.span.stop ≤ e.span.stop := by
  obtain ⟨own', hown', hregion, -⟩ := h.parts m hm
  exact h.region.inside hregion hown' hts

end Reshape
