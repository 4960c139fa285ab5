/-
What the diagnostics of a program are about.

A diagnostic says where something is wrong: in a piece of the text that is no token, at tokens that are read as
nothing, or at an expression, its targets or the name that it calls.  Each of these is some text of the program, and
the region is that of the text.

* `Resolution.On` — all that is reported lies in regions with a property; one lemma for each combinator;
* `Expr.on_resolve` — resolving reports on the expressions of a program and what they are made of;
* `Diagnostic.about_of_compile` — the diagnostics of a program that does not compile.
-/
import Reshape.Proofs.Invalid
import Reshape.Proofs.Relocation

namespace Reshape

/-- The diagnostic is about some text of the program, and has its region. -/
def Diagnostic.About (source : List Char) (d : Diagnostic) : Prop :=
  ∃ front text back, source = front ++ text ++ back ∧ d.span = some (.ofText front text)

/-! ### Scanning and reading -/

/-- What is wrong with a lexeme is in a piece of its text. -/
theorem Lexer.Told.about {source : List Char} {l : Lexeme} (h : Told source l) {d : Diagnostic} (hd : l.issue = some d) :
    d.About source := by
  cases h with
  | valid => cases hd
  | @invalid t d' front lead text tail back hkind hsource hspan hpiece =>
    obtain rfl := Option.some.inj hd
    exact ⟨front ++ lead, text, tail ++ back, by simp only [hsource, List.append_assoc], hpiece⟩

/-- The parser complains about text, from one token to another. -/
theorem Sited.exists_ofText {source : List Char} {ts : List Token} {s : Span} (h : Sited ts s) (hts : Tiling source ts) :
    ∃ front text back, source = front ++ text ++ back ∧ s = .ofText front text := by
  cases h with
  | @token t ht _ =>
    obtain ⟨front, back, hsource, hspan⟩ := hts.covers t ht
    exact ⟨front, t.lexeme.toList, back, hsource, hspan⟩
  | @run own _ hown hinner hspans _ =>
    have hordered : Ordered own := (hts.inOrder.of_infix hown).ordered hinner
    obtain ⟨front, text, back, hsource, -, hspan⟩ := hts.exists_ofText (hspans.bounded hown hordered)
    exact ⟨front, text, back, hsource, hspan⟩

/-! ### Resolving -/

namespace Resolution

variable {α β γ : Type} {P Q : Span → Prop} {issues : List Diagnostic} {r : Resolution α} {q : Resolution β}

/-- All that is reported has a region with the property. -/
def On (P : Span → Prop) (r : Resolution α) : Prop :=
  ∀ d ∈ r.issues, ∃ s, d.span = some s ∧ P s

theorem On.imp (h : r.On P) (hPQ : ∀ s, P s → Q s) : r.On Q := by
  intro d hd
  obtain ⟨s, hs, hP⟩ := h d hd
  exact ⟨s, hs, hPQ s hP⟩

theorem on_pure (a : α) : (pure a).On P := by
  rintro d ⟨⟩

theorem On.map (h : r.On P) (f : α → β) : (r.map f).On P :=
  h

theorem On.zipWith (h : r.On P) (h' : q.On P) (f : α → β → γ) : (zipWith f r q).On P :=
  List.forall_mem_append.2 ⟨h, h'⟩

theorem On.failed (h : r.On P) (hissues : ∀ d ∈ issues, ∃ s, d.span = some s ∧ P s) :
    (failed issues r : Resolution β).On P :=
  List.forall_mem_append.2 ⟨hissues, h⟩

theorem On.after (h : r.On P) (hissues : ∀ d ∈ issues, ∃ s, d.span = some s ∧ P s) : (after issues r).On P :=
  List.forall_mem_append.2 ⟨hissues, h⟩

end Resolution

/-- What is wrong with a call is wrong with all of it. -/
theorem Function.span_of_mem_checkCall {f : Function} {callee : Callee} {count : Nat} {s : Span} {handled : Bool}
    {d : Diagnostic} (h : d ∈ f.checkCall callee count s handled) : d.span = some s := by
  simp only [checkCall, List.mem_append, or_assoc, List.mem_ite_nil_left, List.mem_ite_nil_right,
    List.mem_singleton] at h
  rcases h with ⟨-, rfl⟩ | ⟨-, rfl⟩ | ⟨-, rfl⟩ <;> rfl

namespace Expr

open Resolution

variable {library : Library} {e c : Expr} {es : List Expr} {s : Span}

/-- The region of the expression, of one in it at any depth, or of what such a one is made of. -/
def Points (e : Expr) (s : Span) : Prop :=
  ∃ m, e.HasPart m ∧ (s = m.span ∨ s ∈ m.inner)

theorem Points.self (e : Expr) : e.Points e.span :=
  ⟨e, .self e, .inl rfl⟩

theorem Points.head (h : s ∈ e.heads) : e.Points s :=
  ⟨e, .self e, .inr (List.mem_append_left _ h)⟩

theorem Points.child (hc : c ∈ e.children) (h : c.Points s) : e.Points s := by
  obtain ⟨m, hm, hs⟩ := h
  exact ⟨m, .child hc hm, hs⟩

/-- What some expressions are made of. -/
def PointsAll (es : List Expr) (s : Span) : Prop :=
  ∃ e ∈ es, e.Points s

theorem PointsAll.of_subset {es' : List Expr} (h : PointsAll es s) (hes : es ⊆ es') : PointsAll es' s := by
  obtain ⟨e, he, hs⟩ := h
  exact ⟨e, hes he, hs⟩

theorem PointsAll.points (h : PointsAll e.children s) : e.Points s := by
  obtain ⟨c, hc, hs⟩ := h
  exact hs.child hc

theorem on_child {α : Type} {r : Resolution α} (h : r.On c.Points) (hc : c ∈ e.children) : r.On e.Points :=
  h.imp fun _ hs => hs.child hc

theorem on_children {α : Type} {r : Resolution α} {es : List Expr} (h : r.On (PointsAll es)) (hes : es ⊆ e.children) :
    r.On e.Points :=
  h.imp fun _ hs => (hs.of_subset hes).points

theorem Points.reports (h : e.Points s) {issues : List Diagnostic} (hissues : ∀ d ∈ issues, d.span = some s) :
    ∀ d ∈ issues, ∃ s, d.span = some s ∧ e.Points s :=
  fun d hd => ⟨s, hissues d hd, h⟩

theorem on_resolveInput {f : Function} {i : Nat} (h : (resolve library e).On e.Points) :
    (resolveInput library f i e).On e.Points := by
  unfold resolveInput
  split
  · exact h.map _
  · exact on_pure _
  · exact h.failed ((Points.self _).reports (by simp [Issue.pathRequired]))

theorem on_resolveDelete (library : Library) (s : Span) (target : Target) (aborts : Bool) :
    (resolveDelete library s target aborts).On (delete s target aborts).Points := by
  have hself : (delete s target aborts).Points s := .self (delete s target aborts)
  unfold resolveDelete
  split
  · exact hself.reports (by simp [Issue.unknownFunction])
  · split
    · exact hself.reports (by simp [Issue.needlessAbort])
    · exact on_pure _

/-- An assignment to two places of anything but a call. -/
theorem on_resolve_assignPair {ok err : Target} {value : Expr} (hvalue : ∀ cs callee args, value ≠ call cs callee args)
    (h : (resolve library value).On value.Points) :
    (resolve library (assignPair s ok err value)).On (assignPair s ok err value).Points := by
  have hchild : ∀ s', value.Points s' → (assignPair s ok err value).Points s' :=
    fun s' hs' => hs'.child (by simp [children])
  rw [resolve_assignPair library s ok err hvalue]
  exact (h.imp hchild).failed ((hchild _ (.self value)).reports (by simp [Issue.needlessPair]))

/-- A call that is the value of an assignment to two places. -/
theorem on_resolve_capture {cs : Span} {ok err : Target} {callee : Callee} {args : List Expr}
    (hall : (resolveAll library args).On (PointsAll args))
    (hinputs : ∀ f, (resolveInputs library f 0 args).On (PointsAll args)) :
    (resolve library (assignPair s ok err (call cs callee args))).On
      (assignPair s ok err (call cs callee args)).Points := by
  have hchild : ∀ s', (call cs callee args).Points s' → (assignPair s ok err (call cs callee args)).Points s' :=
    fun s' hs' => hs'.child (by simp [children])
  have hargs : ∀ s', PointsAll args s' → (assignPair s ok err (call cs callee args)).Points s' :=
    fun s' hs' => hchild s' (PointsAll.points (e := call cs callee args) hs')
  have hcall : (assignPair s ok err (call cs callee args)).Points cs := hchild cs (.self (call cs callee args))
  have hcallee : (assignPair s ok err (call cs callee args)).Points callee.span := hchild _ (.head (by simp [heads]))
  have hneedless : ∀ b : Bool, ∀ d ∈ (if b then [Issue.needlessPair (describe (call cs callee args)) cs] else []),
      ∃ s', d.span = some s' ∧ (assignPair s ok err (call cs callee args)).Points s' := by
    intro b
    exact hcall.reports (by cases b <;> simp [Issue.needlessPair])
  rw [resolve]
  split
  · refine (hall.imp hargs).failed (List.forall_mem_append.2 ⟨hneedless _, ?_⟩)
    exact hcallee.reports (by simp [Issue.unknownFunction])
  · rename_i f _
    refine (((hinputs f).imp hargs).map _).after (List.forall_mem_append.2 ⟨hneedless _, ?_⟩)
    exact hcall.reports fun d hd => Function.span_of_mem_checkCall hd

mutual

/-- What is reported about an expression is about it, an expression in it, or what such a one is made of. -/
theorem on_resolve (library : Library) : ∀ e : Expr, (resolve library e).On e.Points
  | literal s v => by
    rw [resolve]
    exact on_pure _
  | path s p => by
    rw [resolve]
    exact on_pure _
  | array s items => by
    rw [resolve]
    exact (on_children (on_resolveAll library items) (List.Subset.refl _)).map _
  | object s entries => by
    rw [resolve]
    exact (on_children (on_resolveEntries library entries) (List.Subset.refl _)).map _
  | access s base p => by
    rw [resolve]
    exact (on_child (on_resolve library base) (by simp [children])).map _
  | assign s target value => by
    rw [resolve]
    exact (on_child (on_resolve library value) (by simp [children])).map _
  | assignPair s ok err (call cs callee args) =>
    on_resolve_capture (on_resolveAll library args) fun f => on_resolveInputs library f args 0
  | assignPair s ok err (literal ..) | assignPair s ok err (array ..) | assignPair s ok err (object ..)
  | assignPair s ok err (path ..) | assignPair s ok err (access ..) | assignPair s ok err (assign ..)
  | assignPair s ok err (assignPair ..) | assignPair s ok err (binary ..) | assignPair s ok err (unary ..)
  | assignPair s ok err (branch ..) | assignPair s ok err (block ..) | assignPair s ok err (delete ..) =>
    on_resolve_assignPair (fun _ _ _ h => Expr.noConfusion h) (on_resolve library _)
  | call s callee args => by
    rw [resolve]
    split
    · have hcallee : (call s callee args).Points callee.span := .head (by simp [heads])
      refine (on_children (on_resolveAll library args) (List.Subset.refl _)).failed ?_
      exact hcallee.reports (by simp [Issue.unknownFunction])
    · rename_i f _
      refine ((on_children (on_resolveInputs library f args 0) (List.Subset.refl _)).map _).after ?_
      exact (Points.self (call s callee args)).reports fun d hd => Function.span_of_mem_checkCall hd
  | binary s op left right => by
    rw [resolve]
    exact (on_child (on_resolve library left) (by simp [children])).zipWith
      (on_child (on_resolve library right) (by simp [children])) _
  | unary s op operand => by
    rw [resolve]
    exact (on_child (on_resolve library operand) (by simp [children])).map _
  | branch s condition body none => by
    rw [resolve]
    have hcondition : (resolve library condition).On (branch s condition body none).Points :=
      on_child (on_resolve library condition) (by simp [children])
    have hbody : (resolveAll library body).On (branch s condition body none).Points :=
      on_children (on_resolveAll library body) (by simp [children])
    exact hcondition.zipWith hbody _
  | branch s condition body (some alternative) => by
    rw [resolve]
    have hcondition : (resolve library condition).On (branch s condition body (some alternative)).Points :=
      on_child (on_resolve library condition) (by simp [children])
    have hbody : (resolveAll library body).On (branch s condition body (some alternative)).Points :=
      on_children (on_resolveAll library body) (by simp [children])
    have halternative : (resolve library alternative).On (branch s condition body (some alternative)).Points :=
      on_child (on_resolve library alternative) (by simp [children])
    exact (hcondition.zipWith hbody _).zipWith halternative _
  | block s body => by
    rw [resolve]
    exact (on_children (on_resolveAll library body) (List.Subset.refl _)).map _
  | delete s target aborts => on_resolveDelete library s target aborts

theorem on_resolveAll (library : Library) : ∀ es : List Expr, (resolveAll library es).On (PointsAll es)
  | [] => by
    rw [resolveAll]
    exact on_pure _
  | e :: rest => by
    rw [resolveAll]
    exact ((on_resolve library e).imp fun _ h => ⟨e, List.mem_cons_self, h⟩).zipWith
      ((on_resolveAll library rest).imp fun _ h => h.of_subset (List.subset_cons_self e rest)) _

theorem on_resolveEntries (library : Library) :
    ∀ es : List (String × Expr), (resolveEntries library es).On (PointsAll (es.map (·.2)))
  | [] => by
    rw [resolveEntries]
    exact on_pure _
  | (k, e) :: rest => by
    rw [resolveEntries]
    exact ((on_resolve library e).imp fun _ h => ⟨e, List.mem_cons_self, h⟩).zipWith
      ((on_resolveEntries library rest).imp fun _ h => h.of_subset (List.subset_cons_self e _)) _

theorem on_resolveInputs (library : Library) (f : Function) :
    ∀ (es : List Expr) (i : Nat), (resolveInputs library f i es).On (PointsAll es)
  | [], i => by
    rw [resolveInputs]
    exact on_pure _
  | e :: rest, i => by
    rw [resolveInputs_cons]
    exact ((on_resolveInput (on_resolve library e)).imp fun _ h => ⟨e, List.mem_cons_self, h⟩).zipWith
      ((on_resolveInputs library f rest (i + 1)).imp fun _ h => h.of_subset (List.subset_cons_self e rest)) _

end

/-- What the statements of a program are made of is text of it. -/
theorem PointsAll.exists_ofText {source : List Char} {ts : List Token} (h : PointsAll es s) (hlines : Lines ts es)
    (hts : Tiling source ts) : ∃ front text back, source = front ++ text ++ back ∧ s = .ofText front text := by
  obtain ⟨e, he, m, hm, hs⟩ := h
  obtain ⟨own, hown, hinner, hplaced⟩ := hlines.exists_placed e he
  have hnested : m.Nested ts := hplaced.nested hown ((hts.inOrder.of_infix hown).ordered hinner) hm
  have hbounded : s.Bounded ts := by
    rcases hs with rfl | hs
    · exact hnested.bounded
    · exact hnested.innerBounded s hs
  obtain ⟨front, text, back, hsource, -, hspan⟩ := hts.exists_ofText hbounded
  exact ⟨front, text, back, hsource, hspan⟩

end Expr

/-! ### Programs -/

/-- A text that does not compile is diagnosed by scanning and reading or, if these have nothing to say, by resolving. -/
theorem issues_of_compile {library : Library} {source : String} {ds : Diagnostics}
    (h : compile library source = .error (.diagnostics ds)) :
    ∃ es syntactic, Expr.parse (tokenize source).1 = .ok (es, syntactic) ∧
      ((tokenize source).2 ++ syntactic ≠ [] ∧ ds = .ofList source ((tokenize source).2 ++ syntactic) ∨
        (tokenize source).2 = [] ∧ syntactic = [] ∧ ds = .ofList source (Expr.resolveAll library es).issues) := by
  unfold compile at h
  dsimp only at h
  split at h
  · cases h
  · rename_i es syntactic hparse
    refine ⟨es, syntactic, hparse, ?_⟩
    split at h
    · rename_i hdirty
      exact .inl ⟨by simpa using hdirty, (Rejection.diagnostics.inj (Except.error.inj h)).symm⟩
    · rename_i hclean
      obtain ⟨hlexical, hsyntactic⟩ : (tokenize source).2 = [] ∧ syntactic = [] := by simpa using hclean
      split at h
      · cases h
      · exact .inr ⟨hlexical, hsyntactic, (Rejection.diagnostics.inj (Except.error.inj h)).symm⟩

/-- Each diagnostic of a text that does not compile is about some of that text. -/
theorem Diagnostic.about_of_compile {library : Library} {source : String} {ds : Diagnostics}
    (h : compile library source = .error (.diagnostics ds)) :
    ds.source = source ∧ ∀ d ∈ ds.items, d.About source.toList := by
  have htiling : Tiling source.toList (tokenize source).1 := Lexer.tiling_run source.toList
  obtain ⟨es, syntactic, hparse, ⟨-, rfl⟩ | ⟨hlexical, rfl, rfl⟩⟩ := issues_of_compile h
  · refine ⟨rfl, fun d hd => ?_⟩
    rcases List.mem_append.1 (List.mem_mergeSort.1 hd) with hd | hd
    · obtain ⟨l, hl, hissue⟩ := List.mem_filterMap.1 hd
      exact (Lexer.told_run none [] source.toList l hl).about hissue
    · have hstart := start_tokenize source
      rw [← Expr.recorded_of_parse hparse] at hd
      obtain ⟨s, hs, hsited⟩ := Expr.sited_of_recorded (hstart.symm ▸ htiling.inOrder) d hd
      rw [hstart] at hsited
      obtain ⟨front, text, back, hsource, rfl⟩ := hsited.exists_ofText htiling
      exact ⟨front, text, back, hsource, hs⟩
  · refine ⟨rfl, fun d hd => ?_⟩
    obtain ⟨s, hs, hpoints⟩ := Expr.on_resolveAll library _ d (List.mem_mergeSort.1 hd)
    obtain ⟨front, text, back, hsource, rfl⟩ := hpoints.exists_ofText (Expr.lines_of_parse hlexical hparse) htiling
    exact ⟨front, text, back, hsource, hs⟩

end Reshape
