/-
What readers build.

What is to hold of expressions is given for each construct: it holds of a construct if it holds of the parts, and
of a suffix or a literal because of the tokens at the cursor.  Then it holds of all that is read, whatever the fuel is
and whether or not anything is reported on the way.  `Building` is what is to hold, and `Building.Closed` that it does
for each construct.

* `Expr.readersBuild` — all readers;
* `Expr.parse_build` — the statements of a list of tokens.
-/
import Reshape.Proofs.Grammar
import Reshape.Proofs.Statements

namespace Reshape

/-- What is to hold of cursors, and of all that is read at them. -/
structure Building where
  cursor : Cursor → Prop
  /-- The path of a token. -/
  path : Path → Prop
  /-- The name of a token. -/
  name : String → Prop
  /-- A path that is read behind an expression. -/
  suffix : Expr → Path → Prop
  expression : Expr → Prop
  statement : Expr → Prop

/-- Whatever is built in one step is as it should be if its parts are. -/
structure Building.Closed (B : Building) : Prop where
  reads {c c' : Cursor} : B.cursor c → Reads c c' → B.cursor c'
  ofPath {c : Cursor} {p : Path} : B.cursor c → c.kind = .path p → B.path p
  ofName {c : Cursor} {name : String} : B.cursor c → c.kind = .ident name → B.name name
  ofSuffix {c c' : Cursor} {e : Expr} {read : Parse Path} {p : Path} :
    B.cursor c → Expr.suffix? e c = some read → read.run c = (some p, c') → B.suffix e p
  literal {c : Cursor} {v : Scalar} {s : Span} :
    B.cursor c → Scalar.ofToken? c.kind = some v → B.expression (.literal s v)
  path {s : Span} {p : Path} : B.path p → B.expression (.path s p)
  array {s : Span} {items : List Expr} : (∀ e ∈ items, B.expression e) → B.expression (.array s items)
  object {s : Span} {entries : List (String × Expr)} :
    (∀ entry ∈ entries, B.expression entry.2) → B.expression (.object s entries)
  access {s : Span} {e : Expr} {p : Path} : B.expression e → B.suffix e p → B.expression (.access s e p)
  call {s : Span} {callee : Callee} {arguments : List Expr} :
    B.name callee.name → callee.name ≠ "del" → (∀ e ∈ arguments, B.expression e) →
      B.expression (.call s callee arguments)
  delete {s s' : Span} {p : Path} {aborts : Bool} : B.expression (.path s p) → B.expression (.delete s' ⟨p, s⟩ aborts)
  binary {s : Span} {op : BinaryOp} {left right : Expr} :
    B.expression left → B.expression right → B.expression (.binary s op left right)
  applyPrefix {op : UnaryOp} {s : Span} {e : Expr} : B.expression e → B.expression (Expr.applyPrefix op s e)
  branch {s : Span} {condition : Expr} {body : List Expr} :
    B.expression condition → (∀ e ∈ body, B.statement e) → B.expression (.branch s condition body none)
  branchElse {s : Span} {condition alternative : Expr} {body : List Expr} :
    B.expression condition → (∀ e ∈ body, B.statement e) → alternative.isAlternative = true →
      B.expression alternative → B.expression (.branch s condition body (some alternative))
  block {s : Span} {body : List Expr} : (∀ e ∈ body, B.statement e) → B.expression (.block s body)
  withSpan {e : Expr} {s : Span} : B.expression e → B.expression (e.withSpan s)
  statement {e : Expr} : B.expression e → B.statement e
  assign {s : Span} {target : Target} {value : Expr} :
    B.path target.path → B.expression value → B.statement (.assign s target value)
  assignPair {s : Span} {ok err : Target} {value : Expr} :
    B.path ok.path → B.path err.path → B.expression value → B.statement (.assignPair s ok err value)

/-- A reader leaves the cursor as it should be, and so is its result. -/
structure Yields {α : Type} (B : Building) (P : α → Prop) (r : Option α × Cursor) : Prop where
  cursor : B.cursor r.2
  result : ∀ a, r.1 = some a → P a

variable {α β : Type} {B : Building} {P : α → Prop} {Q : β → Prop}

namespace Parse

theorem yields_bind {p : Parse α} {f : α → Parse β} {c : Cursor} (hp : Yields B P (p.run c))
    (hf : ∀ a c', P a → B.cursor c' → Yields B Q ((f a).run c')) : Yields B Q ((p >>= f).run c) := by
  rcases h : p.run c with ⟨_ | a, c'⟩
  · rw [run_bind_none h]
    rw [h] at hp
    exact ⟨hp.cursor, fun b hb => by cases hb⟩
  · rw [run_bind_some h]
    rw [h] at hp
    exact hf a c' (hp.result a rfl) hp.cursor

theorem yields_pure {a : α} {c : Cursor} (ha : P a) (hc : B.cursor c) : Yields B P ((pure a : Parse α).run c) :=
  ⟨hc, fun b hb => by
    obtain rfl := Option.some.inj hb
    exact ha⟩

variable (hB : B.Closed)

include hB

theorem yields_none {r : Option α × Cursor} {c : Cursor} (hc : B.cursor c) (hr : Reads c r.2) (hnone : r.1 = none) :
    Yields B P r :=
  ⟨hB.reads hc hr, fun a ha => by
    rw [hnone] at ha
    cases ha⟩

/-- A step whose result does not matter. -/
theorem yields_true {r : Option α × Cursor} {c : Cursor} (hc : B.cursor c) (hr : Reads c r.2) :
    Yields B (fun _ => True) r :=
  ⟨hB.reads hc hr, fun _ _ => trivial⟩

theorem yields_token {c : Cursor} (hc : B.cursor c) : Yields B (fun _ => True) (token.run c) :=
  yields_true hB hc (token_reads c)

theorem yields_skipNewlines {c : Cursor} (hc : B.cursor c) : Yields B (fun _ => True) (skipNewlines.run c) :=
  yields_true hB hc (skipNewlines_reads c)

theorem yields_expect {c : Cursor} (hc : B.cursor c) (kind : TokenKind) (expected : String) :
    Yields B (fun _ => True) ((expect kind expected).run c) :=
  yields_true hB hc (expect_reads c kind expected)

theorem yields_accept {c : Cursor} (hc : B.cursor c) (kind : TokenKind) :
    Yields B (fun _ => True) ((accept kind).run c) :=
  yields_true hB hc (accept_reads c kind)

theorem yields_unexpected {c : Cursor} (hc : B.cursor c) (expected : String) :
    Yields B P ((unexpected expected : Parse α).run c) :=
  yields_none hB hc (unexpected_reads c expected) rfl

theorem yields_report {c : Cursor} (hc : B.cursor c) (code : Code) (message : String) (span : Span) (label : String) :
    Yields B P ((report code message span label : Parse α).run c) :=
  yields_none hB hc (report_reads c code message span label) rfl

end Parse

namespace Expr

open Parse

/-! ### Readers -/

/-- A path that is read behind an expression touches it, and is one token or an index in brackets. -/
theorem exists_of_suffix? {e : Expr} {c c' : Cursor} {read : Parse Path} {p : Path} (h : suffix? e c = some read)
    (hrun : read.run c = (some p, c')) :
    c.current.span.start = e.span.stop ∧
      (c.kind = .path p ∧ p ≠ [] ∨ c.kind = .lBracket ∧ ∃ i, indexSuffix.run c = (some i, c') ∧ p = [.index i]) := by
  unfold suffix? at h
  split at h
  · rename_i htouches
    refine ⟨htouches, ?_⟩
    split at h
    · cases h
    · rename_i p' hne hkind
      obtain rfl := Option.some.inj h
      obtain rfl : p' = p := Option.some.inj (congrArg Prod.fst hrun)
      exact .inl ⟨hkind, hne⟩
    · rename_i hkind
      obtain rfl := Option.some.inj h
      rcases hindex : indexSuffix.run c with ⟨_ | i, c₁⟩
      · rw [run_bind_none hindex] at hrun
        cases congrArg Prod.fst hrun
      · rw [run_bind_some hindex, run_pure] at hrun
        obtain ⟨rfl, rfl⟩ : [Segment.index i] = p ∧ c₁ = c' := by simpa using hrun
        exact .inr ⟨hkind, i, rfl, rfl⟩
    · cases h
  · cases h

variable (hB : B.Closed)

section

include hB

theorem yields_suffix? {e : Expr} {c : Cursor} {read : Parse Path} (hc : B.cursor c) (h : suffix? e c = some read) :
    Yields B (B.suffix e) (read.run c) :=
  ⟨hB.reads hc (suffix?_eats h).toReads, fun _ hp => hB.ofSuffix hc h (Prod.ext hp rfl)⟩

theorem yields_suffixes (fuel : Nat) {e : Expr} {c : Cursor} (he : B.expression e) (hc : B.cursor c) :
    Yields B B.expression ((suffixes fuel e).run c) := by
  induction fuel generalizing e c with
  | zero => exact yields_pure he hc
  | succ fuel ih =>
    unfold suffixes
    rw [run_cursor_bind]
    split
    · exact yields_pure he hc
    · rename_i read hread
      refine yields_bind (yields_suffix? hB hc hread) fun p c₁ hp hc₁ => ?_
      rw [run_cursor_bind]
      exact ih (hB.access he hp) hc₁

theorem yields_target {c : Cursor} (hc : B.cursor c) : Yields B (B.path ·.path) (target.run c) := by
  unfold target
  rw [run_cursor_bind]
  split
  · rename_i p hkind
    exact yields_bind (yields_token hB hc) fun _ c₁ _ hc₁ => yields_pure (hB.ofPath hc hkind) hc₁
  · exact yields_unexpected hB hc _

theorem yields_follow {α : Type} {P : α → Prop} (close : TokenKind) (expected : String) {item : α}
    {more : Parse (List α)} {c : Cursor} (hitem : P item) (hc : B.cursor c)
    (hmore : ∀ c : Cursor, B.cursor c → Yields B (∀ a ∈ ·, P a) (more.run c)) :
    Yields B (∀ a ∈ ·, P a) ((follow close expected item more).run c) := by
  unfold follow
  refine yields_bind (yields_skipNewlines hB hc) fun _ c₁ _ hc₁ => ?_
  refine yields_bind (yields_accept hB hc₁ _) fun comma c₂ _ hc₂ => ?_
  split
  · exact yields_bind (hmore c₂ hc₂) fun rest c₃ hrest hc₃ =>
      yields_pure (List.forall_mem_cons.2 ⟨hitem, hrest⟩) hc₃
  · rw [run_cursor_bind]
    split
    · exact yields_pure (List.forall_mem_singleton.2 hitem) hc₂
    · exact yields_unexpected hB hc₂ _

end

/-- What all readers build with so much fuel. -/
structure ReadersBuild (B : Building) (fuel : Nat) : Prop where
  expression : ∀ level {c}, B.cursor c → Yields B B.expression ((expression fuel level).run c)
  operators : ∀ level {e c}, B.expression e → B.cursor c → Yields B B.expression ((operators fuel level e).run c)
  prefixed : ∀ {c}, B.cursor c → Yields B B.expression ((prefixed fuel).run c)
  primary : ∀ {c}, B.cursor c → Yields B B.expression ((primary fuel).run c)
  list : ∀ close expected {c}, B.cursor c → Yields B (∀ e ∈ ·, B.expression e) ((list fuel close expected).run c)
  entries : ∀ {c}, B.cursor c → Yields B (∀ entry ∈ ·, B.expression entry.2) ((entries fuel).run c)
  braces : ∀ {c}, B.cursor c → Yields B (∀ e ∈ ·.1, B.statement e) ((braces fuel).run c)
  branching : ∀ {c}, B.cursor c → Yields B (fun e => B.expression e ∧ e.isAlternative = true) ((branching fuel).run c)
  called : ∀ {name c}, B.name name → B.cursor c → Yields B B.expression ((called fuel name).run c)
  statement : ∀ {c}, B.cursor c → Yields B B.statement ((statement fuel).run c)
  statements : ∀ inBlock {c}, B.cursor c → Yields B (∀ e ∈ ·, B.statement e) ((statements fuel inBlock).run c)

section Build

variable {fuel : Nat} (h : ReadersBuild B fuel) {c : Cursor}

include hB h

omit hB in
theorem yields_expression (level : Nat) (hc : B.cursor c) :
    Yields B B.expression ((expression (fuel + 1) level).run c) := by
  rw [expression]
  exact yields_bind (h.prefixed hc) fun e c₁ he hc₁ => h.operators level he hc₁

theorem yields_operators (level : Nat) {e : Expr} (he : B.expression e) (hc : B.cursor c) :
    Yields B B.expression ((operators (fuel + 1) level e).run c) := by
  rw [operators, run_cursor_bind]
  split
  · exact yields_pure he hc
  · split
    · exact yields_pure he hc
    · refine yields_bind (yields_token hB hc) fun _ c₁ _ hc₁ => ?_
      refine yields_bind (yields_skipNewlines hB hc₁) fun _ c₂ _ hc₂ => ?_
      refine yields_bind (h.expression _ hc₂) fun right c₃ hright hc₃ => ?_
      exact h.operators _ (hB.binary he hright) hc₃

theorem yields_prefixed (hc : B.cursor c) : Yields B B.expression ((prefixed (fuel + 1)).run c) := by
  rw [prefixed, run_cursor_bind]
  split
  · refine yields_bind (yields_token hB hc) fun start c₁ _ hc₁ => ?_
    exact yields_bind (h.expression _ hc₁) fun operand c₂ hoperand hc₂ => yields_pure (hB.applyPrefix hoperand) hc₂
  · refine yields_bind (h.primary hc) fun e c₁ he hc₁ => ?_
    split
    · exact yields_pure he hc₁
    · exact yields_suffixes hB fuel he hc₁

theorem yields_primary (hc : B.cursor c) : Yields B B.expression ((primary (fuel + 1)).run c) := by
  rw [primary, run_cursor_bind]
  split
  · rename_i value hvalue
    exact yields_bind (yields_token hB hc) fun t c₁ _ hc₁ => yields_pure (hB.literal hc hvalue) hc₁
  · split
    · rename_i p hkind
      exact yields_bind (yields_token hB hc) fun t c₁ _ hc₁ => yields_pure (hB.path (hB.ofPath hc hkind)) hc₁
    · refine yields_bind (yields_token hB hc) fun start c₁ _ hc₁ => ?_
      refine yields_bind (h.list _ _ hc₁) fun items c₂ hitems hc₂ => ?_
      exact yields_bind (yields_token hB hc₂) fun _ c₃ _ hc₃ => yields_pure (hB.array hitems) hc₃
    · split
      · refine yields_bind (yields_token hB hc) fun start c₁ _ hc₁ => ?_
        refine yields_bind (h.entries hc₁) fun fields c₂ hfields hc₂ => ?_
        exact yields_bind (yields_token hB hc₂) fun _ c₃ _ hc₃ => yields_pure (hB.object hfields) hc₃
      · refine yields_bind (h.braces hc) fun r c₁ hbody hc₁ => ?_
        exact yields_pure (hB.block hbody) hc₁
    · refine yields_bind (yields_token hB hc) fun start c₁ _ hc₁ => ?_
      refine yields_bind (yields_skipNewlines hB hc₁) fun _ c₂ _ hc₂ => ?_
      refine yields_bind (h.expression _ hc₂) fun e c₃ he hc₃ => ?_
      refine yields_bind (yields_skipNewlines hB hc₃) fun _ c₄ _ hc₄ => ?_
      exact yields_bind (yields_expect hB hc₄ _ _) fun stop c₅ _ hc₅ => yields_pure (hB.withSpan he) hc₅
    · exact ⟨(h.branching hc).cursor, fun e he => ((h.branching hc).result e he).1⟩
    · rename_i name hkind
      exact h.called (hB.ofName hc hkind) hc
    · exact yields_unexpected hB hc _

theorem yields_list (close : TokenKind) (expected : String) (hc : B.cursor c) :
    Yields B (∀ e ∈ ·, B.expression e) ((list (fuel + 1) close expected).run c) := by
  rw [list_succ]
  refine yields_bind (yields_skipNewlines hB hc) fun _ c₁ _ hc₁ => ?_
  rw [run_cursor_bind]
  split
  · exact yields_pure (by simp) hc₁
  · refine yields_bind (h.expression _ hc₁) fun e c₂ he hc₂ => ?_
    exact yields_follow hB _ _ he hc₂ fun c₃ hc₃ => h.list close expected hc₃

theorem yields_entries (hc : B.cursor c) :
    Yields B (∀ entry ∈ ·, B.expression entry.2) ((entries (fuel + 1)).run c) := by
  rw [entries_succ]
  refine yields_bind (yields_skipNewlines hB hc) fun _ c₁ _ hc₁ => ?_
  rw [run_cursor_bind]
  split
  · exact yields_pure (by simp) hc₁
  · rename_i key _
    rw [entry]
    refine yields_bind (yields_token hB hc₁) fun _ c₂ _ hc₂ => ?_
    refine yields_bind (yields_expect hB hc₂ _ _) fun _ c₃ _ hc₃ => ?_
    refine yields_bind (yields_skipNewlines hB hc₃) fun _ c₄ _ hc₄ => ?_
    refine yields_bind (h.expression _ hc₄) fun e c₅ he hc₅ => ?_
    have hentry : (fun entry : String × Expr => B.expression entry.2) (key, e) := he
    exact yields_follow hB _ _ hentry hc₅ fun c₆ hc₆ => h.entries hc₆
  · exact yields_unexpected hB hc₁ _

theorem yields_braces (hc : B.cursor c) : Yields B (∀ e ∈ ·.1, B.statement e) ((braces (fuel + 1)).run c) := by
  rw [braces]
  refine yields_bind (yields_expect hB hc _ _) fun start c₁ _ hc₁ => ?_
  refine yields_bind (h.statements true hc₁) fun body c₂ hbody hc₂ => ?_
  rw [run_cursor_bind]
  split
  · exact yields_bind (yields_token hB hc₂) fun _ c₃ _ hc₃ => yields_pure hbody hc₃
  · exact yields_report hB hc₂ _ _ _ _

theorem yields_alternative (hc : B.cursor c) :
    Yields B (fun e => B.expression e ∧ e.isAlternative = true) ((alternative fuel).run c) := by
  rw [alternative, run_cursor_bind]
  split
  · exact h.branching hc
  · refine yields_bind (h.braces hc) fun r c₁ hbody hc₁ => ?_
    exact yields_pure ⟨hB.block hbody, rfl⟩ hc₁

theorem yields_branching (hc : B.cursor c) :
    Yields B (fun e => B.expression e ∧ e.isAlternative = true) ((branching (fuel + 1)).run c) := by
  rw [branching_succ]
  refine yields_bind (yields_token hB hc) fun start c₁ _ hc₁ => ?_
  refine yields_bind (h.expression _ hc₁) fun condition c₂ hcondition hc₂ => ?_
  refine yields_bind (h.braces hc₂) fun r c₃ hbody hc₃ => ?_
  obtain ⟨body, bodySpan⟩ := r
  dsimp only
  -- an alternative may stand behind line breaks, which are passed only if there is one
  rw [run_onElse]
  split
  · have hc₄ := hB.reads hc₃ (c₃.skipNewlines_reads.trans c₃.skipNewlines.advance_reads)
    exact yields_bind (yields_alternative hB h hc₄) fun a c₅ ha hc₅ =>
      yields_pure ⟨hB.branchElse hcondition hbody ha.2 ha.1, rfl⟩ hc₅
  · exact yields_pure ⟨hB.branch hcondition hbody, rfl⟩ hc₃

omit h in
theorem yields_callOf {name : String} {start stop : Token} {aborts : Bool} {arguments : List Expr}
    (hname : B.name name) (harguments : ∀ e ∈ arguments, B.expression e) (hc : B.cursor c) :
    Yields B B.expression ((callOf name start aborts arguments stop).run c) := by
  unfold callOf
  dsimp only
  split
  · split
    · rename_i s p
      exact yields_pure (hB.delete (harguments (path s p) List.mem_cons_self)) hc
    · exact yields_report hB hc _ _ _ _
    · exact yields_report hB hc _ _ _ _
  · rename_i hdel
    exact yields_pure (hB.call hname hdel harguments) hc

theorem yields_called {name : String} (hname : B.name name) (hc : B.cursor c) :
    Yields B B.expression ((called (fuel + 1) name).run c) := by
  rw [called_succ]
  refine yields_bind (yields_token hB hc) fun start c₁ _ hc₁ => ?_
  refine yields_bind (yields_accept hB hc₁ _) fun aborts c₂ _ hc₂ => ?_
  rw [run_cursor_bind]
  split
  · refine yields_bind (yields_token hB hc₂) fun _ c₃ _ hc₃ => ?_
    refine yields_bind (h.list _ _ hc₃) fun arguments c₄ harguments hc₄ => ?_
    exact yields_bind (yields_token hB hc₄) fun stop c₅ _ hc₅ => yields_callOf hB hname harguments hc₅
  · exact yields_report hB hc₂ _ _ _ _

theorem yields_statement (hc : B.cursor c) : Yields B B.statement ((statement (fuel + 1)).run c) := by
  rw [statement, run_cursor_bind]
  split
  · refine yields_bind (yields_target hB hc) fun place c₁ hplace hc₁ => ?_
    refine yields_bind (yields_expect hB hc₁ _ _) fun _ c₂ _ hc₂ => ?_
    refine yields_bind (yields_skipNewlines hB hc₂) fun _ c₃ _ hc₃ => ?_
    refine yields_bind (h.expression 0 hc₃) fun value c₄ hvalue hc₄ => ?_
    exact yields_pure (hB.assign hplace hvalue) hc₄
  · refine yields_bind (yields_target hB hc) fun ok c₁ hok hc₁ => ?_
    refine yields_bind (yields_expect hB hc₁ _ _) fun _ c₂ _ hc₂ => ?_
    refine yields_bind (yields_target hB hc₂) fun err c₃ herr hc₃ => ?_
    refine yields_bind (yields_expect hB hc₃ _ _) fun _ c₄ _ hc₄ => ?_
    refine yields_bind (yields_skipNewlines hB hc₄) fun _ c₅ _ hc₅ => ?_
    refine yields_bind (h.expression 0 hc₅) fun value c₆ hvalue hc₆ => ?_
    exact yields_pure (hB.assignPair hok herr hvalue) hc₆
  · exact ⟨(h.expression 0 hc).cursor, fun e he => hB.statement ((h.expression 0 hc).result e he)⟩

/-- Statements that are abandoned are left out, so that all that are found are as they should be. -/
theorem yields_statements (inBlock : Bool) (hc : B.cursor c) :
    Yields B (∀ e ∈ ·, B.statement e) ((statements (fuel + 1) inBlock).run c) := by
  rw [run, statements]
  dsimp only
  have hc₀ := hB.reads hc c.skipSeparators_reads
  generalize c.skipSeparators = c₀ at hc₀
  split
  · exact ⟨hc₀, fun es hes => by
      obtain rfl := Option.some.inj hes
      simp⟩
  · split
    · exact h.statements inBlock (hB.reads hc₀ ((c₀.record_reads _).trans (Cursor.advance_reads _)))
    · have hstatement := h.statement hc₀
      rw [run] at hstatement
      split
      · -- an abandoned statement leaves none behind, only tokens
        rename_i c₁ heq
        rw [heq] at hstatement
        split
        · exact ⟨hstatement.cursor, fun es hes => by cases hes⟩
        · exact h.statements inBlock (hB.reads hstatement.cursor (c₁.synchronize_reads inBlock))
      · rename_i e c₁ heq
        rw [heq] at hstatement
        have he : B.statement e := hstatement.result e rfl
        generalize hc₂ : (if c₁.kind.isTerminator || (inBlock && decide (c₁.kind = .rBrace)) then c₁
          else (complain "end of statement" c₁).synchronize inBlock) = c₂
        have hsound : B.cursor c₂ := by
          subst hc₂
          split
          · exact hstatement.cursor
          · exact hB.reads hstatement.cursor ((complain_reads c₁ _).trans (Cursor.synchronize_reads _ _))
        have hrest := h.statements inBlock hsound
        rw [run] at hrest
        split
        · rename_i rest c₃ heq'
          rw [heq'] at hrest
          refine ⟨hrest.cursor, fun es hes => ?_⟩
          obtain rfl := Option.some.inj hes
          exact List.forall_mem_cons.2 ⟨he, hrest.result rest rfl⟩
        · rename_i c₃ heq'
          rw [heq'] at hrest
          exact ⟨hrest.cursor, fun es hes => by cases hes⟩

end Build

include hB in
/-- What all readers build, whatever their fuel. -/
theorem readersBuild (fuel : Nat) : ReadersBuild B fuel := by
  induction fuel with
  | zero =>
    exact
      { expression := fun _ _ hc => yields_none hB hc (Reads.refl _) rfl
        operators := fun _ _ _ he hc => yields_pure he hc
        prefixed := fun hc => yields_none hB hc (Reads.refl _) rfl
        primary := fun hc => yields_none hB hc (Reads.refl _) rfl
        list := fun _ _ _ hc => yields_none hB hc (Reads.refl _) rfl
        entries := fun hc => yields_none hB hc (Reads.refl _) rfl
        braces := fun hc => yields_none hB hc (Reads.refl _) rfl
        branching := fun hc => yields_none hB hc (Reads.refl _) rfl
        called := fun _ hc => yields_none hB hc (Reads.refl _) rfl
        statement := fun hc => yields_none hB hc (Reads.refl _) rfl
        statements := fun _ _ hc => yields_pure (by simp) hc }
  | succ fuel ih =>
    exact
      { expression := fun level _ => yields_expression ih level
        operators := fun level _ _ => yields_operators hB ih level
        prefixed := yields_prefixed hB ih
        primary := yields_primary hB ih
        list := fun close expected _ => yields_list hB ih close expected
        entries := yields_entries hB ih
        braces := yields_braces hB ih
        branching := yields_branching hB ih
        called := yields_called hB ih
        statement := yields_statement hB ih
        statements := fun inBlock _ => yields_statements hB ih inBlock }

include hB in
/-- The statements of a list of tokens are as they should be. -/
theorem parse_build {ts : List Token} {es : List Expr} {ds : List Diagnostic} (h : B.cursor (Cursor.start ts))
    (hparse : parse ts = .ok (es, ds)) : ∀ e ∈ es, B.statement e := by
  obtain ⟨c', hrun, -, -⟩ := parse_eq_ok.1 hparse
  have hbuild := ((readersBuild hB (fuelFor (Cursor.start ts).tokens.length)).statements false h).result
  rw [hrun] at hbuild
  exact hbuild es rfl

end Expr

end Reshape
