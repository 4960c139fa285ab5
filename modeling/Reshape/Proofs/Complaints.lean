/-
What readers complain about.

A diagnostic of the parser is about a token that is not invalid, or about a run of tokens that starts with such a
one: an invalid token has been reported before, and starts no expression.

* `Sited` — the regions that a diagnostic may have;
* `Cursor.Fair` — a cursor whose diagnostics have such regions;
* `Expr.readersFair` — all readers keep cursors so, whatever their fuel;
* `Expr.sited_of_recorded` — the diagnostics of a list of tokens.
-/
import Reshape.Proofs.Following
import Reshape.Proofs.Taking
import Reshape.Proofs.Turns

namespace Reshape

/-- The region of a token that is not invalid, or of a run of tokens that starts with such a one. -/
inductive Sited (ts : List Token) : Span → Prop
  | token {t} : t ∈ ts → t.kind ≠ .invalid → Sited ts t.span
  | run {own s} : own <:+: ts → (∀ t ∈ own, t.kind ≠ .eof) → Spans own s → (∀ t ∈ own.head?, t.kind ≠ .invalid) →
      Sited ts s

/-- The diagnostics recorded over a list of tokens are about its tokens. -/
structure Cursor.Fair (ts : List Token) (c : Cursor) : Prop where
  within : c.Over ts
  sited : ∀ d ∈ c.diagnostics, ∃ s, d.span = some s ∧ Sited ts s

variable {α β : Type} {ts : List Token} {c c' : Cursor}

namespace Cursor

theorem Over.suffix (h : c.Over ts) : c.tokens <:+ ts := by
  obtain ⟨front, hts, -⟩ := h.behind
  exact ⟨front, hts.symm⟩

theorem Over.current_mem (h : c.Over ts) : c.current ∈ ts := by
  have hpos := h.length_pos
  refine h.suffix.subset ?_
  rw [current]
  cases htokens : c.tokens with
  | nil => simp [htokens] at hpos
  | cons t rest => exact List.mem_cons_self

namespace Fair

theorem of_reads (h : c.Fair ts) (hr : Reads c c') (hd : c'.diagnostics = c.diagnostics) : c'.Fair ts :=
  ⟨h.within.of_reads hr, hd ▸ h.sited⟩

theorem record (h : c.Fair ts) {d : Diagnostic} {s : Span} (hd : d.span = some s) (hs : Sited ts s) :
    (c.record d).Fair ts where
  within := h.within.of_reads (c.record_reads d)
  sited := by
    rw [diagnostics_record]
    exact List.forall_mem_append.2 ⟨h.sited, List.forall_mem_singleton.2 ⟨s, hd, hs⟩⟩

theorem advance (h : c.Fair ts) : c.advance.Fair ts := by
  refine h.of_reads c.advance_reads ?_
  unfold Cursor.advance
  split
  · rfl
  · split
    · rfl
    · rfl

theorem skipWhile (h : c.Fair ts) (p : TokenKind → Bool) : (c.skipWhile p).Fair ts :=
  h.of_reads (c.skipWhile_reads p) rfl

theorem synchronize (h : c.Fair ts) (inBlock : Bool) : (c.synchronize inBlock).Fair ts :=
  h.of_reads (c.synchronize_reads inBlock) rfl

theorem complain (h : c.Fair ts) (expected : String) : (Parse.complain expected c).Fair ts := by
  unfold Parse.complain
  dsimp only
  split
  · exact h
  · rename_i hkind
    exact h.record rfl (.token h.within.current_mem hkind)

end Fair

end Cursor

namespace Parse

/-! ### Steps -/

theorem fair_bind {p : Parse α} {f : α → Parse β} (hp : (p.run c).2.Fair ts)
    (hf : ∀ a c', p.run c = (some a, c') → c'.Fair ts → ((f a).run c').2.Fair ts) : ((p >>= f).run c).2.Fair ts := by
  rcases h : p.run c with ⟨_ | a, c'⟩
  · rw [run_bind_none h]
    rwa [h] at hp
  · rw [run_bind_some h]
    rw [h] at hp
    exact hf a c' h hp

theorem fair_token (h : c.Fair ts) : (token.run c).2.Fair ts :=
  h.advance

theorem fair_skipNewlines (h : c.Fair ts) : (skipNewlines.run c).2.Fair ts :=
  h.skipWhile (· == .newline)

theorem fair_unexpected (h : c.Fair ts) (expected : String) : ((unexpected expected : Parse α).run c).2.Fair ts :=
  h.complain expected

theorem fair_report (h : c.Fair ts) {s : Span} (hs : Sited ts s) (code : Code) (message label : String) :
    ((report code message s label : Parse α).run c).2.Fair ts :=
  h.record rfl hs

theorem fair_expect (h : c.Fair ts) (kind : TokenKind) (expected : String) :
    ((expect kind expected).run c).2.Fair ts := by
  rw [run_expect]
  split
  · exact h.advance
  · exact h.complain expected

theorem fair_accept (h : c.Fair ts) (kind : TokenKind) : ((accept kind).run c).2.Fair ts := by
  rw [run_accept]
  split
  · exact h.advance
  · exact h

end Parse

namespace Expr

open Parse

/-! ### Where expressions start -/

theorem primary_invalid (fuel : Nat) (h : c.kind = .invalid) : ((primary fuel).run c).1 = none := by
  cases fuel with
  | zero => rfl
  | succ fuel =>
    rw [primary, run_cursor_bind, h]
    rfl

theorem prefixed_invalid (fuel : Nat) (h : c.kind = .invalid) : ((prefixed fuel).run c).1 = none := by
  cases fuel with
  | zero => rfl
  | succ fuel =>
    rw [prefixed, run_cursor_bind, h]
    exact bind_none (primary_invalid fuel h)

theorem expression_invalid (fuel level : Nat) (h : c.kind = .invalid) : ((expression fuel level).run c).1 = none := by
  cases fuel with
  | zero => rfl
  | succ fuel =>
    rw [expression]
    exact bind_none (prefixed_invalid fuel h)

/-- An expression is read from a run of tokens that starts with a valid one. -/
def StartsIn (front : List Token) (e : Expr) : Prop :=
  ∃ own, own <:+: front ∧ Spans own e.span ∧ ∀ t ∈ own.head?, t.kind ≠ .invalid

theorem StartsIn.widen {front front' : List Token} {e : Expr} (h : StartsIn front e) (hfront : front <:+: front') :
    StartsIn front' e := by
  obtain ⟨own, hown, hspan, hhead⟩ := h
  exact ⟨own, hown.trans hfront, hspan, hhead⟩

theorem takes_startsIn (fuel level : Nat) (hc : c.InOrder) :
    Takes (fun front e _ => StartsIn front e) c ((expression fuel level).run c) := by
  intro e he
  obtain ⟨own, hmoves, hplaced⟩ := (readersTake fuel).expression level hc e he
  refine ⟨own, hmoves, own, List.infix_refl own, hplaced.region, fun t ht hkind => ?_⟩
  have hcurrent : c.kind = .invalid := by
    obtain ⟨rest, rfl⟩ := List.head?_eq_some_iff.1 ht
    rw [c.kind_cons hmoves.tokens, hkind]
  rw [expression_invalid fuel level hcurrent] at he
  cases he

/-- The items of a list are read from tokens of it. -/
theorem takes_items (fuel : Nat) (close : TokenKind) (expected : String) (hc : c.InOrder) :
    Takes (fun front items _ => ∀ e ∈ items, StartsIn front e) c ((list fuel close expected).run c) := by
  induction fuel generalizing c with
  | zero => exact .of_none rfl
  | succ fuel ih =>
    rw [list_succ]
    refine takes_bind (takes_skipNewlines c) fun newlines _ c₁ h₁ _ => ?_
    have hc₁ := h₁.inOrder hc
    rw [run_cursor_bind]
    split
    · exact takes_pure (by simp)
    · refine takes_bind (takes_startsIn fuel 0 hc₁) fun own e c₂ h₂ he => ?_
      unfold follow
      refine takes_bind (takes_skipNewlines c₂) fun newlines' _ c₃ h₃ _ => ?_
      refine takes_bind (takes_accept (by simp)) fun sign comma c₄ h₄ _ => ?_
      have hown {more : List Token} : own <:+: newlines ++ (own ++ more) :=
        ⟨newlines, more, by rw [List.append_assoc]⟩
      split
      · refine takes_map (ih ((h₂.trans (h₃.trans h₄)).inOrder hc₁)) fun front items c₅ h₅ hitems => ?_
        refine List.forall_mem_cons.2 ⟨he.widen hown, fun e' he' => (hitems e' he').widen ?_⟩
        exact (List.suffix_append (newlines ++ own ++ newlines' ++ sign) front).isInfix.trans
          (by simp only [List.append_assoc]; exact List.infix_refl _)
      · rw [run_cursor_bind]
        split
        · exact takes_pure (List.forall_mem_singleton.2 (he.widen hown))
        · exact .of_none rfl

/-! ### Readers -/

theorem fair_signed (negative : Bool) (i : Int64) (hc : c.Fair ts) : ((signed negative i).run c).2.Fair ts := by
  rw [run_signed]
  split
  · exact hc.of_reads (c.note_reads _) c.diagnostics_note
  · exact hc

theorem fair_indexSuffix (hc : c.Fair ts) : (indexSuffix.run c).2.Fair ts := by
  rw [indexSuffix_eq]
  refine fair_bind (fair_expect hc _ _) fun _ c₁ _ hc₁ => ?_
  refine fair_bind (fair_accept hc₁ _) fun negative c₂ _ hc₂ => ?_
  rw [run_cursor_bind]
  split
  · refine fair_bind (fair_token hc₂) fun _ c₃ _ hc₃ => ?_
    exact fair_bind (fair_expect hc₃ _ _) fun _ c₄ _ hc₄ => fair_signed negative _ hc₄
  · exact fair_unexpected hc₂ _

theorem fair_suffix? {e : Expr} {read : Parse Path} (hc : c.Fair ts) (h : suffix? e c = some read) :
    (read.run c).2.Fair ts := by
  unfold suffix? at h
  split at h
  · split at h
    · cases h
    · obtain rfl := Option.some.inj h
      exact fair_bind (fair_token hc) fun _ c₁ _ hc₁ => hc₁
    · obtain rfl := Option.some.inj h
      exact fair_bind (fair_indexSuffix hc) fun _ c₁ _ hc₁ => hc₁
    · cases h
  · cases h

theorem fair_suffixes (fuel : Nat) (e : Expr) (hc : c.Fair ts) : ((suffixes fuel e).run c).2.Fair ts := by
  induction fuel generalizing e c with
  | zero => exact hc
  | succ fuel ih =>
    unfold suffixes
    rw [run_cursor_bind]
    split
    · exact hc
    · rename_i read hread
      refine fair_bind (fair_suffix? hc hread) fun _ c₁ _ hc₁ => ?_
      rw [run_cursor_bind]
      exact ih _ hc₁

theorem fair_target (hc : c.Fair ts) : (target.run c).2.Fair ts := by
  unfold target
  rw [run_cursor_bind]
  split
  · exact fair_bind (fair_token hc) fun _ c₁ _ hc₁ => hc₁
  · exact fair_unexpected hc _

theorem fair_follow (close : TokenKind) (expected : String) (item : α) {more : Parse (List α)}
    (hmore : ∀ c : Cursor, c.Fair ts → (more.run c).2.Fair ts) (hc : c.Fair ts) :
    ((follow close expected item more).run c).2.Fair ts := by
  unfold follow
  refine fair_bind (fair_skipNewlines hc) fun _ c₁ _ hc₁ => ?_
  refine fair_bind (fair_accept hc₁ _) fun comma c₂ _ hc₂ => ?_
  split
  · exact fair_bind (hmore c₂ hc₂) fun _ c₃ _ hc₃ => hc₃
  · rw [run_cursor_bind]
    split
    · exact hc₂
    · exact fair_unexpected hc₂ _

/-- From the name of a call to its closing parenthesis. -/
theorem sited_call {start : Token} {c₁ c₄ : Cursor} (hts : InOrder ts) (hc : c.Over ts) (hkind : c.kind ≠ .eof)
    (hvalid : c.kind ≠ .invalid) (h₁ : token.run c = (some start, c₁)) (hreads : Reads c₁ c₄)
    (hclose : c₄.kind ≠ .eof) : Sited ts (start.span.join c₄.current.span) := by
  obtain ⟨rfl, rfl⟩ : c.current = start ∧ c.advance = c₁ := by simpa [run_token] using h₁
  obtain ⟨front, h₂⟩ := hreads.moves
  have hmoves := (Cursor.advance_moves hkind).trans (h₂.trans (Cursor.advance_moves hclose))
  have horder : c.InOrder := hts.of_infix hc.suffix.isInfix
  have hspans := (Spans.token c.current).join (.token c₄.current) (List.suffix_append front [c₄.current])
    (hmoves.ordered horder)
  refine .run ?_ hmoves.inner hspans ?_
  · have hprefix : [c.current] ++ (front ++ [c₄.current]) <+: c.tokens := ⟨_, hmoves.tokens.symm⟩
    exact hprefix.isInfix.trans hc.suffix.isInfix
  · intro t ht
    obtain rfl : c.current = t := by simpa using ht
    rwa [c.kind_current]

theorem fair_callOf {name : String} {start stop : Token} {aborts : Bool} {arguments : List Expr} (hc : c.Fair ts)
    (hspan : Sited ts (start.span.join stop.span)) (harguments : ∀ e ∈ arguments, Sited ts e.span) :
    ((callOf name start aborts arguments stop).run c).2.Fair ts := by
  unfold callOf
  dsimp only
  split
  · split
    · exact hc
    · exact fair_report hc (harguments _ List.mem_cons_self) _ _ _
    · exact fair_report hc hspan _ _ _
  · exact hc

/-- All readers with so much fuel record diagnostics about tokens. -/
structure ReadersFair (ts : List Token) (fuel : Nat) : Prop where
  expression : ∀ level {c}, c.Fair ts → ((expression fuel level).run c).2.Fair ts
  operators : ∀ level e {c}, c.Fair ts → ((operators fuel level e).run c).2.Fair ts
  prefixed : ∀ {c}, c.Fair ts → ((prefixed fuel).run c).2.Fair ts
  primary : ∀ {c}, c.Fair ts → ((primary fuel).run c).2.Fair ts
  list : ∀ close expected {c}, c.Fair ts → ((list fuel close expected).run c).2.Fair ts
  entries : ∀ {c}, c.Fair ts → ((entries fuel).run c).2.Fair ts
  braces : ∀ {c}, c.Fair ts → ((braces fuel).run c).2.Fair ts
  branching : ∀ {c}, c.Fair ts → ((branching fuel).run c).2.Fair ts
  called : ∀ {name c}, c.kind = .ident name → c.Fair ts → ((called fuel name).run c).2.Fair ts
  statement : ∀ {c}, c.Fair ts → ((statement fuel).run c).2.Fair ts
  statements : ∀ inBlock {c}, c.Fair ts → ((statements fuel inBlock).run c).2.Fair ts

section Fair

variable {fuel : Nat} (h : ReadersFair ts fuel) (hc : c.Fair ts)

include h hc

theorem fair_expression (level : Nat) : ((expression (fuel + 1) level).run c).2.Fair ts := by
  rw [expression]
  exact fair_bind (h.prefixed hc) fun e c₁ _ hc₁ => h.operators level e hc₁

theorem fair_operators (level : Nat) (e : Expr) : ((operators (fuel + 1) level e).run c).2.Fair ts := by
  rw [operators, run_cursor_bind]
  split
  · exact hc
  · split
    · exact hc
    · refine fair_bind (fair_token hc) fun _ c₁ _ hc₁ => ?_
      refine fair_bind (fair_skipNewlines hc₁) fun _ c₂ _ hc₂ => ?_
      exact fair_bind (h.expression _ hc₂) fun right c₃ _ hc₃ => h.operators _ _ hc₃

theorem fair_prefixed : ((prefixed (fuel + 1)).run c).2.Fair ts := by
  rw [prefixed, run_cursor_bind]
  split
  · refine fair_bind (fair_token hc) fun start c₁ _ hc₁ => ?_
    exact fair_bind (h.expression _ hc₁) fun operand c₂ _ hc₂ => hc₂
  · refine fair_bind (h.primary hc) fun e c₁ _ hc₁ => ?_
    split
    · exact hc₁
    · exact fair_suffixes fuel e hc₁

theorem fair_primary : ((primary (fuel + 1)).run c).2.Fair ts := by
  rw [primary, run_cursor_bind]
  split
  · exact fair_bind (fair_token hc) fun _ c₁ _ hc₁ => hc₁
  · split
    · exact fair_bind (fair_token hc) fun _ c₁ _ hc₁ => hc₁
    · refine fair_bind (fair_token hc) fun start c₁ _ hc₁ => ?_
      refine fair_bind (h.list _ _ hc₁) fun items c₂ _ hc₂ => ?_
      exact fair_bind (fair_token hc₂) fun _ c₃ _ hc₃ => hc₃
    · split
      · refine fair_bind (fair_token hc) fun start c₁ _ hc₁ => ?_
        refine fair_bind (h.entries hc₁) fun fields c₂ _ hc₂ => ?_
        exact fair_bind (fair_token hc₂) fun _ c₃ _ hc₃ => hc₃
      · exact fair_bind (h.braces hc) fun _ c₁ _ hc₁ => hc₁
    · refine fair_bind (fair_token hc) fun start c₁ _ hc₁ => ?_
      refine fair_bind (fair_skipNewlines hc₁) fun _ c₂ _ hc₂ => ?_
      refine fair_bind (h.expression _ hc₂) fun e c₃ _ hc₃ => ?_
      refine fair_bind (fair_skipNewlines hc₃) fun _ c₄ _ hc₄ => ?_
      exact fair_bind (fair_expect hc₄ _ _) fun stop c₅ _ hc₅ => hc₅
    · exact h.branching hc
    · rename_i hkind
      exact h.called hkind hc
    · exact fair_unexpected hc _

theorem fair_list (close : TokenKind) (expected : String) : ((list (fuel + 1) close expected).run c).2.Fair ts := by
  rw [list_succ]
  refine fair_bind (fair_skipNewlines hc) fun _ c₁ _ hc₁ => ?_
  rw [run_cursor_bind]
  split
  · exact hc₁
  · refine fair_bind (h.expression _ hc₁) fun e c₂ _ hc₂ => ?_
    exact fair_follow _ _ e (fun c => h.list close expected) hc₂

theorem fair_entries : ((entries (fuel + 1)).run c).2.Fair ts := by
  rw [entries_succ]
  refine fair_bind (fair_skipNewlines hc) fun _ c₁ _ hc₁ => ?_
  rw [run_cursor_bind]
  split
  · exact hc₁
  · rename_i key _
    rw [entry]
    refine fair_bind (fair_token hc₁) fun _ c₂ _ hc₂ => ?_
    refine fair_bind (fair_expect hc₂ _ _) fun _ c₃ _ hc₃ => ?_
    refine fair_bind (fair_skipNewlines hc₃) fun _ c₄ _ hc₄ => ?_
    refine fair_bind (h.expression _ hc₄) fun e c₅ _ hc₅ => ?_
    exact fair_follow _ _ (key, e) (fun c => h.entries) hc₅
  · exact fair_unexpected hc₁ _

theorem fair_braces : ((braces (fuel + 1)).run c).2.Fair ts := by
  rw [braces]
  refine fair_bind (fair_expect hc _ _) fun start c₁ h₁ hc₁ => ?_
  refine fair_bind (h.statements true hc₁) fun body c₂ _ hc₂ => ?_
  rw [run_cursor_bind]
  split
  · exact fair_bind (fair_token hc₂) fun _ c₃ _ hc₃ => hc₃
  · -- what is never closed is the brace read first
    have hstart : Sited ts start.span := by
      rw [run_expect] at h₁
      split at h₁
      · rename_i hkind
        obtain ⟨rfl, rfl⟩ : c.current = start ∧ c.advance = c₁ := by simpa using h₁
        exact .token hc.within.current_mem (by rw [c.kind_current, hkind]; simp)
      · cases h₁
    exact fair_report hc₂ hstart _ _ _

theorem fair_branching : ((branching (fuel + 1)).run c).2.Fair ts := by
  rw [branching_succ]
  refine fair_bind (fair_token hc) fun start c₁ _ hc₁ => ?_
  refine fair_bind (h.expression _ hc₁) fun condition c₂ _ hc₂ => ?_
  refine fair_bind (h.braces hc₂) fun body c₃ _ hc₃ => ?_
  dsimp only
  rw [run_onElse]
  split
  · have hc₄ : c₃.skipNewlines.advance.Fair ts := (fair_skipNewlines hc₃).advance
    have halternative : ((alternative fuel).run c₃.skipNewlines.advance).2.Fair ts := by
      rw [alternative, run_cursor_bind]
      split
      · exact h.branching hc₄
      · exact fair_bind (h.braces hc₄) fun _ c₅ _ hc₅ => hc₅
    exact fair_bind halternative fun _ c₅ _ hc₅ => hc₅
  · exact hc₃

theorem fair_called (hts : InOrder ts) {name : String} (hkind : c.kind = .ident name) :
    ((called (fuel + 1) name).run c).2.Fair ts := by
  have hstart : c.kind ≠ .invalid := by simp [hkind]
  have heof : c.kind ≠ .eof := by simp [hkind]
  rw [called_succ]
  refine fair_bind (fair_token hc) fun start c₁ h₁ hc₁ => ?_
  refine fair_bind (fair_accept hc₁ _) fun aborts c₂ h₂ hc₂ => ?_
  rw [run_cursor_bind]
  split
  · refine fair_bind (fair_token hc₂) fun paren c₃ h₃ hc₃ => ?_
    refine fair_bind (h.list _ _ hc₃) fun arguments c₄ h₄ hc₄ => ?_
    refine fair_bind (fair_token hc₄) fun stop c₅ h₅ hc₅ => ?_
    have horder : c₃.InOrder := hts.of_infix hc₃.within.suffix.isInfix
    have hlist := (readersTake fuel).list .rParen "`,` or `)`" horder
    have hitems := takes_items fuel .rParen "`,` or `)`" horder
    rw [h₄] at hlist hitems
    obtain ⟨-, -, -, hclose⟩ := hlist arguments rfl
    obtain ⟨front, hmoves, hstarts⟩ := hitems arguments rfl
    have hreads := (((accept_reads c₁ _).to h₂).trans ((token_reads c₂).to h₃)).trans
      (((readersRead fuel).list _ _ c₃).to h₄)
    obtain ⟨rfl, rfl⟩ : c₄.current = stop ∧ c₄.advance = c₅ := by simpa [run_token] using h₅
    refine fair_callOf hc₅ (sited_call hts hc.within heof hstart h₁ hreads (by simp [hclose])) fun e he => ?_
    obtain ⟨own, hown, hspan, hhead⟩ := hstarts e he
    have hfront : front <:+: ts := by
      have hprefix : front <+: c₃.tokens := ⟨_, hmoves.tokens.symm⟩
      exact hprefix.isInfix.trans hc₃.within.suffix.isInfix
    exact .run (hown.trans hfront) (fun t ht => hmoves.inner t (hown.subset ht)) hspan hhead
  · obtain ⟨rfl, rfl⟩ : c.current = start ∧ c.advance = c₁ := by simpa [run_token] using h₁
    exact fair_report hc₂ (.token hc.within.current_mem (by rwa [c.kind_current])) _ _ _

theorem fair_statement : ((statement (fuel + 1)).run c).2.Fair ts := by
  rw [statement, run_cursor_bind]
  split
  · refine fair_bind (fair_target hc) fun place c₁ _ hc₁ => ?_
    refine fair_bind (fair_expect hc₁ _ _) fun _ c₂ _ hc₂ => ?_
    refine fair_bind (fair_skipNewlines hc₂) fun _ c₃ _ hc₃ => ?_
    exact fair_bind (h.expression _ hc₃) fun value c₄ _ hc₄ => hc₄
  · refine fair_bind (fair_target hc) fun ok c₁ _ hc₁ => ?_
    refine fair_bind (fair_expect hc₁ _ _) fun _ c₂ _ hc₂ => ?_
    refine fair_bind (fair_target hc₂) fun err c₃ _ hc₃ => ?_
    refine fair_bind (fair_expect hc₃ _ _) fun _ c₄ _ hc₄ => ?_
    refine fair_bind (fair_skipNewlines hc₄) fun _ c₅ _ hc₅ => ?_
    exact fair_bind (h.expression _ hc₅) fun value c₆ _ hc₆ => hc₆
  · exact h.expression _ hc

theorem fair_round (inBlock : Bool) : ((round inBlock (statement fuel)).run c).2.Fair ts := by
  have hskipped : c.skipSeparators.Fair ts := hc.skipWhile _
  rw [round]
  refine fair_bind (p := move Cursor.skipSeparators) hskipped fun _ c₁ _ hc₁ => ?_
  rw [run_cursor_bind]
  split
  · exact hc₁
  · split
    · rename_i hclose
      have hunmatched : (unmatched c₁).Fair ts :=
        hc₁.record rfl (.token hc₁.within.current_mem (by rw [c₁.kind_current, hclose]; simp))
      refine fair_bind (p := move unmatched) hunmatched fun _ c₂ _ hc₂ => ?_
      exact fair_bind (fair_token hc₂) fun _ c₃ _ hc₃ => hc₃
    · have hattempt : ((attempt (statement fuel)).run c₁).2.Fair ts := by
        rw [cursor_attempt]
        exact h.statement hc₁
      refine fair_bind hattempt fun r c₂ _ hc₂ => ?_
      cases r with
      | none => exact fair_bind (p := move (Cursor.synchronize inBlock)) (hc₂.synchronize inBlock) fun _ c₃ _ hc₃ => hc₃
      | some e =>
        dsimp only
        rw [run_cursor_bind]
        split
        · exact hc₂
        · refine fair_bind (p := move (complain _)) (hc₂.complain _) fun _ c₃ _ hc₃ => ?_
          exact fair_bind (p := move (Cursor.synchronize inBlock)) (hc₃.synchronize inBlock) fun _ c₄ _ hc₄ => hc₄

theorem fair_statements (inBlock : Bool) : ((statements (fuel + 1) inBlock).run c).2.Fair ts := by
  rw [statements_succ]
  refine fair_bind (fair_round h hc inBlock) fun r c₁ _ hc₁ => ?_
  cases r with
  | none => exact hc₁
  | some found => exact fair_bind (h.statements inBlock hc₁) fun _ c₂ _ hc₂ => hc₂

end Fair

theorem readersFair (hts : InOrder ts) (fuel : Nat) : ReadersFair ts fuel := by
  induction fuel with
  | zero =>
    exact
      { expression := fun _ _ hc => hc
        operators := fun _ _ _ hc => hc
        prefixed := fun hc => hc
        primary := fun hc => hc
        list := fun _ _ _ hc => hc
        entries := fun hc => hc
        braces := fun hc => hc
        branching := fun hc => hc
        called := fun _ hc => hc
        statement := fun hc => hc
        statements := fun _ _ hc => hc }
  | succ fuel ih =>
    exact
      { expression := fun level _ hc => fair_expression ih hc level
        operators := fun level e _ hc => fair_operators ih hc level e
        prefixed := fair_prefixed ih
        primary := fair_primary ih
        list := fun close expected _ hc => fair_list ih hc close expected
        entries := fair_entries ih
        braces := fair_braces ih
        branching := fair_branching ih
        called := fun hkind hc => fair_called ih hc hts hkind
        statement := fair_statement ih
        statements := fun inBlock _ hc => fair_statements ih hc inBlock }

/-- What is recorded while a list of tokens is read, also where reading ends in an overflow. -/
def recorded (ts : List Token) : List Diagnostic :=
  ((statements (fuelFor (Cursor.start ts).tokens.length) false).run (Cursor.start ts)).2.diagnostics

theorem recorded_of_parse {es : List Expr} {ds : List Diagnostic} (hparse : parse ts = .ok (es, ds)) :
    recorded ts = ds := by
  obtain ⟨c', hrun, -, hds⟩ := parse_eq_ok.1 hparse
  rw [recorded, hrun]
  exact hds

/-- The diagnostics of a list of tokens are about its tokens. -/
theorem sited_of_recorded (hts : InOrder (Cursor.start ts).tokens) :
    ∀ d ∈ recorded ts, ∃ s, d.span = some s ∧ Sited (Cursor.start ts).tokens s := by
  have hstart : (Cursor.start ts).Fair (Cursor.start ts).tokens := ⟨Cursor.over_start ts, fun d hd => by cases hd⟩
  exact ((readersFair hts (fuelFor (Cursor.start ts).tokens.length)).statements false hstart).sited

end Expr

end Reshape
