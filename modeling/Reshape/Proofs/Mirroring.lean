/-
Readers up to a seam.

Every reader mirrors itself on alike cursors: where it finds an expression in a program alone, it finds the
same one in the program with another behind it, whatever fuel it has left beyond what the tokens need.  In the
program alone a reader that needs one more token at the seam gives up, so a line break that it skips there
cannot lead it on to the other program.

* `Expr.readersMirror` — this for all readers;
* `Expr.statements_append` — the statements of a program are read first, and then what is behind the seam.
-/
import Reshape.Proofs.Seam

namespace Reshape

namespace Expr

open Parse

/-! ### Suffixes -/

variable {S : Seam} {c d : Cursor}

theorem mirrors_signed (negative : Bool) (i : Int64) (h : AlikeLast S c d) :
    Mirrors (AlikeLast S) id ((signed negative i).run c) ((signed negative i).run d) := by
  rw [run_signed, run_signed]
  split
  · exact .of_none rfl
  · exact mirrors_pure rfl h

theorem mirrors_indexSuffix (h : Alike S c d) :
    Mirrors (AlikeLast S) id (indexSuffix.run c) (indexSuffix.run d) := by
  rw [indexSuffix_eq]
  refine mirrors_bind (mirrors_expect (by simp) (by simp) _ h)
    (fun _ => keeps_bind inferInstance fun _ => keeps_bind inferInstance fun c => by
      split
      · infer_instance
      · infer_instance) fun _ c₁ d₁ _ h₁ => ?_
  refine mirrors_bind (mirrors_accept (by simp) (by simp) (by simp) h₁.1)
    (fun _ => keeps_bind inferInstance fun c => by
      split
      · infer_instance
      · infer_instance) fun negative c₂ d₂ _ h₂ => ?_
  rw [run_cursor_bind, run_cursor_bind]
  split
  · rename_i i hkind
    rw [(h₂.kind_iff (by simp) (by simp) (by simp)).2 hkind]
    refine mirrors_bind (mirrors_token h₂ (by simp [hkind]) (by simp [hkind]))
      (fun _ => inferInstance) fun _ c₃ d₃ _ h₃ => ?_
    exact mirrors_bind (mirrors_expect (by simp) (by simp) _ h₃.1) (fun _ => inferInstance)
      fun _ c₄ d₄ _ h₄ => mirrors_signed negative i h₄
  · exact .of_none rfl

theorem suffix?_shift (e : Expr) (h : Alike S c d) : suffix? (e.shift S.shift) d = suffix? e c := by
  have hkind := h.apply_kind suffixOf rfl rfl
  rw [suffix?_eq, suffix?_eq, hkind]
  rcases h.ends_or_token with ⟨hc, -⟩ | ⟨t, -, hc, hd, -⟩
  · have hnone : suffixOf c.kind = none := by
      rcases hc with hc | hc
      · rw [hc]
        rfl
      · rw [hc]
        rfl
    simp [hnone]
  · simp [hc, hd]

theorem mirrors_suffix {e : Expr} {read : Parse Path} (h : Alike S c d) (hread : suffix? e c = some read) :
    Mirrors (AlikeLast S) id (read.run c) (read.run d) := by
  unfold suffix? at hread
  split at hread
  · split at hread
    · cases hread
    · rename_i hkind
      obtain rfl := Option.some.inj hread
      exact mirrors_bind (mirrors_token h (by simp [hkind]) (by simp [hkind])) (fun _ => inferInstance)
        fun _ c₁ d₁ _ h₁ => mirrors_pure rfl h₁
    · obtain rfl := Option.some.inj hread
      exact mirrors_bind (mirrors_indexSuffix h) (fun _ => inferInstance)
        fun _ c₁ d₁ _ h₁ => mirrors_pure rfl h₁
    · cases hread
  · cases hread

/-- With a unit of fuel for each token, all suffixes are read. -/
theorem mirrors_suffixes {fuel fuel' : Nat} {e : Expr} (h : Alike S c d) (hfuel : c.tokens.length < fuel)
    (hfuel' : d.tokens.length < fuel') :
    Mirrors (Alike S) (·.shift S.shift) ((suffixes fuel e).run c)
      ((suffixes fuel' (e.shift S.shift)).run d) := by
  induction fuel generalizing fuel' e c d with
  | zero => omega
  | succ fuel ih =>
    obtain ⟨fuel', rfl⟩ : ∃ k, fuel' = k + 1 := ⟨fuel' - 1, by omega⟩
    unfold suffixes
    rw [run_cursor_bind, run_cursor_bind, suffix?_shift e h]
    split
    · exact mirrors_pure rfl h
    · rename_i read hread
      refine mirrors_bind (mirrors_suffix h hread) (fun _ => inferInstance) fun p c₁ d₁ h₁ hlast => ?_
      have hlt := (suffix?_eats hread).lt h₁
      have hlen := h.length
      have hlen₁ := hlast.1.length
      rw [run_cursor_bind, run_cursor_bind]
      have hjoin : (access (e.span.join c₁.last) e p).shift S.shift =
          access ((e.shift S.shift).span.join d₁.last) (e.shift S.shift) p := by
        rw [shift, Span.join_shift, span_shift, hlast.2]
      rw [id, ← hjoin]
      exact ih hlast.1 (by omega) (by omega)

theorem mirrors_target (h : Alike S c d) :
    Mirrors (Alike S) (·.shift S.shift) (target.run c) (target.run d) := by
  unfold target
  rw [run_cursor_bind, run_cursor_bind]
  split
  · rename_i p hkind
    rw [(h.kind_iff (by simp) (by simp) (by simp)).2 hkind]
    exact mirrors_bind (mirrors_token h (by simp [hkind]) (by simp [hkind])) (fun _ => inferInstance)
      fun t c₁ d₁ _ h₁ => mirrors_pure rfl h₁.1
  · exact .of_none rfl

theorem applyPrefix_shift (δ : Shift) (op : UnaryOp) (span : Span) (operand : Expr) :
    (applyPrefix op span operand).shift δ = applyPrefix op (span.shift δ) (operand.shift δ) := by
  cases op with
  | not => rfl
  | negate =>
    cases operand with
    | literal s v =>
      cases v with
      | integer i =>
        by_cases hi : i = Int64.minValue
        · simp [applyPrefix, hi, shift]
        · simp [applyPrefix, hi, shift]
      | _ => rfl
    | branch s condition body alternative =>
      cases alternative with
      | none => rfl
      | some alternative => rfl
    | _ => rfl

/-- Both cursors see the start of an object, or neither, or the program ends at its brace. -/
theorem startsObject_alike (h : Alike S c d) (hkind : c.kind = .lBrace) :
    startsObject d = startsObject c ∨ startsObject c = false ∧ c.advance.skipSeparators.kind = .eof := by
  obtain ⟨hd, -, -, hadvance⟩ := h.of_kind (by simp [hkind]) (by simp [hkind])
  rw [startsObject_eq (c := c) (by simp [hkind]), startsObject_eq (c := d) (by simp [hd, hkind])]
  rcases hadvance.skipWhile (p := (· == .newline)) rfl with ⟨halike, hnewline, heof⟩ | ⟨heof, -⟩
  · left
    have halike : Alike S c.advance.skipNewlines d.advance.skipNewlines := halike
    obtain ⟨hd₁, -, -, halike₁⟩ := halike.of_kind heof (beq_eq_false_iff_ne.1 hnewline)
    rw [hd₁, decide_eq_decide.2 (halike₁.kind_iff (show TokenKind.colon ≠ .eof by simp) (by simp) (by simp))]
  · right
    have heof : c.advance.skipNewlines.kind = .eof := heof
    exact ⟨by rw [heof], by rw [Cursor.skipSeparators_eq (by simp [heof]), heof]⟩

instance (name : String) (start : Token) (aborts : Bool) (arguments : List Expr) (stop : Token) :
    Keeps (callOf name start aborts arguments stop) := by
  unfold callOf
  dsimp only
  split
  · split
    · infer_instance
    · infer_instance
    · infer_instance
  · infer_instance

theorem mirrors_callOf (name : String) (start : Token) (aborts : Bool) (arguments : List Expr) (stop : Token)
    (h : Alike S c d) :
    Mirrors (Alike S) (·.shift S.shift) ((callOf name start aborts arguments stop).run c)
      ((callOf name (start.shift S.shift) aborts (shiftAll S.shift arguments) (stop.shift S.shift)).run d) := by
  unfold callOf
  dsimp only
  split
  · split
    · refine mirrors_pure ?_ h
      rw [shift, Span.join_shift]
      rfl
    · exact .of_none rfl
    · exact .of_none rfl
  · refine mirrors_pure ?_ h
    rw [shift, Span.join_shift]
    rfl

theorem startsSingle_iff (h : Alike S c d) : StartsSingle d ↔ StartsSingle c := by
  refine exists_congr fun p => ?_
  rw [h.kind_iff (by simp) (by simp) (by simp)]
  refine and_congr_right fun hpath => ?_
  exact (h.of_kind (by simp [hpath]) (by simp [hpath])).2.2.2.kind_iff (by simp) (by simp) (by simp)

theorem startsDouble_iff (h : Alike S c d) : StartsDouble d ↔ StartsDouble c := by
  refine exists_congr fun p => exists_congr fun q => ?_
  rw [h.kind_iff (by simp) (by simp) (by simp)]
  refine and_congr_right fun hpath => ?_
  have h₁ := (h.of_kind (by simp [hpath]) (by simp [hpath])).2.2.2
  rw [h₁.kind_iff (by simp) (by simp) (by simp)]
  refine and_congr_right fun hcomma => ?_
  have h₂ := (h₁.of_kind (by simp [hcomma]) (by simp [hcomma])).2.2.2
  rw [h₂.kind_iff (by simp) (by simp) (by simp)]
  refine and_congr_right fun hpath' => ?_
  exact (h₂.of_kind (by simp [hpath']) (by simp [hpath'])).2.2.2.kind_iff (by simp) (by simp) (by simp)

/-- Behind a seam that does not close a parenthesis, a statement is over for both cursors. -/
theorem closes_of_alike {inBlock : Bool} (h : Alike S c d) (hseam : ∀ t ∈ S.tail.head?, t.kind ≠ .rParen)
    (hc : Closes inBlock c) : Closes inBlock d := by
  rcases h.tokens_or_kind with ⟨-, hd⟩ | hkind
  · obtain ⟨t, rest, htail, ht⟩ := S.tail_eq
    have hne : t.kind ≠ .rParen := hseam t (by rw [htail]; rfl)
    rw [Closes, d.kind_cons (hd.trans htail)]
    rcases ht with ht | ht | ht
    · exact .inl (by rw [ht]; rfl)
    · exact .inl (by rw [ht]; rfl)
    · exact absurd ht hne
  · rwa [Closes, hkind]

/-- At the seam nothing is left of the program, so that no block is closed there. -/
theorem kind_ne_rBrace_of_ends (hc : c.tokens = S.ends) (fuel : Nat) :
    ((statements fuel true).run c).2.kind ≠ .rBrace := by
  obtain ⟨stop, hstop, hends⟩ := S.ends_eq
  have hkind : c.kind = .eof ∨ c.kind = .newline := by
    rcases hends with hends | ⟨nl, hnl, hends⟩
    · exact .inl ((c.kind_cons (hc.trans hends)).trans hstop)
    · exact .inr ((c.kind_cons (hc.trans hends)).trans hnl)
  have hskip : c.skipSeparators.kind = .eof := by
    have htokens : c.skipSeparators.tokens = [stop] := by
      rw [Cursor.skipSeparators, Cursor.tokens_skipWhile, hc]
      rcases hends with hends | ⟨nl, hnl, hends⟩
      · simp [hends, hstop]
      · simp [hends, hstop, hnl]
    rw [Cursor.kind_cons _ htokens, hstop]
  cases fuel with
  | zero =>
    intro hbrace
    have hbrace : c.kind = .rBrace := hbrace
    rw [hbrace] at hkind
    rcases hkind with hkind | hkind
    · cases hkind
    · cases hkind
  | succ fuel =>
    rw [statements_of_stops fuel (.inl hskip), hskip]
    simp

/-- Past line breaks and semicolons, cursors are alike; or the program is at its end, and the other cursor goes
on from the seam. -/
theorem skipSeparators_alike (h : Alike S c d) :
    (Alike S c.skipSeparators d.skipSeparators ∧ d.skipSeparators.kind = c.skipSeparators.kind ∧
        c.skipSeparators.kind ≠ .eof) ∨
      (c.skipSeparators.kind = .eof ∧ ∃ last, d.skipSeparators = Cursor.skipSeparators ⟨S.tail, last, []⟩) := by
  rcases h.skipWhile (p := fun k => k == .newline || k == .semicolon) rfl with ⟨h₁, hkind, heof⟩ | hlost
  · left
    have hnewline : c.skipSeparators.kind ≠ .newline := fun hk => by
      have hkind : (c.skipSeparators.kind == .newline || c.skipSeparators.kind == .semicolon) = false := hkind
      simp [hk] at hkind
    exact ⟨h₁, (Alike.of_kind h₁ heof hnewline).1, heof⟩
  · exact .inr hlost

/-- What all readers do that have fuel. -/
structure ReadersMirror (S : Seam) (fuel : Nat) : Prop where
  expression : ∀ {fuel'} level {c d}, Alike S c d → Fed 4 fuel c → Fed 4 fuel' d →
    Mirrors (Alike S) (·.shift S.shift) ((expression fuel level).run c) ((expression fuel' level).run d)
  operators : ∀ {fuel'} level e {c d}, Alike S c d → Fed 1 fuel c → Fed 1 fuel' d →
    Mirrors (Alike S) (·.shift S.shift) ((operators fuel level e).run c)
      ((operators fuel' level (e.shift S.shift)).run d)
  prefixed : ∀ {fuel'} {c d}, Alike S c d → Fed 3 fuel c → Fed 3 fuel' d →
    Mirrors (Alike S) (·.shift S.shift) ((prefixed fuel).run c) ((prefixed fuel').run d)
  primary : ∀ {fuel'} {c d}, Alike S c d → Fed 2 fuel c → Fed 2 fuel' d →
    Mirrors (Alike S) (·.shift S.shift) ((primary fuel).run c) ((primary fuel').run d)
  list : ∀ {fuel'} {close} expected {c d}, close ≠ .eof → close ≠ .newline → Alike S c d →
    Fed 5 fuel c → Fed 5 fuel' d →
    Mirrors (fun c d => Alike S c d ∧ c.kind = close) (shiftAll S.shift)
      ((list fuel close expected).run c) ((list fuel' close expected).run d)
  entries : ∀ {fuel'} {c d}, Alike S c d → Fed 1 fuel c → Fed 1 fuel' d →
    Mirrors (fun c d => Alike S c d ∧ c.kind = .rBrace) (shiftEntries S.shift)
      ((entries fuel).run c) ((entries fuel').run d)
  braces : ∀ {fuel'} {c d}, Alike S c d → Fed 1 fuel c → Fed 1 fuel' d →
    Mirrors (Alike S) (fun x => (shiftAll S.shift x.1, x.2.shift S.shift))
      ((braces fuel).run c) ((braces fuel').run d)
  branching : ∀ {fuel'} {c d}, Alike S c d → c.kind = .kwIf → Fed 1 fuel c → Fed 1 fuel' d →
    Mirrors (Alike S) (·.shift S.shift) ((branching fuel).run c) ((branching fuel').run d)
  called : ∀ {fuel'} name {c d}, Alike S c d → c.kind = .ident name → Fed 1 fuel c → Fed 1 fuel' d →
    Mirrors (Alike S) (·.shift S.shift) ((called fuel name).run c) ((called fuel' name).run d)
  statement : ∀ {fuel'} {c d}, Alike S c d → Fed 5 fuel c → Fed 5 fuel' d →
    Mirrors (Alike S) (·.shift S.shift) ((statement fuel).run c) ((statement fuel').run d)
  body : ∀ {fuel'} {c d}, Alike S c d → Fed 6 fuel c → Fed 6 fuel' d →
    ((statements fuel true).run c).2.kind = .rBrace →
    Mirrors (Alike S) (shiftAll S.shift) ((statements fuel true).run c) ((statements fuel' true).run d)

section Mirror

variable {fuel fuel' : Nat} (ih : ReadersMirror S fuel)

include ih

theorem mirrors_expression (level : Nat) (h : Alike S c d) (hfuel : Fed 4 (fuel + 1) c)
    (hfuel' : Fed 4 fuel' d) :
    Mirrors (Alike S) (·.shift S.shift) ((expression (fuel + 1) level).run c)
      ((expression fuel' level).run d) := by
  obtain ⟨fuel', rfl⟩ := hfuel'.exists_succ
  simp only [Fed] at hfuel hfuel'
  rw [expression, expression]
  refine mirrors_bind (ih.prefixed h (by simp only [Fed]; omega) (by simp only [Fed]; omega))
    (fun _ => inferInstance) fun e c₁ d₁ hp h₁ => ?_
  have hlt := ((readersRead fuel).prefixed c).lt hp
  have hlen := h.length
  have hlen₁ := h₁.length
  exact ih.operators level e h₁ (by simp only [Fed]; omega) (by simp only [Fed]; omega)

theorem mirrors_operators (level : Nat) (e : Expr) (h : Alike S c d) (hfuel : Fed 1 (fuel + 1) c)
    (hfuel' : Fed 1 fuel' d) :
    Mirrors (Alike S) (·.shift S.shift) ((operators (fuel + 1) level e).run c)
      ((operators fuel' level (e.shift S.shift)).run d) := by
  obtain ⟨fuel', rfl⟩ := hfuel'.exists_succ
  simp only [Fed] at hfuel hfuel'
  -- no end is an operator, so that the operators end at the seam for both
  rw [operators, operators, run_cursor_bind, run_cursor_bind, h.apply_kind BinaryOp.ofToken? rfl rfl]
  split
  · exact mirrors_pure rfl h
  · rename_i op hop
    have heof : c.kind ≠ .eof := by
      intro hkind
      simp [hkind, BinaryOp.ofToken?] at hop
    have hnewline : c.kind ≠ .newline := by
      intro hkind
      simp [hkind, BinaryOp.ofToken?] at hop
    split
    · exact mirrors_pure rfl h
    · refine mirrors_bind (mirrors_token h heof hnewline) (fun _ => inferInstance) fun _ c₁ d₁ ht h₁ => ?_
      have hlt₁ := (token_eats c heof).lt ht
      have hlen := h.length
      have hlen₁ := h₁.1.length
      -- but an operator needs its right operand
      refine mirrors_skipNewlines h₁.1 (fun hlost => bind_none (expression_ends _ _ (.inl hlost))) fun h₂ => ?_
      have hle₂ := c₁.skipNewlines_reads.length_le
      have hlen₂ := h₂.length
      refine mirrors_bind (ih.expression op.level h₂ (by simp only [Fed]; omega) (by simp only [Fed]; omega))
        (fun _ => inferInstance) fun right c₃ d₃ hr h₃ => ?_
      have hlt₃ := ((readersRead fuel).expression op.level c₁.skipNewlines).lt hr
      have hlen₃ := h₃.length
      have hjoin : (binary (e.span.join right.span) op e right).shift S.shift =
          binary ((e.shift S.shift).span.join (right.shift S.shift).span) op (e.shift S.shift)
            (right.shift S.shift) := by
        rw [shift, Span.join_shift, span_shift, span_shift]
      rw [← hjoin]
      exact ih.operators level _ h₃ (by simp only [Fed]; omega) (by simp only [Fed]; omega)

theorem mirrors_prefixed (h : Alike S c d) (hfuel : Fed 3 (fuel + 1) c) (hfuel' : Fed 3 fuel' d) :
    Mirrors (Alike S) (·.shift S.shift) ((prefixed (fuel + 1)).run c) ((prefixed fuel').run d) := by
  rcases h.ends_or_token with ⟨hends, -⟩ | ⟨t, ht, -, -, hkc, hkd, -⟩
  · exact .of_none (prefixed_ends _ (hends.imp_right .inl))
  · obtain ⟨fuel', rfl⟩ := hfuel'.exists_succ
    simp only [Fed] at hfuel hfuel'
    have hlen := h.length
    rw [prefixed, prefixed, run_cursor_bind, run_cursor_bind, hkd.trans hkc.symm]
    split
    · rename_i op hop
      have heof : c.kind ≠ .eof := by
        intro hkind
        simp [hkind, UnaryOp.ofToken?] at hop
      have hnewline : c.kind ≠ .newline := by
        intro hkind
        simp [hkind, UnaryOp.ofToken?] at hop
      refine mirrors_bind (mirrors_token h heof hnewline) (fun _ => inferInstance) fun start c₁ d₁ hs h₁ => ?_
      have hlt₁ := (token_eats c heof).lt hs
      have hlen₁ := h₁.1.length
      refine mirrors_bind (ih.expression UnaryOp.level h₁.1 (by simp only [Fed]; omega)
        (by simp only [Fed]; omega)) (fun _ => inferInstance) fun operand c₂ d₂ _ h₂ => ?_
      refine mirrors_pure ?_ h₂
      rw [applyPrefix_shift, Span.join_shift, span_shift]
      rfl
    · refine mirrors_bind (ih.primary h (by simp only [Fed]; omega) (by simp only [Fed]; omega))
        (fun _ => by split <;> infer_instance) fun e c₁ d₁ hp h₁ => ?_
      have hlt₁ := ((readersRead fuel).primary c).lt hp
      have hlen₁ := h₁.length
      split
      · exact mirrors_pure rfl h₁
      · exact mirrors_suffixes h₁ (by omega) (by omega)

theorem mirrors_primary (h : Alike S c d) (hfuel : Fed 2 (fuel + 1) c) (hfuel' : Fed 2 fuel' d) :
    Mirrors (Alike S) (·.shift S.shift) ((primary (fuel + 1)).run c) ((primary fuel').run d) := by
  rcases h.ends_or_token with ⟨hends, -⟩ | ⟨t, ht, -, -, hkc, hkd, -⟩
  · exact .of_none (primary_ends _ (hends.imp_right .inl))
  · obtain ⟨fuel', rfl⟩ := hfuel'.exists_succ
    simp only [Fed] at hfuel hfuel'
    have hlen := h.length
    rw [primary, primary, run_cursor_bind, run_cursor_bind, hkd.trans hkc.symm]
    split
    · -- a literal
      rename_i value hvalue
      have heof : c.kind ≠ .eof := by
        intro hkind
        simp [hkind, Scalar.ofToken?] at hvalue
      have hnewline : c.kind ≠ .newline := by
        intro hkind
        simp [hkind, Scalar.ofToken?] at hvalue
      exact mirrors_bind (mirrors_token h heof hnewline) (fun _ => inferInstance)
        fun t c₁ d₁ _ h₁ => mirrors_pure rfl h₁.1
    · split
      · -- a path
        rename_i hkind
        exact mirrors_bind (mirrors_token h (by simp [hkind]) (by simp [hkind])) (fun _ => inferInstance)
          fun t c₁ d₁ _ h₁ => mirrors_pure rfl h₁.1
      · -- an array
        rename_i hkind
        refine mirrors_bind (mirrors_token h (by simp [hkind]) (by simp [hkind])) (fun _ => inferInstance)
          fun start c₁ d₁ hs h₁ => ?_
        have hlt₁ := (token_eats c (by simp [hkind])).lt hs
        have hlen₁ := h₁.1.length
        refine mirrors_bind (ih.list _ (by simp) (by simp) h₁.1 (by simp only [Fed]; omega)
          (by simp only [Fed]; omega)) (fun _ => inferInstance) fun items c₂ d₂ _ h₂ => ?_
        refine mirrors_bind (mirrors_token h₂.1 (by simp [h₂.2]) (by simp [h₂.2])) (fun _ => inferInstance)
          fun stop c₃ d₃ _ h₃ => mirrors_pure ?_ h₃.1
        rw [shift, Span.join_shift]
        rfl
      · -- whether braces hold entries or statements is seen at the tokens that follow
        rename_i hkind
        rcases startsObject_alike h hkind with hobject | ⟨hobject, hlost⟩
        · rw [hobject]
          split
          · refine mirrors_bind (mirrors_token h (by simp [hkind]) (by simp [hkind]))
              (fun _ => inferInstance) fun start c₁ d₁ hs h₁ => ?_
            have hlt₁ := (token_eats c (by simp [hkind])).lt hs
            have hlen₁ := h₁.1.length
            refine mirrors_bind (ih.entries h₁.1 (by simp only [Fed]; omega) (by simp only [Fed]; omega))
              (fun _ => inferInstance) fun fields c₂ d₂ _ h₂ => ?_
            refine mirrors_bind (mirrors_token h₂.1 (by simp [h₂.2]) (by simp [h₂.2]))
              (fun _ => inferInstance) fun stop c₃ d₃ _ h₃ => mirrors_pure ?_ h₃.1
            rw [shift, Span.join_shift]
            rfl
          · exact mirrors_bind (ih.braces h (by simp only [Fed]; omega) (by simp only [Fed]; omega))
              (fun _ => inferInstance) fun _ c₁ d₁ _ h₁ => mirrors_pure rfl h₁
        · rw [if_neg (by simp [hobject])]
          exact .of_none (bind_none (braces_lost fuel hlost))
      · -- an expression in parentheses
        rename_i hkind
        refine mirrors_bind (mirrors_token h (by simp [hkind]) (by simp [hkind])) (fun _ => inferInstance)
          fun start c₁ d₁ hs h₁ => ?_
        have hlt₁ := (token_eats c (by simp [hkind])).lt hs
        refine mirrors_skipNewlines h₁.1 (fun hlost => bind_none (expression_ends _ _ (.inl hlost)))
          fun h₂ => ?_
        have hle₂ := c₁.skipNewlines_reads.length_le
        have hlen₂ := h₂.length
        refine mirrors_bind (ih.expression 0 h₂ (by simp only [Fed]; omega) (by simp only [Fed]; omega))
          (fun _ => inferInstance) fun e c₃ d₃ _ h₃ => ?_
        refine mirrors_skipNewlines h₃ (fun hlost => bind_none (expect_lost (by simp) _ hlost)) fun h₄ => ?_
        refine mirrors_bind (mirrors_expect (by simp) (by simp) _ h₄) (fun _ => inferInstance)
          fun stop c₅ d₅ _ h₅ => mirrors_pure ?_ h₅.1
        rw [withSpan_shift, Span.join_shift]
        rfl
      · rename_i hkind
        exact ih.branching h hkind (by simp only [Fed]; omega) (by simp only [Fed]; omega)
      · rename_i name hkind
        exact ih.called name h hkind (by simp only [Fed]; omega) (by simp only [Fed]; omega)
      · exact .of_none rfl

theorem mirrors_list {close : TokenKind} (expected : String) (heof : close ≠ .eof) (hnewline : close ≠ .newline)
    (h : Alike S c d) (hfuel : Fed 5 (fuel + 1) c) (hfuel' : Fed 5 fuel' d) :
    Mirrors (fun c d => Alike S c d ∧ c.kind = close) (shiftAll S.shift)
      ((list (fuel + 1) close expected).run c) ((list fuel' close expected).run d) := by
  obtain ⟨fuel', rfl⟩ := hfuel'.exists_succ
  simp only [Fed] at hfuel hfuel'
  rw [list_succ, list_succ]
  refine mirrors_skipNewlines h (fun hlost => ?_) fun h₁ => ?_
  · rw [run_cursor_bind, hlost, if_neg heof.symm]
    exact bind_none (expression_ends _ _ (.inl hlost))
  have hle₁ := c.skipNewlines_reads.length_le
  have hlen := h.length
  have hlen₁ := h₁.length
  rw [run_cursor_bind, run_cursor_bind]
  by_cases hclose : c.skipNewlines.kind = close
  · rw [if_pos hclose, if_pos (h₁.kind_of heof hnewline hclose)]
    exact mirrors_pure rfl ⟨h₁, hclose⟩
  rw [if_neg hclose]
  -- at the seam nothing is left for one more item
  rcases h₁.ends_or_token with ⟨hends, -⟩ | ⟨t, -, -, -, hkc, hkd, -⟩
  · exact .of_none (bind_none (expression_ends _ _ (hends.imp_right .inl)))
  rw [if_neg (fun hk => hclose (hkc.trans (hkd.symm.trans hk)))]
  refine mirrors_bind (ih.expression 0 h₁ (by simp only [Fed]; omega) (by simp only [Fed]; omega))
    (fun _ => inferInstance) fun e c₂ d₂ he h₂ => ?_
  have hlt₂ := ((readersRead fuel).expression 0 c.skipNewlines).lt he
  have hlen₂ := h₂.length
  refine mirrors_follow expected heof hnewline rfl (fun _ => rfl) h₂ fun c₃ d₃ hle₃ h₃ => ?_
  have hlen₃ := h₃.length
  exact ih.list expected heof hnewline h₃ (by simp only [Fed]; omega) (by simp only [Fed]; omega)

theorem mirrors_entries (h : Alike S c d) (hfuel : Fed 1 (fuel + 1) c) (hfuel' : Fed 1 fuel' d) :
    Mirrors (fun c d => Alike S c d ∧ c.kind = .rBrace) (shiftEntries S.shift)
      ((entries (fuel + 1)).run c) ((entries fuel').run d) := by
  obtain ⟨fuel', rfl⟩ := hfuel'.exists_succ
  simp only [Fed] at hfuel hfuel'
  rw [entries_succ, entries_succ]
  refine mirrors_skipNewlines h (fun hlost => ?_) fun h₁ => ?_
  · rw [run_cursor_bind, hlost]
    rfl
  have hle₁ := c.skipNewlines_reads.length_le
  have hlen := h.length
  have hlen₁ := h₁.length
  rw [run_cursor_bind, run_cursor_bind]
  split
  · rename_i hclose
    rw [(h₁.kind_iff (by simp) (by simp) (by simp)).2 hclose]
    exact mirrors_pure rfl ⟨h₁, hclose⟩
  · rename_i key hkey
    rw [(h₁.kind_iff (by simp) (by simp) (by simp)).2 hkey]
    dsimp only
    rw [entry, entry]
    refine mirrors_bind (mirrors_token h₁ (by simp [hkey]) (by simp [hkey]))
      (fun _ => keeps_bind inferInstance fun _ => keeps_bind inferInstance fun _ => inferInstance)
      fun _ c₂ d₂ ht h₂ => ?_
    have hlt₂ := (token_eats _ (by simp [hkey])).lt ht
    refine mirrors_bind (mirrors_expect (by simp) (by simp) _ h₂.1) (fun _ => inferInstance)
      fun _ c₃ d₃ hc h₃ => ?_
    have hle₃ := ((expect_reads c₂ _ _).to hc).length_le
    refine mirrors_skipNewlines h₃.1 (fun hlost => bind_none (expression_ends _ _ (.inl hlost)))
      fun h₄ => ?_
    have hle₄ := c₃.skipNewlines_reads.length_le
    have hlen₄ := h₄.length
    refine mirrors_bind (ih.expression 0 h₄ (by simp only [Fed]; omega) (by simp only [Fed]; omega))
      (fun _ => inferInstance) fun e c₅ d₅ he h₅ => ?_
    have hlt₅ := ((readersRead fuel).expression 0 c₃.skipNewlines).lt he
    refine mirrors_follow _ (by simp) (by simp) rfl (fun _ => rfl) h₅ fun c₆ d₆ hle₆ h₆ => ?_
    have hlen₆ := h₆.length
    exact ih.entries h₆ (by simp only [Fed]; omega) (by simp only [Fed]; omega)
  · exact .of_none rfl

theorem mirrors_braces (h : Alike S c d) (hfuel : Fed 1 (fuel + 1) c) (hfuel' : Fed 1 fuel' d) :
    Mirrors (Alike S) (fun x => (shiftAll S.shift x.1, x.2.shift S.shift))
      ((braces (fuel + 1)).run c) ((braces fuel').run d) := by
  obtain ⟨fuel', rfl⟩ := hfuel'.exists_succ
  simp only [Fed] at hfuel hfuel'
  have hlen := h.length
  rw [braces, braces]
  refine mirrors_bind (mirrors_expect (by simp) (by simp) _ h) (fun _ => inferInstance)
    fun start c₁ d₁ hs h₁ => ?_
  have hlt₁ := (expect_eats c (by simp) _).lt hs
  have hlen₁ := h₁.1.length
  -- only a body that is closed is read alike, and one that is not is reported
  rcases hbody : (statements fuel true).run c₁ with ⟨_ | body, c₂⟩
  · exact .of_none (bind_none (by rw [hbody]))
  by_cases hclose : c₂.kind = .rBrace
  · refine mirrors_bind (ih.body h₁.1 (by simp only [Fed]; omega) (by simp only [Fed]; omega)
      (by rw [hbody]; exact hclose)) (fun _ => inferInstance) fun body' c₃ d₃ hb h₃ => ?_
    obtain ⟨-, rfl⟩ := Prod.mk.inj (hbody.symm.trans hb)
    rw [run_cursor_bind, run_cursor_bind, if_pos hclose, if_pos ((h₃.kind_iff (by simp) (by simp) (by simp)).2 hclose)]
    refine mirrors_bind (mirrors_token h₃ (by simp [hclose]) (by simp [hclose])) (fun _ => inferInstance)
      fun stop c₄ d₄ _ h₄ => mirrors_pure ?_ h₄.1
    rw [Span.join_shift]
    rfl
  · rw [run_bind_some hbody, run_cursor_bind, if_neg hclose]
    exact .of_none rfl

theorem mirrors_alternative (h : Alike S c d) (hfuel : Fed 1 fuel c) (hfuel' : Fed 1 fuel' d) :
    Mirrors (Alike S) (·.shift S.shift) ((alternative fuel).run c) ((alternative fuel').run d) := by
  rw [alternative, alternative, run_cursor_bind, run_cursor_bind]
  by_cases hif : c.kind = .kwIf
  · rw [if_pos hif, if_pos ((h.kind_iff (by simp) (by simp) (by simp)).2 hif)]
    exact ih.branching h hif hfuel hfuel'
  · rw [if_neg hif, if_neg (fun hk => hif ((h.kind_iff (by simp) (by simp) (by simp)).1 hk))]
    exact mirrors_bind (ih.braces h hfuel hfuel') (fun _ => inferInstance)
      fun _ c₁ d₁ _ h₁ => mirrors_pure rfl h₁

theorem mirrors_branching (h : Alike S c d) (hkind : c.kind = .kwIf) (hfuel : Fed 1 (fuel + 1) c)
    (hfuel' : Fed 1 fuel' d) :
    Mirrors (Alike S) (·.shift S.shift) ((branching (fuel + 1)).run c) ((branching fuel').run d) := by
  obtain ⟨fuel', rfl⟩ := hfuel'.exists_succ
  simp only [Fed] at hfuel hfuel'
  have hlen := h.length
  rw [branching_succ, branching_succ]
  refine mirrors_bind (mirrors_token h (by simp [hkind]) (by simp [hkind]))
    (fun _ => keeps_bind inferInstance fun _ => keeps_bind inferInstance fun body => by
      cases body
      infer_instance)
    fun start c₁ d₁ hs h₁ => ?_
  have hlt₁ := (token_eats c (by simp [hkind])).lt hs
  have hlen₁ := h₁.1.length
  refine mirrors_bind (ih.expression 0 h₁.1 (by simp only [Fed]; omega) (by simp only [Fed]; omega))
    (fun _ => keeps_bind inferInstance fun body => by
      cases body
      infer_instance)
    fun condition c₂ d₂ hc h₂ => ?_
  have hlt₂ := ((readersRead fuel).expression 0 c₁).lt hc
  have hlen₂ := h₂.length
  refine mirrors_bind (ih.braces h₂ (by simp only [Fed]; omega) (by simp only [Fed]; omega))
    (fun body => by
      cases body
      infer_instance)
    fun body c₃ d₃ hb h₃ => ?_
  have hlt₃ := ((readersRead fuel).braces c₂).lt hb
  refine mirrors_onElse h₃ (fun h₄ => ?_) (mirrors_pure ?_ h₃)
  · have hle₄ := (c₃.skipNewlines_reads.trans c₃.skipNewlines.advance_reads).length_le
    have hlen₄ := h₄.length
    refine mirrors_bind (mirrors_alternative ih h₄ (by simp only [Fed]; omega) (by simp only [Fed]; omega))
      (fun _ => inferInstance) fun other c₅ d₅ _ h₅ => mirrors_pure ?_ h₅
    rw [shift, Span.join_shift, Span.join_shift, span_shift]
    rfl
  · rw [shift, Span.join_shift]
    rfl

theorem mirrors_called (name : String) (h : Alike S c d) (hkind : c.kind = .ident name)
    (hfuel : Fed 1 (fuel + 1) c) (hfuel' : Fed 1 fuel' d) :
    Mirrors (Alike S) (·.shift S.shift) ((called (fuel + 1) name).run c) ((called fuel' name).run d) := by
  obtain ⟨fuel', rfl⟩ := hfuel'.exists_succ
  simp only [Fed] at hfuel hfuel'
  have hlen := h.length
  rw [called_succ, called_succ]
  refine mirrors_bind (mirrors_token h (by simp [hkind]) (by simp [hkind]))
    (fun _ => inferInstance) fun start c₁ d₁ hs h₁ => ?_
  have hlt₁ := (token_eats c (by simp [hkind])).lt hs
  refine mirrors_bind (mirrors_accept (by simp) (by simp) (by simp) h₁.1) (fun _ => inferInstance)
    fun aborts c₂ d₂ ha h₂ => ?_
  have hle₂ := ((accept_reads c₁ _).to ha).length_le
  rw [run_cursor_bind, run_cursor_bind]
  by_cases hopen : c₂.kind = .lParen
  · rw [if_pos hopen, if_pos ((h₂.kind_iff (by simp) (by simp) (by simp)).2 hopen)]
    refine mirrors_bind (mirrors_token h₂ (by simp [hopen]) (by simp [hopen]))
      (fun _ => inferInstance) fun _ c₃ d₃ ht h₃ => ?_
    have hlt₃ := (token_eats c₂ (by simp [hopen])).lt ht
    have hlen₃ := h₃.1.length
    refine mirrors_bind (ih.list _ (by simp) (by simp) h₃.1 (by simp only [Fed]; omega)
      (by simp only [Fed]; omega)) (fun _ => inferInstance) fun arguments c₄ d₄ _ h₄ => ?_
    refine mirrors_bind (mirrors_token h₄.1 (by simp [h₄.2]) (by simp [h₄.2]))
      (fun _ => inferInstance) fun stop c₅ d₅ _ h₅ => ?_
    exact mirrors_callOf name start aborts arguments stop h₅.1
  · rw [if_neg hopen]
    exact .of_none rfl

theorem mirrors_statement (h : Alike S c d) (hfuel : Fed 5 (fuel + 1) c) (hfuel' : Fed 5 fuel' d) :
    Mirrors (Alike S) (·.shift S.shift) ((statement (fuel + 1)).run c) ((statement fuel').run d) := by
  obtain ⟨fuel', rfl⟩ := hfuel'.exists_succ
  simp only [Fed] at hfuel hfuel'
  have hlen := h.length
  by_cases hsingle : StartsSingle c
  · rw [statement_of_single fuel hsingle, statement_of_single fuel' ((startsSingle_iff h).2 hsingle)]
    unfold single
    refine mirrors_bind (mirrors_target h) (fun _ => inferInstance) fun place c₁ d₁ hp h₁ => ?_
    have hlt₁ := (target_eats c).lt hp
    refine mirrors_bind (mirrors_expect (by simp) (by simp) _ h₁) (fun _ => inferInstance)
      fun _ c₂ d₂ ha h₂ => ?_
    have hlt₂ := (expect_eats c₁ (by simp) _).lt ha
    refine mirrors_skipNewlines h₂.1 (fun hlost => bind_none (expression_ends _ _ (.inl hlost)))
      fun h₃ => ?_
    have hle₃ := c₂.skipNewlines_reads.length_le
    have hlen₃ := h₃.length
    refine mirrors_bind (ih.expression 0 h₃ (by simp only [Fed]; omega) (by simp only [Fed]; omega))
      (fun _ => inferInstance) fun value c₄ d₄ _ h₄ => mirrors_pure ?_ h₄
    rw [shift, Span.join_shift, span_shift]
    rfl
  · by_cases hdouble : StartsDouble c
    · rw [statement_of_double fuel hdouble, statement_of_double fuel' ((startsDouble_iff h).2 hdouble)]
      unfold double
      refine mirrors_bind (mirrors_target h) (fun _ => inferInstance) fun ok c₁ d₁ hp h₁ => ?_
      have hlt₁ := (target_eats c).lt hp
      refine mirrors_bind (mirrors_expect (by simp) (by simp) _ h₁) (fun _ => inferInstance)
        fun _ c₂ d₂ ha h₂ => ?_
      have hlt₂ := (expect_eats c₁ (by simp) _).lt ha
      refine mirrors_bind (mirrors_target h₂.1) (fun _ => inferInstance) fun err c₃ d₃ hp' h₃ => ?_
      have hlt₃ := (target_eats c₂).lt hp'
      refine mirrors_bind (mirrors_expect (by simp) (by simp) _ h₃) (fun _ => inferInstance)
        fun _ c₄ d₄ ha' h₄ => ?_
      have hlt₄ := (expect_eats c₃ (by simp) _).lt ha'
      refine mirrors_skipNewlines h₄.1 (fun hlost => bind_none (expression_ends _ _ (.inl hlost)))
        fun h₅ => ?_
      have hle₅ := c₄.skipNewlines_reads.length_le
      have hlen₅ := h₅.length
      refine mirrors_bind (ih.expression 0 h₅ (by simp only [Fed]; omega) (by simp only [Fed]; omega))
        (fun _ => inferInstance) fun value c₆ d₆ _ h₆ => mirrors_pure ?_ h₆
      rw [shift, Span.join_shift, span_shift]
      rfl
    · rw [statement_of_neither fuel hsingle hdouble, statement_of_neither fuel'
        (fun hs => hsingle ((startsSingle_iff h).1 hs)) (fun hd => hdouble ((startsDouble_iff h).1 hd))]
      exact ih.expression 0 h (by simp only [Fed]; omega) (by simp only [Fed]; omega)

theorem mirrors_body (h : Alike S c d) (hfuel : Fed 6 (fuel + 1) c) (hfuel' : Fed 6 fuel' d)
    (hclosed : ((statements (fuel + 1) true).run c).2.kind = .rBrace) :
    Mirrors (Alike S) (shiftAll S.shift) ((statements (fuel + 1) true).run c)
      ((statements fuel' true).run d) := by
  obtain ⟨fuel', rfl⟩ := hfuel'.exists_succ
  intro es c' hrun hclean
  rw [hrun] at hclosed
  have hinv := exists_of_statements h.valid hfuel hrun hclean
  simp only [Fed] at hfuel hfuel'
  have hle₁ := c.skipSeparators_reads.length_le
  have hle₁' := d.skipSeparators_reads.length_le
  rcases skipSeparators_alike h with ⟨h₁, hkind, -⟩ | ⟨hlost, -⟩
  · rcases hinv with ⟨-, rfl, rfl⟩ | ⟨e, c₁, rest, hbrace, heof, he, hcloses, hrest, rfl⟩
    · -- the closing brace
      refine ⟨d.skipSeparators, statements_of_stops fuel' (.inr ⟨rfl, ?_⟩), h₁⟩
      exact (h₁.kind_iff (by simp) (by simp) (by simp)).2 hclosed
    · have hkept := (((readersRead fuel).statements true c₁).to hrest).clean hclean
      obtain ⟨d₁, he', h₂⟩ : ∃ d₁, (statement fuel').run d.skipSeparators = (some (e.shift S.shift), d₁) ∧
          Alike S c₁ d₁ :=
        ih.statement h₁ (by simp only [Fed]; omega) (by simp only [Fed]; omega) e c₁ he hkept
      have hlt₂ := ((readersRead fuel).statement c.skipSeparators).lt he
      have hlt₂' := ((readersRead fuel').statement d.skipSeparators).lt he'
      have hclosed₁ : ((statements fuel true).run c₁).2.kind = .rBrace := by
        rw [hrest]
        exact hclosed
      obtain ⟨d', hrest', h'⟩ : ∃ d', (statements fuel' true).run d₁ = (some (shiftAll S.shift rest), d') ∧
          Alike S c' d' :=
        ih.body h₂ (by simp only [Fed]; omega) (by simp only [Fed]; omega) hclosed₁ rest c' hrest hclean
      have hcloses' : Closes true d₁ := by
        rcases h₂.tokens_or_kind with ⟨hends, -⟩ | hkind₁
        · exact absurd hclosed₁ (kind_ne_rBrace_of_ends hends fuel)
        · rwa [Closes, hkind₁]
      exact ⟨d', statements_of_closes (hkind ▸ hbrace) (hkind ▸ heof) he' hcloses' hrest', h'⟩
  · -- at the seam no body is closed
    rcases hinv with ⟨-, rfl, rfl⟩ | ⟨e, c₁, rest, hbrace, heof, -⟩
    · rw [hlost] at hclosed
      cases hclosed
    · exact absurd hlost heof

end Mirror

/-- Up to a seam, and with fuel for their tokens, all readers find what they find in the program alone. -/
theorem readersMirror (S : Seam) (fuel : Nat) : ReadersMirror S fuel := by
  induction fuel with
  | zero =>
    exact
      { expression := fun {_} _ {_ _} _ hfuel _ => absurd hfuel not_fed_zero
        operators := fun {_} _ _ {_ _} _ hfuel _ => absurd hfuel not_fed_zero
        prefixed := fun _ hfuel _ => absurd hfuel not_fed_zero
        primary := fun _ hfuel _ => absurd hfuel not_fed_zero
        list := fun {_ _} _ {_ _} _ _ _ hfuel _ => absurd hfuel not_fed_zero
        entries := fun _ hfuel _ => absurd hfuel not_fed_zero
        braces := fun _ hfuel _ => absurd hfuel not_fed_zero
        branching := fun _ _ hfuel _ => absurd hfuel not_fed_zero
        called := fun {_} _ {_ _} _ _ hfuel _ => absurd hfuel not_fed_zero
        statement := fun _ hfuel _ => absurd hfuel not_fed_zero
        body := fun _ hfuel _ _ => absurd hfuel not_fed_zero }
  | succ fuel ih =>
    exact
      { expression := fun level => mirrors_expression ih level
        operators := fun level e => mirrors_operators ih level e
        prefixed := mirrors_prefixed ih
        primary := mirrors_primary ih
        list := fun expected => mirrors_list ih expected
        entries := mirrors_entries ih
        braces := mirrors_braces ih
        branching := mirrors_branching ih
        called := fun name => mirrors_called ih name
        statement := mirrors_statement ih
        body := mirrors_body ih }

end Expr

end Reshape
