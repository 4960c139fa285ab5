/-
Where operands end.

The lexer tells a minus that is an operator from one that is the sign of a number by the token in front of it: behind a
token that `endsOperand` no number with a sign starts.  These are tokens that the readers stop at: the last token that
is taken for an expression, or for a statement, is one of them.

* `Expr.readersEnd` — the last tokens that readers take, whatever their fuel;
* `Expr.exists_own_of_statements` — the tokens of a single statement;
* `Expr.endsOperand_of_parse` — the last token of a program of one statement.
-/
import Reshape.Proofs.Regions

namespace Reshape

/-- The last of the tokens can end an operand. -/
def EndsOperand (ts : List Token) : Prop :=
  ∃ t, ts.getLast? = some t ∧ t.kind.endsOperand = true

/-- Tokens that go on with an operand, if there are any. -/
def Prolongs (ts : List Token) : Prop :=
  ts = [] ∨ EndsOperand ts

variable {α β : Type} {P : List Token → α → Cursor → Prop} {c c' : Cursor} {front more : List Token}

theorem endsOperand_of_scalar {kind : TokenKind} {v : Scalar} (h : Scalar.ofToken? kind = some v) :
    kind.endsOperand = true := by
  cases kind with
  | string | integer | float | timestamp | kwTrue | kwFalse | kwNull => rfl
  | _ => cases h

theorem EndsOperand.single {t : Token} (h : t.kind.endsOperand = true) : EndsOperand [t] :=
  ⟨t, rfl, h⟩

theorem EndsOperand.lead (h : EndsOperand more) (front : List Token) : EndsOperand (front ++ more) := by
  obtain ⟨t, ht, hkind⟩ := h
  exact ⟨t, by rw [List.getLast?_append, ht]; rfl, hkind⟩

theorem Prolongs.ends (h : Prolongs more) (hfront : EndsOperand front) : EndsOperand (front ++ more) := by
  rcases h with rfl | h
  · rwa [List.append_nil]
  · exact h.lead front

namespace Parse

/-! ### Steps in a row -/

/-- What is taken last. -/
theorem ends_bind {p : Parse α} {f : α → Parse β} (hp : Takes P c (p.run c))
    (hf : ∀ front a c', Moves c c' front → P front a c' →
      Takes (fun more _ _ => EndsOperand more) c' ((f a).run c')) :
    Takes (fun front _ _ => EndsOperand front) c ((p >>= f).run c) :=
  takes_bind hp fun front a c' hmoves hfront => (hf front a c' hmoves hfront).imp fun _ _ hmore => hmore.lead front

theorem ends_map {p : Parse α} (hp : Takes (fun front _ _ => EndsOperand front) c (p.run c)) (f : α → β) :
    Takes (fun front _ _ => EndsOperand front) c ((p >>= fun a => pure (f a)).run c) :=
  takes_map hp fun _ _ _ _ hfront => hfront

theorem ends_token (h : c.kind.endsOperand = true) :
    Takes (fun front _ _ => EndsOperand front) c (token.run c) := by
  have heof : c.kind ≠ .eof := by
    intro heof
    rw [heof] at h
    cases h
  intro t ht
  rw [← Cursor.kind_current] at h
  exact ⟨[c.current], Cursor.advance_moves heof, .single h⟩

theorem ends_expect {kind : TokenKind} (h : kind.endsOperand = true) (expected : String) :
    Takes (fun front _ _ => EndsOperand front) c ((expect kind expected).run c) := by
  rw [run_expect]
  split
  · rename_i hkind
    exact ends_token (hkind ▸ h)
  · exact .of_none rfl

end Parse

namespace Expr

open Parse

/-- The sign of an index takes no tokens. -/
theorem ends_signed {p : Parse α} (hp : Takes (fun front _ _ => EndsOperand front) c (p.run c)) (negative : Bool)
    (i : Int64) : Takes (fun front _ _ => EndsOperand front) c ((p >>= fun _ => signed negative i).run c) := by
  refine takes_bind hp fun front _ c' _ hfront => ?_
  rw [run_signed]
  split
  · exact .of_none rfl
  · exact takes_pure (by simpa using hfront)

theorem ends_indexSuffix (c : Cursor) : Takes (fun front _ _ => EndsOperand front) c (indexSuffix.run c) := by
  rw [indexSuffix_eq]
  refine ends_bind (takes_expect (by simp) _) fun _ _ c₁ _ _ => ?_
  refine ends_bind (takes_accept (by simp)) fun _ negative c₂ _ _ => ?_
  rw [run_cursor_bind]
  split
  · rename_i i hkind
    refine ends_bind (takes_token (by simp [hkind])) fun _ _ c₃ _ _ => ?_
    exact ends_signed (ends_expect rfl _) negative i
  · exact .of_none rfl

theorem ends_suffix? {e : Expr} {read : Parse Path} (h : suffix? e c = some read) :
    Takes (fun front _ _ => EndsOperand front) c (read.run c) := by
  unfold suffix? at h
  split at h
  · split at h
    · cases h
    · rename_i p _ hkind
      obtain rfl := Option.some.inj h
      exact ends_map (ends_token (by rw [hkind]; rfl)) _
    · obtain rfl := Option.some.inj h
      exact ends_map (ends_indexSuffix c) _
    · cases h
  · cases h

theorem prolongs_suffixes (fuel : Nat) (e : Expr) (c : Cursor) :
    Takes (fun front _ _ => Prolongs front) c ((suffixes fuel e).run c) := by
  induction fuel generalizing e c with
  | zero => exact takes_pure (.inl rfl)
  | succ fuel ih =>
    unfold suffixes
    rw [run_cursor_bind]
    split
    · exact takes_pure (.inl rfl)
    · rename_i read hread
      refine takes_bind (ends_suffix? hread) fun front p c₁ _ hfront => ?_
      rw [run_cursor_bind]
      exact (ih _ c₁).imp fun _ _ hmore => .inr (hmore.ends hfront)

/-- Behind the closing parenthesis of a call nothing more is taken. -/
theorem callOf_takes_nothing (name : String) (start stop : Token) (aborts : Bool) (arguments : List Expr) (c : Cursor) :
    Takes (fun front _ _ => front = []) c ((callOf name start aborts arguments stop).run c) := by
  unfold callOf
  dsimp only
  split
  · split
    · exact takes_pure rfl
    · exact .of_none rfl
    · exact .of_none rfl
  · exact takes_pure rfl

/-! ### Braces and calls -/

theorem ends_braces (fuel : Nat) {c : Cursor} (hc : c.InOrder) :
    Takes (fun front _ _ => EndsOperand front) c ((braces fuel).run c) := by
  cases fuel with
  | zero => exact .of_none rfl
  | succ fuel =>
    rw [braces]
    refine ends_bind (takes_expect (by simp) _) fun _ start c₁ h₁ _ => ?_
    refine ends_bind ((readersTake fuel).statements true (h₁.inOrder hc)) fun _ body c₂ _ _ => ?_
    rw [run_cursor_bind]
    split
    · rename_i hclose
      exact ends_map (ends_token (by rw [hclose]; rfl)) _
    · exact .of_none rfl

theorem ends_called (fuel : Nat) (name : String) {c : Cursor} (hc : c.InOrder) (heof : c.kind ≠ .eof) :
    Takes (fun front _ _ => EndsOperand front) c ((called fuel name).run c) := by
  cases fuel with
  | zero => exact .of_none rfl
  | succ fuel =>
    rw [called_succ]
    refine ends_bind (takes_token heof) fun _ start c₁ h₁ _ => ?_
    refine ends_bind (takes_accept (by simp)) fun _ aborts c₂ h₂ _ => ?_
    rw [run_cursor_bind]
    split
    · rename_i hkind
      refine ends_bind (takes_token (by simp [hkind])) fun _ _ c₃ h₃ _ => ?_
      have hc₃ := (h₁.trans (h₂.trans h₃)).inOrder hc
      refine ends_bind ((readersTake fuel).list _ _ hc₃) fun _ arguments c₄ _ harguments => ?_
      refine takes_bind (ends_token (by rw [harguments.2]; rfl)) fun front stop c₅ _ hstop => ?_
      exact (callOf_takes_nothing name start stop aborts arguments c₅).imp fun _ _ hmore => by
        simpa [hmore] using hstop
    · exact .of_none rfl

/-! ### All readers -/

/-- What all readers take last with so much fuel. -/
structure ReadersEnd (fuel : Nat) : Prop where
  expression : ∀ level {c}, c.InOrder →
    Takes (fun front _ _ => EndsOperand front) c ((expression fuel level).run c)
  operators : ∀ level e {c}, c.InOrder → Takes (fun front _ _ => Prolongs front) c ((operators fuel level e).run c)
  prefixed : ∀ {c}, c.InOrder → Takes (fun front _ _ => EndsOperand front) c ((prefixed fuel).run c)
  primary : ∀ {c}, c.InOrder → Takes (fun front _ _ => EndsOperand front) c ((primary fuel).run c)
  branching : ∀ {c}, c.InOrder → c.kind ≠ .eof →
    Takes (fun front _ _ => EndsOperand front) c ((branching fuel).run c)
  statement : ∀ {c}, c.InOrder → Takes (fun front _ _ => EndsOperand front) c ((statement fuel).run c)

section End

variable {fuel : Nat} (h : ReadersEnd fuel) {c : Cursor} (hc : c.InOrder)

include h hc

theorem ends_expression (level : Nat) :
    Takes (fun front _ _ => EndsOperand front) c ((expression (fuel + 1) level).run c) := by
  rw [expression]
  exact takes_bind (h.prefixed hc) fun front e c₁ h₁ hfront =>
    (h.operators level e (h₁.inOrder hc)).imp fun _ _ hmore => hmore.ends hfront

theorem prolongs_operators (level : Nat) (e : Expr) :
    Takes (fun front _ _ => Prolongs front) c ((operators (fuel + 1) level e).run c) := by
  rw [operators, run_cursor_bind]
  split
  · exact takes_pure (.inl rfl)
  · rename_i op hop
    split
    · exact takes_pure (.inl rfl)
    · have heof : c.kind ≠ .eof := by
        intro heof
        rw [heof] at hop
        cases hop
      refine takes_bind (takes_token heof) fun sign _ c₁ h₁ _ => ?_
      refine takes_bind (takes_skipNewlines c₁) fun newlines _ c₂ h₂ _ => ?_
      have hc₂ := (h₁.trans h₂).inOrder hc
      refine takes_bind (h.expression _ hc₂) fun front right c₃ h₃ hright => ?_
      refine (h.operators level _ (h₃.inOrder hc₂)).imp fun more _ hmore => .inr ?_
      exact ((hmore.ends hright).lead newlines).lead sign

theorem ends_prefixed : Takes (fun front _ _ => EndsOperand front) c ((prefixed (fuel + 1)).run c) := by
  rw [prefixed, run_cursor_bind]
  split
  · rename_i op hop
    have heof : c.kind ≠ .eof := by
      intro heof
      rw [heof] at hop
      cases hop
    exact ends_bind (takes_token heof) fun _ _ c₁ h₁ _ => ends_map (h.expression _ (h₁.inOrder hc)) _
  · refine takes_bind (h.primary hc) fun front e c₁ h₁ hfront => ?_
    split
    · exact takes_pure (by simpa using hfront)
    · exact (prolongs_suffixes fuel e c₁).imp fun _ _ hmore => hmore.ends hfront

theorem ends_primary : Takes (fun front _ _ => EndsOperand front) c ((primary (fuel + 1)).run c) := by
  rw [primary, run_cursor_bind]
  split
  · rename_i value hvalue
    exact ends_map (ends_token (endsOperand_of_scalar hvalue)) _
  · split
    · rename_i p hkind
      exact ends_map (ends_token (by rw [hkind]; rfl)) _
    · rename_i hkind
      refine ends_bind (takes_token (by simp [hkind])) fun _ start c₁ h₁ _ => ?_
      refine ends_bind ((readersTake fuel).list _ _ (h₁.inOrder hc)) fun _ items c₂ _ hitems => ?_
      exact ends_map (ends_token (by rw [hitems.2]; rfl)) _
    · rename_i hkind
      split
      · refine ends_bind (takes_token (by simp [hkind])) fun _ start c₁ h₁ _ => ?_
        refine ends_bind ((readersTake fuel).entries (h₁.inOrder hc)) fun _ fields c₂ _ hfields => ?_
        exact ends_map (ends_token (by rw [hfields.2]; rfl)) _
      · exact ends_map (ends_braces fuel hc) _
    · rename_i hkind
      refine ends_bind (takes_token (by simp [hkind])) fun _ start c₁ h₁ _ => ?_
      refine ends_bind (takes_skipNewlines c₁) fun _ _ c₂ h₂ _ => ?_
      refine ends_bind (h.expression _ ((h₁.trans h₂).inOrder hc)) fun _ e c₃ _ _ => ?_
      refine ends_bind (takes_skipNewlines c₃) fun _ _ c₄ _ _ => ?_
      exact ends_map (ends_expect rfl _) _
    · rename_i hkind
      exact h.branching hc (by simp [hkind])
    · rename_i name hkind
      exact ends_called fuel name hc (by simp [hkind])
    · exact .of_none rfl

theorem ends_alternative : Takes (fun front _ _ => EndsOperand front) c ((alternative fuel).run c) := by
  rw [alternative, run_cursor_bind]
  split
  · rename_i hkind
    exact h.branching hc (by simp [hkind])
  · exact ends_map (ends_braces fuel hc) _

theorem ends_branching (heof : c.kind ≠ .eof) :
    Takes (fun front _ _ => EndsOperand front) c ((branching (fuel + 1)).run c) := by
  rw [branching_succ]
  refine ends_bind (takes_token heof) fun _ start c₁ h₁ _ => ?_
  refine ends_bind (h.expression _ (h₁.inOrder hc)) fun _ condition c₂ h₂ _ => ?_
  have hc₂ := (h₁.trans h₂).inOrder hc
  refine takes_bind (ends_braces fuel hc₂) fun front body c₃ h₃ hbody => ?_
  dsimp only
  rw [run_onElse]
  split
  · rename_i helse
    obtain ⟨newlines, h₄⟩ := c₃.skipNewlines_reads.moves
    have hskip : c₃.skipNewlines.kind ≠ .eof := by simp [helse]
    have h₅ := h₄.trans (Cursor.advance_moves hskip)
    refine h₅.takes (takes_map (ends_alternative h ((h₃.trans h₅).inOrder hc₂)) fun more other c₆ _ hother => ?_)
    exact (hother.lead _).lead front
  · -- without an alternative the tokens are those up to the closing brace
    exact takes_pure (by simpa using hbody)

theorem ends_statement : Takes (fun front _ _ => EndsOperand front) c ((statement (fuel + 1)).run c) := by
  rw [statement, run_cursor_bind]
  split
  · refine ends_bind (takes_target c) fun _ place c₁ h₁ _ => ?_
    refine ends_bind (takes_expect (by simp) _) fun _ _ c₂ h₂ _ => ?_
    refine ends_bind (takes_skipNewlines c₂) fun _ _ c₃ h₃ _ => ?_
    exact ends_map (h.expression 0 ((h₁.trans (h₂.trans h₃)).inOrder hc)) _
  · refine ends_bind (takes_target c) fun _ ok c₁ h₁ _ => ?_
    refine ends_bind (takes_expect (by simp) _) fun _ _ c₂ h₂ _ => ?_
    refine ends_bind (takes_target c₂) fun _ err c₃ h₃ _ => ?_
    refine ends_bind (takes_expect (by simp) _) fun _ _ c₄ h₄ _ => ?_
    refine ends_bind (takes_skipNewlines c₄) fun _ _ c₅ h₅ _ => ?_
    exact ends_map (h.expression 0 ((h₁.trans (h₂.trans (h₃.trans (h₄.trans h₅)))).inOrder hc)) _
  · exact h.expression 0 hc

end End

/-- The last tokens that readers take, whatever their fuel. -/
theorem readersEnd (fuel : Nat) : ReadersEnd fuel := by
  induction fuel with
  | zero =>
    exact
      { expression := fun _ _ _ => .of_none rfl
        operators := fun _ _ _ _ => takes_pure (.inl rfl)
        prefixed := fun _ => .of_none rfl
        primary := fun _ => .of_none rfl
        branching := fun _ _ => .of_none rfl
        statement := fun _ => .of_none rfl }
  | succ fuel ih =>
    exact
      { expression := fun level _ hc => ends_expression ih hc level
        operators := fun level e _ hc => prolongs_operators ih hc level e
        prefixed := ends_prefixed ih
        primary := ends_primary ih
        branching := ends_branching ih
        statement := ends_statement ih }

/-! ### A statement alone -/

/-- The tokens of a statement that is alone, up to one that can end an operand. -/
theorem exists_own_of_statements {fuel : Nat} {c c' : Cursor} {e : Expr} (hc : c.Valid) (hfuel : Fed 6 fuel c)
    (h : (statements fuel false).run c = (some [e], c')) (hclean : c'.notes = []) (horder : c.InOrder) :
    ∃ front own back, c.tokens = front ++ (own ++ back) ∧ Spans own e.span ∧ EndsOperand own := by
  cases fuel with
  | zero => simp [Fed] at hfuel
  | succ fuel =>
    obtain ⟨seps, h₀, -⟩ := c.exists_skipSeparators_moves
    rcases exists_of_statements hc hfuel h hclean with ⟨-, hnone, -⟩ | ⟨e', c₁, rest, -, -, he, -, -, hes⟩
    · cases hnone
    · obtain ⟨rfl, -⟩ := List.cons.inj hes
      have htakes := (readersTake fuel).statement (h₀.inOrder horder)
      have hends := (readersEnd fuel).statement (h₀.inOrder horder)
      rw [he] at htakes hends
      obtain ⟨own, hmoves, hplaced⟩ := htakes e rfl
      obtain ⟨own', hmoves', hown'⟩ := hends e rfl
      obtain rfl : own = own' := List.append_cancel_right (hmoves.tokens.symm.trans hmoves'.tokens)
      exact ⟨seps, own, c₁.tokens, by rw [h₀.tokens, hmoves.tokens], hplaced.region, hown'⟩

/-- The last token of a program that is one statement can end an operand, unless it separates statements. -/
theorem endsOperand_of_parse {source : String} {e : Expr} {front : List Token} {last stop : Token}
    (hlex : (tokenize source).2 = []) (hparse : parse (tokenize source).1 = .ok ([e], []))
    (htokens : (tokenize source).1 = front ++ [last, stop]) (hlast : ¬last.Separates) :
    last.kind.endsOperand = true := by
  have htiling : Tiling source.toList (tokenize source).1 := Lexer.tiling_run source.toList
  obtain ⟨fuel, c, c', hc, hvalid, horder, hfed, hrun, hclean⟩ := exists_run_of_parse hlex hparse
  obtain ⟨before, own, back, hown, ⟨first, final, -, hfinal, hregion⟩, t, ht, hkind⟩ :=
    exists_own_of_statements hvalid hfed hrun hclean horder
  obtain rfl : t = final := Option.some.inj (ht.symm.trans hfinal)
  have hmem : t ∈ front ++ [last, stop] := by
    rw [← htokens, ← hc, hown]
    exact List.mem_append_right _ (List.mem_append_left _ (List.mem_of_getLast? hfinal))
  -- the statement goes as far as the token does
  have hlines := lines_of_parse hlex hparse
  have hinside : last.span.Inside e.span := by
    have hcount := hlines.countP_inside htiling.inOrder (by rw [htokens]; simp) hlast
    by_contra houtside
    simp [houtside] at hcount
  have hle : last.span.stop ≤ t.span.stop := by
    rw [← show e.span.stop = t.span.stop by rw [hregion]]
    exact hinside.2
  obtain ⟨inner, eof, hinner, hproper, heof, -⟩ := htiling.stop
  have hordered := htiling.ordered
  rw [htokens] at hinner hordered
  rw [show front ++ [last, stop] = (front ++ [last]) ++ [stop] by simp] at hinner
  obtain ⟨hfront, hstop⟩ := List.append_inj' hinner rfl
  obtain rfl : stop = eof := List.singleton_inj.1 hstop
  have hwide : last.span.start < last.span.stop := (hproper last (by rw [← hfront]; simp)).2
  rcases List.mem_append.1 hmem with hmem | hmem
  · have hbefore := (List.pairwise_append.1 hordered).2.2 t hmem last (by simp)
    omega
  · simp only [List.mem_cons, List.not_mem_nil, or_false] at hmem
    rcases hmem with rfl | rfl
    · exact hkind
    · rw [heof] at hkind
      cases hkind

end Expr

end Reshape
