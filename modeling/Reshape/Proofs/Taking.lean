/-
Which tokens a reader takes.

A reader that gives a result has taken the tokens up to where its cursor then stands, and the cursor knows the last of
them.  An expression is `Placed` on the tokens taken for it, and so are the expressions of a list, one behind the other,
with line breaks, separators and abandoned statements between them.  That holds whatever is reported on the way.

* `Parse.takes_bind` — readers in a row take the tokens of each, in a row;
* `Expr.readersTake` — what all readers take, whatever their fuel.
-/
import Reshape.Proofs.Nesting
import Reshape.Proofs.Statements

namespace Reshape

/-- The tokens left are in order. -/
def Cursor.InOrder (c : Cursor) : Prop :=
  Reshape.InOrder c.tokens

theorem Moves.inOrder {c c' : Cursor} {front : List Token} (h : Moves c c' front) (hc : c.InOrder) : c'.InOrder := by
  have hsuffix : c'.tokens <:+ c.tokens := ⟨front, h.tokens.symm⟩
  exact Reshape.InOrder.of_infix hc hsuffix.isInfix

/-- The tokens passed are in order. -/
theorem Moves.ordered {c c' : Cursor} {front : List Token} (h : Moves c c' front) (hc : c.InOrder) :
    Ordered front := by
  have hprefix : front <+: c.tokens := ⟨c'.tokens, h.tokens.symm⟩
  exact (Reshape.InOrder.of_infix hc hprefix.isInfix).ordered h.inner

/-- If the reader gives a result, it has taken tokens of which `P` says what they are. -/
def Takes {α : Type} (P : List Token → α → Cursor → Prop) (c : Cursor) (r : Option α × Cursor) : Prop :=
  ∀ a, r.1 = some a → ∃ front, Moves c r.2 front ∧ P front a r.2

variable {α β : Type} {P P' : List Token → α → Cursor → Prop} {Q : List Token → β → Cursor → Prop} {c c' : Cursor}
  {front : List Token}

theorem Takes.imp {r : Option α × Cursor} (h : Takes P c r) (hP : ∀ front a, P front a r.2 → P' front a r.2) :
    Takes P' c r := by
  intro a ha
  obtain ⟨front, hmoves, hfront⟩ := h a ha
  exact ⟨front, hmoves, hP front a hfront⟩

theorem Takes.of_none {r : Option α × Cursor} (hr : r.1 = none) : Takes P c r := by
  intro a ha
  rw [hr] at ha
  cases ha

/-- Tokens that are passed before. -/
theorem Moves.takes {r : Option α × Cursor} (h : Moves c c' front)
    (hr : Takes (fun more a d => P (front ++ more) a d) c' r) : Takes P c r := by
  intro a ha
  obtain ⟨more, hmoves, hmore⟩ := hr a ha
  exact ⟨front ++ more, h.trans hmoves, hmore⟩

namespace Parse

/-! ### Steps in a row -/

theorem takes_bind {p : Parse α} {f : α → Parse β} (hp : Takes P c (p.run c))
    (hf : ∀ front a c', Moves c c' front → P front a c' →
      Takes (fun more b d => Q (front ++ more) b d) c' ((f a).run c')) : Takes Q c ((p >>= f).run c) := by
  rcases h : p.run c with ⟨_ | a, c'⟩
  · rw [run_bind_none h]
    exact .of_none rfl
  · rw [run_bind_some h]
    rw [h] at hp
    obtain ⟨front, hmoves, hfront⟩ := hp a rfl
    exact hmoves.takes (hf front a c' hmoves hfront)

theorem takes_pure {a : α} (h : P [] a c) : Takes P c ((pure a : Parse α).run c) := by
  intro b hb
  obtain rfl := Option.some.inj hb
  exact ⟨[], .refl c, h⟩

/-- A last step and what is made of its result. -/
theorem takes_map {p : Parse α} {f : α → β} (hp : Takes P c (p.run c))
    (hf : ∀ front a c', Moves c c' front → P front a c' → Q front (f a) c') :
    Takes Q c ((p >>= fun a => pure (f a)).run c) :=
  takes_bind hp fun front a c' hmoves hfront => takes_pure (by simpa using hf front a c' hmoves hfront)

theorem takes_token (h : c.kind ≠ .eof) : Takes (fun front t _ => front = [t]) c (token.run c) := by
  intro t ht
  obtain rfl := Option.some.inj ht
  exact ⟨[c.current], Cursor.advance_moves h, rfl⟩

theorem takes_expect {kind : TokenKind} (hkind : kind ≠ .eof) (expected : String) :
    Takes (fun front t _ => front = [t]) c ((expect kind expected).run c) := by
  rw [run_expect]
  split
  · rename_i h
    exact takes_token (h ▸ hkind)
  · exact .of_none rfl

theorem takes_accept {kind : TokenKind} (hkind : kind ≠ .eof) :
    Takes (fun _ _ _ => True) c ((accept kind).run c) := by
  rw [run_accept]
  intro b hb
  split
  · rename_i h
    exact ⟨[c.current], Cursor.advance_moves (h ▸ hkind), trivial⟩
  · exact ⟨[], .refl c, trivial⟩

theorem takes_skipNewlines (c : Cursor) : Takes (fun _ _ _ => True) c (skipNewlines.run c) := by
  intro _ _
  obtain ⟨front, hmoves⟩ := c.skipNewlines_reads.moves
  exact ⟨front, hmoves, trivial⟩

end Parse

namespace Expr

open Parse

theorem takes_target (c : Cursor) : Takes (fun front place _ => Spans front place.span) c (target.run c) := by
  unfold target
  rw [run_cursor_bind]
  split
  · rename_i p hkind
    refine takes_map (takes_token (by simp [hkind])) ?_
    rintro _ t c₁ h₁ rfl
    exact .token t
  · exact .of_none rfl

theorem takes_signed (negative : Bool) (i : Int64) (c : Cursor) :
    Takes (fun _ _ _ => True) c ((signed negative i).run c) := by
  rw [run_signed]
  split
  · exact .of_none rfl
  · exact takes_pure trivial

theorem takes_indexSuffix (c : Cursor) : Takes (fun front _ _ => front ≠ []) c (indexSuffix.run c) := by
  rw [indexSuffix_eq]
  refine takes_bind (takes_expect (by simp) _) ?_
  rintro _ start c₁ h₁ rfl
  refine takes_bind (takes_accept (by simp)) fun sign negative c₂ h₂ _ => ?_
  rw [run_cursor_bind]
  split
  · rename_i i hkind
    refine takes_bind (takes_token (by simp [hkind])) fun number _ c₃ h₃ _ => ?_
    refine takes_bind (takes_expect (by simp) _) fun stop _ c₄ h₄ _ => ?_
    exact (takes_signed negative i c₄).imp fun _ _ _ => by simp
  · exact .of_none rfl

theorem takes_suffix? {e : Expr} {read : Parse Path} (h : suffix? e c = some read) :
    Takes (fun front _ _ => front ≠ []) c (read.run c) := by
  unfold suffix? at h
  split at h
  · split at h
    · cases h
    · rename_i p _ hkind
      obtain rfl := Option.some.inj h
      refine takes_map (takes_token (by simp [hkind])) ?_
      rintro _ t c₁ h₁ rfl
      simp
    · obtain rfl := Option.some.inj h
      exact takes_map (takes_indexSuffix c) fun _ _ _ _ hne => hne
    · cases h
  · cases h

/-- The region of a value and its suffix. -/
theorem placed_access {c₀ : Cursor} {own : List Token} {e : Expr} (hc₀ : c₀.InOrder) (hown : Moves c₀ c own)
    (he : Placed own e) (hmoves : Moves c c' front) (hne : front ≠ []) (p : Path) :
    Placed (own ++ front) (access (e.span.join c'.last) e p) := by
  obtain ⟨init, t, rfl⟩ : ∃ init t, front = init ++ [t] := ⟨_, _, (List.dropLast_concat_getLast hne).symm⟩
  have hlast : c'.last = t.span := by rw [hmoves.last, List.getLast?_concat]; rfl
  have hordered := (hown.trans hmoves).ordered hc₀
  rw [hlast]
  exact .of_children (he.region.join (.token t) (List.suffix_append init [t]) hordered) rfl (he.all.trail _)

theorem takes_suffixes (fuel : Nat) {c₀ c : Cursor} {own : List Token} {e : Expr} (hc₀ : c₀.InOrder)
    (hown : Moves c₀ c own) (he : Placed own e) :
    Takes (fun front e' _ => Placed (own ++ front) e') c ((suffixes fuel e).run c) := by
  induction fuel generalizing e c own with
  | zero => exact takes_pure (by simpa using he)
  | succ fuel ih =>
    unfold suffixes
    rw [run_cursor_bind]
    split
    · exact takes_pure (by simpa using he)
    · rename_i read hread
      refine takes_bind (takes_suffix? hread) fun front p c₁ h₁ hne => ?_
      rw [run_cursor_bind]
      simpa only [List.append_assoc] using ih (hown.trans h₁) (placed_access hc₀ hown he h₁ hne p)

/-- A prefix operator adds its token to the region, whether it becomes part of a number or not. -/
theorem placed_applyPrefix {op : UnaryOp} {t : Token} {front : List Token} {operand : Expr}
    (hordered : Ordered ([t] ++ front)) (hoperand : Placed front operand) :
    Placed ([t] ++ front) (applyPrefix op (t.span.join operand.span) operand) := by
  have hspan := (Spans.token t).join hoperand.region (List.suffix_refl front) hordered
  unfold applyPrefix
  split
  · split
    · exact .of_children hspan rfl (hoperand.all.lead _)
    · exact .of_children hspan rfl (.nil _)
  · exact .of_children hspan rfl (.nil _)
  · exact .of_children hspan rfl (hoperand.all.lead _)

/-- A call, or the removal of a place, which is its only argument. -/
theorem takes_callOf {name : String} {start stop : Token} {aborts : Bool} {arguments : List Expr}
    {front : List Token} {c : Cursor} (hspan : Spans ([start] ++ front) (start.span.join stop.span))
    (harguments : PlacedAll front arguments) :
    Takes (fun more e _ => Placed ([start] ++ front ++ more) e) c
      ((callOf name start aborts arguments stop).run c) := by
  unfold callOf
  dsimp only
  split
  · split
    · rename_i s p
      rw [← List.append_nil ([start] ++ front)] at hspan
      have hdelete : Placed ([start] ++ front ++ []) (delete (start.span.join stop.span) ⟨p, s⟩ aborts) :=
        .node hspan (harguments.row.lead [start]) (.nil [])
      exact takes_pure hdelete
    · exact .of_none rfl
    · exact .of_none rfl
  · have hcall : Placed ([start] ++ front)
        (call (start.span.join stop.span) ⟨name, start.span, aborts⟩ arguments) :=
      .node hspan (.single (.token start)) harguments
    exact takes_pure (by simpa using hcall)

/-! ### All readers -/

/-- An item is in front, and a list goes on or is over. -/
theorem takes_follow {α : Type} {g : α → Expr} {c : Cursor} {own : List Token} (close : TokenKind) (expected : String)
    {item : α} {more : Parse (List α)} (hc : c.InOrder) (hitem : Placed own (g item))
    (hmore : ∀ {d : Cursor}, d.InOrder →
      Takes (fun front items d => PlacedAll front (items.map g) ∧ d.kind = close) d (more.run d)) :
    Takes (fun front items d => PlacedAll (own ++ front) (items.map g) ∧ d.kind = close) c
      ((follow close expected item more).run c) := by
  unfold follow
  refine takes_bind (takes_skipNewlines c) fun newlines _ c₁ h₁ _ => ?_
  refine takes_bind (takes_accept (by simp)) fun sign comma c₂ h₂ _ => ?_
  split
  · refine takes_map (hmore ((h₁.trans h₂).inOrder hc)) fun front items c₃ h₃ hitems => ?_
    obtain ⟨hall, hclose⟩ := hitems
    exact ⟨hitem.all.append ((hall.lead sign).lead newlines), hclose⟩
  · rw [run_cursor_bind]
    split
    · rename_i hclose
      exact takes_pure ⟨hitem.all.trail _, hclose⟩
    · exact .of_none rfl

/-- What all readers take with so much fuel. -/
structure ReadersTake (fuel : Nat) : Prop where
  expression : ∀ level {c}, c.InOrder →
    Takes (fun front e _ => Placed front e) c ((expression fuel level).run c)
  operators : ∀ level {c₀ c own e}, c₀.InOrder → Moves c₀ c own → Placed own e →
    Takes (fun front e' _ => Placed (own ++ front) e') c ((operators fuel level e).run c)
  prefixed : ∀ {c}, c.InOrder → Takes (fun front e _ => Placed front e) c ((prefixed fuel).run c)
  primary : ∀ {c}, c.InOrder → Takes (fun front e _ => Placed front e) c ((primary fuel).run c)
  list : ∀ close expected {c}, c.InOrder →
    Takes (fun front items d => PlacedAll front items ∧ d.kind = close) c ((list fuel close expected).run c)
  entries : ∀ {c}, c.InOrder →
    Takes (fun front fields d => PlacedAll front (fields.map (·.2)) ∧ d.kind = .rBrace) c ((entries fuel).run c)
  braces : ∀ {c}, c.InOrder →
    Takes (fun front r _ => Spans front r.2 ∧ PlacedAll front r.1) c ((braces fuel).run c)
  branching : ∀ {c}, c.InOrder → c.kind ≠ .eof →
    Takes (fun front e _ => Placed front e) c ((branching fuel).run c)
  called : ∀ name {c}, c.InOrder → c.kind ≠ .eof →
    Takes (fun front e _ => Placed front e) c ((called fuel name).run c)
  statement : ∀ {c}, c.InOrder → Takes (fun front e _ => Placed front e) c ((statement fuel).run c)
  statements : ∀ inBlock {c}, c.InOrder →
    Takes (fun front es _ => PlacedAll front es) c ((statements fuel inBlock).run c)

section Take

variable {fuel : Nat} (h : ReadersTake fuel) {c : Cursor} (hc : c.InOrder)

include h hc

theorem takes_expression (level : Nat) :
    Takes (fun front e _ => Placed front e) c ((expression (fuel + 1) level).run c) := by
  rw [expression]
  exact takes_bind (h.prefixed hc) fun own e c₁ h₁ he => h.operators level hc h₁ he

omit hc in
theorem takes_operators (level : Nat) {c₀ : Cursor} {own : List Token} {e : Expr} (hc₀ : c₀.InOrder)
    (hown : Moves c₀ c own) (he : Placed own e) :
    Takes (fun front e' _ => Placed (own ++ front) e') c ((operators (fuel + 1) level e).run c) := by
  rw [operators, run_cursor_bind]
  split
  · exact takes_pure (by simpa using he)
  · rename_i op hop
    split
    · exact takes_pure (by simpa using he)
    · have heof : c.kind ≠ .eof := by
        intro heof
        rw [heof] at hop
        cases hop
      refine takes_bind (takes_token heof) ?_
      rintro _ t c₁ h₁ rfl
      refine takes_bind (takes_skipNewlines c₁) fun newlines _ c₂ h₂ _ => ?_
      have hmoves := hown.trans (h₁.trans h₂)
      refine takes_bind (h.expression _ (hmoves.inOrder hc₀)) fun front right c₃ h₃ hright => ?_
      -- the operator and the line breaks behind it stand between the operands
      have hmoves' := hmoves.trans h₃
      rw [List.append_assoc] at hmoves'
      have hbinary : Placed (own ++ (([t] ++ newlines) ++ front)) (binary (e.span.join right.span) op e right) :=
        .of_children (he.region.join hright.region (List.suffix_append _ front) (hmoves'.ordered hc₀)) rfl
          (he.all.append (hright.all.lead _))
      simpa only [List.append_assoc] using h.operators level hc₀ hmoves' hbinary

theorem takes_prefixed : Takes (fun front e _ => Placed front e) c ((prefixed (fuel + 1)).run c) := by
  rw [prefixed, run_cursor_bind]
  split
  · rename_i op hop
    have heof : c.kind ≠ .eof := by
      intro heof
      rw [heof] at hop
      cases hop
    refine takes_bind (takes_token heof) ?_
    rintro _ t c₁ h₁ rfl
    refine takes_map (h.expression _ (h₁.inOrder hc)) fun front operand c₂ h₂ hoperand => ?_
    exact placed_applyPrefix ((h₁.trans h₂).ordered hc) hoperand
  · refine takes_bind (h.primary hc) fun own e c₁ h₁ he => ?_
    split
    · exact takes_pure (by simpa using he)
    · exact takes_suffixes fuel hc h₁ he

theorem takes_primary : Takes (fun front e _ => Placed front e) c ((primary (fuel + 1)).run c) := by
  rw [primary, run_cursor_bind]
  split
  · rename_i value hvalue
    have heof : c.kind ≠ .eof := by
      intro heof
      rw [heof] at hvalue
      cases hvalue
    refine takes_map (takes_token heof) ?_
    rintro _ t c₁ h₁ rfl
    exact .of_children (.token t) rfl (.nil _)
  · split
    · rename_i p hkind
      refine takes_map (takes_token (by simp [hkind])) ?_
      rintro _ t c₁ h₁ rfl
      exact .of_children (.token t) rfl (.nil _)
    · -- an array
      rename_i hkind
      refine takes_bind (takes_token (by simp [hkind])) ?_
      rintro _ start c₁ h₁ rfl
      refine takes_bind (h.list _ _ (h₁.inOrder hc)) ?_
      rintro front items c₂ h₂ ⟨hitems, hclose⟩
      refine takes_map (takes_token (by simp [hclose])) ?_
      rintro _ stop c₃ h₃ rfl
      have hordered := (h₁.trans (h₂.trans h₃)).ordered hc
      exact .of_children ((Spans.token start).join (.token stop) (List.suffix_append _ [stop]) hordered) rfl
        ((hitems.trail _).lead _)
    · -- an object or a block
      rename_i hkind
      split
      · refine takes_bind (takes_token (by simp [hkind])) ?_
        rintro _ start c₁ h₁ rfl
        refine takes_bind (h.entries (h₁.inOrder hc)) ?_
        rintro front fields c₂ h₂ ⟨hfields, hclose⟩
        refine takes_map (takes_token (by simp [hclose])) ?_
        rintro _ stop c₃ h₃ rfl
        have hordered := (h₁.trans (h₂.trans h₃)).ordered hc
        exact .of_children ((Spans.token start).join (.token stop) (List.suffix_append _ [stop]) hordered) rfl
          ((hfields.trail _).lead _)
      · refine takes_map (h.braces hc) fun front r c₁ h₁ hr => ?_
        exact .of_children hr.1 rfl hr.2
    · -- an expression in parentheses
      rename_i hkind
      refine takes_bind (takes_token (by simp [hkind])) ?_
      rintro _ start c₁ h₁ rfl
      refine takes_bind (takes_skipNewlines c₁) fun newlines _ c₂ h₂ _ => ?_
      refine takes_bind (h.expression _ ((h₁.trans h₂).inOrder hc)) fun front e c₃ h₃ he => ?_
      refine takes_bind (takes_skipNewlines c₃) fun newlines' _ c₄ h₄ _ => ?_
      refine takes_map (takes_expect (by simp) _) ?_
      rintro _ stop c₅ h₅ rfl
      have hordered := (h₁.trans (h₂.trans (h₃.trans (h₄.trans h₅)))).ordered hc
      have hgap : newlines ++ (front ++ (newlines' ++ [stop])) = (newlines ++ (front ++ newlines')) ++ [stop] := by
        simp only [List.append_assoc]
      rw [hgap] at hordered ⊢
      exact he.withSpan ⟨[start] ++ newlines, newlines' ++ [stop], by simp only [List.append_assoc]⟩
        ((Spans.token start).join (.token stop) (List.suffix_append _ [stop]) hordered)
    · rename_i hkind
      exact h.branching hc (by simp [hkind])
    · rename_i name hkind
      exact h.called name hc (by simp [hkind])
    · exact .of_none rfl

theorem takes_list (close : TokenKind) (expected : String) :
    Takes (fun front items d => PlacedAll front items ∧ d.kind = close) c
      ((list (fuel + 1) close expected).run c) := by
  rw [list_succ]
  refine takes_bind (takes_skipNewlines c) fun newlines _ c₁ h₁ _ => ?_
  rw [run_cursor_bind]
  split
  · rename_i hclose
    exact takes_pure ⟨.nil _, hclose⟩
  · have hc₁ := h₁.inOrder hc
    refine takes_bind (h.expression _ hc₁) fun own e c₂ h₂ he => ?_
    have hmore : ∀ {d : Cursor}, d.InOrder →
        Takes (fun front items d => PlacedAll front (items.map id) ∧ d.kind = close) d
          ((list fuel close expected).run d) := by
      intro d hd
      simpa only [List.map_id] using h.list close expected hd
    refine (takes_follow close expected (h₂.inOrder hc₁) (g := id) he hmore).imp fun front items hitems => ?_
    rw [List.map_id] at hitems
    exact ⟨hitems.1.lead newlines, hitems.2⟩

theorem takes_entries :
    Takes (fun front fields d => PlacedAll front (fields.map (·.2)) ∧ d.kind = .rBrace) c
      ((entries (fuel + 1)).run c) := by
  rw [entries_succ]
  refine takes_bind (takes_skipNewlines c) fun newlines _ c₁ h₁ _ => ?_
  have hc₁ := h₁.inOrder hc
  rw [run_cursor_bind]
  split
  · rename_i hclose
    exact takes_pure ⟨.nil _, hclose⟩
  · rename_i key hkind
    rw [entry]
    refine takes_bind (takes_token (by simp [hkind])) fun keyToken _ c₂ h₂ _ => ?_
    refine takes_bind (takes_expect (by simp) _) fun colon _ c₃ h₃ _ => ?_
    refine takes_bind (takes_skipNewlines c₃) fun newlines' _ c₄ h₄ _ => ?_
    have hc₄ := (h₂.trans (h₃.trans h₄)).inOrder hc₁
    refine takes_bind (h.expression _ hc₄) fun own e c₅ h₅ he => ?_
    have hitem : Placed own (Prod.snd (key, e)) := he
    refine (takes_follow _ _ (h₅.inOrder hc₄) hitem h.entries).imp fun front fields hfields => ?_
    exact ⟨(((hfields.1.lead newlines').lead colon).lead keyToken).lead newlines, hfields.2⟩
  · exact .of_none rfl

theorem takes_braces :
    Takes (fun front r _ => Spans front r.2 ∧ PlacedAll front r.1) c ((braces (fuel + 1)).run c) := by
  rw [braces]
  refine takes_bind (takes_expect (by simp) _) ?_
  rintro _ start c₁ h₁ rfl
  refine takes_bind (h.statements true (h₁.inOrder hc)) fun front body c₂ h₂ hbody => ?_
  rw [run_cursor_bind]
  split
  · rename_i hclose
    refine takes_map (takes_token (by simp [hclose])) ?_
    rintro _ stop c₃ h₃ rfl
    have hordered := (h₁.trans (h₂.trans h₃)).ordered hc
    exact ⟨(Spans.token start).join (.token stop) (List.suffix_append _ [stop]) hordered, (hbody.trail _).lead _⟩
  · exact .of_none rfl

theorem takes_alternative : Takes (fun front e _ => Placed front e) c ((alternative fuel).run c) := by
  rw [alternative, run_cursor_bind]
  split
  · rename_i hkind
    exact h.branching hc (by simp [hkind])
  · refine takes_map (h.braces hc) fun front r c₁ h₁ hr => ?_
    exact .of_children hr.1 rfl hr.2

theorem takes_branching (heof : c.kind ≠ .eof) :
    Takes (fun front e _ => Placed front e) c ((branching (fuel + 1)).run c) := by
  rw [branching_succ]
  refine takes_bind (takes_token heof) ?_
  rintro _ start c₁ h₁ rfl
  refine takes_bind (h.expression _ (h₁.inOrder hc)) fun front condition c₂ h₂ hcondition => ?_
  refine takes_bind (h.braces ((h₁.trans h₂).inOrder hc)) ?_
  rintro front' ⟨body, bodySpan⟩ c₃ h₃ ⟨hspan, hbody⟩
  have hmoves := h₁.trans (h₂.trans h₃)
  have hregion := (Spans.token start).join hspan (List.suffix_append front front') (hmoves.ordered hc)
  have hparts := (hcondition.all.append hbody).lead [start]
  dsimp only
  rw [run_onElse]
  split
  · rename_i helse
    obtain ⟨newlines, h₄⟩ := c₃.skipNewlines_reads.moves
    have hskip : c₃.skipNewlines.kind ≠ .eof := by simp [helse]
    have h₅ := h₄.trans (Cursor.advance_moves hskip)
    have hmoves' := hmoves.trans h₅
    refine h₅.takes (takes_map (takes_alternative h (hmoves'.inOrder hc)) fun more other c₆ h₆ hother => ?_)
    have hordered := (hmoves'.trans h₆).ordered hc
    rw [List.append_assoc] at hordered
    have hbranch : Placed ([start] ++ (front ++ front') ++ (newlines ++ [c₃.skipNewlines.current] ++ more))
        (branch ((start.span.join bodySpan).join other.span) condition body (some other)) :=
      .of_children (hregion.join hother.region (List.suffix_append _ more) hordered) rfl
        (hparts.append (hother.all.lead _))
    simpa only [List.append_assoc] using hbranch
  · have hbranch : Placed ([start] ++ (front ++ front')) (branch (start.span.join bodySpan) condition body none) :=
      .of_children hregion rfl (by simpa [children] using hparts)
    exact takes_pure (by simpa using hbranch)

theorem takes_called (name : String) (heof : c.kind ≠ .eof) :
    Takes (fun front e _ => Placed front e) c ((called (fuel + 1) name).run c) := by
  rw [called_succ]
  refine takes_bind (takes_token heof) ?_
  rintro _ start c₁ h₁ rfl
  refine takes_bind (takes_accept (by simp)) fun marker aborts c₂ h₂ _ => ?_
  rw [run_cursor_bind]
  split
  · rename_i hkind
    refine takes_bind (takes_token (by simp [hkind])) ?_
    rintro _ paren c₃ h₃ rfl
    refine takes_bind (h.list _ _ ((h₁.trans (h₂.trans h₃)).inOrder hc)) ?_
    rintro front arguments c₄ h₄ ⟨harguments, hclose⟩
    refine takes_bind (takes_token (by simp [hclose])) ?_
    rintro _ stop c₅ h₅ rfl
    have hordered := (h₁.trans (h₂.trans (h₃.trans (h₄.trans h₅)))).ordered hc
    have hstop : [stop] <:+ marker ++ ([paren] ++ (front ++ [stop])) :=
      ⟨marker ++ ([paren] ++ front), by simp only [List.append_assoc]⟩
    have hspan := (Spans.token start).join (.token stop) hstop hordered
    have hall := ((harguments.trail [stop]).lead [paren]).lead marker
    simpa only [List.append_assoc] using takes_callOf hspan hall
  · exact .of_none rfl

theorem takes_statement : Takes (fun front e _ => Placed front e) c ((statement (fuel + 1)).run c) := by
  rw [statement, run_cursor_bind]
  split
  · refine takes_bind (takes_target c) fun front place c₁ h₁ hplace => ?_
    refine takes_bind (takes_expect (by simp) _) fun sign _ c₂ h₂ _ => ?_
    refine takes_bind (takes_skipNewlines c₂) fun newlines _ c₃ h₃ _ => ?_
    have hmoves := h₁.trans (h₂.trans h₃)
    refine takes_map (h.expression 0 (hmoves.inOrder hc)) fun own value c₄ h₄ hvalue => ?_
    have hordered := (h₁.trans (h₂.trans (h₃.trans h₄))).ordered hc
    have hown : own <:+ sign ++ (newlines ++ own) := ⟨sign ++ newlines, List.append_assoc ..⟩
    exact .node (hplace.join hvalue.region hown hordered) (.single hplace) ((hvalue.all.lead newlines).lead sign)
  · refine takes_bind (takes_target c) fun front ok c₁ h₁ hok => ?_
    refine takes_bind (takes_expect (by simp) _) fun comma _ c₂ h₂ _ => ?_
    refine takes_bind (takes_target c₂) fun front' err c₃ h₃ herr => ?_
    refine takes_bind (takes_expect (by simp) _) fun sign _ c₄ h₄ _ => ?_
    refine takes_bind (takes_skipNewlines c₄) fun newlines _ c₅ h₅ _ => ?_
    have hmoves := h₁.trans (h₂.trans (h₃.trans (h₄.trans h₅)))
    refine takes_map (h.expression 0 (hmoves.inOrder hc)) fun own value c₆ h₆ hvalue => ?_
    have hordered := (h₁.trans (h₂.trans (h₃.trans (h₄.trans (h₅.trans h₆))))).ordered hc
    have hown : own <:+ comma ++ (front' ++ (sign ++ (newlines ++ own))) :=
      ⟨comma ++ (front' ++ (sign ++ newlines)), by simp only [List.append_assoc]⟩
    have hspan := hok.join hvalue.region hown hordered
    have hheads : Row (front ++ (comma ++ front')) [ok.span, err.span] :=
      (Row.single hok).append ((Row.single herr).lead comma)
    have hgroups : front ++ (comma ++ (front' ++ (sign ++ (newlines ++ own)))) =
        front ++ (comma ++ front') ++ (sign ++ (newlines ++ own)) := by
      simp only [List.append_assoc]
    rw [hgroups] at hspan ⊢
    exact .node hspan hheads ((hvalue.all.lead newlines).lead sign)
  · exact h.expression 0 hc

/-- Separators, unmatched braces and abandoned statements stand between the statements that are found. -/
theorem takes_statements (inBlock : Bool) :
    Takes (fun front es _ => PlacedAll front es) c ((statements (fuel + 1) inBlock).run c) := by
  rw [run, statements]
  dsimp only
  obtain ⟨seps, h₀, -⟩ := c.exists_skipSeparators_moves
  refine h₀.takes ?_
  have hc₀ := h₀.inOrder hc
  generalize c.skipSeparators = c₀ at hc₀
  split
  · exact takes_pure (.nil _)
  · rename_i hstops
    have heof : c₀.kind ≠ .eof := by
      intro heof
      simp [heof] at hstops
    split
    · have h₁ : ∀ d, Moves c₀ (c₀.record d).advance ([] ++ [(c₀.record d).current]) :=
        fun d => (c₀.record_moves d).trans (Cursor.advance_moves heof)
      exact (h₁ _).takes ((h.statements inBlock ((h₁ _).inOrder hc₀)).imp fun front es hes => (hes.lead _).lead seps)
    · have hstatement := h.statement hc₀
      have hreads := ((readersRead fuel).statement c₀).toReads
      rw [run] at hstatement hreads
      split
      · -- the tokens of an abandoned statement stand between two others
        rename_i c₁ heq
        rw [heq] at hreads
        split
        · exact .of_none rfl
        obtain ⟨skipped, h₁⟩ := (hreads.trans (c₁.synchronize_reads inBlock)).moves
        exact h₁.takes ((h.statements inBlock (h₁.inOrder hc₀)).imp fun front es hes => (hes.lead skipped).lead seps)
      · rename_i e c₁ heq
        rw [heq] at hstatement
        obtain ⟨own, h₁, he⟩ := hstatement e rfl
        generalize hc₂ : (if c₁.kind.isTerminator || (inBlock && decide (c₁.kind = .rBrace)) then c₁
          else (complain "end of statement" c₁).synchronize inBlock) = c₂
        obtain ⟨skipped, h₂⟩ : ∃ skipped, Moves c₁ c₂ skipped := by
          subst hc₂
          split
          · exact ⟨[], .refl c₁⟩
          · exact ((complain_reads c₁ _).trans (Cursor.synchronize_reads _ inBlock)).moves
        have hmoves := h₁.trans h₂
        have hrest := h.statements inBlock (hmoves.inOrder hc₀)
        rw [run] at hrest
        split
        · rename_i rest c₃ heq'
          rw [heq'] at hrest
          intro es hes
          obtain rfl := Option.some.inj hes
          obtain ⟨front, h₃, hfront⟩ := hrest rest rfl
          refine ⟨own ++ skipped ++ front, hmoves.trans h₃, ?_⟩
          exact ((he.all.trail skipped).append hfront).lead seps
        · exact .of_none rfl

end Take

/-- What all readers take, whatever their fuel. -/
theorem readersTake (fuel : Nat) : ReadersTake fuel := by
  induction fuel with
  | zero =>
    exact
      { expression := fun _ _ _ => .of_none rfl
        operators := fun _ _ _ _ _ _ _ he => takes_pure (by simpa using he)
        prefixed := fun _ => .of_none rfl
        primary := fun _ => .of_none rfl
        list := fun _ _ _ _ => .of_none rfl
        entries := fun _ => .of_none rfl
        braces := fun _ => .of_none rfl
        branching := fun _ _ => .of_none rfl
        called := fun _ _ _ _ => .of_none rfl
        statement := fun _ => .of_none rfl
        statements := fun _ _ _ => takes_pure (.nil _) }
  | succ fuel ih =>
    exact
      { expression := fun level _ hc => takes_expression ih hc level
        operators := fun level _ _ _ _ => takes_operators ih level
        prefixed := takes_prefixed ih
        primary := takes_primary ih
        list := fun close expected _ hc => takes_list ih hc close expected
        entries := takes_entries ih
        braces := takes_braces ih
        branching := takes_branching ih
        called := fun name _ hc => takes_called ih hc name
        statement := takes_statement ih
        statements := fun inBlock _ hc => takes_statements ih hc inBlock }

end Expr

end Reshape
