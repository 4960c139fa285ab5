/-
Readers on written tokens.

A cursor `Stands` before some tokens and blanks if they spell the tokens that are left.  A reader then `Gives` a result
and stands behind the tokens that it took.  Pieces are `ReadAs` an expression if they start like an operand and are
read as it, apart from regions, before whatever does not go on with it; as a statement they are `StatedAs` it, and
behind `else` they are `AlternativeAs` it.

* `Expr.gives_enclosed`, `Expr.gives_list`, `Expr.gives_entries` — operands in parentheses, lists and entries;
* `Expr.gives_statements`, `Expr.gives_braces` — statements on lines, and in braces;
* `Expr.gives_branching`, `Expr.gives_called` — branches and calls.
-/
import Mathlib.Data.List.Forall2
import Reshape.Proofs.Layout
import Reshape.Proofs.Statements

namespace Reshape

open Piece

/-! ### Cursors before tokens and blanks -/

/-- The kinds of the tokens among some pieces. -/
def Piece.kinds (ps : List Piece) : List TokenKind :=
  ps.filterMap fun
    | .blank => none
    | .token k => some k

namespace Piece

@[simp] theorem kinds_nil : kinds [] = [] := rfl

@[simp] theorem kinds_blank (ps : List Piece) : kinds (blank :: ps) = kinds ps := rfl

@[simp] theorem kinds_token (k : TokenKind) (ps : List Piece) : kinds (token k :: ps) = k :: kinds ps := rfl

@[simp] theorem kinds_append (ps qs : List Piece) : kinds (ps ++ qs) = kinds ps ++ kinds qs :=
  List.filterMap_append

/-- The kind of the first token, or of the end. -/
def first (ps : List Piece) : TokenKind :=
  (kinds ps).headD .eof

end Piece

/-- The tokens left are these, from an offset on, and nothing was reported. -/
structure Stands (m : Nat) (ps : List Piece) (c : Cursor) : Prop where
  spells : Spells m ps c.tokens
  clean : c.notes = []

theorem Spells.kinds {m : Nat} {ps : List Piece} {ts : List Token} (h : Spells m ps ts) :
    ts.map (·.kind) = kinds ps ++ [.eof] := by
  induction ps generalizing m ts with
  | nil =>
    obtain ⟨t, rfl, ht⟩ := h
    simp [ht]
  | cons p ps ih =>
    cases p with
    | blank => exact ih h
    | token k =>
      obtain ⟨t, rest, rfl, ht, -, -, hrest⟩ := h
      simp [ht, ih hrest]

namespace Cursor

variable {c : Cursor} {k : TokenKind} {ks : List TokenKind}

theorem kind_of_kinds (h : c.tokens.map (·.kind) = k :: ks) : c.kind = k := by
  rw [kind_eq_head?, ← List.head?_map, h]
  rfl

theorem kinds_advance (h : c.tokens.map (·.kind) = k :: ks) (hk : k ≠ .eof) :
    c.advance.tokens.map (·.kind) = ks := by
  rw [List.map_eq_cons_iff] at h
  obtain ⟨t, rest, htokens, hkind, hrest⟩ := h
  rw [advance, htokens]
  dsimp only
  rw [if_neg (hkind ▸ hk)]
  exact hrest

theorem kinds_dropWhile (ts : List Token) : (ts.dropWhile (·.kind == .newline)).map (·.kind) =
    (ts.map (·.kind)).dropWhile (· == .newline) := by
  rw [List.dropWhile_map]
  rfl

end Cursor

namespace Stands

variable {m : Nat} {ps : List Piece} {c : Cursor}

theorem blank (h : Stands m (.blank :: ps) c) : Stands (m + 1) ps c :=
  ⟨h.spells, h.clean⟩

theorem length (h : Stands m ps c) : c.tokens.length = (kinds ps).length + 1 := by
  have hlength := congrArg List.length h.spells.kinds
  simpa using hlength

theorem fed {rank fuel : Nat} (h : Stands m ps c) :
    Expr.Fed rank fuel c ↔ 10 * ((kinds ps).length + 1) + rank ≤ fuel := by
  rw [Expr.Fed, h.length]

theorem kind (h : Stands m ps c) : c.kind = first ps := by
  have hkinds := congrArg List.head? h.spells.kinds
  rw [List.head?_map, List.head?_append] at hkinds
  rw [c.kind_eq_head?, hkinds, first]
  cases kinds ps with
  | nil => rfl
  | cons k ks => rfl

theorem start {k : TokenKind} (h : Stands m (.token k :: ps) c) : c.current.span.start = m := by
  obtain ⟨t, ts, htokens, -, hstart, -⟩ := h.spells
  rw [Cursor.current, htokens]
  exact hstart

/-- Behind line breaks. -/
theorem kind_skipNewlines (h : Stands m ps c) :
    c.skipNewlines.kind = ((kinds ps).dropWhile (· == .newline)).headD .eof := by
  have hkinds := h.spells.kinds
  rw [Cursor.kind_eq_head?, c.tokens_skipNewlines, ← List.head?_map, Cursor.kinds_dropWhile, hkinds]
  generalize kinds ps = ks
  induction ks with
  | nil => rfl
  | cons k ks ih =>
    rw [List.cons_append, List.dropWhile_cons, List.dropWhile_cons]
    split
    · exact ih
    · rfl

end Stands

variable {α β : Type} {P : α → Nat → Prop} {Q : β → Nat → Prop} {m : Nat} {ps rest mid : List Piece} {c : Cursor}

namespace Parse

/-- A reader has a result and stands before the rest, further on; the result may depend on where that is. -/
def Gives {α : Type} (m : Nat) (rest : List Piece) (P : α → Nat → Prop) (r : Option α × Cursor) : Prop :=
  ∃ a c m', r = (some a, c) ∧ Stands m' rest c ∧ m ≤ m' ∧ P a m'

theorem Gives.mono {m' : Nat} {r : Option α × Cursor} (h : Gives m' rest P r) (hm : m ≤ m') : Gives m rest P r := by
  obtain ⟨a, c, m'', hr, hc, hle, ha⟩ := h
  exact ⟨a, c, m'', hr, hc, hm.trans hle, ha⟩

theorem Gives.imp {P' : α → Nat → Prop} {r : Option α × Cursor} (h : Gives m rest P r)
    (himp : ∀ a m', P a m' → P' a m') : Gives m rest P' r := by
  obtain ⟨a, c, m', hr, hc, hle, ha⟩ := h
  exact ⟨a, c, m', hr, hc, hle, himp a m' ha⟩

theorem gives_bind {p : Parse α} {f : α → Parse β} (hp : Gives m mid P (p.run c))
    (hf : ∀ a c' m', Stands m' mid c' → m ≤ m' → P a m' → Gives m' rest Q ((f a).run c')) :
    Gives m rest Q ((p >>= f).run c) := by
  obtain ⟨a, c', m', hr, hc', hle, ha⟩ := hp
  rw [run_bind_some hr]
  exact (hf a c' m' hc' hle ha).mono hle

theorem gives_pure {a : α} (hc : Stands m rest c) (ha : P a m) : Gives m rest P ((pure a : Parse α).run c) :=
  ⟨a, c, m, rfl, hc, Nat.le_refl m, ha⟩

/-- A token and where it stands. -/
def IsAt (k : TokenKind) (m : Nat) (t : Token) (m' : Nat) : Prop :=
  t.kind = k ∧ t.span.start = m ∧ t.span.stop = m'

theorem gives_token {k : TokenKind} (hc : Stands m (.token k :: rest) c) (hk : k ≠ .eof) :
    Gives m rest (IsAt k m) (token.run c) := by
  obtain ⟨⟨t, ts, htokens, hkind, hstart, hle, hspells⟩, hclean⟩ := hc
  have hcurrent : c.current = t := by simp [Cursor.current, htokens]
  have hadvance : c.advance = ⟨ts, t.span, c.notes⟩ := by
    rw [Cursor.advance, htokens]
    exact if_neg (hkind ▸ hk)
  refine ⟨t, ⟨ts, t.span, c.notes⟩, t.span.stop, ?_, ⟨hspells, hclean⟩, hle, hkind, hstart, rfl⟩
  rw [run_token, hcurrent, hadvance]

theorem gives_expect {k : TokenKind} {expected : String} (hc : Stands m (.token k :: rest) c) (hk : k ≠ .eof) :
    Gives m rest (IsAt k m) ((expect k expected).run c) := by
  have hkind : c.kind = k := hc.kind
  rw [run_expect, if_pos hkind, ← run_token]
  exact gives_token hc hk

theorem gives_accept {k : TokenKind} (hc : Stands m (.token k :: rest) c) (hk : k ≠ .eof) :
    Gives m rest (fun b _ => b = true) ((accept k).run c) := by
  obtain ⟨t, c', m', hr, hc', hle, -⟩ := gives_token hc hk
  have hkind : c.kind = k := hc.kind
  rw [run_token, Prod.mk.injEq] at hr
  rw [run_accept, if_pos hkind]
  exact ⟨true, c', m', by rw [hr.2], hc', hle, rfl⟩

theorem gives_refuse {k : TokenKind} (hc : Stands m rest c) (hk : first rest ≠ k) :
    Gives m rest (fun b _ => b = false) ((accept k).run c) := by
  rw [run_accept, if_neg (hc.kind ▸ hk)]
  exact ⟨false, c, m, rfl, hc, Nat.le_refl m, rfl⟩

theorem gives_skipNewlines (hc : Stands m rest c) (hk : first rest ≠ .newline) :
    Gives m rest (fun _ _ => True) (skipNewlines.run c) := by
  have hskip : c.skipNewlines = c := Cursor.skipWhile_of_kind (by simp [hc.kind, hk])
  have hrun : skipNewlines.run c = (some (), c.skipNewlines) := rfl
  rw [hrun, hskip]
  exact ⟨(), c, m, rfl, hc, Nat.le_refl m, trivial⟩

end Parse

/-! ### Operands -/

namespace TokenKind

/-- Tokens that an operand or a statement starts with. -/
def startsOperand : TokenKind → Bool
  | path _ | ident _ | string _ | integer _ | float _ | timestamp _ | kwTrue | kwFalse | kwNull | kwIf | minus | bang
  | lParen | lBrace | lBracket => true
  | _ => false

def isPath : TokenKind → Bool
  | path _ => true
  | _ => false

def isString : TokenKind → Bool
  | string _ => true
  | _ => false

/-- Tokens that an operand is closed or followed by in a list, in parentheses or at the end of a program. -/
def closesOperand : TokenKind → Bool
  | rParen | rBracket | rBrace | comma | eof => true
  | _ => false

end TokenKind

namespace Expr

open Parse

/-- No operator, suffix or `else` stands in front, on this line or a later one. -/
structure Follows (rest : List Piece) : Prop where
  operator : BinaryOp.ofToken? (first rest) = none
  suffix : suffixOf (first rest) = none
  alternative : ((kinds rest).dropWhile (· == .newline)).headD .eof ≠ .kwElse

theorem Follows.of_closes (h : (first rest).closesOperand = true) : Follows rest := by
  rw [first] at h
  cases hkinds : kinds rest with
  | nil => exact ⟨by rw [first, hkinds]; rfl, by rw [first, hkinds]; rfl, by rw [hkinds]; simp⟩
  | cons k ks =>
    rw [hkinds, List.headD_cons] at h
    have hk : BinaryOp.ofToken? k = none ∧ suffixOf k = none ∧ k ≠ .newline ∧ k ≠ .kwElse := by
      cases k with
      | rParen | rBracket | rBrace | comma | eof => exact ⟨rfl, rfl, by simp, by simp⟩
      | _ => cases h
    obtain ⟨hop, hsuffix, hnewline, helse⟩ := hk
    exact ⟨by rw [first, hkinds]; exact hop, by rw [first, hkinds]; exact hsuffix,
      by simpa [hkinds, hnewline] using helse⟩

/-- What is written is read back as an expression, apart from regions. -/
structure ReadAs (ps : List Piece) (e : Expr) : Prop where
  starts : (first ps).startsOperand = true
  read : ∀ ⦃fuel m rest c⦄, Stands m (ps ++ rest) c → Fed 4 fuel c → Follows rest →
    Gives m rest (fun e' _ => e'.bare = e.bare) ((expression fuel 0).run c)

theorem first_append {qs : List Piece} (h : (first ps).startsOperand = true) : first (ps ++ qs) = first ps := by
  rw [first] at h
  rw [first, first, kinds_append]
  cases hkinds : kinds ps with
  | nil =>
    rw [hkinds] at h
    cases h
  | cons k ks => rfl

theorem ReadAs.first_ne {e : Expr} {k : TokenKind} (h : ReadAs ps e) (hk : k.startsOperand = false) :
    first (ps ++ rest) ≠ k := by
  rw [first_append h.starts]
  rintro rfl
  rw [h.starts] at hk
  cases hk

section Operand

variable {P : Expr → Nat → Prop} {fuel level : Nat}

/-- An operand without prefix operators and suffixes. -/
theorem gives_prefixed (hunary : UnaryOp.ofToken? c.kind = none) (hsuffix : suffixOf (first rest) = none)
    (h : Gives m rest P ((primary fuel).run c)) : Gives m rest P ((prefixed (fuel + 1)).run c) := by
  rw [prefixed, run_cursor_bind, hunary]
  refine gives_bind h fun e c' m' hc' _ he => ?_
  have hstop : (suffixes fuel e).run c' = (some e, c') := suffixes_stop fuel e (hc'.kind ▸ hsuffix)
  split
  · exact gives_pure hc' he
  · rw [hstop]
    exact ⟨e, c', m', rfl, hc', Nat.le_refl m', he⟩

/-- An operand before no operator, or none that binds tighter than the one before it. -/
theorem gives_expression (hop : ∀ op, BinaryOp.ofToken? (first rest) = some op → op.level ≤ level)
    (h : Gives m rest P ((prefixed fuel).run c)) : Gives m rest P ((expression (fuel + 1) level).run c) := by
  rw [expression]
  refine gives_bind h fun e c' m' hc' _ he => ?_
  rw [operators_stop fuel level e (hc'.kind ▸ hop)]
  exact ⟨e, c', m', rfl, hc', Nat.le_refl m', he⟩

end Operand

/-- What is read as an operand is read as an expression. -/
theorem readAs_of_primary {e : Expr} (hstarts : (first ps).startsOperand = true)
    (hunary : UnaryOp.ofToken? (first ps) = none)
    (h : ∀ ⦃fuel m rest c⦄, Stands m (ps ++ rest) c → Fed 2 fuel c → Follows rest →
      Gives m rest (fun e' _ => e'.bare = e.bare) ((primary fuel).run c)) : ReadAs ps e := by
  refine ⟨hstarts, fun fuel m rest c hc hfuel hrest => ?_⟩
  simp only [Fed] at hfuel
  obtain ⟨n, rfl⟩ : ∃ n, fuel = n + 2 := ⟨fuel - 2, by omega⟩
  have hkind : c.kind = first ps := hc.kind.trans (first_append hstarts)
  refine gives_expression (fun op hop => ?_) (gives_prefixed (hkind ▸ hunary) hrest.suffix ?_)
  · rw [hrest.operator] at hop
    cases hop
  · exact h hc (by simp only [Fed]; omega) hrest

/-! ### Parentheses -/

/-- An expression in parentheses. -/
def grouped (fuel : Nat) : Parse Expr := do
  let start ← token
  skipNewlines
  let e ← expression fuel 0
  skipNewlines
  let stop ← expect .rParen "`)`"
  return e.withSpan (start.span.join stop.span)

theorem primary_grouped (fuel : Nat) (h : c.kind = .lParen) : (primary (fuel + 1)).run c = (grouped fuel).run c := by
  rw [primary, run_cursor_bind, h]
  rfl

theorem gives_enclosed {e : Expr} {fuel : Nat} (h : ReadAs ps e) (hc : Stands m (enclosed ps ++ rest) c)
    (hfuel : Fed 2 fuel c) :
    Gives m rest (fun e' m' => e'.bare = e.bare ∧ e'.span.stop = m') ((primary fuel).run c) := by
  obtain ⟨n, rfl⟩ := hfuel.exists_succ
  have hc : Stands m (.token .lParen :: (ps ++ .token .rParen :: rest)) c := by simpa [enclosed] using hc
  rw [hc.fed, kinds_token, List.length_cons] at hfuel
  rw [primary_grouped n hc.kind, grouped]
  refine gives_bind (gives_token hc (by simp)) fun start c₁ m₁ hc₁ _ hstart => ?_
  refine gives_bind (gives_skipNewlines hc₁ (h.first_ne rfl)) fun _ c₂ m₂ hc₂ hle₂ _ => ?_
  refine gives_bind (h.read hc₂ (hc₂.fed.2 (by omega)) (.of_closes rfl)) fun e' c₃ m₃ hc₃ hle₃ he' => ?_
  refine gives_bind (gives_skipNewlines hc₃ (by simp [first])) fun _ c₄ m₄ hc₄ hle₄ _ => ?_
  refine gives_bind (gives_expect hc₄ (by simp)) fun stop c₅ m₅ hc₅ hle₅ hstop => ?_
  -- the region ends with the parenthesis, so that a suffix right behind it touches the expression
  have hspan : (start.span.join stop.span).stop = m₅ := by
    rw [Span.stop_join, hstart.2.2, hstop.2.2]
    omega
  exact gives_pure hc₅ ⟨(bare_withSpan _ _).trans he', by rw [span_withSpan, hspan]⟩

theorem ReadAs.enclosed {e : Expr} (h : ReadAs ps e) : ReadAs (enclosed ps) e :=
  readAs_of_primary rfl rfl fun _ _ _ _ hc hfuel _ => (gives_enclosed h hc hfuel).imp fun _ _ he => he.1

/-- What is in parentheses is read before an operator that binds no tighter. -/
theorem gives_operand {e : Expr} {fuel level : Nat} (h : ReadAs ps e) (hc : Stands m (Piece.enclosed ps ++ rest) c)
    (hfuel : Fed 4 fuel c) (hop : ∀ op, BinaryOp.ofToken? (first rest) = some op → op.level ≤ level)
    (hsuffix : suffixOf (first rest) = none) :
    Gives m rest (fun e' _ => e'.bare = e.bare) ((expression fuel level).run c) := by
  simp only [Fed] at hfuel
  obtain ⟨n, rfl⟩ : ∃ n, fuel = n + 2 := ⟨fuel - 2, by omega⟩
  have hunary : UnaryOp.ofToken? c.kind = none := hc.kind ▸ rfl
  refine gives_expression hop (gives_prefixed hunary hsuffix ?_)
  exact (gives_enclosed h hc (by simp only [Fed]; omega)).imp fun _ _ he => he.1

/-! ### Lists -/

section Lists

variable {close : TokenKind} {expected : String} {item : α} {more : Parse (List α)}

/-- A comma, and more items behind it. -/
theorem gives_follow_comma {P : List α → Prop} (hc : Stands m (.token .comma :: ps) c)
    (hmore : ∀ c' m', Stands m' ps c' → Gives m' rest (fun as _ => P as) (more.run c')) :
    Gives m rest (fun as _ => ∃ as', as = item :: as' ∧ P as') ((follow close expected item more).run c) := by
  unfold follow
  refine gives_bind (gives_skipNewlines hc (by simp [first])) fun _ c₁ m₁ hc₁ _ _ => ?_
  refine gives_bind (gives_accept hc₁ (by simp)) fun comma c₂ m₂ hc₂ _ htrue => ?_
  rw [htrue, if_pos rfl]
  refine gives_bind (hmore c₂ m₂ hc₂) fun as c₃ m₃ hc₃ _ has => ?_
  exact gives_pure hc₃ ⟨as, rfl, has⟩

/-- The closing token. -/
theorem gives_follow_close (hc : Stands m (.token close :: rest) c) (hcomma : close ≠ .comma)
    (hnewline : close ≠ .newline) :
    Gives m (.token close :: rest) (fun as _ => as = [item]) ((follow close expected item more).run c) := by
  unfold follow
  refine gives_bind (gives_skipNewlines hc (by simpa [first] using hnewline)) fun _ c₁ m₁ hc₁ _ _ => ?_
  refine gives_bind (gives_refuse hc₁ (by simpa [first] using hcomma)) fun comma c₂ m₂ hc₂ _ hfalse => ?_
  have hkind : c₂.kind = close := hc₂.kind
  rw [hfalse, if_neg (by simp), run_cursor_bind, if_pos hkind]
  exact gives_pure hc₂ rfl

end Lists

/-- Expressions with commas between, up to a closing token. -/
theorem gives_list {close : TokenKind} {expected : String} {pss : List (List Piece)} {es : List Expr}
    (h : List.Forall₂ ReadAs pss es) (hclose : close = .rParen ∨ close = .rBracket) {fuel : Nat}
    (hc : Stands m (commas pss ++ .token close :: rest) c) (hfuel : Fed 5 fuel c) :
    Gives m (.token close :: rest) (fun es' _ => es'.map bare = es.map bare) ((list fuel close expected).run c) := by
  have hcloses : close.startsOperand = false ∧ close.closesOperand = true ∧ close ≠ .newline ∧ close ≠ .comma := by
    rcases hclose with rfl | rfl
    · exact ⟨rfl, rfl, by simp, by simp⟩
    · exact ⟨rfl, rfl, by simp, by simp⟩
  obtain ⟨hstarts, hends, hnewline, hcomma⟩ := hcloses
  -- an item takes tokens and a step of fuel takes one unit, so what is left stays fed
  induction h generalizing fuel m c with
  | nil =>
    obtain ⟨n, rfl⟩ := hfuel.exists_succ
    rw [commas, List.intercalate_nil, List.nil_append] at hc
    rw [list_succ]
    refine gives_bind (gives_skipNewlines hc (by simpa [first] using hnewline)) fun _ c₁ m₁ hc₁ _ _ => ?_
    have hkind : c₁.kind = close := hc₁.kind
    rw [run_cursor_bind, if_pos hkind]
    exact gives_pure hc₁ rfl
  | @cons ps e pss es hps hpss ih =>
    obtain ⟨n, rfl⟩ := hfuel.exists_succ
    rw [commas_cons] at hc
    rw [hc.fed, kinds_append, List.length_append] at hfuel
    rw [list_succ]
    refine gives_bind (gives_skipNewlines hc (hps.first_ne rfl)) fun _ c₁ m₁ hc₁ _ _ => ?_
    have hkind : c₁.kind ≠ close := hc₁.kind ▸ hps.first_ne hstarts
    rw [run_cursor_bind, if_neg hkind]
    cases hpss with
    | nil =>
      rw [if_pos rfl] at hc₁ hfuel
      refine gives_bind (hps.read hc₁ (hc₁.fed.2 ?_) (.of_closes hends)) fun e' c₂ m₂ hc₂ _ he' => ?_
      · rw [kinds_append, List.length_append]
        omega
      refine (gives_follow_close hc₂ hcomma hnewline).imp fun es' _ hes' => ?_
      rw [hes', List.map_singleton, List.map_singleton, he']
    | @cons ps₁ e₁ pss es hps₁ hpss =>
      rw [if_neg (by simp)] at hc₁ hfuel
      refine gives_bind (hps.read hc₁ (hc₁.fed.2 ?_) (.of_closes rfl)) fun e' c₂ m₂ hc₂ _ he' => ?_
      · rw [kinds_append, List.length_append]
        omega
      refine (gives_follow_comma hc₂ fun c₃ m₃ hc₃ => (ih hc₃.blank ?_).mono (Nat.le_succ m₃)).imp ?_
      · rw [hc₃.blank.fed]
        simp only [kinds_token, kinds_blank, List.length_cons] at hfuel
        omega
      · rintro es' _ ⟨es'', rfl, hes''⟩
        rw [List.map_cons, List.map_cons, he', hes'']

/-- The key of an entry and its value. -/
theorem gives_entry {key : String} {e : Expr} {fuel : Nat} (h : ReadAs ps e)
    (hc : Stands m (.token (.string key) :: .token .colon :: .blank :: (ps ++ mid)) c) (hmid : Follows mid)
    (hfuel : 10 * ((kinds (ps ++ mid)).length + 1) + 4 ≤ fuel) {P : List (String × Expr) → Nat → Prop}
    (hmore : ∀ e' c' m', Stands m' mid c' → e'.bare = e.bare →
      Gives m' rest P ((follow .rBrace "`,` or `\x7d`" (key, e') (entries fuel)).run c')) :
    Gives m rest P ((entry fuel key).run c) := by
  rw [entry]
  refine gives_bind (gives_token hc (by simp)) fun _ c₁ m₁ hc₁ _ _ => ?_
  refine gives_bind (gives_expect hc₁ (by simp)) fun _ c₂ m₂ hc₂ _ _ => ?_
  refine gives_bind (gives_skipNewlines hc₂ (h.first_ne rfl)) fun _ c₃ m₃ hc₃ _ _ => ?_
  refine gives_bind (((h.read hc₃.blank (hc₃.blank.fed.2 hfuel) hmid)).mono (Nat.le_succ m₃))
    fun e' c₄ m₄ hc₄ _ he' => ?_
  exact hmore e' c₄ m₄ hc₄ he'

/-- The entries of an object, up to its closing brace. -/
theorem gives_entries {es : List (String × Expr)} (h : ∀ entry ∈ es, ReadAs entry.2.pieces entry.2) {fuel : Nat}
    (hc : Stands m (commas (piecesEntries es) ++ .blank :: .token .rBrace :: rest) c) (hfuel : Fed 1 fuel c) :
    Gives m (.token .rBrace :: rest) (fun es' _ => bareEntries es' = bareEntries es) ((entries fuel).run c) := by
  induction es generalizing fuel m c with
  | nil =>
    obtain ⟨n, rfl⟩ := hfuel.exists_succ
    rw [piecesEntries, commas, List.intercalate_nil, List.nil_append] at hc
    rw [entries_succ]
    refine gives_bind ((gives_skipNewlines hc.blank (by simp [first])).mono (Nat.le_succ m))
      fun _ c₁ m₁ hc₁ _ _ => ?_
    have hkind : c₁.kind = .rBrace := hc₁.kind
    rw [run_cursor_bind, hkind]
    exact gives_pure hc₁ rfl
  | cons entry es ih =>
    obtain ⟨key, e⟩ := entry
    obtain ⟨n, rfl⟩ := hfuel.exists_succ
    have he : ReadAs e.pieces e := h _ List.mem_cons_self
    rw [piecesEntries, commas_cons] at hc
    simp only [List.cons_append] at hc
    rw [hc.fed, kinds_token, kinds_token, kinds_blank, List.length_cons, List.length_cons] at hfuel
    rw [entries_succ]
    refine gives_bind (gives_skipNewlines hc (by simp [first])) fun _ c₁ m₁ hc₁ _ _ => ?_
    have hkind : c₁.kind = .string key := hc₁.kind
    rw [run_cursor_bind, hkind]
    cases es with
    | nil =>
      rw [piecesEntries, if_pos rfl] at hc₁ hfuel
      refine gives_entry he hc₁ (.of_closes rfl) (by omega) fun e' c₂ m₂ hc₂ he' => ?_
      refine ((gives_follow_close hc₂.blank (by simp) (by simp)).mono (Nat.le_succ m₂)).imp fun es' _ hes' => ?_
      simp only [hes', bareEntries, he']
    | cons entry₁ es =>
      rw [if_neg (by simp [piecesEntries])] at hc₁ hfuel
      refine gives_entry he hc₁ (.of_closes rfl) (by omega) fun e' c₂ m₂ hc₂ he' => ?_
      refine (gives_follow_comma hc₂ fun c₃ m₃ hc₃ => (ih ?_ hc₃.blank ?_).mono (Nat.le_succ m₃)).imp ?_
      · exact fun entry hentry => h entry (List.mem_cons_of_mem _ hentry)
      · rw [hc₃.blank.fed]
        simp only [kinds_append, kinds_token, kinds_blank, List.length_append, List.length_cons] at hfuel ⊢
        omega
      · rintro es' _ ⟨es'', rfl, hes''⟩
        rw [bareEntries, bareEntries, he', hes'']

/-! ### Statements -/

/-- The end of a line, or of the program. -/
def EndsLine (rest : List Piece) : Prop :=
  (first rest = .newline ∨ first rest = .eof) ∧ Follows rest

/-- If a token of some sort comes first, it is all there is. -/
def Alone (p : TokenKind → Bool) (ps : List Piece) : Prop :=
  p (first ps) = true → kinds ps = [first ps]

/-- What is written for a statement is read back, before the end of its line. -/
structure StatedAs (ps : List Piece) (e : Expr) : Prop where
  starts : (first ps).startsOperand = true
  alone : Alone TokenKind.isString ps
  read : ∀ ⦃fuel m rest c⦄, Stands m (ps ++ rest) c → Fed 5 fuel c → EndsLine rest →
    Gives m rest (fun e' _ => e'.bare = e.bare) ((statement fuel).run c)

theorem gives_target {p : Path} (hc : Stands m (.token (.path p) :: rest) c) :
    Gives m rest (fun t _ => t.path = p) (target.run c) := by
  have hkind : c.kind = .path p := hc.kind
  rw [target, run_cursor_bind, hkind]
  exact gives_bind (gives_token hc (by simp)) fun t c₁ m₁ hc₁ _ _ => gives_pure hc₁ rfl

/-- An assignment to one place. -/
theorem statedAs_assign {s : Span} {t : Target} {value : Expr} (h : ReadAs value.pieces value) :
    StatedAs (assign s t value).pieces (assign s t value) := by
  refine ⟨rfl, fun hstring => (by cases hstring), fun fuel m rest c hc hfuel hrest => ?_⟩
  obtain ⟨n, rfl⟩ := hfuel.exists_succ
  have hc : Stands m (.token (.path t.path) :: .blank :: .token .assign :: .blank :: (value.pieces ++ rest)) c := hc
  have hsingle : StartsSingle c := by
    have hkinds := Cursor.kinds_advance hc.spells.kinds (by simp)
    exact ⟨t.path, hc.kind, Cursor.kind_of_kinds hkinds⟩
  rw [hc.fed] at hfuel
  simp only [kinds_token, kinds_blank, List.length_cons] at hfuel
  rw [statement_of_single n hsingle, single]
  refine gives_bind (gives_target hc) fun place c₁ m₁ hc₁ _ hplace => ?_
  refine gives_bind ((gives_expect hc₁.blank (by simp)).mono (Nat.le_succ m₁)) fun _ c₂ m₂ hc₂ _ _ => ?_
  refine gives_bind (gives_skipNewlines hc₂ (h.first_ne rfl)) fun _ c₃ m₃ hc₃ _ _ => ?_
  refine gives_bind ((h.read hc₃.blank (hc₃.blank.fed.2 (by omega)) hrest.2).mono (Nat.le_succ m₃))
    fun value' c₄ m₄ hc₄ _ hvalue => ?_
  exact gives_pure hc₄ (by simp only [bare, hplace, hvalue])

/-- An assignment to two places. -/
theorem statedAs_assignPair {s : Span} {ok err : Target} {value : Expr} (h : ReadAs value.pieces value) :
    StatedAs (assignPair s ok err value).pieces (assignPair s ok err value) := by
  refine ⟨rfl, fun hstring => (by cases hstring), fun fuel m rest c hc hfuel hrest => ?_⟩
  obtain ⟨n, rfl⟩ := hfuel.exists_succ
  have hc : Stands m (.token (.path ok.path) :: .token .comma :: .blank :: .token (.path err.path) :: .blank ::
      .token .assign :: .blank :: (value.pieces ++ rest)) c := hc
  have hdouble : StartsDouble c := by
    have hkinds₁ := Cursor.kinds_advance hc.spells.kinds (by simp)
    have hkinds₂ := Cursor.kinds_advance hkinds₁ (by simp)
    have hkinds₃ := Cursor.kinds_advance hkinds₂ (by simp)
    exact ⟨ok.path, err.path, hc.kind, Cursor.kind_of_kinds hkinds₁, Cursor.kind_of_kinds hkinds₂,
      Cursor.kind_of_kinds hkinds₃⟩
  rw [hc.fed] at hfuel
  simp only [kinds_token, kinds_blank, List.length_cons] at hfuel
  rw [statement_of_double n hdouble, double]
  refine gives_bind (gives_target hc) fun ok' c₁ m₁ hc₁ _ hok => ?_
  refine gives_bind (gives_expect hc₁ (by simp)) fun _ c₂ m₂ hc₂ _ _ => ?_
  refine gives_bind ((gives_target hc₂.blank).mono (Nat.le_succ m₂)) fun err' c₃ m₃ hc₃ _ herr => ?_
  refine gives_bind ((gives_expect hc₃.blank (by simp)).mono (Nat.le_succ m₃)) fun _ c₄ m₄ hc₄ _ _ => ?_
  refine gives_bind (gives_skipNewlines hc₄ (h.first_ne rfl)) fun _ c₅ m₅ hc₅ _ _ => ?_
  refine gives_bind ((h.read hc₅.blank (hc₅.blank.fed.2 (by omega)) hrest.2).mono (Nat.le_succ m₅))
    fun value' c₆ m₆ hc₆ _ hvalue => ?_
  exact gives_pure hc₆ (by simp only [bare, hok, herr, hvalue])

/-- An expression is a statement, if it is no path or a path by itself. -/
theorem ReadAs.stated {e : Expr} (h : ReadAs ps e) (hpath : Alone TokenKind.isPath ps)
    (hstring : Alone TokenKind.isString ps) : StatedAs ps e := by
  refine ⟨h.starts, hstring, fun fuel m rest c hc hfuel hrest => ?_⟩
  obtain ⟨n, rfl⟩ := hfuel.exists_succ
  -- behind a path by itself the line ends
  have hnext : ∀ p, c.kind = .path p → c.advance.kind = .newline ∨ c.advance.kind = .eof := by
    intro p hkind
    have hfirst : first ps = .path p := by
      rw [← first_append h.starts, ← hc.kind]
      exact hkind
    have hkinds := hc.spells.kinds
    rw [kinds_append, hpath (hfirst ▸ rfl), hfirst] at hkinds
    have hadvance : c.advance.kind = first rest := by
      have hrest := Cursor.kinds_advance hkinds (by simp)
      cases hks : kinds rest with
      | nil =>
        rw [hks] at hrest
        exact (Cursor.kind_of_kinds hrest).trans (by rw [first, hks]; rfl)
      | cons k ks =>
        rw [hks] at hrest
        exact (Cursor.kind_of_kinds hrest).trans (by rw [first, hks]; rfl)
    exact hadvance ▸ hrest.1
  rw [statement_of_neither n]
  · exact h.read hc (by simp only [Fed] at hfuel ⊢; omega) hrest.2
  · rintro ⟨p, hkind, hassign⟩
    rcases hnext p hkind with h | h
    · rw [hassign] at h
      cases h
    · rw [hassign] at h
      cases h
  · rintro ⟨p, q, hkind, hcomma, -⟩
    rcases hnext p hkind with h | h
    · rw [hcomma] at h
      cases h
    · rw [hcomma] at h
      cases h

theorem skipSeparators_of_first (hc : Stands m rest c) (hnewline : first rest ≠ .newline)
    (hsemicolon : first rest ≠ .semicolon) : c.skipSeparators = c :=
  Cursor.skipWhile_of_kind (by simp [hc.kind, hnewline, hsemicolon])

/-- Past one line break or semicolon. -/
theorem stands_skipSeparators {k : TokenKind} (hc : Stands m (.token k :: rest) c) (hk : k = .newline ∨ k = .semicolon)
    (hnewline : first rest ≠ .newline) (hsemicolon : first rest ≠ .semicolon) :
    ∃ m', Stands m' rest c.skipSeparators ∧ m ≤ m' := by
  obtain ⟨⟨t, ts, htokens, hkind, -, hle, hspells⟩, hclean⟩ := hc
  have hskip : c.skipSeparators.tokens = ts := by
    have hfirst := Cursor.skipWhile_of_kind (c := ⟨ts, default, []⟩)
      (p := fun k => k == .newline || k == .semicolon) (by
        have hstands : Stands t.span.stop rest ⟨ts, default, []⟩ := ⟨hspells, rfl⟩
        simp [hstands.kind, hnewline, hsemicolon])
    have htokens' := congrArg Cursor.tokens hfirst
    rw [Cursor.tokens_skipWhile] at htokens'
    rw [Cursor.skipSeparators, Cursor.tokens_skipWhile, htokens, List.dropWhile_cons_of_pos]
    · exact htokens'
    · rcases hk with rfl | rfl
      · simp [hkind]
      · simp [hkind]
  exact ⟨t.span.stop, ⟨hskip.symm ▸ hspells, hclean⟩, hle⟩

theorem endsLine_newline (hnewline : first rest ≠ .newline) (helse : first rest ≠ .kwElse) :
    EndsLine (.token .newline :: rest) := by
  refine ⟨.inl rfl, rfl, rfl, ?_⟩
  rw [first] at hnewline helse
  rw [kinds_token, List.dropWhile_cons_of_pos rfl]
  cases hks : kinds rest with
  | nil => simp
  | cons k ks =>
    rw [hks, List.headD_cons] at hnewline helse
    rw [List.dropWhile_cons_of_neg (by simpa using hnewline)]
    exact helse

/-- What statements end with: the closing brace of their block, or the end of the program. -/
def EndsBody (inBlock : Bool) (stop : List Piece) : Prop :=
  first stop = .eof ∨ inBlock = true ∧ first stop = .rBrace

theorem EndsBody.ne {inBlock : Bool} {stop : List Piece} {k : TokenKind} (h : EndsBody inBlock stop) (heof : k ≠ .eof)
    (hbrace : k ≠ .rBrace) : first stop ≠ k := by
  rcases h with h | ⟨-, h⟩
  · exact fun hk => heof (hk ▸ h)
  · exact fun hk => hbrace (hk ▸ h)

/-- What is written for statements, and what ends them. -/
def bodyText (pss : List (List Piece)) (lead stop : List Piece) : List Piece :=
  if pss = [] then stop else lines pss ++ (lead ++ stop)

section Body

variable {inBlock : Bool} {pss : List (List Piece)} {es : List Expr} {lead stop : List Piece}

/-- The last statement is followed by a line break or by the end of the program, any other by a line break. -/
theorem bodyText_cons (h : List.Forall₂ StatedAs pss es)
    (hlead : lead = [.token .newline] ∨ lead = [] ∧ first stop = .eof) (hstop : EndsBody inBlock stop)
    (ps : List Piece) :
    ∃ more, bodyText (ps :: pss) lead stop = ps ++ more ∧ EndsLine more ∧ ∀ ⦃m c⦄, Stands m more c →
      ∃ m', Stands m' (bodyText pss lead stop) c.skipSeparators ∧ m ≤ m' := by
  rw [bodyText, if_neg (by simp), lines_cons]
  refine ⟨_, rfl, ?_⟩
  cases h with
  | nil =>
    rw [bodyText, if_pos rfl, if_pos rfl]
    rcases hlead with rfl | ⟨rfl, heof⟩
    · exact ⟨endsLine_newline (hstop.ne (by simp) (by simp)) (hstop.ne (by simp) (by simp)), fun m c hc =>
        stands_skipSeparators hc (.inl rfl) (hstop.ne (by simp) (by simp)) (hstop.ne (by simp) (by simp))⟩
    · refine ⟨⟨.inr heof, .of_closes (by rw [List.nil_append, heof]; rfl)⟩, fun m c hc => ⟨m, ?_, Nat.le_refl m⟩⟩
      rw [skipSeparators_of_first hc (hstop.ne (by simp) (by simp)) (hstop.ne (by simp) (by simp))]
      exact hc
  | @cons ps₁ e₁ pss es hps₁ hpss =>
    have hne : ∀ k : TokenKind, k.startsOperand = false → first (lines (ps₁ :: pss) ++ (lead ++ stop)) ≠ k := by
      rintro k hk rfl
      rw [lines_cons, first_append hps₁.starts, hps₁.starts] at hk
      cases hk
    rw [bodyText, if_neg (by simp), if_neg (by simp)]
    exact ⟨endsLine_newline (hne _ rfl) (hne _ rfl), fun m c hc =>
      stands_skipSeparators hc (.inl rfl) (hne _ rfl) (hne _ rfl)⟩

/-- Statements on lines, up to a line break before the closing brace, or up to the end of the program. -/
theorem gives_statements (h : List.Forall₂ StatedAs pss es)
    (hlead : lead = [.token .newline] ∨ lead = [] ∧ first stop = .eof) (hstop : EndsBody inBlock stop) {fuel : Nat}
    (hc : Stands m (bodyText pss lead stop) c.skipSeparators) (hfuel : Fed 6 fuel c.skipSeparators) :
    Gives m stop (fun es' _ => es'.map bare = es.map bare) ((statements fuel inBlock).run c) := by
  induction h generalizing fuel m c with
  | nil =>
    obtain ⟨n, rfl⟩ := hfuel.exists_succ
    have hstops : Stops inBlock c.skipSeparators := by
      rw [Stops, hc.kind]
      exact hstop
    exact ⟨[], c.skipSeparators, m, statements_of_stops n hstops, hc, Nat.le_refl m, rfl⟩
  | @cons ps e pss es hps hpss ih =>
    obtain ⟨n, rfl⟩ := hfuel.exists_succ
    obtain ⟨more, htext, hends, hskip⟩ := bodyText_cons hpss hlead hstop ps
    rw [htext] at hc
    have hne : ∀ k : TokenKind, k.startsOperand = false → c.skipSeparators.kind ≠ k := by
      rintro k hk rfl
      rw [hc.kind, first_append hps.starts, hps.starts] at hk
      cases hk
    have hfuel₁ : Fed 5 n c.skipSeparators := by
      simp only [Fed] at hfuel ⊢
      omega
    obtain ⟨e', c₁, m₁, hr, hc₁, hle₁, he'⟩ := hps.read hc hfuel₁ hends
    obtain ⟨m₂, hc₂, hle₂⟩ := hskip hc₁
    have hcloses : Closes inBlock c₁ := by
      rw [Closes, hc₁.kind]
      rcases hends.1 with hfirst | hfirst
      · exact .inl (by rw [hfirst]; rfl)
      · exact .inl (by rw [hfirst]; rfl)
    have hlt := ((readersRead n).statement c.skipSeparators).lt hr
    have hle := c₁.skipSeparators_reads.length_le
    have hfuel₂ : Fed 6 n c₁.skipSeparators := by
      simp only [Fed] at hfuel ⊢
      omega
    obtain ⟨es', c₃, m₃, hrest, hc₃, hle₃, hes'⟩ := ih hc₂ hfuel₂
    refine ⟨e' :: es', c₃, m₃, statements_of_closes (hne _ rfl) (hne _ rfl) hr hcloses hrest, hc₃, by omega, ?_⟩
    simp only [List.map_cons, he', hes']

end Body

/-! ### Blocks, branches and calls -/

theorem braced_append (pss : List (List Piece)) (rest : List Piece) :
    braced pss ++ rest = .token .lBrace :: .token (if pss = [] then .semicolon else .newline) ::
      bodyText pss [.token .newline] (.token .rBrace :: rest) := by
  cases pss with
  | nil => rfl
  | cons ps pss =>
    rw [braced, bodyText, if_neg (by simp), if_neg (by simp), if_neg (by simp)]
    simp

theorem first_bodyText {pss : List (List Piece)} {es : List Expr} {lead stop : List Piece} {k : TokenKind}
    (h : List.Forall₂ StatedAs pss es) (hk : k.startsOperand = false) (hstop : first stop ≠ k) :
    first (bodyText pss lead stop) ≠ k := by
  cases h with
  | nil => exact hstop
  | @cons ps e pss es hps hpss =>
    rintro rfl
    rw [bodyText, if_neg (by simp), lines_cons, first_append hps.starts, hps.starts] at hk
    cases hk

/-- Statements in braces. -/
theorem gives_braces {pss : List (List Piece)} {es : List Expr} (h : List.Forall₂ StatedAs pss es) {fuel : Nat}
    (hc : Stands m (braced pss ++ rest) c) (hfuel : Fed 1 fuel c) :
    Gives m rest (fun r _ => r.1.map bare = es.map bare) ((braces fuel).run c) := by
  obtain ⟨n, rfl⟩ := hfuel.exists_succ
  rw [braced_append] at hc
  rw [hc.fed, kinds_token, kinds_token, List.length_cons, List.length_cons] at hfuel
  rw [braces]
  refine gives_bind (gives_expect hc (by simp)) fun start c₁ m₁ hc₁ _ _ => ?_
  obtain ⟨m₂, hc₂, hle₂⟩ := stands_skipSeparators hc₁ (by split <;> simp)
    (first_bodyText h rfl (by simp [first])) (first_bodyText h rfl (by simp [first]))
  have hfuel₂ : Fed 6 n c₁.skipSeparators := hc₂.fed.2 (by omega)
  have hstop : EndsBody true (.token .rBrace :: rest) := .inr ⟨rfl, rfl⟩
  have hbody := gives_statements h (.inl rfl) hstop hc₂ hfuel₂
  refine gives_bind (hbody.mono hle₂) fun body c₃ m₃ hc₃ _ hes => ?_
  have hkind : c₃.kind = .rBrace := hc₃.kind
  rw [run_cursor_bind, if_pos hkind]
  exact gives_bind (gives_token hc₃ (by simp)) fun stop c₄ m₄ hc₄ _ _ => gives_pure hc₄ hes

theorem first_braced (pss : List (List Piece)) (rest : List Piece) : first (braced pss ++ rest) = .lBrace := by
  rw [braced_append]
  rfl

/-- What is read after an `else`. -/
def AlternativeAs (ps : List Piece) (e : Expr) : Prop :=
  ∀ ⦃fuel m rest c⦄, Stands m (ps ++ rest) c → Fed 1 fuel c → Follows rest →
    Gives m rest (fun e' _ => e'.bare = e.bare) ((alternative fuel).run c)

/-- The text of an alternative, if there is one. -/
def elsePieces : Option Expr → List Piece
  | none => []
  | some a => .blank :: .token .kwElse :: .blank :: a.pieces

theorem pieces_branch (s : Span) (condition : Expr) (body : List Expr) (alternative : Option Expr) (rest : List Piece) :
    (branch s condition body alternative).pieces ++ rest = .token .kwIf :: .blank ::
      (Piece.enclosed condition.pieces ++ .blank :: (braced (piecesAll body) ++ (elsePieces alternative ++ rest))) := by
  cases alternative with
  | none => simp [pieces, elsePieces]
  | some a => simp [pieces, elsePieces]

theorem bare_branch (s : Span) (condition : Expr) (body : List Expr) (alternative : Option Expr) :
    (branch s condition body alternative).bare =
      branch default condition.bare (body.map bare) (alternative.map bare) := by
  cases alternative with
  | none => simp [bare, bareAll_eq_map]
  | some a => simp [bare, bareAll_eq_map]

/-- The text of an alternative is seen as one, and no other text is. -/
theorem gives_onElse {alternative : Option Expr} {taken missing : Parse Expr} {P : Expr → Nat → Prop}
    (hc : Stands m (elsePieces alternative ++ rest) c) (hrest : Follows rest)
    (htaken : ∀ a ∈ alternative, ∀ c' m', Stands m' (.blank :: (a.pieces ++ rest)) c' →
      Gives m' rest P (taken.run c'))
    (hmissing : alternative = none → Gives m rest P (missing.run c)) :
    Gives m rest P ((onElse taken missing).run c) := by
  rw [run_onElse]
  cases alternative with
  | none =>
    have hc : Stands m rest c := hc
    have hkind : c.skipNewlines.kind ≠ .kwElse := hc.kind_skipNewlines ▸ hrest.alternative
    rw [if_neg hkind]
    exact hmissing rfl
  | some a =>
    have hc : Stands m (.blank :: .token .kwElse :: .blank :: (a.pieces ++ rest)) c := hc
    have hskip : c.skipNewlines = c := Cursor.skipWhile_of_kind (by rw [hc.kind]; rfl)
    have hkind : c.kind = .kwElse := hc.kind
    obtain ⟨t, c₁, m₁, hr, hc₁, hle₁, -⟩ := gives_token hc.blank (by simp)
    rw [run_token, Prod.mk.injEq] at hr
    rw [hskip, if_pos hkind, hr.2]
    exact (htaken a rfl c₁ m₁ hc₁).mono (by omega)

/-- A branch. -/
theorem gives_branching {s : Span} {condition : Expr} {body : List Expr} {alternative : Option Expr}
    (hcondition : ReadAs condition.pieces condition) (hbody : List.Forall₂ StatedAs (piecesAll body) body)
    (halternative : ∀ a ∈ alternative, AlternativeAs a.pieces a) {fuel : Nat}
    (hc : Stands m ((branch s condition body alternative).pieces ++ rest) c) (hfuel : Fed 1 fuel c)
    (hrest : Follows rest) :
    Gives m rest (fun e' _ => e'.bare = (branch s condition body alternative).bare) ((branching fuel).run c) := by
  obtain ⟨n, rfl⟩ := hfuel.exists_succ
  rw [pieces_branch] at hc
  rw [hc.fed] at hfuel
  simp only [kinds_token, kinds_blank, List.length_cons, kinds_append, List.length_append] at hfuel
  rw [branching_succ]
  refine gives_bind (gives_token hc (by simp)) fun start c₁ m₁ hc₁ _ _ => ?_
  have hfuel₁ : Fed 4 n c₁ := by
    rw [hc₁.fed]
    simp only [kinds_blank, kinds_append, List.length_append]
    omega
  have hfirst : first (.blank :: (braced (piecesAll body) ++ (elsePieces alternative ++ rest))) = .lBrace :=
    first_braced _ _
  have hop : BinaryOp.ofToken? (first (.blank :: (braced (piecesAll body) ++ (elsePieces alternative ++ rest)))) =
      none := by
    rw [hfirst]
    rfl
  have hoperand : Gives (m₁ + 1) _ _ ((expression n 0).run c₁) :=
    gives_operand hcondition hc₁.blank hfuel₁ (by simp [hop]) (by rw [hfirst]; rfl)
  refine gives_bind (hoperand.mono (Nat.le_succ m₁)) fun condition' c₂ m₂ hc₂ _ hcondition' => ?_
  have hfuel₂ : Fed 1 n c₂ := by
    rw [hc₂.fed]
    simp only [kinds_blank, kinds_append, List.length_append]
    omega
  refine gives_bind ((gives_braces hbody hc₂.blank hfuel₂).mono (Nat.le_succ m₂))
    fun r c₃ m₃ hc₃ _ hbody' => ?_
  obtain ⟨body', bodySpan⟩ := r
  dsimp only at hbody' ⊢
  refine gives_onElse hc₃ hrest (fun a ha c₄ m₄ hc₄ => ?_) fun hnone => ?_
  · obtain rfl := Option.mem_def.1 ha
    have hfuel₄ : Fed 1 n c₄ := by
      rw [hc₄.fed]
      simp only [elsePieces, kinds_token, kinds_blank, List.length_cons, kinds_append, List.length_append] at hfuel ⊢
      omega
    refine gives_bind ((halternative a rfl hc₄.blank hfuel₄ hrest).mono (Nat.le_succ m₄))
      fun a' c₅ m₅ hc₅ _ ha' => gives_pure hc₅ ?_
    rw [bare_branch, bare_branch, hcondition', hbody', Option.map_some, Option.map_some, ha']
  · subst hnone
    refine gives_pure hc₃ ?_
    rw [bare_branch, bare_branch, hcondition', hbody']

/-- A call, when its arguments are read in parentheses. -/
theorem gives_called {name : String} {aborts : Bool} {pss : List (List Piece)} {es : List Expr}
    (h : List.Forall₂ ReadAs pss es) {e : Expr}
    (hcall : ∀ ⦃start stop es' m c⦄, es'.map bare = es.map bare → Stands m rest c →
      Gives m rest (fun e' _ => e'.bare = e.bare) ((callOf name start aborts es' stop).run c)) {fuel : Nat}
    (hc : Stands m (calleePieces name aborts ++ enclosed (commas pss) ++ rest) c) (hfuel : Fed 1 fuel c) :
    Gives m rest (fun e' _ => e'.bare = e.bare) ((called fuel name).run c) := by
  obtain ⟨n, rfl⟩ := hfuel.exists_succ
  have hc : Stands m (.token (.ident name) :: ((if aborts then [.token .abortMarker] else []) ++
      .token .lParen :: (commas pss ++ .token .rParen :: rest))) c := by
    simpa [calleePieces, Piece.enclosed] using hc
  rw [hc.fed] at hfuel
  simp only [kinds_token, List.length_cons, kinds_append, List.length_append] at hfuel
  rw [called_succ]
  refine gives_bind (gives_token hc (by simp)) fun start c₁ m₁ hc₁ _ _ => ?_
  have hmark : Gives m₁ (.token .lParen :: (commas pss ++ .token .rParen :: rest)) (fun b _ => b = aborts)
      ((accept .abortMarker).run c₁) := by
    cases aborts with
    | false => exact gives_refuse hc₁ (by simp [first])
    | true => exact gives_accept hc₁ (by simp)
  refine gives_bind hmark fun aborts' c₂ m₂ hc₂ _ haborts => ?_
  have hkind : c₂.kind = .lParen := hc₂.kind
  rw [run_cursor_bind, if_pos hkind, haborts]
  refine gives_bind (gives_token hc₂ (by simp)) fun _ c₃ m₃ hc₃ _ _ => ?_
  have hfuel₃ : Fed 5 n c₃ := by
    rw [hc₃.fed]
    simp only [kinds_token, List.length_cons, kinds_append, List.length_append]
    omega
  refine gives_bind (gives_list h (.inl rfl) hc₃ hfuel₃) fun es' c₄ m₄ hc₄ _ hes' => ?_
  exact gives_bind (gives_token hc₄ (by simp)) fun stop c₅ m₅ hc₅ _ _ => hcall hes' hc₅

end Expr

end Reshape
